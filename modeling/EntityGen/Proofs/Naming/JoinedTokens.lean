import Mathlib.Data.Set.Function
import Mathlib.Data.Set.List
import EntityGen.Proofs.Naming.Caseless

/-! # Tokens joined by underscores

A token holds an underscore only at its front, and only before a digit. Where tokens are joined by
underscores, an underscore before a digit is therefore part of a token and every other one is a
joint, so the tokens can be read back from the joined text.
-/

namespace EntityGen.Naming

open Text

variable {cs : List Char} {tokens : List (List Char)}

/-- Drops the underscores that stand before digits. -/
def dropGuards : List Char → List Char
  | [] => []
  | c :: rest =>
    if c = '_' && rest.head?.any Char.isDigit then dropGuards rest else c :: dropGuards rest

theorem dropGuards_append (h : '_' ∉ cs) (rest : List Char) :
    dropGuards (cs ++ rest) = cs ++ dropGuards rest := by
  induction cs with
  | nil => rfl
  | cons c cs ih =>
    rw [List.mem_cons, not_or] at h
    simp [dropGuards, Ne.symm h.1, ih h.2]

theorem dropGuards_guardDigit_append (h : '_' ∉ cs) (rest : List Char) :
    dropGuards (guardDigit cs ++ rest) = cs ++ dropGuards rest := by
  unfold guardDigit
  split
  · next hd =>
    cases cs with
    | nil => cases hd
    | cons c cs =>
      have hguard : dropGuards ('_' :: (c :: cs ++ rest)) = dropGuards (c :: cs ++ rest) := by
        rw [dropGuards, if_pos (by simpa using hd)]
      rw [List.cons_append, hguard, dropGuards_append h]
  · exact dropGuards_append h rest

/-- No guarded text starts with a digit. -/
theorem isDigit_head?_guardDigit (cs : List Char) :
    (guardDigit cs).head?.any Char.isDigit = false := by
  unfold guardDigit
  split
  · rfl
  · next hd => simpa using hd

theorem isDigit_head?_joined (tokens : List (List Char)) :
    (['_'].intercalate (tokens.map guardDigit)).head?.any Char.isDigit = false := by
  cases tokens with
  | nil => rfl
  | cons cs tokens =>
    have hhead := isDigit_head?_guardDigit cs
    cases tokens with
    | nil => simpa using hhead
    | cons ds tokens =>
      rw [List.map_cons, List.map_cons, List.intercalate_cons_cons, List.append_assoc,
        List.head?_append]
      cases hg : (guardDigit cs).head? with
      | none => rfl
      | some c => rwa [hg] at hhead

theorem dropGuards_joined (h : ∀ cs ∈ tokens, '_' ∉ cs) :
    dropGuards (['_'].intercalate (tokens.map guardDigit)) = ['_'].intercalate tokens := by
  induction tokens with
  | nil => rfl
  | cons cs tokens ih =>
    obtain ⟨hcs, htokens⟩ := List.forall_mem_cons.mp h
    cases tokens with
    | nil => simpa [dropGuards] using dropGuards_guardDigit_append hcs []
    | cons ds tokens =>
      -- The next token starts with no digit, so the underscore before it is a joint.
      have hjoint : dropGuards ('_' :: ['_'].intercalate ((ds :: tokens).map guardDigit)) =
          '_' :: dropGuards (['_'].intercalate ((ds :: tokens).map guardDigit)) := by
        rw [dropGuards, isDigit_head?_joined, Bool.and_false, if_neg Bool.false_ne_true]
      rw [List.map_cons, List.map_cons, List.intercalate_cons_cons, List.append_assoc,
        List.singleton_append, dropGuards_guardDigit_append hcs, ← List.map_cons, hjoint,
        ih htokens, List.intercalate_cons_cons, List.append_assoc, List.singleton_append]

/-- The token of an identifier without the underscore that is put before a digit. -/
def bareToken (identifier : String) : List Char :=
  (words identifier.toList).flatMap capitalizeWord

theorem humanize_eq (identifier : String) :
    humanize identifier = String.ofList (guardDigit (bareToken identifier)) :=
  rfl

def TokenLists : Set (List String) :=
  {tokens | tokens ≠ [] ∧ ∀ token ∈ tokens, token ∈ Set.range humanize}

theorem map_humanize_mem_tokenLists (identifiers : List String) (h : identifiers ≠ []) :
    identifiers.map humanize ∈ TokenLists :=
  ⟨by simpa using h, List.forall_mem_map.mpr fun s _ => Set.mem_range_self s⟩

def unjoin (text : String) : List String :=
  ((dropGuards text.toList).splitOn '_').map fun cs => String.ofList (guardDigit cs)

theorem unjoin_intercalate {identifiers : List String} (h : identifiers ≠ []) :
    unjoin ("_".intercalate (identifiers.map humanize)) = identifiers.map humanize := by
  have hnone : ∀ cs ∈ identifiers.map bareToken, '_' ∉ cs :=
    List.forall_mem_map.mpr fun s _ => caseless_underscore.not_mem_flatMap_words s.toList
  have htext : ("_".intercalate (identifiers.map humanize)).toList =
      ['_'].intercalate ((identifiers.map bareToken).map guardDigit) := by
    rw [String.toList_intercalate, List.map_map, List.map_map]
    exact congrArg _ (List.map_congr_left fun s _ => by simp [humanize_eq])
  rw [unjoin, htext, dropGuards_joined hnone, List.splitOn_intercalate '_' hnone (by simpa using h),
    List.map_map]
  exact List.map_congr_left fun s _ => (humanize_eq s).symm

/-- Lists of tokens are told apart by the texts that join them. -/
theorem injOn_intercalate_tokenLists : Set.InjOn "_".intercalate TokenLists := by
  have hread : Set.LeftInvOn unjoin "_".intercalate TokenLists := by
    rintro tokens ⟨hn, hrange⟩
    have hm : tokens ∈ Set.range (List.map humanize) := by rwa [Set.range_list_map]
    obtain ⟨identifiers, rfl⟩ := hm
    exact unjoin_intercalate (by simpa using hn)
  exact hread.injOn

end EntityGen.Naming
