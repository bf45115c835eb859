import EntityGen.Proofs.Json.Reads
import EntityGen.Proofs.Plan.Edges

/-! # Reading records

The members of an object may stand in any order, and those that hold their default may be left out:
a record is read back from each of these texts.
-/

namespace EntityGen.Json

open Reader

variable {α ρ : Type}

/-! ## Objects as they are written -/

structure Member where
  name : String
  /-- The texts for the value of the member. -/
  Written : String → Prop
  /-- Whether the member may be left out. -/
  Optional : Prop

/-- A member with the value `x`, which may be left out where that is the default. -/
def Member.of (name : String) (Written : α → String → Prop) (x : α) (default : Option α := none) :
    Member where
  name := name
  Written := Written x
  Optional := default = some x

/-- The names and the texts of the members that are written, in any order. -/
structure MembersWritten (all : List Member) (given : List (String × String)) : Prop where
  once : (given.map (·.1)).Nodup
  written : ∀ g ∈ given, ∃ m ∈ all, m.name = g.1 ∧ m.Written g.2
  leftOut : ∀ m ∈ all, m.name ∉ given.map (·.1) → m.Optional

def ObjectWritten (all : List Member) (text : String) : Prop :=
  ∃ given, MembersWritten all given ∧ text = object given

/-! ## Keys -/

def memberText (m : String × String) : List Char :=
  (string m.1).toList ++ ':' :: m.2.toList

theorem toList_object (given : List (String × String)) :
    (object given).toList = '{' :: (separated true (given.map memberText) ++ ['}']) := by
  have h : (given.map fun m => string m.1 ++ ":" ++ m.2).map (·.toList) = given.map memberText := by
    simp [memberText]
  rw [object, String.toList_append, String.toList_append, toList_intercalate_comma, h]
  rfl

namespace ReadsBefore

theorem nextKey_none (first : Bool) : ReadsBefore ['}'] (nextKey first) [] none :=
  peek_bind_next rfl (pure none)

theorem nextKey_some (first : Bool) (name : String) :
    Reads (nextKey first) ((if first then [] else [',']) ++ (string name).toList) (some name) := by
  have key := bind (f := fun _ => do return some (← stringBody)) (skip '"')
    ((Reads.stringBody name).map some)
  rw [toList_string]
  cases first with
  | true => exact peek_bind rfl key
  | false => exact peek_bind rfl (bind (skip ',') (peek_bind rfl key))

theorem colon : Reads colon [':'] () :=
  peek_bind rfl (skip ':')

theorem objectEnd : Reads objectEnd ['}'] () :=
  peek_bind rfl (skip '}')

theorem member {record : Record ρ α} {f : Reader.Field ρ} {m : String × String} {parts parts' : ρ}
    {a : Char} {fuel s : List Char} {last : ρ}
    (hf : record.fields.find? (·.name == m.1) = some f) (hs : f.isSet parts = false)
    (hr : Reads (f.read parts) m.2.toList parts')
    (more : ReadsBefore ['}'] (members record fuel false parts') s last) (first : Bool) :
    ReadsBefore ['}'] (members record (a :: fuel) first parts)
      ((if first then [] else [',']) ++ (memberText m ++ s)) last := by
  have hm : (if first then [] else [',']) ++ (memberText m ++ s) =
      ((if first then [] else [',']) ++ (string m.1).toList) ++ (':' :: (m.2.toList ++ s)) := by
    simp [memberText]
  rw [hm]
  refine bind (nextKey_some first m.1) ?_
  simp only [hf, hs, Bool.false_eq_true, if_false]
  exact bind colon (bind hr more)

end ReadsBefore

/-! ## Records -/

/-- Where `parts` holds what is collected from the members read so far, the field takes the value
of the member. -/
structure Collects (parts : List String → ρ) (f : Reader.Field ρ) (m : Member) : Prop where
  name : f.name = m.name
  isSet : ∀ {seen}, m.name ∉ seen → f.isSet (parts seen) = false
  read : ∀ {seen text}, m.name ∉ seen → m.Written text →
    Reads (f.read (parts seen)) text.toList (parts (m.name :: seen))

def collected (seen : List String) (name : String) (x : α) : Option α :=
  if name ∈ seen then some x else none

theorem collected_cons (other : String) (seen : List String) (name : String) (x : α) :
    collected (other :: seen) name x = if name = other then some x else collected seen name x := by
  simp only [collected, List.mem_cons]
  split <;> split <;> simp_all

theorem collected_getD {seen : List String} {name : String} {x default : α}
    (h : name ∉ seen → some default = some x) : (collected seen name x).getD default = x := by
  unfold collected
  split
  · rfl
  · case isFalse hs => exact Option.some.inj (h hs)

theorem required_collected {seen : List String} {name : String} {x : α}
    (h : name ∉ seen → none = some x) : required name (collected seen name x) = .ok x := by
  unfold collected
  split
  · rfl
  · case isFalse hs => cases h hs

theorem Collects.of {parts : List String → ρ} {name : String} {get : ρ → Option α}
    {set : ρ → α → ρ} {read : Reader α} {Written : α → String → Prop} {x : α} {default : Option α}
    (hr : Undoes read Written) (hget : ∀ seen, get (parts seen) = collected seen name x)
    (hset : ∀ seen, set (parts seen) x = parts (name :: seen)) :
    Collects parts (.of name get set read) (.of name Written x default) where
  name := rfl
  isSet := fun {seen} hs => by
    have hs : name ∉ seen := hs
    simp [Reader.Field.of, hget, collected, hs]
  read := fun {seen text} _ hw => by
    have h := (hr x text hw).reads.map (set (parts seen))
    rw [hset] at h
    exact h

/-- The record type has a field for each member, and builds `x` once no member is missing that has
to be there. -/
structure Describes (record : Record ρ α) (all : List Member) (x : α) (parts : List String → ρ) :
    Prop where
  nodup : (record.fields.map (·.name)).Nodup
  fields : List.Forall₂ (Collects parts) record.fields all
  empty : parts [] = record.empty
  build : ∀ seen, (∀ m ∈ all, m.name ∉ seen → m.Optional) → record.build (parts seen) = .ok x

namespace Describes

variable {record : Record ρ α} {all : List Member} {x : α} {parts : List String → ρ}

theorem find? (h : Describes record all x parts) {m : Member} (hm : m ∈ all) :
    ∃ f, record.fields.find? (·.name == m.name) = some f ∧ Collects parts f m := by
  obtain ⟨i, hi, rfl⟩ := List.getElem_of_mem hm
  have hf : i < record.fields.length := by rwa [h.fields.length_eq]
  have hc : Collects parts record.fields[i] all[i] := h.fields.get hf hi
  refine ⟨record.fields[i], ?_, hc⟩
  rw [← hc.name]
  exact find?_eq_some_of_nodup h.nodup (List.getElem_mem hf)

/-- The names of the members read before are `seen`, the last one first. -/
theorem members (h : Describes record all x parts) {given : List (String × String)}
    (hw : ∀ g ∈ given, ∃ m ∈ all, m.name = g.1 ∧ m.Written g.2) {seen : List String}
    (hn : ((given.map (·.1)).reverse ++ seen).Nodup) (fuel : List Char) (first : Bool)
    (hl : (separated first (given.map memberText)).length < fuel.length) :
    ReadsBefore ['}'] (members record fuel first (parts seen))
      (separated first (given.map memberText)) (parts ((given.map (·.1)).reverse ++ seen)) := by
  induction given generalizing seen fuel first with
  | nil =>
    obtain ⟨a, fuel, rfl⟩ := List.exists_cons_of_length_pos hl
    exact .bind_of_isPrefix (.nextKey_none first) List.prefix_rfl (.pure _)
  | cons g given ih =>
    obtain ⟨a, fuel, rfl⟩ := List.exists_cons_of_length_pos (Nat.zero_lt_of_lt hl)
    simp only [List.map_cons, List.reverse_cons, List.append_assoc, List.singleton_append] at hn ⊢
    simp only [separated, List.map_cons, List.length_append, List.length_cons, memberText] at hl
    obtain ⟨m, hm, hname, htext⟩ := hw g (List.mem_cons_self ..)
    obtain ⟨f, hf, hc⟩ := h.find? hm
    rw [hname] at hf
    have hseen : m.name ∉ seen := by
      rw [hname]
      exact (List.nodup_cons.mp hn.of_append_right).1
    have more := ih (fun g hg => hw g (List.mem_cons_of_mem _ hg)) hn fuel false (by omega)
    have value := hc.read hseen htext
    rw [hname] at value
    exact .member hf (hc.isSet hseen) value more first

/-- A record is read back from each text in which it is written. -/
theorem undoes (h : Describes record all x parts) {text : String} (hw : ObjectWritten all text) :
    ReadsValue record.read text.toList x := by
  obtain ⟨given, hg, rfl⟩ := hw
  rw [toList_object]
  refine ⟨⟨_, _, rfl, rfl, by decide⟩, ?_⟩
  refine ReadsBefore.peek_bind rfl (.bind (.skip '{') (.get_bind fun c hc => ?_))
  have hl : (separated true (given.map memberText) ++ ['}']).length ≤ c.rest.length := hc
  rw [List.length_append, List.length_singleton] at hl
  have hn : ((given.map Prod.fst).reverse ++ []).Nodup := by
    rw [List.append_nil]
    exact List.nodup_reverse.mpr hg.once
  have hb := h.build ((given.map Prod.fst).reverse ++ []) fun m hm hs =>
    hg.leftOut m hm (by simpa using hs)
  rw [← h.empty]
  refine .bind_of_isPrefix (h.members hg.written hn c.rest true hl) ⟨_, rfl⟩ (.bind .objectEnd ?_)
  rw [hb]
  exact .pure x

end Describes

end EntityGen.Json
