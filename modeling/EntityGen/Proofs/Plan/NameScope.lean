import EntityGen.Plan

/-! # Names claimed in one scope

The registry of a scope keeps the first claim of each name. It reports exactly the claims of names
that an earlier claim has, each beside the first claim of that name, and it reports none exactly
when all names differ.
-/

namespace EntityGen.NameClaim

variable {taken earlier claims : List NameClaim}

/-- Each claim of a name that a claim before it has, after the first claim of that name. -/
def repeats (claims : List NameClaim) : List (NameClaim × NameClaim) :=
  claims.zipIdx.filterMap fun c =>
    ((claims.take c.2).find? (·.name == c.1.name)).map fun first => (first, c.1)

def repeatErrors (scope : String) (claims : List NameClaim) : List GenerationError :=
  (repeats claims).map fun c => .nameClash scope c.2.name c.1.owner c.2.owner

/-- The claims in `taken` answer for those in `earlier`: each name has the same first claim. -/
def Answers (taken earlier : List NameClaim) : Prop :=
  ∀ name, taken.find? (·.name == name) = earlier.find? (·.name == name)

theorem Answers.keep {c first : NameClaim} (h : Answers taken earlier)
    (hf : taken.find? (·.name == c.name) = some first) : Answers taken (earlier ++ [c]) := by
  intro name
  rw [List.find?_append, ← h name]
  by_cases hc : c.name = name
  · rw [← hc, hf, Option.some_or]
  · simp [hc]

theorem Answers.add (c : NameClaim) (h : Answers taken earlier) :
    Answers (taken ++ [c]) (earlier ++ [c]) := by
  intro name
  rw [List.find?_append, List.find?_append, h name]

theorem clashes_of_answers (h : Answers taken earlier) :
    clashes taken claims = claims.zipIdx.filterMap fun c =>
      ((earlier ++ claims.take c.2).find? (·.name == c.1.name)).map fun first => (first, c.1) := by
  induction claims generalizing taken earlier with
  | nil => rfl
  | cons c rest ih =>
    -- The positions in the rest are one less than those in the whole list.
    have shift : (rest.zipIdx 1).filterMap (fun d =>
          ((earlier ++ (c :: rest).take d.2).find? (·.name == d.1.name)).map
            fun first => (first, d.1)) =
        rest.zipIdx.filterMap fun d =>
          ((earlier ++ [c] ++ rest.take d.2).find? (·.name == d.1.name)).map
            fun first => (first, d.1) := by
      rw [List.zipIdx_succ, List.filterMap_map]
      simp only [Function.comp_def, List.take_succ_cons, List.append_assoc, List.singleton_append]
    rw [List.zipIdx_cons, List.filterMap_cons, shift, List.take_zero, List.append_nil, ← h c.name]
    cases hf : taken.find? (·.name == c.name) with
    | some first => simp only [clashes, hf, Option.map_some, ih (h.keep hf)]
    | none => simp only [clashes, hf, Option.map_none, ih (h.add c)]

theorem errors_eq_repeatErrors (scope : String) (claims : List NameClaim) :
    errors scope claims = repeatErrors scope claims := by
  have h : Answers [] [] := fun _ => rfl
  simp [errors, repeatErrors, repeats, clashes_of_answers h]

theorem clashes_eq_nil_iff :
    clashes taken claims = [] ↔
      (claims.map (·.name)).Nodup ∧ ∀ t ∈ taken, t.name ∉ claims.map (·.name) := by
  induction claims generalizing taken with
  | nil => simp [clashes]
  | cons c rest ih =>
    cases hf : taken.find? (·.name == c.name) with
    | some first =>
      have hm := List.mem_of_find?_eq_some hf
      have hn : first.name = c.name := by simpa using List.find?_some hf
      simp only [clashes, hf, reduceCtorEq, false_iff]
      rintro ⟨-, ht⟩
      exact ht first hm (by simp [hn])
    | none =>
      have hn : ∀ t ∈ taken, t.name ≠ c.name := by simpa using hf
      simp only [clashes, hf, ih, List.map_cons, List.nodup_cons, List.mem_cons, List.mem_append,
        List.mem_nil_iff, or_false, not_or]
      constructor
      · rintro ⟨hd, ht⟩
        exact ⟨⟨ht c (.inr rfl), hd⟩, fun t hm => ⟨hn t hm, ht t (.inl hm)⟩⟩
      · rintro ⟨⟨hc, hd⟩, ht⟩
        refine ⟨hd, ?_⟩
        rintro t (hm | rfl)
        · exact (ht t hm).2
        · exact hc

theorem errors_eq_nil_iff {scope : String} :
    errors scope claims = [] ↔ (claims.map (·.name)).Nodup := by
  simp [errors, clashes_eq_nil_iff]

end EntityGen.NameClaim
