import EntityGen.Code.Context
import EntityGen.Code.EntityClass

/-! # Passages of generated text

Every part of a class ends with its last line. The members of an entity class and the statements of
the context therefore stand there in whole lines.
-/

namespace EntityGen.Code

/-- The text is empty or stops at the end of a line. -/
def EndsLine (text : String) : Prop :=
  ∀ c ∈ text.toList.getLast?, c = '\n'

/-- The lines stand in the text, and the first of them has nothing before it. -/
def Passage (lines text : String) : Prop :=
  ∃ before after, EndsLine before ∧ text = before ++ lines ++ after

variable {s t u : String} {xs : List String}

theorem EndsLine.empty : EndsLine "" := by
  simp [EndsLine]

theorem EndsLine.append (hs : EndsLine s) (ht : EndsLine t) : EndsLine (s ++ t) := by
  intro c hc
  rw [String.toList_append, List.getLast?_append] at hc
  cases hl : t.toList.getLast? with
  | none => exact hs c (by simpa [hl] using hc)
  | some d => exact ht c (by simpa [hl] using hc)

theorem EndsLine.of_getLast? (h : s.toList.getLast? = some '\n') : EndsLine s := by
  intro c hc
  rw [h] at hc
  exact (Option.some.inj hc).symm

theorem EndsLine.of_last (s : String) (ht : t.toList.getLast? = some '\n') :
    EndsLine (s ++ t) := by
  refine .of_getLast? ?_
  rw [String.toList_append, List.getLast?_append, ht, Option.some_or]

theorem EndsLine.ite {p : Prop} [Decidable p] (hs : EndsLine s) (ht : EndsLine t) :
    EndsLine (if p then s else t) := by
  split
  · exact hs
  · exact ht

theorem EndsLine.join (h : ∀ x ∈ xs, EndsLine x) : EndsLine (String.join xs) := by
  induction xs with
  | nil => exact .empty
  | cons x xs ih =>
    rw [String.join_cons]
    exact (h x List.mem_cons_self).append (ih fun y hy => h y (List.mem_cons_of_mem x hy))

theorem EndsLine.intercalate (h : ∀ x ∈ xs, EndsLine x) : EndsLine ("\n".intercalate xs) := by
  induction xs with
  | nil => exact .empty
  | cons x xs ih =>
    have hx := h x List.mem_cons_self
    cases xs with
    | nil => simpa using hx
    | cons y ys =>
      rw [String.intercalate_cons_cons]
      exact (EndsLine.of_last x rfl).append (ih fun z hz => h z (List.mem_cons_of_mem x hz))

namespace Passage

theorem refl (s : String) : Passage s s :=
  ⟨"", "", .empty, by simp⟩

theorem trans (h : Passage s t) (k : Passage t u) : Passage s u := by
  obtain ⟨before, after, hb, rfl⟩ := h
  obtain ⟨first, last, hf, rfl⟩ := k
  exact ⟨first ++ before, after ++ last, hf.append hb, by simp only [String.append_assoc]⟩

theorem left (s t : String) : Passage s (s ++ t) :=
  ⟨"", t, .empty, by simp⟩

theorem right (hs : EndsLine s) (t : String) : Passage t (s ++ t) :=
  ⟨s, "", hs, by simp⟩

theorem inside (hs : EndsLine s) (t u : String) : Passage t (s ++ t ++ u) :=
  ⟨s, u, hs, rfl⟩

theorem join (h : ∀ x ∈ xs, EndsLine x) (hs : s ∈ xs) : Passage s (String.join xs) := by
  obtain ⟨before, after, rfl⟩ := List.append_of_mem hs
  rw [String.join_append, String.join_cons, ← String.append_assoc]
  exact ⟨_, _, .join fun x hx => h x (List.mem_append_left _ hx), rfl⟩

theorem intercalate (h : ∀ x ∈ xs, EndsLine x) (hs : s ∈ xs) :
    Passage s ("\n".intercalate xs) := by
  induction xs with
  | nil => exact absurd hs List.not_mem_nil
  | cons x xs ih =>
    have hxs : ∀ y ∈ xs, EndsLine y := fun y hy => h y (List.mem_cons_of_mem x hy)
    rcases List.mem_cons.mp hs with rfl | hm
    · cases xs with
      | nil => simpa using refl s
      | cons y ys =>
        rw [String.intercalate_cons_cons, String.append_assoc]
        exact left s _
    · have hne : xs ≠ [] := List.ne_nil_of_mem hm
      rw [String.intercalate_cons_of_ne_nil hne]
      exact (ih hxs hm).trans (right (.of_last x rfl) _)

end Passage

/-! ## Members of an entity class -/

variable {settings : Settings} {e : EntityPlan}

theorem getLast?_summaryLine (indent line : List Char) :
    (summaryLine indent line).getLast? = some '\n' := by
  unfold summaryLine
  dsimp only
  split
  · simp
  · exact List.getLast?_concat

theorem endsLine_summary (indent : String) (note : Option String) :
    EndsLine (summary indent note) := by
  cases note with
  | none => exact .empty
  | some note =>
    simp only [summary, summaryChars]
    split
    · exact .empty
    · rw [String.ofList_append]
      exact .of_last _ rfl

theorem endsLine_memberLine (type name : String) : EndsLine (memberLine type name) :=
  .of_last _ rfl

theorem endsLine_facetAnnotations (t : ResolvedType) : EndsLine (facetAnnotations t) := by
  unfold facetAnnotations
  refine .append ?_ ?_
  · split
    · exact .of_last _ rfl
    · exact .empty
  · split
    · exact .of_last _ rfl
    · exact .of_last _ rfl
    · exact .empty

/-- The line that declares a property comes last, below its annotations. -/
theorem propertyMember_eq (p : PropertyPlan) :
    ∃ above, EndsLine above ∧ propertyMember p = above ++ memberLine p.typeName p.name := by
  refine ⟨_, ?_, rfl⟩
  refine .append (.append (.append (.append (.append ?_ ?_) ?_) ?_) ?_) ?_
  · exact endsLine_summary _ _
  · exact .ite (.of_last _ rfl) .empty
  · exact .ite (.of_last _ rfl) .empty
  · exact .of_last _ rfl
  · exact .ite (.of_last _ rfl) .empty
  · exact endsLine_facetAnnotations _

theorem endsLine_navigationMember (n : NavigationPlan) : EndsLine (navigationMember n) := by
  unfold navigationMember
  split
  · exact .append (.of_last _ rfl) (endsLine_memberLine _ _)
  · exact endsLine_memberLine _ _

theorem endsLine_of_mem_members {collectionType : String} (h : s ∈ members collectionType e) :
    EndsLine s := by
  simp only [members, List.mem_append, List.mem_map, or_assoc] at h
  rcases h with hc | ⟨p, -, rfl⟩ | ⟨n, -, rfl⟩
  · unfold constructors at hc
    split at hc
    · exact absurd hc List.not_mem_nil
    · obtain rfl := List.mem_singleton.mp hc
      exact .of_last _ rfl
  · obtain ⟨above, ha, hp⟩ := propertyMember_eq p
    exact hp ▸ ha.append (endsLine_memberLine _ _)
  · exact endsLine_navigationMember n

theorem passage_entityClass (h : s ∈ members settings.collectionType e) :
    Passage s (entityClass settings e) := by
  refine (Passage.intercalate (fun _ => endsLine_of_mem_members) h).trans (.inside ?_ _ _)
  rw [← String.append_assoc]
  exact .of_last _ rfl

/-! ## Statements of the context -/

variable {target : Target} {plan : SchemaPlan}

theorem endsLine_of_mem_statements (h : s ∈ statements e) : EndsLine s := by
  simp only [statements, List.mem_append, List.mem_cons, List.mem_map, List.not_mem_nil, or_false,
    or_assoc] at h
  rcases h with rfl | rfl | ⟨i, -, rfl⟩ | ⟨n, -, rfl⟩ | rfl
  · exact .of_last _ rfl
  · unfold keyStatement
    split
    · exact .of_last _ rfl
    · exact .of_getLast? rfl
  · exact .of_last _ rfl
  · exact .of_last _ rfl
  · exact .of_getLast? rfl

theorem passage_entityBlock (h : s ∈ statements e) : Passage s (entityBlock e) := by
  refine (Passage.intercalate (fun _ => endsLine_of_mem_statements) h).trans (.inside ?_ _ _)
  exact .of_last _ rfl

/-- What stands in the block of an entity stands in the context. -/
theorem Passage.contextClass (he : e ∈ plan.entities) (h : Passage s (entityBlock e)) :
    Passage s (contextClass target plan) := by
  have hb : ∀ x ∈ plan.entities.map entityBlock, EndsLine x := by
    intro x hx
    obtain ⟨d, -, rfl⟩ := List.mem_map.mp hx
    exact .of_last _ rfl
  have hj := h.trans (.join hb (List.mem_map_of_mem he))
  refine hj.trans (.inside ?_ _ _)
  exact .of_last _ rfl

theorem passage_contextClass (he : e ∈ plan.entities) (h : s ∈ statements e) :
    Passage s (contextClass target plan) :=
  (passage_entityBlock h).contextClass he

end EntityGen.Code
