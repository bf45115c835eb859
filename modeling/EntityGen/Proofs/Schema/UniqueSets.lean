import Mathlib.Logic.Nontrivial.Defs
import EntityGen.Proofs.Plan.Acceptance

/-! # Unique column sets and the contents of tables

A content of a table is admissible when it keeps the key and every unique index and column. A set of
columns is unique exactly when no admissible content repeats a combination of its values.
-/

namespace EntityGen

variable {V : Type}

abbrev Row (V : Type) := String → V

/-- No two positions of the content agree on all the columns. -/
def Distinguishes (columns : List String) (content : List (Row V)) : Prop :=
  content.Pairwise fun r s => ∃ c ∈ columns, r c ≠ s c

theorem Distinguishes.mono {columns others : List String} {content : List (Row V)}
    (h : Distinguishes columns content) (hs : columns ⊆ others) : Distinguishes others content := by
  refine h.imp ?_
  rintro r s ⟨c, hc, hne⟩
  exact ⟨c, hs hc, hne⟩

def twins (a b : V) (columns : List String) : List (Row V) :=
  [fun _ => a, fun c => if c ∈ columns then a else b]

theorem distinguishes_twins_iff {a b : V} (h : a ≠ b) {columns others : List String} :
    Distinguishes others (twins a b columns) ↔ ¬ others ⊆ columns := by
  simp [Distinguishes, twins, h, List.subset_def]

namespace Table

variable {t : Table} {columns : List String}

/-- The content keeps all that the table declares unique. -/
structure Admissible (t : Table) (content : List (Row V)) : Prop where
  primaryKey : ∀ key, t.primaryKey? = some key → Distinguishes key.columns content
  indexes : ∀ i ∈ t.indexes, i.columns ≠ [] → (i.unique = true ∨ i.primaryKey = true) →
    Distinguishes i.columns content
  columns : ∀ c ∈ t.columns, c.unique = true → Distinguishes [c.name] content

theorem isUnique_iff {columns : List String} :
    t.isUnique columns = true ↔ ∃ s ∈ t.uniqueSets, s ≠ [] ∧ s ⊆ columns := by
  simp [isUnique, List.subset_def]

theorem isUnique_mono {others : List String} (hs : columns ⊆ others)
    (h : t.isUnique columns = true) : t.isUnique others = true := by
  rw [isUnique_iff] at h ⊢
  obtain ⟨s, hm, hn, hsub⟩ := h
  exact ⟨s, hm, hn, List.Subset.trans hsub hs⟩

theorem primaryKey?_columns_ne_nil {key : PrimaryKey} (h : t.primaryKey? = some key) :
    key.columns ≠ [] := by
  unfold primaryKey? at h
  split at h
  · next i hi =>
    have hp := List.find?_some hi
    obtain rfl := Option.some.inj h
    simp only [Bool.and_eq_true, Bool.not_eq_true', List.isEmpty_eq_false_iff] at hp
    exact hp.2
  · unfold flaggedKey? at h
    split at h
    · cases h
    · next columns hn =>
      obtain rfl := Option.some.inj h
      exact hn

theorem mem_uniqueSets_iff {s : List String} :
    s ∈ t.uniqueSets ↔ (∃ key, t.primaryKey? = some key ∧ key.columns = s) ∨
      (∃ i ∈ t.indexes, (i.unique = true ∨ i.primaryKey = true) ∧ i.columns = s) ∨
      ∃ c ∈ t.columns, c.unique = true ∧ [c.name] = s := by
  simp [uniqueSets, and_assoc]

theorem admissible_iff {content : List (Row V)} :
    t.Admissible content ↔ ∀ s ∈ t.uniqueSets, s ≠ [] → Distinguishes s content := by
  simp only [mem_uniqueSets_iff]
  constructor
  · rintro h s (⟨key, hk, rfl⟩ | ⟨i, hi, hu, rfl⟩ | ⟨c, hc, hu, rfl⟩) hn
    · exact h.primaryKey key hk
    · exact h.indexes i hi hn hu
    · exact h.columns c hc hu
  · intro h
    refine ⟨fun key hk => ?_, fun i hi hn hu => ?_, fun c hc hu => ?_⟩
    · exact h _ (.inl ⟨key, hk, rfl⟩) (primaryKey?_columns_ne_nil hk)
    · exact h _ (.inr (.inl ⟨i, hi, hu, rfl⟩)) hn
    · exact h _ (.inr (.inr ⟨c, hc, hu, rfl⟩)) (List.cons_ne_nil _ _)

theorem Admissible.distinguishes {content : List (Row V)} (ha : t.Admissible content)
    (h : t.isUnique columns = true) : Distinguishes columns content := by
  obtain ⟨s, hm, hn, hsub⟩ := isUnique_iff.mp h
  exact (admissible_iff.mp ha s hm hn).mono hsub

/-- Where no unique set is among the columns, each one tells the twins apart. -/
theorem admissible_twins {a b : V} (hab : a ≠ b) (h : ¬ t.isUnique columns = true) :
    t.Admissible (twins a b columns) := by
  rw [admissible_iff]
  intro s hm hn
  rw [distinguishes_twins_iff hab]
  exact fun hsub => h (isUnique_iff.mpr ⟨s, hm, hn, hsub⟩)

theorem isUnique_iff_forall_admissible (V : Type) [Nontrivial V] (t : Table)
    (columns : List String) :
    (t.isUnique columns = true ↔
      ∀ content : List (Row V), t.Admissible content → Distinguishes columns content) ∧
    (∀ others, (∀ c, c ∈ others ↔ c ∈ columns) → t.isUnique others = t.isUnique columns) ∧
    ∀ others, columns ⊆ others → t.isUnique columns = true → t.isUnique others = true := by
  refine ⟨⟨fun h content ha => ha.distinguishes h, fun h => ?_⟩, fun others hm => ?_,
    fun others hs => isUnique_mono hs⟩
  · obtain ⟨a, b, hab⟩ := exists_pair_ne V
    by_contra hu
    have hd := h _ (admissible_twins hab hu)
    rw [distinguishes_twins_iff hab] at hd
    exact hd (List.Subset.refl columns)
  · rw [Bool.eq_iff_iff]
    exact ⟨isUnique_mono fun c hc => (hm c).mp hc, isUnique_mono fun c hc => (hm c).mpr hc⟩

/-- No two badges are of the same employee. -/
theorem staff_badges_distinguished :
    ∃ t, (Database.staff []).table? "badges" = some t ∧ ∀ content : List (Row Bool),
      t.Admissible content → Distinguishes ["employee_id"] content :=
  ⟨_, rfl, (isUnique_iff_forall_admissible Bool _ _).1.mp (by decide)⟩

end Table

end EntityGen
