import EntityGen.Proofs.Naming.PluralNames
import EntityGen.Proofs.Plan.Identifiers

/-! # Members of a table that refers to itself

Both members of a self-reference are built on one base. Inflection changes the length of a name by
at most three letters, so a member for `Inverse` and the base is longer than the one it has to
differ from, whatever the suffix is.
-/

namespace EntityGen

open Text Naming Lexicon

/-! ## Lengths of plurals -/

namespace Naming

variable {v w : List Char} {word : String} {rule : List Char → List Char}

theorem length_irregularNoun {p : String × String} (h : p ∈ irregularNouns) :
    p.1.toList.length ≤ p.2.toList.length + 1 ∧ p.2.toList.length ≤ p.1.toList.length + 3 := by
  have hp : spell p ∈ irregularNouns.map spell := List.mem_map_of_mem h
  show (spell p).1.length ≤ (spell p).2.length + 1 ∧ (spell p).2.length ≤ (spell p).1.length + 3
  generalize spell p = w at hp ⊢
  simp only [irregularNouns, spell, List.map_cons, List.map_nil, String.reduceToList] at hp
  revert w
  decide +kernel

theorem length_nounEnding {e : String × String} (h : e ∈ nounEndings) :
    e.1.toList.length ≤ e.2.toList.length ∧ e.2.toList.length ≤ e.1.toList.length + 2 := by
  have he : spell e ∈ nounEndings.map spell := List.mem_map_of_mem h
  show (spell e).1.length ≤ (spell e).2.length ∧ (spell e).2.length ≤ (spell e).1.length + 2
  generalize spell e = w at he ⊢
  simp only [nounEndings, spell, List.map_cons, List.map_nil, String.reduceToList] at he
  revert w
  decide +kernel

theorem PluralForm.length (h : PluralForm w v) :
    w.length ≤ v.length + 1 ∧ v.length ≤ w.length + 3 := by
  cases h with
  | uncountable | finalS => omega
  | irregular hp hw => exact hw ▸ length_irregularNoun hp
  | ending he hw =>
    have hlen := length_nounEnding he
    simp only [hw, List.length_append]
    omega
  | hissing | regular =>
    simp only [List.length_append, List.length_cons, List.length_nil]
    omega
  | soft _ _ hw =>
    simp only [hw, List.length_append, List.length_cons, List.length_nil]
    omega

theorem ascii_inflectLast (hr : ∀ w, w ≠ [] → Respells w (rule w)) (h : Ascii word.toList) :
    Ascii (inflectLast rule word).toList := by
  rcases eq_empty_or_exists_lastWord h with rfl | ⟨lead, last, hs, -, hne, hlead, hlast⟩
  · rw [inflectLast_empty]
    exact Ascii.nil
  · have hsmall := (hr _ (lowercase_ne_nil hlast hne)).small (small_lowercase hlast)
    rw [toList_inflectLast hs hne]
    exact ascii_append.mpr ⟨hlead, ascii_apply hsmall⟩

theorem ascii_singular (h : Ascii word.toList) : Ascii (english.inflector.singular word).toList :=
  ascii_inflectLast (fun w => (singularForm_singularWord w).respells) h

theorem length_plural (h : Ascii word.toList) :
    word.length ≤ (english.inflector.plural word).length + 1 ∧
      (english.inflector.plural word).length ≤ word.length + 3 := by
  rcases eq_empty_or_exists_lastWord h with rfl | ⟨lead, last, hs, happ, hne, -, hlast⟩
  · decide +kernel
  · have hform := pluralForm_pluralWord (lowercase last)
    have hsmall := (hform.respells (lowercase_ne_nil hlast hne)).small (small_lowercase hlast)
    have hp : (english.inflector.plural word).toList =
        lead ++ (wordCase last).apply (english.pluralWord (lowercase last)) :=
      toList_inflectLast hs hne
    have hlow : (lowercase last).length = last.length := by
      rw [lowercase_ascii hlast, List.length_map]
    have hlen := hform.length
    rw [← String.length_toList, ← String.length_toList, hp, happ, List.length_append,
      List.length_append, length_apply hsmall, ← hlow]
    omega

/-- `Inverse` is longer than what a plural can lose and win. -/
theorem plural_inverse_ne {base : String} (h : Ascii base.toList) :
    english.inflector.plural ("Inverse" ++ base) ≠ english.inflector.plural base := by
  intro heq
  have hi : Ascii ("Inverse" ++ base).toList := by
    rw [String.toList_append]
    exact ascii_append.mpr ⟨by decide, h⟩
  have hlong := (length_plural hi).1
  have hshort := (length_plural h).2
  have hseven : "Inverse".length = 7 := by decide
  rw [heq, String.length_append, hseven] at hlong
  omega

theorem ascii_stripKeyEnding {token : String} (h : Ascii token.toList) :
    Ascii (stripKeyEnding token).toList := by
  unfold stripKeyEnding dropKeyEnding
  rw [String.toList_ofList]
  dsimp only
  split
  · exact fun c hc => h c (List.mem_of_mem_take hc)
  · exact h

end Naming

/-! ## Names of members -/

namespace Relationship

variable {inflector : Inflector} {suffix base : String} {r : Relationship} {kind : Ends Cardinality}

theorem baseNames_right_eq (h : r.leftTable = r.rightTable) :
    (r.baseNames inflector).right = (r.baseNames inflector).left := by
  unfold baseNames
  dsimp only
  split
  · rfl
  · exact congrArg inflector.entityName h

theorem baseNames_left_cases (inflector : Inflector) (r : Relationship) :
    (r.baseNames inflector).left = inflector.entityName r.rightTable ∨
      ∃ column ∈ r.leftColumns,
        (r.baseNames inflector).left = inflector.qualifier (humanize column) := by
  unfold baseNames
  dsimp only
  split
  · next qualifier hq =>
    obtain ⟨column, hc, rfl⟩ := exists_column_of_qualifier? hq
    exact .inr ⟨column, by simp [hc], rfl⟩
  · exact .inl rfl

theorem ascii_baseNames_left (ht : Ascii r.rightTable.toList)
    (hc : ∀ c ∈ r.leftColumns, Ascii c.toList) :
    Ascii (r.baseNames english.inflector).left.toList := by
  rcases baseNames_left_cases english.inflector r with h | ⟨column, hm, h⟩
  · rw [h, Inflector.entityName]
    exact ascii_singular (ascii_humanize ht)
  · rw [h]
    exact ascii_stripKeyEnding (ascii_humanize (hc column hm))

/-- The fallback name differs from the left member, since that has the base or its plural in it. -/
theorem memberName_inverse_ne (hk : kind = oneToOne ∨ kind = manyToOne)
    (hp : inflector.plural ("Inverse" ++ base) ≠ inflector.plural base)
    (hs : memberName inflector suffix base kind.left =
      memberName inflector suffix base kind.right) :
    memberName inflector suffix base kind.left ≠
      memberName inflector suffix ("Inverse" ++ base) kind.right := by
  rcases hk with rfl | rfl
  · show base ++ suffix ≠ "Inverse" ++ base ++ suffix
    intro heq
    have hlen := congrArg String.length heq
    simp at hlen
  · rw [hs]
    exact hp.symm

/-- The two members of a self-reference have different names. -/
theorem memberNames_ne_of_selfReferencing (suffix : String)
    (hk : kind = oneToOne ∨ kind = manyToOne) (hs : r.leftTable = r.rightTable)
    (ht : Ascii r.rightTable.toList) (hc : ∀ c ∈ r.leftColumns, Ascii c.toList) :
    (r.memberNames english.inflector suffix kind).left ≠
      (r.memberNames english.inflector suffix kind).right := by
  have hp := plural_inverse_ne (ascii_baseNames_left ht hc)
  unfold memberNames
  dsimp only
  rw [baseNames_right_eq hs]
  split
  · next hclash =>
    exact memberName_inverse_ne hk hp (by simpa using (Bool.and_eq_true_iff.mp hclash).2)
  · next hclash => simpa [isSelfReferencing, hs] using hclash

/-- With the suffix `s` the member for the manager is named like the one for those managed. -/
theorem managers_memberNames_ne :
    let r : Relationship :=
      { leftTable := "employees", leftColumns := ["manager_id"]
        rightTable := "employees", rightColumns := ["id"] }
    r.memberNames english.inflector "s" manyToOne = ⟨"Managers", "InverseManagers"⟩ ∧
      (r.memberNames english.inflector "s" manyToOne).left ≠
        (r.memberNames english.inflector "s" manyToOne).right := by
  refine ⟨by decide +kernel, memberNames_ne_of_selfReferencing "s" (.inr rfl) rfl ?_ ?_⟩
  · decide +kernel
  · decide +kernel

end Relationship

end EntityGen
