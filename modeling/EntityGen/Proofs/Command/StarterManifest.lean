import EntityGen.Proofs.Command.Starting
import EntityGen.Proofs.Naming.Identifier
import EntityGen.Proofs.Text.Blank
import EntityGen.Proofs.Toml.Lines

/-! # The manifest of a new project

The name of a project stands in a comment and in a string of its manifest, and the class name that
is made of it in two strings. An accepted name has no character that would end them, so the manifest
is read back with its settings and its one target.
-/

namespace EntityGen.Starter

open Toml

variable {name : String} {c : Char}

/-! ## Accepted names -/

theorem isNameChar_className (h : nameError? name = none) (hc : c ∈ (className name).toList) :
    isNameChar c = true :=
  (isIdentifier_iff.mp (isIdentifier_className h)).1 c hc

theorem isNameChar_of_toUpper (h : isNameChar c.toUpper = true) : isNameChar c = true := by
  rw [isNameChar, Text.isAlphanum_toUpper, Bool.or_eq_true, beq_iff_eq] at h
  rcases h with h | h
  · simp [isNameChar, h]
  · cases hl : c.isLower with
    | true => simp [isNameChar, Text.isAlphanum_of_isLower hl]
    | false =>
      rw [Text.toUpper_of_isLower_eq_false hl] at h
      simp [isNameChar, h]

/-- A character of an accepted name separates words, stands in identifiers, or has a capital in
ASCII without being there itself. -/
theorem char_cases (h : nameError? name = none) (hc : c ∈ name.toList) :
    isSeparator c = true ∨ isNameChar c = true ∨
      Text.isAscii c = false ∧ ∀ d ∈ Text.upper c, isNameChar d = true := by
  by_cases hs : isSeparator c = true
  · exact .inl hs
  obtain ⟨piece, hp, hcp⟩ := exists_mem_of_mem_splitOnP hc (by simpa using hs)
  have hpiece : ∀ d ∈ Naming.capitalizeChars piece, isNameChar d = true := by
    intro d hd
    refine isNameChar_className h ?_
    rw [className, String.toList_ofList]
    exact List.mem_flatMap.mpr ⟨piece, hp, hd⟩
  cases piece with
  | nil => cases hcp
  | cons d rest =>
    have hupper : ∀ u ∈ Text.upper d, isNameChar u = true := fun u hu =>
      hpiece u (List.mem_append_left _ hu)
    rcases List.mem_cons.mp hcp with rfl | hr
    · cases ha : Text.isAscii c with
      | false => exact .inr (.inr ⟨rfl, hupper⟩)
      | true =>
        rw [Text.upper_ascii ha] at hupper
        exact .inr (.inl (isNameChar_of_toUpper (hupper _ (List.mem_singleton_self _))))
    · exact .inr (.inl (hpiece c (List.mem_append_right _ hr)))

theorem ne_sigma_of_nameError? (h : nameError? name = none) (hc : c ∈ name.toList) : c ≠ 'Σ' := by
  rintro rfl
  rcases char_cases h hc with hs | hn | ⟨-, hu⟩
  · exact absurd hs (by decide)
  · exact absurd hn (by decide)
  · exact absurd (hu 'Σ' (by decide)) (by decide)

theorem isControl_of_isPlainChar (h : isPlainChar c = true) : Parser.isControl c = false := by
  rw [isPlainChar, Bool.and_eq_true, Bool.not_eq_true'] at h
  exact h.2

theorem isPlainChar_of_isNameChar (h : isNameChar c = true) : isPlainChar c = true := by
  have hquote : c ≠ '"' := by
    rintro rfl
    exact absurd h (by decide)
  have hslash : c ≠ '\\' := by
    rintro rfl
    exact absurd h (by decide)
  rw [isNameChar, Bool.or_eq_true, beq_iff_eq] at h
  rcases h with h | rfl
  · have hbounds : 0x30 ≤ c.toNat ∧ c.toNat < 0x7F := by grind
    simp [isPlainChar, Parser.isControl, hquote, hslash]
    omega
  · decide

theorem isPlainChar_of_nameError? (h : nameError? name = none) (hc : c ∈ name.toList) :
    isPlainChar c = true := by
  rcases char_cases h hc with hs | hn | ⟨ha, -⟩
  · rw [isSeparator, List.contains_eq_mem, decide_eq_true_eq] at hs
    exact List.all_eq_true.mp (by decide) c hs
  · exact isPlainChar_of_isNameChar hn
  · have hn : 128 ≤ c.toNat := by simpa [Text.isAscii] using ha
    have hne : ∀ d : Char, d.toNat < 128 → c ≠ d := fun d hd he => absurd (he ▸ hd) (by omega)
    simp [isPlainChar, Parser.isControl, hne '"' (by decide), hne '\\' (by decide)]
    omega

/-! ## Reading the manifest -/

def settingLines : List Line := [
  .blank,
  .table ["project"],
  .pair "schema_dir" (.string "schemas"),
  .pair "output_dir" (.string "Generated"),
  .pair "log_level" (.string "info"),
  .blank,
  .table ["generator"],
  .pair "navigation_suffix" (.string "Navigation"),
  .pair "collection_type" (.string "HashSet"),
  .pair "emit_header" .yes,
  .blank,
  .table ["generator", "inflections"],
  .pair "uncountable" .emptyList,
  .blank,
  .table ["generator", "inflections", "irregular"],
  .blank,
  .item ["target"]]

def lines (name : String) : List Line :=
  .comment (" schemagen manifest for " ++ name) :: (settingLines ++ [
    .pair "class_name" (.string (className name ++ "Context")),
    .pair "namespace" (.string (className name ++ ".Data")),
    .pair "source" (.string (name ++ ".json"))])

def target (name : String) : Target where
  className := className name ++ "Context"
  nameSpace := className name ++ ".Data"
  source := name ++ ".json"

def manifest (name : String) : Manifest where
  project := { logLevel := some "info" }
  targets := [target name]

theorem manifestLines_eq :
    manifestLines name (className name) = (lines name).map Line.text := by
  simp [manifestLines, lines, settingLines, Line.text, Literal.text, ← String.toList_inj]

theorem toList_manifestText :
    (manifestText name (className name)).toList = Parser.linesText (lines name) := by
  rw [manifestText, manifestLines_eq, textOfLines, String.toList_join, List.map_map,
    List.flatMap_map, Parser.linesText]
  exact List.flatMap_congr fun l _ => String.toList_append

def entries (name : String) : Entries := [
  ("project", .table .header [
    ("schema_dir", .string "schemas"),
    ("output_dir", .string "Generated"),
    ("log_level", .string "info")]),
  ("generator", .table .header [
    ("navigation_suffix", .string "Navigation"),
    ("collection_type", .string "HashSet"),
    ("emit_header", .boolean true),
    ("inflections", .table .header [
      ("uncountable", .array []),
      ("irregular", .table .header [])])]),
  ("target", .tables [.table .header [
    ("class_name", .string (className name ++ "Context")),
    ("namespace", .string (className name ++ ".Data")),
    ("source", .string (name ++ ".json"))]])]

theorem foldlM_lines (name : String) : (lines name).foldlM Line.apply ⟨[], []⟩ =
    some ⟨entries name, ["target"]⟩ := by
  rfl

theorem isPlain_settingLines : ∀ l ∈ settingLines, l.IsPlain := by
  decide

theorem isPlain_lines (h : nameError? name = none) : ∀ l ∈ lines name, l.IsPlain := by
  have hname : ∀ c ∈ name.toList, isPlainChar c = true := fun _ => isPlainChar_of_nameError? h
  have hclass : ∀ c ∈ (className name).toList, isPlainChar c = true := fun _ hc =>
    isPlainChar_of_isNameChar (isNameChar_className h hc)
  have hstring : ∀ {s end_ : String}, (∀ c ∈ s.toList, isPlainChar c = true) →
      (∀ c ∈ end_.toList, isPlainChar c = true) → (Literal.string (s ++ end_)).IsPlain := by
    intro s end_ hs he c hc
    rw [String.toList_append, List.mem_append] at hc
    exact hc.elim (hs c) (he c)
  intro l hl
  rw [lines, List.mem_cons, List.mem_append] at hl
  rcases hl with rfl | hl | hl
  · intro c hc
    rw [String.toList_append, List.mem_append] at hc
    rcases hc with hc | hc
    · exact isControl_of_isPlainChar (List.all_eq_true.mp (by decide) c hc)
    · exact isControl_of_isPlainChar (hname c hc)
  · exact isPlain_settingLines l hl
  · simp only [List.mem_cons, List.not_mem_nil, or_false] at hl
    rcases hl with rfl | rfl | rfl
    · exact ⟨by decide, hstring hclass (List.all_eq_true.mp (by decide))⟩
    · exact ⟨by decide, hstring hclass (List.all_eq_true.mp (by decide))⟩
    · exact ⟨by decide, hstring hname (List.all_eq_true.mp (by decide))⟩

theorem ofToml?_manifestText (h : nameError? name = none) :
    Manifest.ofToml? (manifestText name (className name)) = some (manifest name) := by
  have hparse : Toml.parse? (manifestText name (className name)) = some (entries name) :=
    Parser.parse?_of_lines (isPlain_lines h) (foldlM_lines name) toList_manifestText
  rw [Manifest.ofToml?, hparse]
  rfl

/-! ## Checking the manifest -/

theorem error?_target (h : nameError? name = none) : (target name).error? = none := by
  have hclass := isIdentifier_className h
  have hcontext : isIdentifier (className name ++ "Context").toList = true := by
    rw [String.toList_append]
    exact isIdentifier_append hclass (List.all_eq_true.mp (by decide))
  have hne : (className name ++ "Context").isEmpty = false := by simp
  have hsource : Text.trim (name ++ ".json").toList ≠ [] :=
    Text.trim_ne_nil (c := 'j') (by simp) (by decide)
  have hspace : ((className name ++ ".Data").toList.splitOn '.').all isIdentifier = true := by
    have hpoint : '.' ∉ (className name).toList := fun hp =>
      absurd (isNameChar_className h hp) (by decide)
    have hparts : (className name ++ ".Data").toList =
        (className name).toList ++ '.' :: "Data".toList := by simp
    rw [hparts, List.splitOn_append_cons_self, List.splitOn_eq_singleton hpoint, List.all_append,
      List.all_cons, hclass]
    decide
  simp only [Target.error?, target, hne, hcontext, List.isEmpty_iff, hsource, hspace, Bool.not_true,
    Bool.and_false, Bool.false_eq_true, if_false]

theorem error?_manifest (h : nameError? name = none) : (manifest name).error? = none := by
  have hlevel : (Option.filter (fun l => (LogLevel.ofName? l).isNone) (some "info")) = none := by
    decide
  have hcollection : isIdentifier "HashSet".toList = true := by decide
  have hsuffix : ("Navigation".toList.all fun c => Text.isAlphanumeric c || c == '_') = true := by
    decide
  have htargets : Target.firstError? [] [target name] = none := by
    simp [Target.firstError?, error?_target h]
  simp only [Manifest.error?, manifest, List.isEmpty_cons, hcollection, hsuffix, hlevel, htargets,
    Bool.not_true, Bool.false_eq_true, if_false]

end EntityGen.Starter
