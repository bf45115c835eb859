import EntityGen.Proofs.Naming.Identifier

/-! # Tokens that collide

A token holds the letters and digits of its identifier in their order, and an underscore only in
front of a digit. So identifiers in ASCII collide only when they differ in nothing but case and
separators.
-/

namespace EntityGen.Naming

open Text

variable {w cs : List Char} {s t : String}

def alphanumerics (s : String) : List Char :=
  s.toList.filter isAlphanumeric

theorem map_toLower_capitalizeWord (h : Ascii w) :
    (capitalizeWord w).map Char.toLower = w.map Char.toLower := by
  cases w with
  | nil => rfl
  | cons c rest =>
    rw [capitalizeWord_ascii h, List.map_cons, List.map_cons, toLower_toUpper,
      List.map_map]
    exact congrArg _ (List.map_congr_left fun d _ => toLower_toLower d)

theorem map_toLower_flatMap_words (h : Ascii cs) :
    ((words cs).flatMap capitalizeWord).map Char.toLower =
      (cs.filter isAlphanumeric).map Char.toLower := by
  have hwords : (words cs).flatMap (fun w => (capitalizeWord w).map Char.toLower) =
      (words cs).flatMap fun w => w.map Char.toLower := by
    refine List.flatMap_congr fun w hw => map_toLower_capitalizeWord fun c hc => ?_
    exact h c (mem_of_mem_words hw hc).1
  rw [List.map_flatMap, hwords, ← flatten_words, List.map_flatten, List.flatMap_def]

theorem map_toLower_guardDigit (cs : List Char) :
    (guardDigit cs).map Char.toLower = guardDigit (cs.map Char.toLower) := by
  unfold guardDigit
  simp only [List.head?_map, Option.any_map, isDigit_toLower]
  split <;> rfl

theorem filter_isAlphanum_guardDigit (h : ∀ c ∈ cs, c.isAlphanum = true) :
    (guardDigit cs).filter Char.isAlphanum = cs := by
  have hall : cs.filter Char.isAlphanum = cs := List.filter_eq_self.mpr h
  unfold guardDigit
  split
  · rw [List.filter_cons_of_neg (by decide), hall]
  · exact hall

theorem ascii_alphanumerics (h : Ascii s.toList) : Ascii (alphanumerics s) :=
  fun c hc => h c (List.mem_of_mem_filter hc)

theorem lowercase_humanize (h : Ascii s.toList) :
    lowercase (humanize s).toList = guardDigit (lowercase (alphanumerics s)) := by
  rw [lowercase_ascii (ascii_humanize h), lowercase_ascii (ascii_alphanumerics h), humanize,
    String.toList_ofList, humanizeChars, map_toLower_guardDigit, map_toLower_flatMap_words h,
    alphanumerics]

theorem isAlphanum_of_mem_lowercase_alphanumerics (h : Ascii s.toList) :
    ∀ c ∈ lowercase (alphanumerics s), c.isAlphanum = true := by
  rw [lowercase_ascii (ascii_alphanumerics h)]
  rintro c hc
  obtain ⟨d, hd, rfl⟩ := List.mem_map.mp hc
  obtain ⟨hm, ha⟩ := List.mem_filter.mp hd
  rwa [isAlphanum_toLower, ← isAlphanumeric_ascii (h d hm)]

theorem guardDigit_lowercase_alphanumerics (h : Ascii s.toList) :
    guardDigit (lowercase (alphanumerics s)) =
      (if (alphanumerics s).head?.any Char.isDigit then ['_'] else []) ++
        lowercase (alphanumerics s) := by
  rw [lowercase_ascii (ascii_alphanumerics h), guardDigit]
  simp only [List.head?_map, Option.any_map, isDigit_toLower]
  split <;> rfl

theorem lowercase_alphanumerics_eq (hs : Ascii s.toList) (ht : Ascii t.toList)
    (h : humanize s = humanize t) : lowercase (alphanumerics s) = lowercase (alphanumerics t) := by
  have htoken : guardDigit (lowercase (alphanumerics s)) =
      guardDigit (lowercase (alphanumerics t)) := by
    rw [← lowercase_humanize hs, h, lowercase_humanize ht]
  rw [← filter_isAlphanum_guardDigit (isAlphanum_of_mem_lowercase_alphanumerics hs), htoken,
    filter_isAlphanum_guardDigit (isAlphanum_of_mem_lowercase_alphanumerics ht)]

/-- Neither the words of an identifier nor its token lose or repeat a letter or digit. Identifiers
with one token have the same letters and digits. -/
theorem humanize_keeps_alphanumerics :
    (∀ s : String, (∀ w ∈ words s.toList, w ≠ []) ∧
        (words s.toList).flatten = alphanumerics s) ∧
      (∀ s : String, Ascii s.toList → lowercase (humanize s).toList =
        (if (alphanumerics s).head?.any Char.isDigit then ['_'] else []) ++
          lowercase (alphanumerics s)) ∧
      ∀ s t : String, Ascii s.toList → Ascii t.toList → humanize s = humanize t →
        lowercase (alphanumerics s) = lowercase (alphanumerics t) := by
  refine ⟨fun s => ⟨fun w => ne_nil_of_mem_words, flatten_words s.toList⟩, fun s hs => ?_,
    fun s t => lowercase_alphanumerics_eq⟩
  rw [lowercase_humanize hs, guardDigit_lowercase_alphanumerics hs]

theorem humanize_2fa_HTTPCode :
    Ascii "2fa_HTTPCode".toList ∧ Ascii "2fa-http code".toList ∧
      humanize "2fa_HTTPCode" = humanize "2fa-http code" ∧
      lowercase (humanize "2fa_HTTPCode").toList =
        '_' :: lowercase (alphanumerics "2fa_HTTPCode") ∧
      lowercase (alphanumerics "2fa_HTTPCode") = lowercase (alphanumerics "2fa-http code") := by
  have hs : Ascii "2fa_HTTPCode".toList := by decide
  have ht : Ascii "2fa-http code".toList := by decide
  have h : humanize "2fa_HTTPCode" = humanize "2fa-http code" := by decide +kernel
  obtain ⟨-, htoken, hcollide⟩ := humanize_keeps_alphanumerics
  exact ⟨hs, ht, h, htoken _ hs, hcollide _ _ hs ht h⟩

end EntityGen.Naming
