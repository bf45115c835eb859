import EntityGen.Manifest
import EntityGen.Proofs.Naming.Inflection
import EntityGen.Proofs.Naming.LastWord
import EntityGen.Proofs.Naming.Words

/-! # Names that are identifiers

A table or column name in ASCII turns to an identifier when it has a letter or digit. Every later
step of naming keeps identifiers: inflection, which only respells the last word, cutting off a key
ending, and putting a suffix behind.
-/

namespace EntityGen

open Text

def isNameChar (c : Char) : Bool :=
  c.isAlphanum || c == '_'

theorem isAscii_of_isNameChar {c : Char} (h : isNameChar c = true) : isAscii c = true := by
  rw [isNameChar, Bool.or_eq_true, beq_iff_eq] at h
  rcases h with h | rfl
  · exact isAscii_of_isAlphanum h
  · decide

theorem isAlpha_or_eq_iff {c : Char} :
    (c.isAlpha || c == '_') = true ↔ isNameChar c = true ∧ c.isDigit = false := by
  constructor
  · rw [Bool.or_eq_true, beq_iff_eq]
    rintro (h | rfl)
    · exact ⟨by simp [isNameChar, Char.isAlphanum, h], isDigit_of_isAlpha h⟩
    · decide
  · rintro ⟨hn, hd⟩
    simpa [isNameChar, Char.isAlphanum, hd] using hn

theorem isIdentifier_iff {cs : List Char} : isIdentifier cs = true ↔
    (∀ c ∈ cs, isNameChar c = true) ∧ ∃ c ∈ cs.head?, c.isDigit = false := by
  cases cs with
  | nil => simp [isIdentifier]
  | cons c rest =>
    have hr : (rest.all fun d => d.isAlphanum || d == '_') = true ↔
        ∀ d ∈ rest, isNameChar d = true := List.all_eq_true
    rw [isIdentifier, Bool.and_eq_true, isAlpha_or_eq_iff, hr]
    simp only [List.mem_cons, forall_eq_or_imp, List.head?_cons, Option.mem_def, Option.some.injEq,
      exists_eq_left']
    tauto

variable {cs ds : List Char}

theorem ascii_of_isIdentifier (h : isIdentifier cs = true) : Ascii cs :=
  fun c hc => isAscii_of_isNameChar ((isIdentifier_iff.mp h).1 c hc)

theorem ne_nil_of_isIdentifier (h : isIdentifier cs = true) : cs ≠ [] := by
  rintro rfl
  exact absurd h (by decide)

theorem isIdentifier_append (h : isIdentifier cs = true) (hd : ∀ c ∈ ds, isNameChar c = true) :
    isIdentifier (cs ++ ds) = true := by
  obtain ⟨hc, c, hh, hn⟩ := isIdentifier_iff.mp h
  refine isIdentifier_iff.mpr ⟨?_, c, List.mem_head?_append_of_mem_head? hh, hn⟩
  intro b hb
  rcases List.mem_append.mp hb with hb | hb
  · exact hc b hb
  · exact hd b hb

/-- A beginning of an identifier is one too, unless it is empty. -/
theorem isIdentifier_of_beginning (h : isIdentifier cs = true) (hp : ds <+: cs) (hn : ds ≠ []) :
    isIdentifier ds = true := by
  obtain ⟨rest, rfl⟩ := hp
  obtain ⟨hc, c, hh, hd⟩ := isIdentifier_iff.mp h
  refine isIdentifier_iff.mpr ⟨fun b hb => hc b (List.mem_append_left _ hb), c, ?_, hd⟩
  rwa [List.head?_append_of_ne_nil _ hn] at hh

/-- Changing the case of characters keeps identifiers. -/
theorem isIdentifier_map {f : Char → Char} (ha : ∀ c, (f c).isAlphanum = c.isAlphanum)
    (hd : ∀ c, (f c).isDigit = c.isDigit) (hf : f '_' = '_') (h : isIdentifier cs = true) :
    isIdentifier (cs.map f) = true := by
  obtain ⟨hc, c, hh, hn⟩ := isIdentifier_iff.mp h
  refine isIdentifier_iff.mpr ⟨?_, f c, by simp [Option.mem_def.mp hh], by rw [hd, hn]⟩
  intro b hb
  obtain ⟨a, ham, rfl⟩ := List.mem_map.mp hb
  have hac := hc a ham
  rw [isNameChar, Bool.or_eq_true, beq_iff_eq] at hac
  rcases hac with hac | rfl
  · simp [isNameChar, ha, hac]
  · simp [isNameChar, hf]

theorem isIdentifier_lowercase (h : isIdentifier cs = true) :
    isIdentifier (lowercase cs) = true := by
  rw [lowercase_ascii (ascii_of_isIdentifier h)]
  exact isIdentifier_map isAlphanum_toLower isDigit_toLower rfl h

theorem isIdentifier_uppercase (h : isIdentifier cs = true) :
    isIdentifier (uppercase cs) = true := by
  rw [uppercase_ascii (ascii_of_isIdentifier h)]
  exact isIdentifier_map isAlphanum_toUpper isDigit_toUpper rfl h

namespace Naming

theorem isIdentifier_capitalizeChars (h : isIdentifier cs = true) :
    isIdentifier (capitalizeChars cs) = true := by
  cases cs with
  | nil => exact absurd h (by decide)
  | cons c rest =>
    have hc : isIdentifier [c] = true := isIdentifier_of_beginning h ⟨rest, rfl⟩ (by simp)
    have hu := isIdentifier_uppercase hc
    rw [uppercase, List.flatMap_singleton] at hu
    exact isIdentifier_append hu fun d hd =>
      (isIdentifier_iff.mp h).1 d (List.mem_cons_of_mem _ hd)

theorem isIdentifier_matchCase {model : List Char} (h : isIdentifier cs = true) :
    isIdentifier (matchCase model cs) = true := by
  unfold matchCase
  split
  · exact isIdentifier_uppercase h
  split
  · exact isIdentifier_capitalizeChars h
  · exact h

theorem Respells.isIdentifier (hr : Respells cs ds) (h : isIdentifier cs = true) :
    isIdentifier ds = true := by
  obtain ⟨hc, hd⟩ := isIdentifier_iff.mp h
  have hlower : ∀ c : Char, c.isLower = true → isNameChar c = true ∧ c.isDigit = false :=
    fun c hl => isAlpha_or_eq_iff.mp (by simp [isAlpha_of_isLower hl])
  exact isIdentifier_iff.mpr
    ⟨hr.forall_mem (fun c hl => (hlower c hl).1) hc, hr.head (fun c hl => (hlower c hl).2) hd⟩

/-- The last word of an identifier is an identifier, since it is all of it or starts with a
capital. -/
theorem isIdentifier_lastWord (h : isIdentifier cs = true) :
    isIdentifier (splitLastWord cs).2 = true := by
  obtain ⟨happ, -, hl⟩ := splitLastWord_spec cs
  rcases hl with hl | ⟨-, c, hc, hu⟩
  · rw [hl, List.nil_append] at happ
    rwa [happ]
  · have hm : ∀ d ∈ (splitLastWord cs).2, d ∈ cs := fun d hd => happ ▸ List.mem_append_right _ hd
    have hi := (isIdentifier_iff.mp h).1
    have ha := ascii_of_isIdentifier h c (hm c (List.mem_of_mem_head? hc))
    refine isIdentifier_iff.mpr ⟨fun d hd => hi d (hm d hd), c, hc, ?_⟩
    rw [isUppercase_ascii ha] at hu
    exact isDigit_of_isAlpha (isAlpha_of_isUpper hu)

theorem isIdentifier_inflectLast {rule : List Char → List Char}
    (hr : ∀ w, w ≠ [] → Respells w (rule w)) {word : String}
    (h : isIdentifier word.toList = true) : isIdentifier (inflectLast rule word).toList = true := by
  have hlast := isIdentifier_lowercase (isIdentifier_lastWord h)
  have hnew : isIdentifier (matchCase (splitLastWord word.toList).2
      (rule (lowercase (splitLastWord word.toList).2))) = true :=
    isIdentifier_matchCase ((hr _ (ne_nil_of_isIdentifier hlast)).isIdentifier hlast)
  obtain ⟨happ, -, -⟩ := splitLastWord_spec word.toList
  unfold inflectLast
  dsimp only
  split
  · exact h
  rw [String.toList_ofList]
  by_cases hl : (splitLastWord word.toList).1 = []
  · rwa [hl, List.nil_append]
  · exact isIdentifier_append (isIdentifier_of_beginning h ⟨_, happ⟩ hl)
      (isIdentifier_iff.mp hnew).1

theorem inflectLast_empty (rule : List Char → List Char) : inflectLast rule "" = "" := by
  simp [inflectLast, splitLastWord]

theorem isIdentifier_plural {word : String} (h : isIdentifier word.toList = true) :
    isIdentifier (Lexicon.english.inflector.plural word).toList = true :=
  isIdentifier_inflectLast (fun w => (pluralForm_pluralWord w).respells) h

theorem isIdentifier_singular {word : String} (h : isIdentifier word.toList = true) :
    isIdentifier (Lexicon.english.inflector.singular word).toList = true :=
  isIdentifier_inflectLast (fun w => (singularForm_singularWord w).respells) h

theorem isIdentifier_stripKeyEnding {token : String} (h : isIdentifier token.toList = true) :
    isIdentifier (stripKeyEnding token).toList = true := by
  unfold stripKeyEnding dropKeyEnding
  rw [String.toList_ofList]
  dsimp only
  split
  · next hk =>
    have hlen : 2 < token.toList.length := by simpa using (Bool.and_eq_true_iff.mp hk).1
    refine isIdentifier_of_beginning h (List.take_prefix _ _) ?_
    rw [ne_eq, List.take_eq_nil_iff]
    rintro (hz | hz)
    · omega
    · exact ne_nil_of_isIdentifier h hz
  · exact h

theorem isIdentifier_guardDigit_iff (h : ∀ c ∈ cs, c.isAlphanum = true) :
    isIdentifier (guardDigit cs) = true ↔ cs ≠ [] := by
  have hn : ∀ c ∈ cs, isNameChar c = true := fun c hc => by simp [isNameChar, h c hc]
  cases cs with
  | nil => decide
  | cons c rest =>
    refine iff_of_true ?_ (List.cons_ne_nil c rest)
    unfold guardDigit
    split
    · have hu : isIdentifier ['_'] = true := by decide
      exact isIdentifier_append hu hn
    · next hd => exact isIdentifier_iff.mpr ⟨hn, c, rfl, by simpa using hd⟩

theorem isAlphanum_of_mem_capitalizeWord {w : List Char} (hw : ∀ c ∈ w, c.isAlphanum = true)
    {c : Char} (hc : c ∈ capitalizeWord w) : c.isAlphanum = true := by
  have ha : Ascii w := fun d hd => isAscii_of_isAlphanum (hw d hd)
  cases w with
  | nil => exact absurd hc List.not_mem_nil
  | cons d rest =>
    rw [capitalizeWord_ascii ha, List.mem_cons, List.mem_map] at hc
    rcases hc with rfl | ⟨b, hb, rfl⟩
    · rw [isAlphanum_toUpper]
      exact hw d (by simp)
    · rw [isAlphanum_toLower]
      exact hw b (by simp [hb])

/-- A table or column name in ASCII becomes an identifier when it has a letter or digit. -/
theorem isIdentifier_humanize_iff {s : String} (hs : Ascii s.toList) :
    isIdentifier (humanize s).toList = true ↔ ∃ c ∈ s.toList, c.isAlphanum = true := by
  have hword : ∀ w ∈ words s.toList, ∀ c ∈ w, c.isAlphanum = true := by
    intro w hw c hc
    obtain ⟨hm, ha⟩ := mem_of_mem_words hw hc
    rwa [isAlphanumeric_ascii (hs c hm)] at ha
  have hletters : ∀ c ∈ (words s.toList).flatMap capitalizeWord, c.isAlphanum = true := by
    intro c hc
    obtain ⟨w, hw, hcw⟩ := List.mem_flatMap.mp hc
    exact isAlphanum_of_mem_capitalizeWord (hword w hw) hcw
  have hnil : (words s.toList).flatMap capitalizeWord = [] ↔ words s.toList = [] := by
    constructor
    · intro h
      rw [List.flatMap_eq_nil_iff] at h
      refine List.eq_nil_iff_forall_not_mem.mpr fun w hw => ?_
      exact absurd (h w hw) (capitalizeWord_ne_nil (ne_nil_of_mem_words hw)
        fun c hc => isAscii_of_isAlphanum (hword w hw c hc))
    · intro h
      rw [h]
      rfl
  rw [humanize, String.toList_ofList, humanizeChars, isIdentifier_guardDigit_iff hletters, ne_eq,
    hnil, words_eq_nil_iff]
  push Not
  exact exists_congr fun c => and_congr_right fun hc => by
    rw [isAlphanumeric_ascii (hs c hc), ne_eq, Bool.not_eq_false]

theorem ascii_humanize {s : String} (h : Ascii s.toList) : Ascii (humanize s).toList := by
  by_cases hl : ∃ c ∈ s.toList, c.isAlphanum = true
  · exact ascii_of_isIdentifier ((isIdentifier_humanize_iff h).mpr hl)
  · rw [humanize_eq_empty h (by simpa using hl)]
    exact Ascii.nil

end Naming

end EntityGen
