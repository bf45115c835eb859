import EntityGen.Proofs.Naming.Compound

/-! # Spellings of an identifier

The usual conventions join the words of an identifier by a separator or by a capital letter. Cutting
finds the words again in each of these spellings, up to their case, so all of them give one token,
which is one of the spellings itself.
-/

namespace EntityGen.Naming

open Text

inductive Spelling
  | snake
  | kebab
  | spaced
  | screaming
  | camel
  | pascal
  deriving DecidableEq

def Spelling.spell : Spelling → List String → String
  | snake, words => "_".intercalate words
  | kebab, words => "-".intercalate words
  | spaced, words => " ".intercalate words
  | screaming, words => "_".intercalate (words.map String.toUpper)
  | camel, [] => ""
  | camel, first :: rest => first ++ String.join (rest.map capitalize)
  | pascal, words => String.join (words.map capitalize)

/-! ## Words with a number -/

/-- Two or more small letters, and then digits only. -/
structure NumberedWord (w : List Char) : Prop where
  letters : 2 ≤ (w.takeWhile Char.isLower).length
  digits : (w.dropWhile Char.isLower).all Char.isDigit = true

instance : DecidablePred NumberedWord := fun w =>
  decidable_of_iff
    (2 ≤ (w.takeWhile Char.isLower).length ∧ (w.dropWhile Char.isLower).all Char.isDigit = true)
    ⟨fun ⟨hl, hd⟩ => ⟨hl, hd⟩, fun ⟨hl, hd⟩ => ⟨hl, hd⟩⟩

namespace NumberedWord

variable {w : List Char}

theorem exists_append (h : NumberedWord w) : ∃ letters digits, w = letters ++ digits ∧
    2 ≤ letters.length ∧ Letters letters ∧ ∀ d ∈ digits, d.isDigit = true :=
  ⟨_, _, List.takeWhile_append_dropWhile.symm, h.letters, fun _ => List.mem_takeWhile_imp,
    List.all_eq_true.mp h.digits⟩

theorem isLower_or_isDigit (h : NumberedWord w) {c : Char} (hc : c ∈ w) :
    c.isLower = true ∨ c.isDigit = true := by
  obtain ⟨letters, digits, rfl, -, hl, hd⟩ := h.exists_append
  exact (List.mem_append.mp hc).imp (hl c) (hd c)

theorem isAlphanum (h : NumberedWord w) {c : Char} (hc : c ∈ w) : c.isAlphanum = true := by
  rcases h.isLower_or_isDigit hc with hl | hd
  · exact isAlphanum_of_isLower hl
  · simp [Char.isAlphanum, hd]

theorem small (h : NumberedWord w) : Small w := by
  intro c hc
  refine ⟨isAscii_of_isAlphanum (h.isAlphanum hc), ?_⟩
  rcases h.isLower_or_isDigit hc with hl | hd
  · exact isUpper_eq_false_of_isLower hl
  · exact (Bool.or_eq_false_iff.mp (isAlpha_of_isDigit hd)).1

theorem exists_cons (h : NumberedWord w) :
    ∃ c rest, w = c :: rest ∧ c.isLower = true ∧ rest ≠ [] := by
  obtain ⟨letters, digits, rfl, hlen, hl, -⟩ := h.exists_append
  match letters, hlen with
  | c :: d :: letters, _ => exact ⟨c, _, rfl, hl c List.mem_cons_self, List.cons_ne_nil _ _⟩

theorem head (h : NumberedWord w) : ∃ c ∈ w.head?, c.isLower = true := by
  obtain ⟨c, rest, rfl, hc, -⟩ := h.exists_cons
  exact ⟨c, rfl, hc⟩

theorem last (h : NumberedWord w) : ∃ d ∈ w.getLast?, d.isLower = true ∨ d.isDigit = true := by
  obtain ⟨c, rest, rfl, -, -⟩ := h.exists_cons
  have hne : c :: rest ≠ [] := List.cons_ne_nil c rest
  exact ⟨_, List.getLast?_eq_some_getLast hne, h.isLower_or_isDigit (List.getLast_mem hne)⟩

theorem unbroken (h : NumberedWord w) : Unbroken w := by
  obtain ⟨c, rest, rfl, -, -⟩ := h.exists_cons
  exact unbroken_append (u := []) (List.cons_ne_nil c rest) (by simp)
    (fun d hd => ⟨h.isAlphanum hd, (h.small d hd).2⟩) (.inl (Nat.zero_le 1))

theorem unbroken_toUpper (h : NumberedWord w) : Unbroken (w.map Char.toUpper) := by
  obtain ⟨letters, digits, rfl, hlen, hl, hd⟩ := h.exists_append
  have halpha : ∀ d ∈ digits, d.isUpper = false ∧ d.isLower = false := fun d hm =>
    Bool.or_eq_false_iff.mp (isAlpha_of_isDigit (hd d hm))
  have hdigits : digits.map Char.toUpper = digits := by
    refine (List.map_congr_left fun d hm => ?_).trans (List.map_id digits)
    exact toUpper_of_isLower_eq_false (halpha d hm).2
  rw [List.map_append, hdigits]
  refine unbroken_append ?_ ?_ (fun d hm => ⟨?_, (halpha d hm).1⟩) (.inr fun d hm => ?_)
  · have hne : letters ≠ [] := List.ne_nil_of_length_pos (Nat.lt_of_lt_of_le Nat.two_pos hlen)
    simp [hne]
  · intro c hc
    obtain ⟨b, hb, rfl⟩ := List.mem_map.mp hc
    simp [isAlpha_of_isLower (hl b hb)]
  · simp [Char.isAlphanum, hd d hm]
  · have hm := List.mem_of_mem_head? hm
    rw [isLowercase_ascii (isAscii_of_isAlphanum (by simp [Char.isAlphanum, hd d hm]))]
    exact (halpha d hm).2

theorem unbroken_capitalizeChars (h : NumberedWord w) : Unbroken (capitalizeChars w) := by
  obtain ⟨c, rest, rfl, hc, -⟩ := h.exists_cons
  rw [capitalizeChars_cons hc]
  refine unbroken_append (u := [c.toUpper]) (List.cons_ne_nil _ rest) ?_ ?_ (.inl le_rfl)
  · simp [isAlpha_of_isLower hc]
  · intro d hd
    have hm := List.mem_cons_of_mem c hd
    exact ⟨h.isAlphanum hm, (h.small d hm).2⟩

theorem head_capitalizeChars (h : NumberedWord w) :
    ∃ c ∈ (capitalizeChars w).head?, c.isUpper = true := by
  obtain ⟨c, rest, rfl, hc, -⟩ := h.exists_cons
  exact ⟨c.toUpper, by rw [capitalizeChars_cons hc]; rfl, (isUpper_toUpper c).trans (isAlpha_of_isLower hc)⟩

theorem last_capitalizeChars (h : NumberedWord w) :
    ∃ d ∈ (capitalizeChars w).getLast?, d.isLower = true ∨ d.isDigit = true := by
  obtain ⟨d, hd, hdl⟩ := h.last
  obtain ⟨c, rest, rfl, hc, hne⟩ := h.exists_cons
  have hlast : ∀ b, (b :: rest).getLast? = rest.getLast? := fun b =>
    List.getLast?_append_of_ne_nil [b] hne
  refine ⟨d, ?_, hdl⟩
  rwa [capitalizeChars_cons hc, hlast, ← hlast c]

end NumberedWord

/-! ## Words found again -/

section Cut

variable {w : List Char} {ws : List (List Char)}

theorem map_toLower_words_intercalate {separator : Char} (hn : isAlphanumeric separator = false)
    (hl : isLowercase separator = false) {f : List Char → List Char}
    (hu : ∀ w ∈ ws, Unbroken (f w)) (hf : ∀ w ∈ ws, (f w).map Char.toLower = w) :
    (words ([separator].intercalate (ws.map f))).map (·.map Char.toLower) = ws := by
  rw [words_intercalate hn hl (List.forall_mem_map.mpr hu), List.map_map]
  exact (List.map_congr_left hf).trans (List.map_id ws)

theorem map_toLower_capitalizeChars (h : ∀ w ∈ ws, NumberedWord w) :
    (ws.map capitalizeChars).map (·.map Char.toLower) = ws := by
  rw [List.map_map]
  refine (List.map_congr_left fun w hw => ?_).trans (List.map_id ws)
  exact map_toLower_apply (k := .capital) (h w hw).small

/-- Capitalized words are cut from each other and from what is before them. -/
theorem words_append_compound (hw : Unbroken w)
    (hl : ∃ d ∈ w.getLast?, d.isLower = true ∨ d.isDigit = true)
    (h : ∀ v ∈ ws, NumberedWord v) :
    words (w ++ compound ws) = w :: ws.map capitalizeChars := by
  rw [compound, List.flatMap_def, ← List.flatten_cons]
  refine words_flatten ?_ ?_ fun v hv => ?_
  · exact List.forall_mem_cons.mpr
      ⟨hw, List.forall_mem_map.mpr fun v hv => (h v hv).unbroken_capitalizeChars⟩
  · exact List.forall_mem_cons.mpr
      ⟨hl, List.forall_mem_map.mpr fun v hv => (h v hv).last_capitalizeChars⟩
  · obtain ⟨u, hu, rfl⟩ := List.mem_map.mp hv
    exact (h u hu).head_capitalizeChars

theorem words_compound (h : ∀ w ∈ ws, NumberedWord w) :
    words (compound ws) = ws.map capitalizeChars := by
  cases ws with
  | nil => rfl
  | cons w ws =>
    obtain ⟨hw, hws⟩ := List.forall_mem_cons.mp h
    rw [compound_cons, List.map_cons]
    exact words_append_compound hw.unbroken_capitalizeChars hw.last_capitalizeChars hws

end Cut

/-- Each spelling is cut into the words that it is made of. -/
theorem words_spell (s : Spelling) {ws : List String} (h : ∀ w ∈ ws, NumberedWord w.toList) :
    (words (s.spell ws).toList).map (·.map Char.toLower) = ws.map String.toList := by
  have hl : ∀ w ∈ ws.map String.toList, NumberedWord w := List.forall_mem_map.mpr h
  have hjoined : ∀ separator : Char, isAlphanumeric separator = false →
      isLowercase separator = false →
      (words ([separator].intercalate (ws.map String.toList))).map (·.map Char.toLower) =
        ws.map String.toList := by
    intro separator hn hs
    have hw := map_toLower_words_intercalate hn hs (f := id) (fun w hw => (hl w hw).unbroken)
      fun w hw => (hl w hw).small.map_toLower
    rwa [List.map_id] at hw
  cases s with
  | snake =>
    rw [Spelling.spell, String.toList_intercalate]
    exact hjoined '_' (by decide +kernel) (by decide)
  | kebab =>
    rw [Spelling.spell, String.toList_intercalate]
    exact hjoined '-' (by decide +kernel) (by decide)
  | spaced =>
    rw [Spelling.spell, String.toList_intercalate]
    exact hjoined ' ' (by decide +kernel) (by decide)
  | screaming =>
    have hupper : (ws.map String.toUpper).map String.toList =
        (ws.map String.toList).map (·.map Char.toUpper) := by
      simp [String.toUpper]
    rw [Spelling.spell, String.toList_intercalate, hupper]
    have hline : isAlphanumeric '_' = false := by decide +kernel
    refine map_toLower_words_intercalate hline (by decide)
      (fun w hw => (hl w hw).unbroken_toUpper) fun w hw => ?_
    rw [← apply_upper (hl w hw).small, map_toLower_apply (hl w hw).small]
  | camel =>
    cases ws with
    | nil => rfl
    | cons first rest =>
      obtain ⟨hfirst, hrest⟩ := List.forall_mem_cons.mp hl
      rw [Spelling.spell, String.toList_append, toList_join_capitalize,
        words_append_compound hfirst.unbroken hfirst.last hrest, List.map_cons,
        map_toLower_capitalizeChars hrest, hfirst.small.map_toLower, List.map_cons]
  | pascal =>
    rw [Spelling.spell, toList_join_capitalize, words_compound hl, map_toLower_capitalizeChars hl]

/-- All spellings of an identifier give the token of its capitalized words, and the token of this
token is the token itself. -/
theorem humanize_spell (s : Spelling) {ws : List String} (h : ∀ w ∈ ws, NumberedWord w.toList) :
    humanize (s.spell ws) = String.join (ws.map capitalize) ∧
      humanize (humanize (s.spell ws)) = humanize (s.spell ws) := by
  have htoken : ∀ s : Spelling, humanize (s.spell ws) = String.join (ws.map capitalize) := by
    intro s
    rw [← String.toList_inj, toList_join_capitalize, humanize, String.toList_ofList]
    exact humanizeChars_eq_compound (words_spell s h)
      (List.forall_mem_map.mpr fun w hw => (h w hw).small)
      (List.forall_mem_map.mpr fun w hw => (h w hw).head)
  refine ⟨htoken s, ?_⟩
  rw [htoken s]
  exact htoken .pascal

/-- An identifier in capitals with digits inside and at the end. -/
theorem humanize_address2_line10 :
    (∀ w ∈ ["user", "address2", "line10"], NumberedWord w.toList) ∧
      humanize (Spelling.screaming.spell ["user", "address2", "line10"]) = "UserAddress2Line10" ∧
      humanize (humanize (Spelling.screaming.spell ["user", "address2", "line10"])) =
        humanize (Spelling.screaming.spell ["user", "address2", "line10"]) := by
  have hwords : ∀ w ∈ ["user", "address2", "line10"], NumberedWord w.toList := by decide +kernel
  have hjoin : String.join (["user", "address2", "line10"].map capitalize) =
      "UserAddress2Line10" := by
    decide +kernel
  rw [← hjoin]
  exact ⟨hwords, humanize_spell .screaming hwords⟩

end EntityGen.Naming
