import EntityGen.Toml.Parser
import Mathlib.Data.List.Basic
import Mathlib.Data.String.Basic

/-! # Documents written line by line

A document in plain style has one header, comment or pair on each line, bare keys, and strings
without escapes. It is read back as what its lines do to a document, one after the other.
-/

namespace EntityGen.Toml

/-! ## Plain lines -/

inductive Literal
  | string (s : String)
  | yes
  | emptyList

inductive Line
  | blank
  | comment (text : String)
  | table (path : List String)
  | item (path : List String)
  | pair (key : String) (literal : Literal)

def isPlainChar (c : Char) : Bool :=
  c != '"' && c != '\\' && !Parser.isControl c

namespace Literal

def text : Literal → String
  | string s => "\"" ++ s ++ "\""
  | yes => "true"
  | emptyList => "[]"

def value : Literal → Value
  | string s => .string s
  | yes => .boolean true
  | emptyList => .array []

def IsPlain : Literal → Prop
  | string s => ∀ c ∈ s.toList, isPlainChar c = true
  | yes => True
  | emptyList => True

instance : DecidablePred IsPlain
  | string s => decidable_of_iff (s.toList.all isPlainChar = true) List.all_eq_true
  | yes => inferInstanceAs (Decidable True)
  | emptyList => inferInstanceAs (Decidable True)

end Literal

structure IsBareKey (key : String) : Prop where
  ne_empty : key ≠ ""
  bare : ∀ c ∈ key.toList, Parser.isBare c = true

instance : DecidablePred IsBareKey := fun key =>
  decidable_of_iff (key ≠ "" ∧ key.toList.all Parser.isBare = true)
    ⟨fun ⟨hne, hb⟩ => ⟨hne, List.all_eq_true.mp hb⟩,
      fun ⟨hne, hb⟩ => ⟨hne, List.all_eq_true.mpr hb⟩⟩

structure IsBarePath (path : List String) : Prop where
  ne_nil : path ≠ []
  bare : ∀ key ∈ path, IsBareKey key
  length : path.length ≤ Parser.depthLimit

instance : DecidablePred IsBarePath := fun path =>
  decidable_of_iff (path ≠ [] ∧ (∀ key ∈ path, IsBareKey key) ∧ path.length ≤ Parser.depthLimit)
    ⟨fun ⟨hne, hb, hl⟩ => ⟨hne, hb, hl⟩, fun ⟨hne, hb, hl⟩ => ⟨hne, hb, hl⟩⟩

namespace Line

def text : Line → String
  | blank => ""
  | comment text => "#" ++ text
  | table path => "[" ++ ".".intercalate path ++ "]"
  | item path => "[[" ++ ".".intercalate path ++ "]]"
  | pair key literal => key ++ " = " ++ literal.text

def IsPlain : Line → Prop
  | blank => True
  | comment text => ∀ c ∈ text.toList, Parser.isControl c = false
  | table path => IsBarePath path
  | item path => IsBarePath path
  | pair key literal => IsBareKey key ∧ literal.IsPlain

instance : DecidablePred IsPlain
  | blank => inferInstanceAs (Decidable True)
  | comment text =>
    decidable_of_iff ((text.toList.all fun c => !Parser.isControl c) = true) (by simp [IsPlain])
  | table path => inferInstanceAs (Decidable (IsBarePath path))
  | item path => inferInstanceAs (Decidable (IsBarePath path))
  | pair key literal => inferInstanceAs (Decidable (IsBareKey key ∧ literal.IsPlain))

/-- What a line does to a document. -/
def apply (d : Parser.Document) : Line → Option Parser.Document
  | blank => some d
  | comment _ => some d
  | table path => (d.entries.openAt? Entries.openTable? path).map (⟨·, path⟩)
  | item path => (d.entries.openAt? Entries.openItem? path).map (⟨·, path⟩)
  | pair key literal =>
    (d.entries.edit? (·.insertKey? [key] literal.value) d.header).map (⟨·, d.header⟩)

end Line

namespace Parser

variable {α β : Type}

/-! ## Parts of a text -/

/-- The parser takes a text with `rest` behind it and leaves this rest. -/
def Takes (p : Parser α) (text rest : List Char) (x : α) : Prop :=
  p (text ++ rest) = some (x, rest)

namespace Takes

variable {p : Parser α} {f : α → Parser β} {s t rest cs expected : List Char} {x : α} {y : β}

theorem pure (x : α) (rest : List Char) : Takes (Pure.pure x) [] rest x :=
  rfl

theorem bind (hp : Takes p s (t ++ rest) x) (hf : Takes (f x) t rest y) :
    Takes (p >>= f) (s ++ t) rest y := by
  unfold Takes at hp hf ⊢
  rw [List.append_assoc]
  show ((p (s ++ (t ++ rest))).bind fun a => f a.1 a.2) = _
  rw [hp]
  exact hf

/-- What takes nothing leaves everything to what comes next. -/
theorem then_takes (hp : Takes p [] (t ++ rest) x) (hf : Takes (f x) t rest y) :
    Takes (p >>= f) t rest y :=
  hp.bind hf

/-- The last part takes nothing. -/
theorem bind_nil (hp : Takes p s rest x) (hf : Takes (f x) [] rest y) :
    Takes (p >>= f) s rest y := by
  have h := Takes.bind (t := []) hp hf
  rwa [List.append_nil] at h

theorem get_bind {f : List Char → Parser β} (h : Takes (f (t ++ rest)) t rest y) :
    Takes (get >>= f) t rest y :=
  h

theorem takeWhile {q : Char → Bool} (h : ∀ c ∈ cs, q c = true)
    (hr : ∀ c ∈ rest.head?, q c = false) : Takes (Parser.takeWhile q) cs rest cs := by
  have hstop : rest.takeWhile q = [] ∧ rest.dropWhile q = rest := by
    cases rest with
    | nil => exact ⟨rfl, rfl⟩
    | cons c rest => simp [hr c rfl]
  unfold Takes Parser.takeWhile
  rw [List.takeWhile_append_of_pos h, List.dropWhile_append_of_pos h, hstop.1, hstop.2,
    List.append_nil]

theorem accept (expected rest : List Char) :
    Takes (Parser.accept expected) expected rest true := by
  unfold Takes Parser.accept
  rw [if_pos (List.isPrefixOf_iff_prefix.mpr (List.prefix_append _ _)), List.drop_left]

theorem accept_false (h : ¬ expected <+: rest) :
    Takes (Parser.accept expected) [] rest false := by
  unfold Takes Parser.accept
  rw [List.nil_append, if_neg fun hp => h (List.isPrefixOf_iff_prefix.mp hp)]

theorem expect (expected rest : List Char) : Takes (Parser.expect expected) expected rest () :=
  (accept expected rest).bind_nil (.pure () rest)

theorem blanks_nil (h : ∀ c ∈ rest.head?, c ≠ ' ' ∧ c ≠ '\t') : Takes blanks [] rest () := by
  refine (Takes.takeWhile (List.forall_mem_nil _) fun c hc => ?_).bind_nil (.pure () rest)
  simp [h c hc]

theorem blanks_space (h : ∀ c ∈ rest.head?, c ≠ ' ' ∧ c ≠ '\t') : Takes blanks [' '] rest () := by
  refine (Takes.takeWhile (by simp) fun c hc => ?_).bind_nil (.pure () rest)
  simp [h c hc]

/-- The parser takes the other way when the text does not go on as expected. -/
theorem accept_else {q : Parser α} (h : ¬ expected <+: s ++ rest) (hq : Takes q s rest x) :
    Takes (do if ← Parser.accept expected then p else q) s rest x := by
  refine (accept_false h).then_takes ?_
  rw [if_neg Bool.false_ne_true]
  exact hq

theorem accept_then {q : Parser α} (hp : Takes p s rest x) :
    Takes (do if ← Parser.accept expected then p else q) (expected ++ s) rest x := by
  refine (accept expected _).bind ?_
  rw [if_pos rfl]
  exact hp

end Takes

/-! ## Line ends -/

section LineEnd

variable {rest cs : List Char}

theorem takes_lineEnd (rest : List Char) : Takes lineEnd ['\n'] rest () :=
  rfl

theorem takes_lineEnd_comment (h : ∀ c ∈ cs, isControl c = false) :
    Takes lineEnd ('#' :: cs ++ ['\n']) rest () := by
  have hc : Takes comment ('#' :: cs) ('\n' :: rest) () := by
    refine Takes.get_bind ?_
    refine (Takes.takeWhile ?_ ?_).bind_nil (.pure () _)
    · simpa using ⟨by decide, h⟩
    · simp [isControl]
  exact (Takes.blanks_nil (by simp)).then_takes (hc.bind (takes_lineEnd rest))

end LineEnd

/-! ## Keys -/

section Keys

variable {rest blank : List Char} {key : String} {path : List String}

theorem takes_simpleKey (hk : IsBareKey key) (hr : ∀ c ∈ rest.head?, isBare c = false) :
    Takes simpleKey key.toList rest key := by
  obtain ⟨c, cs, hcs⟩ := List.exists_cons_of_ne_nil (String.toList_eq_nil_iff.not.mpr hk.ne_empty)
  have hc : isBare c = true := hk.bare c (by simp [hcs])
  have hne : ∀ q, isBare q = false → ¬ [q] <+: key.toList ++ rest := by
    intro q hq hp
    rw [hcs, List.cons_append, List.cons_prefix_cons] at hp
    rw [hp.1, hc] at hq
    cases hq
  refine .accept_else (hne '"' (by decide)) (.accept_else (hne '\'' (by decide)) ?_)
  refine (Takes.takeWhile hk.bare hr).bind_nil ?_
  rw [if_neg (by simp [hcs]), String.ofList_toList]
  exact .pure key rest

theorem exists_head_append (hk : IsBareKey key) (rest : List Char) :
    ∃ c, (key.toList ++ rest).head? = some c ∧ isBare c = true := by
  obtain ⟨c, cs, hcs⟩ := List.exists_cons_of_ne_nil (String.toList_eq_nil_iff.not.mpr hk.ne_empty)
  exact ⟨c, by rw [hcs]; rfl, hk.bare c (by simp [hcs])⟩

theorem takes_blanks_key (hk : IsBareKey key) (rest : List Char) :
    Takes blanks [] (key.toList ++ rest) () := by
  obtain ⟨c, hc, hb⟩ := exists_head_append hk rest
  refine Takes.blanks_nil fun d hd => ?_
  obtain rfl : c = d := Option.some.inj (hc.symm.trans hd)
  constructor <;> (rintro rfl; exact absurd hb (by decide))

structure EndsKey (blank rest : List Char) : Prop where
  blanks : Takes blanks blank rest ()
  stop : ∀ c ∈ (blank ++ rest).head?, isBare c = false
  no_point : ¬ ['.'] <+: rest
  ne_nil : rest ≠ []

def keyTail (path : List String) : List Char :=
  path.flatMap fun key => '.' :: key.toList

theorem toList_intercalate_point (key : String) (path : List String) :
    (".".intercalate (key :: path)).toList = key.toList ++ keyTail path := by
  rw [String.toList_intercalate]
  induction path generalizing key with
  | nil => simp [keyTail]
  | cons next path ih =>
    rw [List.map_cons, List.map_cons, List.intercalate_cons_cons, ← List.map_cons, ih]
    simp [keyTail]

theorem length_le_keyTail (path : List String) : path.length ≤ (keyTail path).length := by
  induction path with
  | nil => exact Nat.le_refl 0
  | cons key path ih =>
    simp only [keyTail, List.flatMap_cons, List.length_append, List.length_cons] at ih ⊢
    omega

theorem EndsKey.stop_keyTail (he : EndsKey blank rest) (path : List String) :
    ∀ c ∈ ((keyTail path ++ blank) ++ rest).head?, isBare c = false := by
  cases path with
  | nil => exact he.stop
  | cons key path =>
    rintro c hc
    obtain rfl : '.' = c := Option.some.inj hc
    decide

theorem takes_keyRest (hk : ∀ key ∈ path, IsBareKey key) (he : EndsKey blank rest)
    {fuel : List Char} (hf : path.length < fuel.length) :
    Takes (keyRest fuel) (keyTail path ++ blank) rest path := by
  induction path generalizing fuel with
  | nil =>
    obtain ⟨c, fuel, rfl⟩ := List.exists_cons_of_length_pos hf
    exact he.blanks.bind_nil (.accept_else he.no_point (.pure [] rest))
  | cons key path ih =>
    obtain ⟨hkey, hpath⟩ := List.forall_mem_cons.mp hk
    obtain ⟨c, fuel, rfl⟩ := List.exists_cons_of_length_pos (Nat.zero_lt_of_lt hf)
    have htail := ih hpath (Nat.lt_of_succ_lt_succ hf)
    have hparts : keyTail (key :: path) ++ blank =
        ['.'] ++ (key.toList ++ (keyTail path ++ blank)) := by simp [keyTail]
    rw [hparts]
    refine (Takes.blanks_nil (by simp)).then_takes (.accept_then ?_)
    refine Takes.then_takes (x := ()) ?_ ((takes_simpleKey hkey (he.stop_keyTail path)).bind
      (htail.bind_nil (.pure _ rest)))
    rw [List.append_assoc]
    exact takes_blanks_key hkey _

theorem takes_key (hp : IsBarePath path) (he : EndsKey blank rest) :
    Takes Parser.key ((".".intercalate path).toList ++ blank) rest path := by
  obtain ⟨key, path, rfl⟩ := List.exists_cons_of_ne_nil hp.ne_nil
  obtain ⟨hkey, hpath⟩ := List.forall_mem_cons.mp hp.bare
  have hlen : path.length < depthLimit := hp.length
  rw [toList_intercalate_point, List.append_assoc]
  refine (takes_simpleKey hkey (he.stop_keyTail path)).bind (Takes.get_bind ?_)
  refine (takes_keyRest hpath he ?_).bind_nil ?_
  · have hrest := List.length_pos_iff.mpr he.ne_nil
    have htail := length_le_keyTail path
    simp only [List.length_append]
    omega
  · rw [if_neg (by omega)]
    exact .pure _ rest

end Keys

/-! ## Headers and pairs -/

section Content

variable {d : Document} {rest : List Char} {key : String} {path : List String} {entries : Entries}
  {literal : Literal}

theorem takes_headerLine {change : String → Entries → Option Entries} {close : List Char}
    (hp : IsBarePath path) (he : EndsKey [] (close ++ rest))
    (hd : d.entries.openAt? change path = some entries) :
    Takes (headerLine change close d) ((".".intercalate path).toList ++ close) rest
      ⟨entries, path⟩ := by
  have hblanks : Takes blanks [] ((".".intercalate path).toList ++ (close ++ rest)) () := by
    obtain ⟨key, path, rfl⟩ := List.exists_cons_of_ne_nil hp.ne_nil
    rw [toList_intercalate_point, List.append_assoc]
    exact takes_blanks_key (hp.bare _ List.mem_cons_self) _
  have hkey := takes_key hp he
  rw [List.append_nil] at hkey
  refine Takes.then_takes (x := ()) (by rwa [List.append_assoc]) (hkey.bind ?_)
  refine he.blanks.then_takes ((Takes.expect close rest).bind_nil ?_)
  rw [hd]
  exact .pure _ rest

theorem takes_basicChars {cs : List Char} (h : ∀ c ∈ cs, isPlainChar c = true) (rest : List Char)
    {fuel : List Char} (hf : cs.length < fuel.length) (taken : List Char) :
    Takes (basicChars fuel taken) (cs ++ ['"']) rest (String.ofList (taken.reverse ++ cs)) := by
  induction cs generalizing fuel taken with
  | nil =>
    obtain ⟨_, fuel, rfl⟩ := List.exists_cons_of_length_pos hf
    rw [List.append_nil]
    rfl
  | cons c cs ih =>
    obtain ⟨hc, hcs⟩ := List.forall_mem_cons.mp h
    obtain ⟨_, fuel, rfl⟩ := List.exists_cons_of_length_pos (Nat.zero_lt_of_lt hf)
    have htail := ih hcs (Nat.lt_of_succ_lt_succ hf) (c :: taken)
    rw [List.reverse_cons, List.append_assoc, List.singleton_append] at htail
    have hnext : Takes next [c] (cs ++ ['"'] ++ rest) c := rfl
    simp only [isPlainChar, Bool.and_eq_true, bne_iff_ne, Bool.not_eq_true'] at hc
    obtain ⟨⟨hquote, hslash⟩, hcontrol⟩ := hc
    refine hnext.bind ?_
    split
    · exact absurd rfl hquote
    · exact absurd rfl hslash
    · rw [hcontrol]
      exact htail

theorem takes_basicString {cs : List Char} (h : ∀ c ∈ cs, isPlainChar c = true)
    (rest : List Char) : Takes basicString (cs ++ ['"']) rest (String.ofList cs) :=
  takes_basicChars h rest (by simp) []

theorem not_three_quotes {cs : List Char} (h : ∀ c ∈ cs, isPlainChar c = true)
    (rest : List Char) : ¬ ['"', '"', '"'] <+: '"' :: (cs ++ '"' :: '\n' :: rest) := by
  cases cs with
  | nil => simp
  | cons c cs =>
    intro hp
    simp only [List.cons_append, List.cons_prefix_cons, true_and] at hp
    have hc := h c List.mem_cons_self
    rw [← hp.1] at hc
    exact absurd hc (by decide)

theorem takes_value (h : literal.IsPlain) (rest : List Char) {fuel : List Char}
    (hf : 2 ≤ fuel.length) :
    Takes (value fuel 0) literal.text.toList ('\n' :: rest) literal.value := by
  obtain ⟨_, fuel, rfl⟩ := List.exists_cons_of_length_pos (by omega : 0 < fuel.length)
  obtain ⟨_, fuel, rfl⟩ := List.exists_cons_of_length_pos (Nat.le_of_succ_le_succ hf)
  cases literal with
  | string s =>
    have htext : (Literal.string s).text.toList = ['"'] ++ (s.toList ++ ['"']) := by
      simp [Literal.text, String.toList_append]
    rw [htext, value]
    refine .accept_else ?_ (.accept_else (by simp) (.accept_then ?_))
    · simpa using not_three_quotes h rest
    · have hs := takes_basicString h ('\n' :: rest)
      rw [String.ofList_toList] at hs
      exact hs.bind_nil (.pure _ _)
  | yes => rfl
  | emptyList => rfl

theorem takes_pairLine (hk : IsBareKey key) (h : literal.IsPlain)
    (hd : d.entries.edit? (·.insertKey? [key] literal.value) d.header = some entries)
    (rest : List Char) :
    Takes (pairLine d) (key ++ " = " ++ literal.text).toList ('\n' :: rest)
      ⟨entries, d.header⟩ := by
  have hparts : (key ++ " = " ++ literal.text).toList =
      ((".".intercalate [key]).toList ++ [' ']) ++ (['='] ++ ([' '] ++ literal.text.toList)) := by
    rw [toList_intercalate_point]
    simp [String.toList_append, keyTail]
  have hlen : 2 ≤ (literal.text.toList ++ '\n' :: rest).length := by
    cases literal <;> simp [Literal.text, String.toList_append]
    omega
  have hvalue := takes_value h rest hlen
  have hblanks : Takes blanks [' '] (literal.text.toList ++ '\n' :: rest) () := by
    refine Takes.blanks_space ?_
    cases literal <;> simp [Literal.text, String.toList_append]
  have hkey : Takes Parser.key ((".".intercalate [key]).toList ++ [' '])
      (['='] ++ ([' '] ++ literal.text.toList) ++ '\n' :: rest) [key] := by
    refine takes_key ⟨by simp, by simpa using hk, Nat.succ_le_of_lt (by decide)⟩ ⟨?_, ?_, ?_, ?_⟩
    · exact Takes.blanks_space (by simp)
    · simpa using by decide
    · simp
    · simp
  rw [hparts]
  refine hkey.bind ((Takes.blanks_nil (by simp)).then_takes ((Takes.expect ['='] _).bind ?_))
  refine hblanks.bind (Takes.get_bind (hvalue.bind_nil ?_))
  rw [hd]
  exact .pure _ _

/-! ## Lines -/

variable {l : Line} {d' : Document} {lines : List Line}

/-- A line with something on it. -/
theorem takes_line {c : Char} {cs rest : List Char} (hc : c ∉ [' ', '\t', '#', '\n', '\r'])
    (h : Takes (do
      if ← accept ['[', '['] then headerLine Entries.openItem? [']', ']'] d
      else if ← accept ['['] then headerLine Entries.openTable? [']'] d
      else pairLine d) (c :: cs) rest d') : Takes (line d) (c :: cs) rest d' := by
  simp only [List.mem_cons, List.not_mem_nil, or_false, not_or] at hc
  have hblanks : Takes blanks [] (c :: cs ++ rest) () := Takes.blanks_nil (by simp [hc])
  refine hblanks.then_takes (Takes.get_bind ?_)
  rw [List.cons_append, List.head?_cons]
  split
  · next h => cases h
  · next h => exact absurd (Option.some.inj h) hc.2.2.1
  · next h => exact absurd (Option.some.inj h) hc.2.2.2.1
  · next h => exact absurd (Option.some.inj h) hc.2.2.2.2
  · exact h

theorem endsKey_bracket (rest : List Char) : EndsKey [] (']' :: rest) where
  blanks := Takes.blanks_nil (by simp)
  stop := by simpa using by decide
  no_point := by simp
  ne_nil := by simp

theorem takes_table (hp : IsBarePath path)
    (hd : d.entries.openAt? Entries.openTable? path = some entries) (rest : List Char) :
    Takes (line d) ("[" ++ ".".intercalate path ++ "]").toList rest ⟨entries, path⟩ := by
  have htext : ("[" ++ ".".intercalate path ++ "]").toList =
      ['['] ++ ((".".intercalate path).toList ++ [']']) := by
    simp [String.toList_append]
  obtain ⟨c, hc, hb⟩ : ∃ c, (".".intercalate path).toList.head? = some c ∧ isBare c = true := by
    obtain ⟨key, path, rfl⟩ := List.exists_cons_of_ne_nil hp.ne_nil
    rw [toList_intercalate_point]
    exact exists_head_append (hp.bare _ List.mem_cons_self) _
  rw [htext]
  refine takes_line (by decide) (.accept_else ?_ (.accept_then ?_))
  · obtain ⟨cs, hcs⟩ := List.head?_eq_some_iff.mp hc
    rw [hcs]
    simp
    rintro rfl
    exact absurd hb (by decide)
  · exact takes_headerLine hp (endsKey_bracket rest) hd

theorem takes_item (hp : IsBarePath path)
    (hd : d.entries.openAt? Entries.openItem? path = some entries) (rest : List Char) :
    Takes (line d) ("[[" ++ ".".intercalate path ++ "]]").toList rest ⟨entries, path⟩ := by
  have htext : ("[[" ++ ".".intercalate path ++ "]]").toList =
      ['[', '['] ++ ((".".intercalate path).toList ++ [']', ']']) := by
    simp [String.toList_append]
  rw [htext]
  exact takes_line (by decide)
    (.accept_then (takes_headerLine hp (endsKey_bracket (']' :: rest)) hd))

theorem takes_pair (hk : IsBareKey key) (h : literal.IsPlain)
    (hd : d.entries.edit? (·.insertKey? [key] literal.value) d.header = some entries)
    (rest : List Char) :
    Takes (line d) (key ++ " = " ++ literal.text).toList ('\n' :: rest) ⟨entries, d.header⟩ := by
  have hpair := takes_pairLine hk h hd rest
  obtain ⟨c, cs, hcs⟩ := List.exists_cons_of_ne_nil (String.toList_eq_nil_iff.not.mpr hk.ne_empty)
  have hc : isBare c = true := hk.bare c (by simp [hcs])
  have htext : (key ++ " = " ++ literal.text).toList =
      c :: (cs ++ " = ".toList ++ literal.text.toList) := by
    simp [String.toList_append, hcs]
  have hne : ∀ q, isBare q = false → c ≠ q := by
    rintro q hq rfl
    rw [hc] at hq
    cases hq
  rw [htext] at hpair ⊢
  refine takes_line ?_ (.accept_else ?_ (.accept_else ?_ hpair))
  · intro hm
    have hnone : [' ', '\t', '#', '\n', '\r'].all (!isBare ·) = true := by decide
    exact hne c (by simpa using List.all_eq_true.mp hnone c hm) rfl
  · simp [Ne.symm (hne '[' (by decide))]
  · simp [Ne.symm (hne '[' (by decide))]

/-- A plain line does to a document what it says. -/
theorem exists_takes_line (h : l.IsPlain) (hd : l.apply d = some d') (rest : List Char) :
    ∃ s t, s ++ t = l.text.toList ++ ['\n'] ∧ Takes (line d) s (t ++ rest) d' ∧
      Takes lineEnd t rest () := by
  have hend := takes_lineEnd rest
  cases l with
  | blank =>
    obtain rfl := Option.some.inj hd
    exact ⟨[], ['\n'], rfl, rfl, hend⟩
  | comment text =>
    obtain rfl := Option.some.inj hd
    refine ⟨[], '#' :: text.toList ++ ['\n'], ?_, rfl, takes_lineEnd_comment h⟩
    simp [Line.text, String.toList_append]
  | table path =>
    obtain ⟨entries, he, rfl⟩ := Option.map_eq_some_iff.mp hd
    exact ⟨_, ['\n'], rfl, takes_table h he _, hend⟩
  | item path =>
    obtain ⟨entries, he, rfl⟩ := Option.map_eq_some_iff.mp hd
    exact ⟨_, ['\n'], rfl, takes_item h he _, hend⟩
  | pair key literal =>
    obtain ⟨entries, he, rfl⟩ := Option.map_eq_some_iff.mp hd
    exact ⟨_, ['\n'], rfl, takes_pair h.1 h.2 he rest, hend⟩

def linesText (lines : List Line) : List Char :=
  lines.flatMap fun l => l.text.toList ++ ['\n']

theorem length_le_linesText (lines : List Line) : lines.length ≤ (linesText lines).length := by
  induction lines with
  | nil => exact Nat.le_refl 0
  | cons l lines ih =>
    simp only [linesText, List.flatMap_cons, List.length_append, List.length_cons,
      List.length_nil] at ih ⊢
    omega

/-- A plain line does not start with a byte order mark. -/
theorem not_mark_of_linesText (h : ∀ l ∈ lines, l.IsPlain) (rest : List Char) :
    linesText lines ≠ '\ufeff' :: rest := by
  intro hm
  cases lines with
  | nil => cases hm
  | cons l lines =>
    have hl := h l List.mem_cons_self
    cases l with
    | pair key literal =>
      obtain ⟨c, hc, hb⟩ := exists_head_append hl.1
        (" = ".toList ++ literal.text.toList ++ '\n' :: linesText lines)
      have hhead := congrArg List.head? hm
      simp only [linesText, List.flatMap_cons, Line.text, String.toList_append, List.append_assoc,
        List.singleton_append] at hhead hc
      rw [hc] at hhead
      rw [Option.some.inj hhead] at hb
      exact absurd hb (by decide)
    | blank | comment | table | item =>
      simp [linesText, Line.text, String.toList_append] at hm

theorem takes_documentLines (h : ∀ l ∈ lines, l.IsPlain)
    (hd : lines.foldlM Line.apply d = some d') {fuel : List Char}
    (hf : lines.length ≤ fuel.length) :
    Takes (documentLines fuel d) (linesText lines) [] d'.entries := by
  induction lines generalizing d fuel with
  | nil =>
    obtain rfl := Option.some.inj hd
    cases fuel <;> rfl
  | cons l lines ih =>
    obtain ⟨hl, hlines⟩ := List.forall_mem_cons.mp h
    obtain ⟨_, fuel, rfl⟩ := List.exists_cons_of_length_pos (Nat.zero_lt_of_lt hf)
    rw [List.foldlM_cons] at hd
    obtain ⟨next, hnext, hd⟩ := Option.bind_eq_some_iff.mp hd
    obtain ⟨s, t, hst, hline, hend⟩ := exists_takes_line hl hnext (linesText lines ++ [])
    have htext : linesText (l :: lines) = s ++ (t ++ linesText lines) := by
      rw [← List.append_assoc, hst]
      rfl
    rw [htext]
    refine Takes.bind (by rwa [List.append_assoc]) (hend.bind (Takes.get_bind ?_))
    -- The reader stops at the end of the text, though there may be fuel left.
    cases lines with
    | nil =>
      obtain rfl := Option.some.inj hd
      exact .pure _ []
    | cons m lines =>
      rw [if_neg (by simp [linesText])]
      exact ih hlines hd (Nat.le_of_succ_le_succ hf)

/-- A document of plain lines is read as what they do, one after the other. -/
theorem parse?_of_lines {text : String} (h : ∀ l ∈ lines, l.IsPlain)
    (hd : lines.foldlM Line.apply ⟨[], []⟩ = some d') (ht : text.toList = linesText lines) :
    parse? text = some d'.entries := by
  have hmark : ∀ rest, linesText lines ≠ '\ufeff' :: rest := not_mark_of_linesText h
  have hparsed := takes_documentLines h hd (length_le_linesText lines)
  unfold Takes at hparsed
  rw [List.append_nil] at hparsed
  unfold parse?
  rw [ht]
  dsimp only
  split
  · next rest hm => exact absurd hm (hmark rest)
  · show (documentLines _ _ _).map Prod.fst = _
    rw [hparsed]
    rfl

end Content

end Parser

end EntityGen.Toml
