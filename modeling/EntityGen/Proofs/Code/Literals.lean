import EntityGen.Code.Escaping
import Mathlib.Data.List.Infix
import Mathlib.Logic.Function.Basic

/-! # Reading literals back

A reader takes the body of a literal up to the first quote that no backslash escapes, undoes the
escapes in it, and goes on where a separator and a quote follow. Written literals are read back as
their values, and reading stops where the text behind them starts.
-/

namespace EntityGen.Code

variable {c : Char} {cs before after behind body following : List Char}

/-! ## Bodies -/

/-- The text, given backwards, stops with a backslash that is not itself escaped. -/
def escapes : List Char → Bool
  | [] => false
  | c :: behind => c == '\\' && !escapes behind

/-- Each quote in the body is escaped, where `behind` stands before the body, reversed. -/
def Guarded (behind body : List Char) : Prop :=
  ∀ before after, body = before ++ '"' :: after → escapes (before.reverse ++ behind) = true

/-- No quote inside the body ends the literal, and a quote behind the body does. The body stays on
its line. -/
structure IsBody (body : List Char) : Prop where
  inside : Guarded [] body
  behind : escapes body.reverse = false
  lineFeed : '\n' ∉ body
  carriageReturn : '\r' ∉ body

/-- The character that is written with a backslash and `c`. -/
def escaped? (c : Char) : Option Char :=
  match c with
  | '"' => some '"'
  | '\\' => some '\\'
  | 'n' => some '\n'
  | 'r' => some '\r'
  | 't' => some '\t'
  | _ => none

theorem escapeChar_cases (c : Char) :
    (∃ d, escapeChar c = ['\\', d] ∧ escaped? d = some c ∧ d ≠ '\n' ∧ d ≠ '\r') ∨
      escapeChar c = [c] ∧ c ≠ '"' ∧ c ≠ '\\' ∧ c ≠ '\n' ∧ c ≠ '\r' := by
  unfold escapeChar
  split
  · exact .inl ⟨'"', rfl, rfl, by decide⟩
  · exact .inl ⟨'\\', rfl, rfl, by decide⟩
  · exact .inl ⟨'n', rfl, rfl, by decide⟩
  · exact .inl ⟨'r', rfl, rfl, by decide⟩
  · exact .inl ⟨'t', rfl, rfl, by decide⟩
  · next hq hb hn hr _ => exact .inr ⟨rfl, hq, hb, hn, hr⟩

theorem guarded_cons : Guarded behind (c :: body) ↔
    (c = '"' → escapes behind = true) ∧ Guarded (c :: behind) body := by
  constructor
  · intro h
    constructor
    · rintro rfl
      exact h [] body rfl
    · rintro before after rfl
      simpa using h (c :: before) after rfl
  · rintro ⟨hc, hbody⟩ before after h
    cases before with
    | nil => exact hc (List.cons.inj h).1
    | cons d before =>
      obtain ⟨rfl, hrest⟩ := List.cons.inj h
      simpa using hbody before after hrest

theorem lineEnds_not_mem_escapeChar (c : Char) : '\n' ∉ escapeChar c ∧ '\r' ∉ escapeChar c := by
  obtain ⟨d, he, -, hn, hr⟩ | ⟨he, -, -, hn, hr⟩ := escapeChar_cases c
  · simp [he, hn.symm, hr.symm]
  · simp [he, hn.symm, hr.symm]

/-- No escape stays open behind an escaped character. -/
theorem escapes_escapeChar (hb : escapes behind = false) (c : Char) :
    escapes ((escapeChar c).reverse ++ behind) = false := by
  obtain ⟨d, he, -⟩ | ⟨he, -, hc, -⟩ := escapeChar_cases c
  · simp [he, escapes, hb]
  · simp [he, escapes, hc]

theorem guarded_escapeChar_append (hb : escapes behind = false)
    (h : Guarded ((escapeChar c).reverse ++ behind) body) :
    Guarded behind (escapeChar c ++ body) := by
  obtain ⟨d, he, -⟩ | ⟨he, hq, -⟩ := escapeChar_cases c
  · rw [he] at h ⊢
    refine guarded_cons.mpr ⟨fun hq => absurd hq (by decide), guarded_cons.mpr ⟨fun _ => ?_, h⟩⟩
    simp [escapes, hb]
  · rw [he] at h ⊢
    exact guarded_cons.mpr ⟨fun hc => absurd hc hq, h⟩

theorem escapes_flatMap_escapeChar (hb : escapes behind = false) (cs : List Char) :
    escapes ((cs.flatMap escapeChar).reverse ++ behind) = false := by
  induction cs generalizing behind with
  | nil => exact hb
  | cons c cs ih =>
    rw [List.flatMap_cons, List.reverse_append, List.append_assoc]
    exact ih (escapes_escapeChar hb c)

theorem guarded_flatMap_escapeChar (hb : escapes behind = false) (cs : List Char) :
    Guarded behind (cs.flatMap escapeChar) := by
  induction cs generalizing behind with
  | nil => rintro before after h; simp at h
  | cons c cs ih =>
    rw [List.flatMap_cons]
    exact guarded_escapeChar_append hb (ih (escapes_escapeChar hb c))

theorem isBody_flatMap_escapeChar (cs : List Char) : IsBody (cs.flatMap escapeChar) where
  inside := guarded_flatMap_escapeChar rfl cs
  behind := by
    have hfrom : escapes [] = false := rfl
    simpa using escapes_flatMap_escapeChar hfrom cs
  lineFeed hm := by
    obtain ⟨c, -, hc⟩ := List.mem_flatMap.mp hm
    exact (lineEnds_not_mem_escapeChar c).1 hc
  carriageReturn hm := by
    obtain ⟨c, -, hc⟩ := List.mem_flatMap.mp hm
    exact (lineEnds_not_mem_escapeChar c).2 hc

/-! ## Reading one literal -/

/-- The text up to the first quote that is not escaped, and what follows the quote; `behind` holds
what was passed, reversed. -/
def cutBody? (behind : List Char) : List Char → Option (List Char × List Char)
  | [] => none
  | c :: rest =>
    if c = '"' ∧ escapes behind = false then some (behind.reverse, rest)
    else cutBody? (c :: behind) rest

def unescape? : List Char → Option (List Char)
  | [] => some []
  | '\\' :: c :: rest => do return (← escaped? c) :: (← unescape? rest)
  | c :: rest => if c = '\\' then none else (unescape? rest).map (c :: ·)

def readLiteral? : List Char → Option (String × List Char)
  | '"' :: rest => do
    let (body, after) ← cutBody? [] rest
    return (String.ofList (← unescape? body), after)
  | _ => none

theorem cutBody?_append (hi : Guarded behind body)
    (hb : escapes (body.reverse ++ behind) = false) (rest : List Char) :
    cutBody? behind (body ++ '"' :: rest) = some (behind.reverse ++ body, rest) := by
  induction body generalizing behind with
  | nil => rw [List.nil_append, cutBody?, if_pos ⟨rfl, hb⟩, List.append_nil]
  | cons c body ih =>
    obtain ⟨hquote, hbody⟩ := guarded_cons.mp hi
    have hc : ¬ (c = '"' ∧ escapes behind = false) := by
      rintro ⟨hq, he⟩
      simp [hquote hq] at he
    rw [List.cons_append, cutBody?, if_neg hc, ih hbody (by simpa using hb)]
    simp

theorem IsBody.cutBody?_eq (h : IsBody body) (rest : List Char) :
    cutBody? [] (body ++ '"' :: rest) = some (body, rest) :=
  cutBody?_append h.inside (by simpa using h.behind) rest

theorem append_of_cutBody? (h : cutBody? behind cs = some (body, after)) :
    behind.reverse ++ cs = body ++ '"' :: after := by
  induction cs generalizing behind with
  | nil => cases h
  | cons c cs ih =>
    rw [cutBody?] at h
    split at h
    · next hc =>
      obtain ⟨rfl, -⟩ := hc
      cases h
      rfl
    · simpa using ih h

theorem unescape?_flatMap_escapeChar (cs : List Char) :
    unescape? (cs.flatMap escapeChar) = some cs := by
  induction cs with
  | nil => rfl
  | cons c cs ih =>
    rw [List.flatMap_cons]
    obtain ⟨d, he, hd, -⟩ | ⟨he, -, hc, -⟩ := escapeChar_cases c
    · simp [he, unescape?, hd, ih]
    · simp [he, unescape?, hc, ih]

theorem toList_literal (value : String) :
    (literal value).toList = '"' :: value.toList.flatMap escapeChar ++ ['"'] :=
  String.toList_ofList

theorem readLiteral?_literal (value : String) (following : List Char) :
    readLiteral? ((literal value).toList ++ following) = some (value, following) := by
  have hcut := (isBody_flatMap_escapeChar value.toList).cutBody?_eq following
  simp [toList_literal, readLiteral?, hcut, unescape?_flatMap_escapeChar]

theorem length_of_readLiteral? {value : String} (h : readLiteral? cs = some (value, after)) :
    after.length < cs.length := by
  unfold readLiteral? at h
  split at h
  · next rest =>
    simp only [Option.bind_eq_bind, Option.bind_eq_some_iff, Option.pure_def, Option.some.injEq,
      Prod.mk.injEq, Prod.exists] at h
    obtain ⟨body, last, hcut, text, -, -, rfl⟩ := h
    have hlen := congrArg List.length (append_of_cutBody? hcut)
    simp at hlen ⊢
    omega
  · cases h

/-! ## Reading several literals -/

def nextOpening : List Char := [',', ' ', '"']

/-- The values of the literals at the start of the text, and what follows the last of them. -/
def readLiterals? (cs : List Char) : Option (List String × List Char) :=
  match _ : readLiteral? cs with
  | none => none
  | some (value, after) =>
    if nextOpening <+: after then
      (readLiterals? (after.drop 2)).map fun (values, rest) => (value :: values, rest)
    else some ([value], after)
termination_by cs.length
decreasing_by
  have hlen := length_of_readLiteral? ‹_›
  simp
  omega

theorem readLiterals?_literal (value : String) (following : List Char) :
    readLiterals? ((literal value).toList ++ following) =
      if nextOpening <+: following then
        (readLiterals? (following.drop 2)).map fun (values, rest) => (value :: values, rest)
      else some ([value], following) := by
  rw [readLiterals?, readLiteral?_literal]

theorem toList_literals_cons (value next : String) (values : List String) :
    (literals (value :: next :: values)).toList =
      (literal value).toList ++ ([',', ' '] ++ (literals (next :: values)).toList) := by
  simp [literals]

theorem nextOpening_isPrefix (value : String) (values : List String) (following : List Char) :
    nextOpening <+: [',', ' '] ++ (literals (value :: values)).toList ++ following := by
  cases values with
  | nil => simp [nextOpening, literals, toList_literal]
  | cons next values => simp [nextOpening, toList_literals_cons, toList_literal]

theorem readLiterals?_literals {values : List String} (hn : values ≠ [])
    (hf : ¬ nextOpening <+: following) :
    readLiterals? ((literals values).toList ++ following) = some (values, following) := by
  induction values with
  | nil => exact absurd rfl hn
  | cons value values ih =>
    cases values with
    | nil => simp [literals, readLiterals?_literal, hf]
    | cons next values =>
      have hrest : ([',', ' '] ++ (literals (next :: values)).toList ++ following).drop 2 =
          (literals (next :: values)).toList ++ following := rfl
      rw [toList_literals_cons, List.append_assoc, readLiterals?_literal,
        if_pos (nextOpening_isPrefix next values following), hrest, ih (List.cons_ne_nil _ _)]
      rfl

theorem literals_injective : Function.Injective literals := by
  have hread : Function.LeftInverse
      (fun text => ((readLiterals? text.toList).map Prod.fst).getD []) literals := by
    intro values
    cases values with
    | nil =>
      have hnone : readLiterals? [] = none := by rw [readLiterals?]; rfl
      simp [literals, hnone]
    | cons value values =>
      have hstop : ¬ nextOpening <+: [] := by decide
      have hsome := readLiterals?_literals (List.cons_ne_nil value values) hstop
      rw [List.append_nil] at hsome
      simp [hsome]
  exact hread.injective

/-- Literals are read back as their values up to what follows them, so different lists are written
differently. No value ends its literal early. -/
theorem literals_lossless :
    (∀ (values : List String) (following : List Char), values ≠ [] →
        ¬ nextOpening <+: following →
        readLiterals? ((literals values).toList ++ following) = some (values, following)) ∧
      Function.Injective literals ∧
      ∀ value, ∃ body, (literal value).toList = '"' :: body ++ ['"'] ∧ IsBody body :=
  ⟨fun _ _ => readLiterals?_literals, literals_injective,
    fun value => ⟨_, toList_literal value, isBody_flatMap_escapeChar value.toList⟩⟩

/-- Values that end in a backslash, look like a separator between quotes, or hold an escape. -/
theorem awkward_values_read_back :
    let values := ["C:\\", "\", \"", "one\\n\ntwo"]
    values ≠ [] ∧ ¬ nextOpening <+: ", next".toList ∧
      readLiterals? ((literals values).toList ++ ", next".toList) =
        some (values, ", next".toList) := by
  intro values
  have hn : values ≠ [] := List.cons_ne_nil _ _
  have hf : ¬ nextOpening <+: ", next".toList := by decide
  exact ⟨hn, hf, literals_lossless.1 values _ hn hf⟩

end EntityGen.Code
