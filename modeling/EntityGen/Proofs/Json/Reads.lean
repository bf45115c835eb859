import Mathlib.Data.List.Forall2
import EntityGen.Json.Record
import EntityGen.Json.Writer

/-! # Reading what is written

A reader takes exactly the text of a value, whatever comes after it. Strings, booleans, null and
lists are read back from the text that is written for them.
-/

namespace EntityGen.Json

open Reader

variable {α β : Type}

/-- Where `next` follows, the reader takes `text` and gives `x`. -/
def ReadsBefore (next : List Char) (read : Reader α) (text : List Char) (x : α) : Prop :=
  ∀ rest place, ∃ place',
    read ⟨text ++ (next ++ rest), place⟩ = .ok (x, ⟨next ++ rest, place'⟩)

abbrev Reads : Reader α → List Char → α → Prop :=
  ReadsBefore []

theorem bind_of_ok {m : Reader α} {f : α → Reader β} {c d : Cursor} {x : α}
    (h : m c = .ok (x, d)) : (m >>= f) c = f x d := by
  simp only [bind, StateT.bind, Except.bind, h]

theorem toList_string (s : String) :
    (string s).toList = '"' :: (s.toList.flatMap escapeChar ++ ['"']) :=
  String.toList_ofList

namespace ReadsBefore

variable {m : Reader α} {f : α → Reader β} {s t u next : List Char} {x : α} {y : β} {c : Char}

theorem pure (x : α) : ReadsBefore next (pure x) [] x :=
  fun _ place => ⟨place, rfl⟩

/-- What the first reader looks at is part of the text of the second one or follows it. -/
theorem bind_of_isPrefix (hm : ReadsBefore u m s x) (hu : u.IsPrefix (t ++ next))
    (hf : ReadsBefore next (f x) t y) : ReadsBefore next (m >>= f) (s ++ t) y := by
  intro rest place
  obtain ⟨v, hv⟩ := hu
  obtain ⟨after, h⟩ := hm (v ++ rest) place
  have hs : u ++ (v ++ rest) = t ++ (next ++ rest) := by
    rw [← List.append_assoc, hv, List.append_assoc]
  obtain ⟨last, h'⟩ := hf rest after
  rw [hs] at h
  exact ⟨last, by rw [List.append_assoc, bind_of_ok h, h']⟩

theorem bind (hm : Reads m s x) (hf : ReadsBefore next (f x) t y) :
    ReadsBefore next (m >>= f) (s ++ t) y :=
  bind_of_isPrefix hm List.nil_prefix hf

theorem map (g : α → β) (h : ReadsBefore next m s x) :
    ReadsBefore next (m >>= fun x => Pure.pure (g x)) s (g x) := by
  have hm := bind_of_isPrefix (f := fun x => Pure.pure (g x)) h List.prefix_rfl (pure (g x))
  rwa [List.append_nil] at hm

theorem skip (c : Char) : Reads skip [c] () :=
  fun _ place => ⟨place.after c, rfl⟩

theorem head_bind {f : Option Char → Reader α} (h : ReadsBefore next (f (some c)) (c :: s) x) :
    ReadsBefore next (head >>= f) (c :: s) x := by
  intro rest place
  rw [bind_of_ok (d := ⟨c :: s ++ (next ++ rest), place⟩) rfl]
  exact h rest place

theorem peek_bind {f : Option Char → Reader α} (hc : Cursor.isBlank c = false)
    (h : ReadsBefore next (f (some c)) (c :: s) x) : ReadsBefore next (peek >>= f) (c :: s) x := by
  intro rest place
  have hp : peek ⟨c :: s ++ (next ++ rest), place⟩ =
      .ok (some c, ⟨c :: s ++ (next ++ rest), place⟩) := by
    simp [peek, Cursor.skipBlanks, Cursor.skipBlanksFrom, hc]
  rw [bind_of_ok hp]
  exact h rest place

/-- Looking at what follows takes nothing. -/
theorem peek_bind_next {f : Option Char → Reader α} (hc : Cursor.isBlank c = false)
    (h : ReadsBefore (c :: next) (f (some c)) [] x) :
    ReadsBefore (c :: next) (peek >>= f) [] x := by
  intro rest place
  have hp : peek ⟨c :: (next ++ rest), place⟩ = .ok (some c, ⟨c :: (next ++ rest), place⟩) := by
    simp [peek, Cursor.skipBlanks, Cursor.skipBlanksFrom, hc]
  simp only [List.nil_append, List.cons_append] at h ⊢
  rw [bind_of_ok hp]
  exact h rest place

/-- The fuel is the text at the start, which is at least as long as what is read. -/
theorem get_bind {f : Cursor → Reader α}
    (h : ∀ c : Cursor, s.length ≤ c.rest.length → ReadsBefore next (f c) s x) :
    ReadsBefore next (get >>= f) s x := by
  intro rest place
  rw [bind_of_ok (d := ⟨s ++ (next ++ rest), place⟩) rfl]
  exact h _ (by simp) rest place

end ReadsBefore

namespace Reads

open ReadsBefore

theorem whole {read : Reader α} {s : String} {x : α} (h : Reads read s.toList x) :
    whole read s = .ok x := by
  obtain ⟨place, hr⟩ := h [] {}
  simp only [List.append_nil] at hr
  unfold Reader.whole StateT.run'
  rw [bind_of_ok hr]
  rfl

theorem word (cs : List Char) : Reads (word cs) cs () := by
  induction cs with
  | nil => exact pure ()
  | cons c cs ih =>
    refine head_bind ?_
    simp only [if_true]
    exact bind (skip c) ih

theorem flag (b : Bool) : Reads flag (boolean b).toList b := by
  cases b with
  | true => exact peek_bind rfl (bind (skip 't') (bind (word ['r', 'u', 'e']) (pure true)))
  | false =>
    exact peek_bind rfl (bind (skip 'f') (bind (word ['a', 'l', 's', 'e']) (pure false)))

/-! ## Strings -/

theorem hexNumber?_hexDigit :
    ∀ n < 0x20, hexNumber? ['0', '0', hexDigit (n / 16), hexDigit (n % 16)] = some n := by
  decide

theorem fourDigits {n : Nat} (h : n < 0x20) :
    Reads fourDigits ['0', '0', hexDigit (n / 16), hexDigit (n % 16)] n := by
  intro rest place
  simp only [Reader.fourDigits, List.cons_append, List.nil_append, hexNumber?_hexDigit n h]
  exact ⟨_, rfl⟩

theorem numberedCharacter {c : Char} (h : c.toNat < 0x20) :
    Reads numberedCharacter ['0', '0', hexDigit (c.toNat / 16), hexDigit (c.toNat % 16)] c := by
  refine bind (t := []) (fourDigits h) ?_
  have ht : isTrailing c.toNat = false := by simp [isTrailing]; omega
  have hl : isLeading c.toNat = false := by simp [isLeading]; omega
  simp only [ht, hl, Bool.false_eq_true, if_false, Char.ofNat_toNat]
  exact pure c

/-- A character is written as an escape that gives it, or as it stands. -/
theorem escapeChar_cases (c : Char) :
    (∃ e, escapeChar c = '\\' :: e ∧ Reads escape e c) ∨
      escapeChar c = [c] ∧ c ≠ '"' ∧ c ≠ '\\' ∧ isControl c = false := by
  unfold escapeChar
  split
  case h_8 hq hb _ _ _ _ _ =>
    split
    case isTrue hc => exact .inl ⟨_, rfl, head_bind (bind (skip 'u') (numberedCharacter hc))⟩
    case isFalse hc => exact .inr ⟨rfl, hq, hb, by simpa [isControl] using hc⟩
  all_goals exact .inl ⟨_, rfl, head_bind (bind (skip _) (pure _))⟩

theorem stringChars (cs : List Char) :
    ∀ (fuel taken : List Char), (cs.flatMap escapeChar).length < fuel.length →
      Reads (stringChars fuel taken) (cs.flatMap escapeChar ++ ['"'])
        (String.ofList (taken.reverse ++ cs)) := by
  induction cs with
  | nil =>
    intro fuel taken hl
    obtain ⟨a, fuel, rfl⟩ := List.exists_cons_of_length_pos hl
    rw [List.append_nil]
    exact head_bind (bind (skip '"') (pure _))
  | cons c cs ih =>
    intro fuel taken hl
    obtain ⟨a, fuel, rfl⟩ := List.exists_cons_of_length_pos (Nat.zero_lt_of_lt hl)
    have hc : 1 ≤ (escapeChar c).length := by
      obtain ⟨e, he, -⟩ | ⟨he, -⟩ := escapeChar_cases c <;> simp [he]
    rw [List.flatMap_cons, List.length_append, List.length_cons] at hl
    have rest := ih fuel (c :: taken) (by omega)
    rw [List.reverse_cons, List.append_assoc, List.singleton_append] at rest
    rw [List.flatMap_cons, List.append_assoc]
    obtain ⟨e, he, hr⟩ | ⟨he, hq, hb, hc⟩ := escapeChar_cases c
    · rw [he]
      exact head_bind (bind (skip '\\') (bind hr rest))
    · rw [he]
      refine head_bind ?_
      split
      case h_1 heq => cases heq
      case h_2 heq => exact absurd (Option.some.inj heq) hq
      case h_3 heq => exact absurd (Option.some.inj heq) hb
      case h_4 heq =>
        cases heq
        simp only [hc, Bool.false_eq_true, if_false]
        exact bind (skip c) rest

theorem stringBody (s : String) :
    Reads stringBody (s.toList.flatMap escapeChar ++ ['"']) s := by
  intro rest place
  have hs := stringChars s.toList (s.toList.flatMap escapeChar ++ ['"'] ++ rest) []
    (by simp only [List.length_append, List.length_singleton]; omega) rest place
  rwa [List.reverse_nil, List.nil_append s.toList, String.ofList_toList] at hs

theorem text (s : String) : Reads text (string s).toList s := by
  rw [toList_string]
  exact peek_bind rfl (bind (skip '"') (stringBody s))

theorem optional_none (read : Reader α) : Reads (optional read) "null".toList none :=
  peek_bind rfl (bind (skip 'n') (bind (word ['u', 'l', 'l']) (pure none)))

theorem optional_some (s : String) : Reads (optional Reader.text) (string s).toList (some s) := by
  have h := (text s).map some
  rw [toList_string] at h ⊢
  exact peek_bind rfl h

end Reads

/-! ## Lists -/

/-- The text starts neither with a blank nor as the end of a list or a separator. -/
def Opens (text : List Char) : Prop :=
  ∃ c s, text = c :: s ∧ Cursor.isBlank c = false ∧ c ≠ ']' ∧ c ≠ ','

structure ReadsValue (read : Reader α) (text : List Char) (x : α) : Prop where
  opens : Opens text
  reads : Reads read text x

/-- Texts with commas between them; one comes first where they continue a list. -/
def separated (first : Bool) : List (List Char) → List Char
  | [] => []
  | text :: texts => (if first then [] else [',']) ++ (text ++ separated false texts)

theorem toList_intercalate_comma (texts : List String) :
    (",".intercalate texts).toList = separated true (texts.map (·.toList)) := by
  have continued : ∀ (s : String) (texts : List String),
      (",".intercalate (s :: texts)).toList =
        s.toList ++ separated false (texts.map (·.toList)) := by
    intro s texts
    induction texts generalizing s with
    | nil => simp [separated]
    | cons t texts ih => simp [separated, String.intercalate_cons_cons, ih t]
  cases texts with
  | nil => rfl
  | cons s texts => exact continued s texts

namespace ReadsBefore

theorem nextItem_true {c : Char} (hb : Cursor.isBlank c = false) (hend : c ≠ ']') (hcomma : c ≠ ',')
    (first : Bool) : ReadsBefore [c] (nextItem first) (if first then [] else [',']) true := by
  cases first with
  | true =>
    refine peek_bind_next hb ?_
    split <;> simp_all [pure]
  | false =>
    refine peek_bind rfl (bind (skip ',') (peek_bind_next hb ?_))
    split <;> simp_all [pure]

theorem nextItem_false (first : Bool) : ReadsBefore [']'] (nextItem first) [] false :=
  peek_bind_next rfl (pure false)

/-- The fuel has to be longer than the text of the items. -/
theorem items {read : Reader α} {texts : List (List Char)} {xs : List α}
    (h : List.Forall₂ (ReadsValue read) texts xs) (fuel : List Char) (first : Bool)
    (hl : (separated first texts).length < fuel.length) :
    ReadsBefore [']'] (items read fuel first) (separated first texts) xs := by
  induction h generalizing fuel first with
  | nil =>
    obtain ⟨a, fuel, rfl⟩ := List.exists_cons_of_length_pos hl
    exact bind_of_isPrefix (nextItem_false first) List.prefix_rfl (pure [])
  | cons h _ ih =>
    obtain ⟨a, fuel, rfl⟩ := List.exists_cons_of_length_pos (Nat.zero_lt_of_lt hl)
    obtain ⟨c, s, rfl, hb, hend, hcomma⟩ := h.opens
    simp only [separated, List.length_append, List.length_cons] at hl
    have more := ih fuel false (by omega)
    exact bind_of_isPrefix (nextItem_true hb hend hcomma first) ⟨_, rfl⟩
      (bind h.reads (map _ more))

end ReadsBefore

theorem toList_array (texts : List String) :
    (array texts).toList = '[' :: (separated true (texts.map (·.toList)) ++ [']']) := by
  rw [array, String.toList_append, String.toList_append, toList_intercalate_comma]
  rfl

namespace Reads

open ReadsBefore

theorem listEnd : Reads listEnd [']'] () :=
  peek_bind rfl (skip ']')

theorem list {read : Reader α} {texts : List String} {xs : List α}
    (h : List.Forall₂ (fun text x => ReadsValue read text.toList x) texts xs) :
    Reads (list read) (array texts).toList xs := by
  have h := List.forall₂_map_left_iff.mpr h
  rw [toList_array]
  refine peek_bind rfl (bind (skip '[') (get_bind fun c hc => ?_))
  have hl : (separated true (texts.map (·.toList)) ++ [']']).length ≤ c.rest.length := hc
  rw [List.length_append, List.length_singleton] at hl
  exact bind_of_isPrefix (items h c.rest true hl) ⟨_, rfl⟩ (bind listEnd (pure xs))

end Reads

/-! ## Values as they are written -/

def StringWritten (x text : String) : Prop :=
  text = string x

def FlagWritten (b : Bool) (text : String) : Prop :=
  text = boolean b

def OptionalWritten : Option String → String → Prop
  | some x => StringWritten x
  | none => (· = "null")

def ListWritten (Written : α → String → Prop) (xs : List α) (text : String) : Prop :=
  ∃ texts, List.Forall₂ Written xs texts ∧ text = array texts

@[simp]
theorem stringWritten_string (x : String) : StringWritten x (string x) :=
  rfl

@[simp]
theorem flagWritten_boolean (b : Bool) : FlagWritten b (boolean b) :=
  rfl

@[simp]
theorem optionalWritten_some (x : String) : OptionalWritten (some x) (string x) :=
  rfl

theorem listWritten_array {Written : α → String → Prop} {write : α → String}
    (h : ∀ x, Written x (write x)) (xs : List α) :
    ListWritten Written xs (array (xs.map write)) := by
  refine ⟨_, ?_, rfl⟩
  rw [List.forall₂_map_right_iff]
  exact List.forall₂_same.mpr fun x _ => h x

@[simp]
theorem listWritten_strings (texts : List String) :
    ListWritten StringWritten texts (strings texts) :=
  listWritten_array stringWritten_string texts

def Undoes (read : Reader α) (Written : α → String → Prop) : Prop :=
  ∀ x s, Written x s → ReadsValue read s.toList x

namespace Undoes

theorem text : Undoes text StringWritten := by
  rintro x s rfl
  exact ⟨⟨_, _, toList_string x, rfl, by decide⟩, Reads.text x⟩

theorem flag : Undoes flag FlagWritten := by
  rintro b s rfl
  refine ⟨?_, Reads.flag b⟩
  cases b <;> exact ⟨_, _, rfl, rfl, by decide⟩

theorem optional : Undoes (optional Reader.text) OptionalWritten := by
  intro x s h
  cases x with
  | none =>
    cases h
    exact ⟨⟨_, _, rfl, rfl, by decide⟩, Reads.optional_none Reader.text⟩
  | some x =>
    cases h
    exact ⟨⟨_, _, toList_string x, rfl, by decide⟩, Reads.optional_some x⟩

theorem list {read : Reader α} {Written : α → String → Prop} (h : Undoes read Written) :
    Undoes (list read) (ListWritten Written) := by
  rintro xs s ⟨texts, ht, rfl⟩
  exact ⟨⟨_, _, toList_array texts, rfl, by decide⟩, Reads.list (ht.flip.imp fun s x => h x s)⟩

end Undoes

end EntityGen.Json
