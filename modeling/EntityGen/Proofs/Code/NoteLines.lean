import EntityGen.Code.Escaping
import EntityGen.Proofs.Text.Blank
import EntityGen.Proofs.Text.Lines
import Mathlib.Data.List.Forall2

/-! # Reading notes back

The comment of a note has an opening line, one line for each line of the note, and a closing line.
A reader who cuts off the slashes and decodes the tags finds the lines of the note again, up to
the blanks at their ends.
-/

namespace EntityGen.Code

open Text

variable {c : Char} {indent note line content cs : List Char}

/-! ## Escaped tags -/

def decodeTags : List Char → List Char
  | [] => []
  | '&' :: 'a' :: 'm' :: 'p' :: ';' :: rest => '&' :: decodeTags rest
  | '&' :: 'l' :: 't' :: ';' :: rest => '<' :: decodeTags rest
  | '&' :: 'g' :: 't' :: ';' :: rest => '>' :: decodeTags rest
  | c :: rest => c :: decodeTags rest

def replaceChar (c : Char) (shown cs : List Char) : List Char :=
  cs.flatMap fun d => if d = c then shown else [d]

/-- The text with its tags escaped by one replacement after the other. -/
def escapeInTurn (cs : List Char) : List Char :=
  replaceChar '>' "&gt;".toList (replaceChar '<' "&lt;".toList (replaceChar '&' "&amp;".toList cs))

/-- No replacement meets what an earlier one has put in. -/
theorem flatMap_escapeTag_eq (cs : List Char) : cs.flatMap escapeTag = escapeInTurn cs := by
  simp only [escapeInTurn, replaceChar, List.flatMap_assoc]
  refine List.flatMap_congr fun c _ => ?_
  unfold escapeTag
  split
  · rfl
  · rfl
  · rfl
  · next ha hl hg =>
    simp only [if_neg ha, if_neg hl, if_neg hg, List.flatMap_singleton]

theorem decodeTags_escapeTag_append (c : Char) (rest : List Char) :
    decodeTags (escapeTag c ++ rest) = c :: decodeTags rest := by
  unfold escapeTag
  split
  · simp [decodeTags]
  · simp [decodeTags]
  · simp [decodeTags]
  · next ha _ _ =>
    rw [List.singleton_append, decodeTags]
    all_goals exact fun _ hc => absurd hc ha

theorem decodeTags_flatMap_escapeTag (cs : List Char) : decodeTags (cs.flatMap escapeTag) = cs := by
  induction cs with
  | nil => rfl
  | cons c cs ih => rw [List.flatMap_cons, decodeTags_escapeTag_append, ih]

theorem escapeTag_ne_nil (c : Char) : escapeTag c ≠ [] := by
  unfold escapeTag
  split <;> exact List.cons_ne_nil _ _

theorem escapeTag_eq_or_mem (c : Char) : escapeTag c = [c] ∧ c ≠ '<' ∧ c ≠ '>' ∨
    escapeTag c ∈ ["&amp;".toList, "&lt;".toList, "&gt;".toList] := by
  unfold escapeTag
  split
  · decide
  · decide
  · decide
  · next _ hl hg => exact .inl ⟨rfl, hl, hg⟩

/-- A character that escaping does not put in was there before, and is none of a tag. -/
theorem mem_of_mem_flatMap_escapeTag (h : c ∈ cs.flatMap escapeTag)
    (hc : ∀ shown ∈ ["&amp;".toList, "&lt;".toList, "&gt;".toList], c ∉ shown) :
    c ∈ cs ∧ c ≠ '<' ∧ c ≠ '>' := by
  obtain ⟨d, hd, hm⟩ := List.mem_flatMap.mp h
  rcases escapeTag_eq_or_mem d with ⟨he, hl, hg⟩ | he
  · rw [he, List.mem_singleton] at hm
    subst hm
    exact ⟨hd, hl, hg⟩
  · exact absurd hm (hc _ he)

theorem getLast?_flatMap_escapeTag (h : (cs.flatMap escapeTag).getLast? = some c) :
    c = ';' ∨ cs.getLast? = some c := by
  rcases List.eq_nil_or_concat cs with rfl | ⟨before, d, rfl⟩
  · cases h
  · rw [List.concat_eq_append, List.flatMap_append, List.flatMap_singleton,
      List.getLast?_append_of_ne_nil _ (escapeTag_ne_nil d)] at h
    rcases escapeTag_eq_or_mem d with ⟨he, -, -⟩ | he
    · right
      simpa [he] using h
    · left
      have hlast : ∀ shown ∈ ["&amp;".toList, "&lt;".toList, "&gt;".toList],
          shown.getLast? = some ';' := by decide
      rw [hlast _ he] at h
      exact (Option.some.inj h).symm

/-! ## Comment lines -/

def commentLine (indent content : List Char) : List Char :=
  indent ++ "///".toList ++ if content = [] then [] else ' ' :: content

/-- What stands behind the slashes of a comment line. -/
def content? (indent line : List Char) : Option (List Char) :=
  if line = indent ++ "///".toList then some []
  else line.dropPrefix? (indent ++ "/// ".toList)

/-- The comment line `shown` shows the line of a note, without the blanks at its end. -/
structure Shows (indent line shown content : List Char) : Prop where
  behind : content? indent shown = some content
  escaped : content = escapeInTurn (trimEnd line)
  decoded : decodeTags content = trimEnd line
  opening : '<' ∉ content
  closing : '>' ∉ content

theorem prefix_commentLine (indent content : List Char) :
    indent ++ "///".toList <+: commentLine indent content :=
  List.prefix_append _ _

theorem content?_commentLine (indent content : List Char) :
    content? indent (commentLine indent content) = some content := by
  unfold content? commentLine
  by_cases hc : content = []
  · simp [hc]
  · have hline : indent ++ "///".toList ++ ' ' :: content ≠ indent ++ "///".toList := by simp
    have hsplit : indent ++ "///".toList ++ ' ' :: content =
        indent ++ "/// ".toList ++ content := by simp
    rw [if_neg hc, if_neg hline, hsplit]
    exact List.dropPrefix?_append_of_beq content (by simp)

theorem lineFeed_not_mem_commentLine (hi : '\n' ∉ indent) (hc : '\n' ∉ content) :
    '\n' ∉ commentLine indent content := by
  unfold commentLine
  split <;> simp [hi, hc]

theorem getLast?_commentLine (hc : content.getLast? ≠ some '\r') :
    (commentLine indent content).getLast? ≠ some '\r' := by
  unfold commentLine
  split
  · simp [List.getLast?_append]
  · next hn =>
    rwa [List.getLast?_append_of_ne_nil _ (List.cons_ne_nil _ _), List.getLast?_cons_of_ne_nil hn]

theorem summaryLine_eq (indent line : List Char) :
    summaryLine indent line =
      commentLine indent ((trimEnd line).flatMap escapeTag) ++ ['\n'] := by
  unfold summaryLine commentLine
  by_cases hl : trimEnd line = []
  · simp [hl]
  · have hn : (trimEnd line).flatMap escapeTag ≠ [] := by
      simpa [escapeTag_ne_nil] using List.exists_mem_of_ne_nil _ hl
    rw [if_neg hn]
    simp [hl]

theorem shows_commentLine (indent line : List Char) :
    Shows indent line (commentLine indent ((trimEnd line).flatMap escapeTag))
      ((trimEnd line).flatMap escapeTag) where
  behind := content?_commentLine _ _
  escaped := flatMap_escapeTag_eq _
  decoded := decodeTags_flatMap_escapeTag _
  opening h := (mem_of_mem_flatMap_escapeTag h (by decide)).2.1 rfl
  closing h := (mem_of_mem_flatMap_escapeTag h (by decide)).2.2 rfl

/-! ## The comment of a note -/

def framed (indent : List Char) (inner : List (List Char)) : List (List Char) :=
  (indent ++ "/// <summary>".toList) :: inner ++ [indent ++ "/// </summary>".toList]

def noteLines (indent note : List Char) : List (List Char) :=
  (lines (trim note)).map fun line => commentLine indent ((trimEnd line).flatMap escapeTag)

theorem summaryChars_eq (hn : ¬ Blanks note) : summaryChars indent note =
    (framed indent (noteLines indent note)).flatMap (· ++ ['\n']) := by
  have ht : trim note ≠ [] := fun h => hn (trim_eq_nil_iff.mp h)
  have hlines : (noteLines indent note).flatMap (· ++ ['\n']) =
      (lines (trim note)).flatMap (summaryLine indent) := by
    rw [noteLines, List.flatMap_map]
    exact List.flatMap_congr fun line _ => (summaryLine_eq indent line).symm
  rw [framed, List.flatMap_append, List.flatMap_cons, hlines]
  simp [summaryChars, ht]

theorem summaryChars_eq_nil_iff : summaryChars indent note = [] ↔ Blanks note := by
  constructor
  · intro h
    by_contra hn
    simp [summaryChars_eq hn, framed] at h
  · intro h
    simp [summaryChars, h.trim_eq]

theorem lines_summaryChars (hi : '\n' ∉ indent) (hn : ¬ Blanks note) :
    lines (summaryChars indent note) = framed indent (noteLines indent note) := by
  rw [summaryChars_eq hn]
  refine lines_flatMap_lineFeed fun shown hs => ?_
  simp only [framed, noteLines, List.cons_append, List.mem_cons, List.mem_append, List.mem_map,
    List.not_mem_nil, or_false] at hs
  rcases hs with rfl | ⟨line, hl, rfl⟩ | rfl
  · simp [hi, List.getLast?_append]
  · refine ⟨lineFeed_not_mem_commentLine hi fun hm => ?_, getLast?_commentLine fun hr => ?_⟩
    · have hline := (mem_of_mem_flatMap_escapeTag hm (by decide)).1
      exact lineFeed_not_mem_of_mem_lines hl (mem_of_mem_trimEnd hline)
    · rcases getLast?_flatMap_escapeTag hr with h | h
      · exact absurd h (by decide)
      · exact absurd (isBlank_of_getLast?_trimEnd h) (by decide)
  · simp [hi, List.getLast?_append]

/-- A blank note has no comment. Every other note is shown line by line between the two lines of
its tags. -/
theorem summary_transcribes (indent note : String) :
    (summary indent (some note) = "" ↔ Blanks note.toList) ∧
      (¬ Blanks note.toList → ∃ inner,
        (summary indent (some note)).toList =
            (framed indent.toList inner).flatMap (· ++ ['\n']) ∧
          ('\n' ∉ indent.toList →
            lines (summary indent (some note)).toList = framed indent.toList inner) ∧
          List.Forall₂ (fun line shown => ∃ content, Shows indent.toList line shown content)
            (lines (trim note.toList)) inner) := by
  have hs : (summary indent (some note)).toList = summaryChars indent.toList note.toList :=
    String.toList_ofList
  constructor
  · rw [← String.toList_inj, hs]
    exact summaryChars_eq_nil_iff
  · intro hn
    refine ⟨noteLines indent.toList note.toList, ?_, fun hi => ?_, ?_⟩
    · rw [hs, summaryChars_eq hn]
    · rw [hs, lines_summaryChars hi hn]
    · rw [noteLines, List.forall₂_map_right_iff, List.forall₂_same]
      exact fun line _ => ⟨_, shows_commentLine _ line⟩

/-- A note with a tag, a blank line, an entity, and line ends of two kinds. -/
theorem amount_note_shown :
    let note := " Amount < 1000\r\n \t\nHolds &lt; as text. "
    ¬ Blanks note.toList ∧ '\n' ∉ "    ".toList ∧
      ∃ inner, lines (summary "    " (some note)).toList = framed "    ".toList inner ∧
        List.Forall₂ (fun line shown => ∃ content, Shows "    ".toList line shown content)
          ["Amount < 1000".toList, " \t".toList, "Holds &lt; as text.".toList] inner := by
  intro note
  have hn : ¬ Blanks note.toList := fun h => absurd (h 'A' (by decide)) (by decide)
  have hi : '\n' ∉ "    ".toList := by decide
  have hl : lines (trim note.toList) =
      ["Amount < 1000".toList, " \t".toList, "Holds &lt; as text.".toList] := by decide
  obtain ⟨inner, -, hlines, hs⟩ := (summary_transcribes "    " note).2 hn
  exact ⟨hn, hi, inner, hlines hi, hl ▸ hs⟩

end EntityGen.Code
