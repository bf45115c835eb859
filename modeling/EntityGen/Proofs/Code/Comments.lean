import EntityGen.Proofs.Code.NoteLines
import EntityGen.Proofs.Code.Passage

/-! # Notes in comments

A compiler ends a line at five characters, and a note is cut into lines at the line feed only. The
comment of a note is a comment in every source line exactly when what follows the other line ends
of the note looks like a comment itself. Such notes leave no trace in the code of a class.
-/

namespace EntityGen.Code

open Text

/-- The characters that end a line for the compiler. -/
def isLineEnd (c : Char) : Bool :=
  ['\n', '\r', '\x85', '\u2028', '\u2029'].contains c

def onFirst (c : Char) : List (List Char) → List (List Char)
  | [] => [[c]]
  | line :: rest => (c :: line) :: rest

/-- The lines of a source text. A carriage return and the line feed after it end one line, and no
line follows the last line end. -/
def sourceLines : List Char → List (List Char)
  | [] => []
  | '\r' :: '\n' :: rest => [] :: sourceLines rest
  | c :: rest => if isLineEnd c then [] :: sourceLines rest else onFirst c (sourceLines rest)

/-- What follows a line end inside a line of the note starts like a line of the comment. -/
def Confined (indent note : List Char) : Prop :=
  ∀ line ∈ lines (trim note), ∀ below ∈ (sourceLines (trimEnd line)).tail,
    indent ++ "///".toList <+: below

instance (indent note : List Char) : Decidable (Confined indent note) :=
  inferInstanceAs (Decidable (∀ line ∈ lines (trim note),
    ∀ below ∈ (sourceLines (trimEnd line)).tail, indent ++ "///".toList <+: below))

def isCommentLine (line : List Char) : Bool :=
  "///".toList.isPrefixOf (line.dropWhile (· == ' '))

/-- The source lines of a text that a compiler reads. -/
def codeLines (text : String) : List (List Char) :=
  (sourceLines text.toList).filter fun line => !isCommentLine line

/-! ## Cutting into source lines -/

section SourceLines

variable {a b : List Char} {c : Char}

theorem plain_of_any (h : a.any isLineEnd = false) : ∀ c ∈ a, isLineEnd c = false :=
  fun c hc => Bool.eq_false_iff.mpr (List.any_eq_false.mp h c hc)

theorem sourceLines_cons (h : isLineEnd c = false) (b : List Char) :
    sourceLines (c :: b) = onFirst c (sourceLines b) := by
  have hr : c ≠ '\r' := by
    rintro rfl
    exact absurd h (by decide)
  rw [sourceLines, h]
  · rfl
  · intro rest hc
    exact absurd hc hr

theorem sourceLines_cons_of_isLineEnd (h : isLineEnd c = true)
    (hn : ∀ rest, c = '\r' → b = '\n' :: rest → False) :
    sourceLines (c :: b) = [] :: sourceLines b := by
  rw [sourceLines, if_pos h]
  exact hn

theorem sourceLines_lineFeed (b : List Char) : sourceLines ('\n' :: b) = [] :: sourceLines b := by
  exact sourceLines_cons_of_isLineEnd rfl fun _ hc => absurd hc (by decide)

theorem sourceLines_append_of_plain (h : ∀ c ∈ a, isLineEnd c = false) (b : List Char) :
    sourceLines (a ++ b) = a.foldr onFirst (sourceLines b) := by
  induction a with
  | nil => rfl
  | cons c a ih =>
    obtain ⟨hc, ha⟩ := List.forall_mem_cons.mp h
    rw [List.cons_append, sourceLines_cons hc, ih ha, List.foldr_cons]

theorem foldr_onFirst (a line : List Char) (rest : List (List Char)) :
    a.foldr onFirst (line :: rest) = (a ++ line) :: rest := by
  induction a with
  | nil => rfl
  | cons c a ih => rw [List.foldr_cons, ih]; rfl

theorem foldr_onFirst_nil (h : a ≠ []) : a.foldr onFirst [] = [a] := by
  obtain ⟨before, c, rfl⟩ := List.eq_nil_or_concat a |>.resolve_left h
  rw [List.concat_eq_append, List.foldr_append]
  exact foldr_onFirst before [c] []

/-- A line without line ends before a line feed. -/
theorem sourceLines_line (h : ∀ c ∈ a, isLineEnd c = false) (b : List Char) :
    sourceLines (a ++ '\n' :: b) = a :: sourceLines b := by
  rw [sourceLines_append_of_plain h, sourceLines_lineFeed, foldr_onFirst, List.append_nil]

theorem sourceLines_ne_nil (h : a ≠ []) : sourceLines a ≠ [] := by
  fun_cases sourceLines a with
  | case1 => exact absurd rfl h
  | case2 => exact List.cons_ne_nil _ _
  | case3 => exact List.cons_ne_nil _ _
  | case4 c rest =>
    cases sourceLines rest <;> exact List.cons_ne_nil _ _

/-- What stops with a line feed is cut without regard to what follows. -/
theorem sourceLines_append (h : ∀ c ∈ a.getLast?, c = '\n') (b : List Char) :
    sourceLines (a ++ b) = sourceLines a ++ sourceLines b := by
  fun_induction sourceLines a with
  | case1 => rfl
  | case2 rest ih =>
    simp [sourceLines, ih (forall_getLast?_of_cons (forall_getLast?_of_cons h))]
  | case3 c rest hn hc ih =>
    -- No carriage return ends `rest`, so none is joined with what follows.
    have hj : ∀ more, c = '\r' → rest ++ b = '\n' :: more → False := by
      rintro more rfl hm
      cases rest with
      | nil => exact absurd (h '\r' rfl) (by decide)
      | cons d rest =>
        obtain ⟨rfl, -⟩ := List.cons.inj hm
        exact hn rest rfl rfl
    rw [List.cons_append, sourceLines_cons_of_isLineEnd hc hj, ih (forall_getLast?_of_cons h),
      List.cons_append]
  | case4 c rest hn hc ih =>
    have hc' : isLineEnd c = false := by simpa using hc
    have hne : rest ≠ [] := by
      rintro rfl
      obtain rfl := h c rfl
      exact hc rfl
    obtain ⟨line, more, hl⟩ := List.exists_cons_of_ne_nil (sourceLines_ne_nil hne)
    rw [List.cons_append, sourceLines_cons hc', ih (forall_getLast?_of_cons h), hl]
    rfl

theorem sourceLines_flatMap {α : Type} {f : α → List Char} {xs : List α}
    (h : ∀ x ∈ xs, (f x).getLast? = some '\n') :
    sourceLines (xs.flatMap f) = xs.flatMap fun x => sourceLines (f x) := by
  induction xs with
  | nil => rfl
  | cons x xs ih =>
    obtain ⟨hx, hxs⟩ := List.forall_mem_cons.mp h
    have he : ∀ c ∈ (f x).getLast?, c = '\n' := by
      rintro c hc
      rw [hx] at hc
      exact (Option.some.inj hc).symm
    rw [List.flatMap_cons, sourceLines_append he, ih hxs, List.flatMap_cons]

/-- A line feed after a character of a line only ends that line. -/
theorem sourceLines_append_lineFeed (hne : a ≠ []) (h : ∀ c ∈ a.getLast?, isLineEnd c = false) :
    sourceLines (a ++ ['\n']) = sourceLines a := by
  fun_induction sourceLines a with
  | case1 => exact absurd rfl hne
  | case2 rest ih =>
    have hr : rest ≠ [] := by
      rintro rfl
      exact absurd (h '\n' rfl) (by decide)
    simp [sourceLines, ih hr (forall_getLast?_of_cons (forall_getLast?_of_cons h))]
  | case3 c rest hn hc ih =>
    have hr : rest ≠ [] := by
      rintro rfl
      exact absurd (h c rfl) (by simp [hc])
    have hj : ∀ more, c = '\r' → rest ++ ['\n'] = '\n' :: more → False := by
      rintro more rfl hm
      obtain ⟨d, rest, rfl⟩ := List.exists_cons_of_ne_nil hr
      obtain ⟨rfl, -⟩ := List.cons.inj hm
      exact hn rest rfl rfl
    rw [List.cons_append, sourceLines_cons_of_isLineEnd hc hj, ih hr (forall_getLast?_of_cons h)]
  | case4 c rest hn hc ih =>
    have hc' : isLineEnd c = false := by simpa using hc
    rw [List.cons_append, sourceLines_cons hc']
    by_cases hr : rest = []
    · subst hr
      rfl
    · rw [ih hr (forall_getLast?_of_cons h)]

end SourceLines

/-! ## The comment of a note -/

section Summary

variable {n : Nat} {indent note line p cs : List Char} {c : Char}

theorem escapeTag_cases (c : Char) :
    escapeTag c = [c] ∨ isLineEnd c = false ∧ ∃ name, escapeTag c = '&' :: name ∧
      ∀ d ∈ '&' :: name, isLineEnd d = false := by
  unfold escapeTag
  split
  · exact .inr ⟨rfl, _, rfl, plain_of_any rfl⟩
  · exact .inr ⟨rfl, _, rfl, plain_of_any rfl⟩
  · exact .inr ⟨rfl, _, rfl, plain_of_any rfl⟩
  · exact .inl rfl

theorem sourceLines_flatMap_escapeTag (cs : List Char) :
    sourceLines (cs.flatMap escapeTag) = (sourceLines cs).map (·.flatMap escapeTag) := by
  fun_induction sourceLines cs with
  | case1 => rfl
  | case2 rest ih =>
    rw [List.map_cons, ← ih]
    rfl
  | case3 c rest hn hc ih =>
    have he : escapeTag c = [c] := by
      rcases escapeTag_cases c with he | ⟨hf, -⟩
      · exact he
      · exact absurd hc (by simp [hf])
    have hj : ∀ more, c = '\r' → rest.flatMap escapeTag = '\n' :: more → False := by
      rintro more rfl hm
      cases rest with
      | nil => cases hm
      | cons d rest =>
        rw [List.flatMap_cons] at hm
        rcases escapeTag_cases d with hd | ⟨-, name, hd, -⟩
        · rw [hd] at hm
          obtain ⟨rfl, -⟩ := List.cons.inj hm
          exact hn rest rfl rfl
        · rw [hd] at hm
          exact absurd (List.cons.inj hm).1 (by decide)
    rw [List.flatMap_cons, he, List.singleton_append, sourceLines_cons_of_isLineEnd hc hj, ih]
    rfl
  | case4 c rest hn hc ih =>
    have hp : ∀ d ∈ escapeTag c, isLineEnd d = false := by
      rcases escapeTag_cases c with he | ⟨-, name, he, hp⟩
      · simpa [he] using hc
      · rwa [he]
    rw [List.flatMap_cons, sourceLines_append_of_plain hp, ih]
    cases sourceLines rest with
    | nil => simpa [onFirst] using foldr_onFirst_nil (escapeTag_ne_nil c)
    | cons line more =>
      rw [List.map_cons, foldr_onFirst]
      rfl

/-- Spaces and slashes are not escaped, and nothing is escaped to them. -/
theorem isPrefix_flatMap_escapeTag_iff (hp : ∀ c ∈ p, c = ' ' ∨ c = '/') :
    p <+: cs.flatMap escapeTag ↔ p <+: cs := by
  induction p generalizing cs with
  | nil => simp
  | cons c p ih =>
    obtain ⟨hc, hp⟩ := List.forall_mem_cons.mp hp
    cases cs with
    | nil => simp
    | cons d cs =>
      rw [List.flatMap_cons]
      rcases escapeTag_cases d with hd | ⟨-, name, hd, -⟩
      · rw [hd, List.singleton_append, List.cons_prefix_cons, List.cons_prefix_cons, ih hp]
      · have ha : c ≠ '&' := by rcases hc with rfl | rfl <;> decide
        have hcd : c ≠ d := by
          rintro rfl
          rcases hc with rfl | rfl
          · cases hd
          · cases hd
        rw [hd, List.cons_append, List.cons_prefix_cons, List.cons_prefix_cons]
        simp [ha, hcd]

theorem isBlank_of_isLineEnd (h : isLineEnd c = true) : isBlank c = true := by
  simp only [isLineEnd, List.contains_iff_mem, List.mem_cons, List.not_mem_nil, or_false] at h
  rcases h with rfl | rfl | rfl | rfl | rfl <;> decide

theorem isLineEnd_of_getLast?_trimEnd (h : c ∈ (trimEnd line).getLast?) : isLineEnd c = false := by
  cases hc : isLineEnd c with
  | false => rfl
  | true => exact absurd (isBlank_of_isLineEnd hc) (by simp [isBlank_of_getLast?_trimEnd h])

theorem sourceLines_tagLine (hi : ∀ c ∈ indent, isLineEnd c = false)
    (hp : ∀ c ∈ p, isLineEnd c = false) :
    sourceLines (indent ++ (p ++ ['\n'])) = [indent ++ p] := by
  rw [← List.append_assoc]
  exact sourceLines_line (List.forall_mem_append.mpr ⟨hi, hp⟩) []

/-- A line of the comment is one source line, and one more for each line end inside it. -/
theorem sourceLines_summaryLine (hi : ∀ c ∈ indent, isLineEnd c = false) (line : List Char) :
    ∃ first, sourceLines (summaryLine indent line) =
      (indent ++ "///".toList ++ first) ::
        (sourceLines (trimEnd line)).tail.map (·.flatMap escapeTag) := by
  unfold summaryLine
  dsimp only
  split
  · next he =>
    rw [List.isEmpty_iff] at he
    refine ⟨[], ?_⟩
    rw [he, List.append_nil]
    exact sourceLines_tagLine hi (p := "///".toList) (plain_of_any rfl)
  · next he =>
    have hne : trimEnd line ≠ [] := by simpa using he
    have ha : ∀ c ∈ indent ++ "/// ".toList, isLineEnd c = false :=
      List.forall_mem_append.mpr ⟨hi, plain_of_any rfl⟩
    have hl : sourceLines ((trimEnd line).flatMap escapeTag ++ ['\n']) =
        (sourceLines (trimEnd line)).map (·.flatMap escapeTag) := by
      rw [← sourceLines_append_lineFeed hne fun c => isLineEnd_of_getLast?_trimEnd,
        ← sourceLines_flatMap_escapeTag, List.flatMap_append]
      rfl
    obtain ⟨first, rest, hs⟩ := List.exists_cons_of_ne_nil (sourceLines_ne_nil hne)
    refine ⟨' ' :: first.flatMap escapeTag, ?_⟩
    rw [List.append_assoc, sourceLines_append_of_plain ha, hl, hs, List.map_cons, foldr_onFirst]
    simp

theorem sourceLines_summaryChars (hi : ∀ c ∈ indent, isLineEnd c = false)
    (hn : trim note ≠ []) :
    sourceLines (summaryChars indent note) =
      (indent ++ "/// <summary>".toList) ::
        ((lines (trim note)).flatMap (fun line => sourceLines (summaryLine indent line)) ++
          [indent ++ "/// </summary>".toList]) := by
  have hopen := sourceLines_tagLine hi (p := "/// <summary>".toList) (plain_of_any rfl)
  have hclose := sourceLines_tagLine hi (p := "/// </summary>".toList) (plain_of_any rfl)
  have hlines : sourceLines ((lines (trim note)).flatMap (summaryLine indent)) =
      (lines (trim note)).flatMap fun line => sourceLines (summaryLine indent line) :=
    sourceLines_flatMap fun line _ => getLast?_summaryLine indent line
  have hend := getLast?_flatMap fun line (_ : line ∈ lines (trim note)) =>
    getLast?_summaryLine indent line
  have hparts : summaryChars indent note =
      indent ++ ("/// <summary>".toList ++ ['\n']) ++
        ((lines (trim note)).flatMap (summaryLine indent) ++
          (indent ++ ("/// </summary>".toList ++ ['\n']))) := by
    simp [summaryChars, hn]
  rw [hparts, sourceLines_append (by simp), hopen, sourceLines_append hend, hlines, hclose,
    List.singleton_append]

/-- The note makes a comment exactly when it is confined to it. -/
theorem summaryChars_commented_iff (n : Nat) (note : List Char) :
    (∀ line ∈ sourceLines (summaryChars (List.replicate n ' ') note),
        List.replicate n ' ' ++ "///".toList <+: line) ↔
      Confined (List.replicate n ' ') note := by
  have hi : ∀ c ∈ List.replicate n ' ', isLineEnd c = false := by
    intro c hc
    rw [List.eq_of_mem_replicate hc]
    rfl
  have hp : ∀ c ∈ List.replicate n ' ' ++ "///".toList, c = ' ' ∨ c = '/' := by
    have hslashes : "///".toList = List.replicate 3 '/' := rfl
    rw [hslashes]
    exact List.forall_mem_append.mpr ⟨fun c hc => .inl (List.eq_of_mem_replicate hc),
      fun c hc => .inr (List.eq_of_mem_replicate hc)⟩
  by_cases hn : trim note = []
  · simp [summaryChars, Confined, hn, sourceLines, lines, linesFrom]
  · have hline : ∀ line, (∀ l ∈ sourceLines (summaryLine (List.replicate n ' ') line),
        List.replicate n ' ' ++ "///".toList <+: l) ↔
          ∀ below ∈ (sourceLines (trimEnd line)).tail,
            List.replicate n ' ' ++ "///".toList <+: below := by
      intro line
      obtain ⟨first, hs⟩ := sourceLines_summaryLine hi line
      rw [hs, List.forall_mem_cons, List.forall_mem_map]
      simp only [isPrefix_flatMap_escapeTag_iff hp, List.prefix_append, true_and]
    have hopen : List.replicate n ' ' ++ "///".toList <+:
        List.replicate n ' ' ++ "/// <summary>".toList :=
      (List.prefix_append_right_inj _).mpr (by decide)
    have hclose : List.replicate n ' ' ++ "///".toList <+:
        List.replicate n ' ' ++ "/// </summary>".toList :=
      (List.prefix_append_right_inj _).mpr (by decide)
    rw [sourceLines_summaryChars hi hn]
    simp only [List.forall_mem_cons, List.forall_mem_append, List.forall_mem_flatMap, hline, hopen,
      hclose, List.not_mem_nil, false_implies, implies_true, and_true, true_and]
    rfl

end Summary

/-! ## Classes with notes -/

section CodeLines

variable {s : String} {xs : List String}

theorem codeLines_append (hs : EndsLine s) (t : String) :
    codeLines (s ++ t) = codeLines s ++ codeLines t := by
  rw [codeLines, String.toList_append, sourceLines_append hs, List.filter_append]
  rfl

theorem codeLines_intercalate (h : ∀ x ∈ xs, EndsLine x) :
    codeLines ("\n".intercalate xs) = [[]].intercalate (xs.map codeLines) := by
  induction xs with
  | nil => rfl
  | cons x xs ih =>
    obtain ⟨hx, hxs⟩ := List.forall_mem_cons.mp h
    cases xs with
    | nil => simp
    | cons y ys =>
      have hbreak : EndsLine "\n" := .of_getLast? rfl
      rw [String.intercalate_cons_cons, String.append_assoc, codeLines_append hx,
        codeLines_append hbreak, ih hxs]
      rfl

theorem isCommentLine_of_isPrefix {n : Nat} {line : List Char}
    (h : List.replicate n ' ' ++ "///".toList <+: line) : isCommentLine line = true := by
  obtain ⟨rest, rfl⟩ := h
  induction n with
  | zero => rfl
  | succ n ih => exact ih

theorem codeLines_summary {n : Nat} {note : Option String}
    (h : ∀ text ∈ note, Confined (List.replicate n ' ') text.toList) :
    codeLines (summary (String.ofList (List.replicate n ' ')) note) = [] := by
  cases note with
  | none => rfl
  | some text =>
    have hc := (summaryChars_commented_iff n text.toList).mpr (h text rfl)
    rw [codeLines, summary, String.toList_ofList, String.toList_ofList, List.filter_eq_nil_iff]
    intro line hl
    simpa using isCommentLine_of_isPrefix (hc line hl)

end CodeLines

end EntityGen.Code

namespace EntityGen

def Column.withoutNote (c : Column) : Column :=
  { c with note := none }

def Table.withoutNote (t : Table) : Table :=
  { t with note := none }

namespace EntityPlan

def withoutNotes (e : EntityPlan) : EntityPlan :=
  { e with
    table := e.table.withoutNote
    properties := e.properties.map fun p => { p with column := p.column.withoutNote } }

structure NotesConfined (e : EntityPlan) : Prop where
  table : ∀ note ∈ e.table.note, Code.Confined [] note.toList
  columns : ∀ p ∈ e.properties, ∀ note ∈ p.column.note, Code.Confined "    ".toList note.toList

end EntityPlan

namespace Code

variable {settings : Settings} {e : EntityPlan}

theorem codeLines_propertyMember {p : PropertyPlan}
    (h : ∀ note ∈ p.column.note, Confined "    ".toList note.toList) :
    codeLines (propertyMember p) =
      codeLines (propertyMember { p with column := p.column.withoutNote }) := by
  have hs : propertyMember p = summary "    " p.column.note ++
      propertyMember { p with column := p.column.withoutNote } := by
    have hn : summary "    " p.column.withoutNote.note = "" := rfl
    simp only [propertyMember, String.append_assoc, hn, String.empty_append]
    rfl
  have hc : codeLines (summary "    " p.column.note) = [] := codeLines_summary (n := 4) h
  rw [hs, codeLines_append (endsLine_summary _ _), hc, List.nil_append]

theorem codeLines_members (h : e.NotesConfined) (collectionType : String) :
    (members collectionType e).map codeLines =
      (members collectionType e.withoutNotes).map codeLines := by
  have hp : (e.properties.map propertyMember).map codeLines =
      (e.withoutNotes.properties.map propertyMember).map codeLines := by
    simp only [EntityPlan.withoutNotes, List.map_map]
    exact List.map_congr_left fun p hm => codeLines_propertyMember (h.columns p hm)
  simp only [members, List.map_append, hp]
  rfl

/-- The lines of a class above its members, without the comment. -/
def classHead (e : EntityPlan) : String :=
  "[Table(" ++ literal e.table.name ++ ")]\n" ++
    compositeKeyLine e ++
    String.join (e.indexes.map indexLine) ++
    s!"public partial class {e.name}\n\x7b\n"

theorem codeLines_entityClass (settings : Settings) (e : EntityPlan) :
    codeLines (entityClass settings e) =
      codeLines (summary "" e.table.note) ++ (codeLines (classHead e) ++
        ([[]].intercalate ((members settings.collectionType e).map codeLines) ++
          codeLines "\x7d\n")) := by
  have hc : entityClass settings e = summary "" e.table.note ++ (classHead e ++
      ("\n".intercalate (members settings.collectionType e) ++ "\x7d\n")) := by
    simp only [entityClass, classHead, String.append_assoc]
  have hhead : EndsLine (classHead e) := by
    rw [classHead, ← String.append_assoc]
    exact .of_last _ rfl
  have hm : ∀ x ∈ members settings.collectionType e, EndsLine x :=
    fun _ => endsLine_of_mem_members
  rw [hc, codeLines_append (endsLine_summary _ _), codeLines_append hhead,
    codeLines_append (.intercalate hm), codeLines_intercalate hm]

/-- The compiler reads the class as if there were no notes. -/
theorem codeLines_entityClass_withoutNotes (h : e.NotesConfined) :
    codeLines (entityClass settings e) = codeLines (entityClass settings e.withoutNotes) := by
  have hnote : codeLines (summary "" e.table.note) = [] := codeLines_summary (n := 0) h.table
  rw [codeLines_entityClass, codeLines_entityClass, hnote, codeLines_members h]
  rfl

theorem commented_iff_confined (n : Nat) (note : List Char) (settings : Settings)
    (e : EntityPlan) :
    ((∀ line ∈ sourceLines (summaryChars (List.replicate n ' ') note),
        List.replicate n ' ' ++ "///".toList <+: line) ↔
      Confined (List.replicate n ' ') note) ∧
      (e.NotesConfined →
        codeLines (entityClass settings e) = codeLines (entityClass settings e.withoutNotes)) :=
  ⟨summaryChars_commented_iff n note, codeLines_entityClass_withoutNotes⟩

def orders (note : String) : EntityPlan where
  table := { name := "orders", note := some note }
  name := "Order"
  setName := "Orders"
  key := none
  properties := []
  indexes := []
  navigations := []

/-- A note of two lines, the first of which ends with a carriage return and a line feed. -/
theorem orders_commented :
    (orders "Placed by users\r\nTotal < 1000").NotesConfined ∧
      codeLines (entityClass {} (orders "Placed by users\r\nTotal < 1000")) =
        codeLines (entityClass {} (orders "Placed by users\r\nTotal < 1000").withoutNotes) := by
  have h : (orders "Placed by users\r\nTotal < 1000").NotesConfined := by
    refine ⟨?_, by simp [orders]⟩
    rintro note hn
    obtain rfl := Option.some.inj hn
    decide
  exact ⟨h, (commented_iff_confined 0 [] {} _).2 h⟩

/-- A compiler reads what follows a carriage return that stands alone. -/
theorem orders_note_compiled :
    ¬ (∀ line ∈ sourceLines (summaryChars [] "Orders\rpublic delegate void Injected();".toList),
        "///".toList <+: line) ∧
      "public delegate void Injected();".toList ∈
        codeLines (entityClass {} (orders "Orders\rpublic delegate void Injected();")) := by
  decide +kernel

end Code

end EntityGen
