import EntityGen.Proofs.Code.Literals
import EntityGen.Proofs.Code.NoteLines
import EntityGen.Proofs.Code.Passage

/-! # Lines above a class

Comments and annotations stand above the declaration of a class, each in lines of its own. A note
comes as comment lines and texts come as literals, so neither makes an annotation. The key is set
there by one line when it has several properties, and by none otherwise.
-/

namespace EntityGen.Code

open Text

/-! ## Texts on one line -/

def OneLine (s : String) : Prop :=
  '\n' ∉ s.toList

instance : DecidablePred OneLine :=
  fun s => inferInstanceAs (Decidable ('\n' ∉ s.toList))

variable {s t : String} {xs : List String}

theorem OneLine.append (hs : OneLine s) (ht : OneLine t) : OneLine (s ++ t) := by
  rw [OneLine, String.toList_append, List.mem_append, not_or]
  exact ⟨hs, ht⟩

theorem OneLine.intercalate (hs : OneLine s) (h : ∀ x ∈ xs, OneLine x) :
    OneLine (s.intercalate xs) := by
  induction xs with
  | nil => exact List.not_mem_nil
  | cons x xs ih =>
    obtain ⟨hx, hxs⟩ := List.forall_mem_cons.mp h
    cases xs with
    | nil => simpa using hx
    | cons y ys =>
      rw [String.intercalate_cons_cons]
      exact (hx.append hs).append (ih hxs)

theorem oneLine_literal (value : String) : OneLine (literal value) := by
  rw [OneLine, toList_literal]
  simp [(isBody_flatMap_escapeChar value.toList).lineFeed]

theorem oneLine_nameofs (h : ∀ x ∈ xs, OneLine x) : OneLine (nameofs xs) := by
  refine OneLine.intercalate (by decide) fun x hx => ?_
  obtain ⟨name, hn, rfl⟩ := List.mem_map.mp hx
  have hopen : OneLine "nameof(" := by decide
  exact (hopen.append (h name hn)).append (by decide)

/-! ## Cutting into lines -/

def linesOf (text : String) : List (List Char) :=
  lines text.toList

theorem linesOf_append (hs : EndsLine s) (t : String) :
    linesOf (s ++ t) = linesOf s ++ linesOf t := by
  rw [linesOf, String.toList_append, lines_append hs]
  rfl

theorem linesOf_join (h : ∀ x ∈ xs, EndsLine x) :
    linesOf (String.join xs) = xs.flatMap linesOf := by
  rw [linesOf, String.toList_join, lines_flatMap h]
  rfl

theorem linesOf_closed (h : OneLine s) : linesOf (s ++ ")]\n") = [(s ++ ")]").toList] := by
  have hline : (s ++ ")]\n").toList = (s ++ ")]").toList ++ '\n' :: [] := by simp
  have hone : OneLine (s ++ ")]") := h.append (by decide)
  have hlast : (s ++ ")]").toList.getLast? ≠ some '\r' := by simp [List.getLast?_append]
  rw [linesOf, hline, lines_line hone, dropReturn_eq hlast]
  rfl

/-! ## Comment lines -/

/-- Whatever the note is, only comment lines come of it. -/
theorem prefix_of_mem_lines_summaryChars {note cs : List Char}
    (h : cs ∈ lines (summaryChars [] note)) : "///".toList <+: cs := by
  by_cases hn : Blanks note
  · rw [summaryChars_eq_nil_iff.mpr hn] at h
    exact absurd h List.not_mem_nil
  · rw [lines_summaryChars List.not_mem_nil hn] at h
    simp only [framed, noteLines, List.cons_append, List.mem_cons, List.mem_append, List.mem_map,
      List.not_mem_nil, or_false] at h
    rcases h with rfl | ⟨line, -, rfl⟩ | rfl
    · decide
    · exact prefix_commentLine [] _
    · decide

theorem prefix_of_mem_linesOf_summary {note : Option String} {cs : List Char}
    (h : cs ∈ linesOf (summary "" note)) : "///".toList <+: cs := by
  cases note with
  | none => exact absurd h List.not_mem_nil
  | some note =>
    rw [linesOf, summary, String.toList_ofList] at h
    exact prefix_of_mem_lines_summaryChars h

/-! ## Annotations -/

def isDeclaration (line : List Char) : Bool :=
  "public partial class".toList.isPrefixOf line

def headLines (text : String) : List (List Char) :=
  (linesOf text).takeWhile fun line => !isDeclaration line

def isKeyLine (line : List Char) : Bool :=
  "[PrimaryKey".toList.isPrefixOf line

def keyLines (text : String) : List String :=
  ((headLines text).filter isKeyLine).map String.ofList

theorem headLines_append (hs : EndsLine s) (h : ∀ line ∈ linesOf s, isDeclaration line = false)
    (t : String) : headLines (s ++ ("public partial class" ++ t)) = linesOf s := by
  obtain ⟨first, rest, hl, hp⟩ := exists_lines_eq_cons (a := "public partial class".toList)
    (by decide) (by decide) (by decide) t.toList
  have hdeclares : isDeclaration first = true := List.isPrefixOf_iff_prefix.mpr hp
  have hfrom : linesOf ("public partial class" ++ t) = first :: rest := by
    rw [linesOf, String.toList_append, hl]
  rw [headLines, linesOf_append hs, hfrom, List.takeWhile_append_of_pos (by simpa using h),
    List.takeWhile_cons_of_neg (by simp [hdeclares]), List.append_nil]

variable {e : EntityPlan} {line : List Char}

structure OneLineNames (e : EntityPlan) : Prop where
  key : ∀ key ∈ e.key, ∀ name ∈ key.properties, OneLine name
  indexes : ∀ i ∈ e.indexes, ∀ name ∈ i.properties, OneLine name

/-- The line neither declares a class nor sets a key. -/
structure Unmarked (line : List Char) : Prop where
  declaration : isDeclaration line = false
  key : isKeyLine line = false

theorem filter_isKeyLine_eq_nil {ls : List (List Char)} (h : ∀ line ∈ ls, Unmarked line) :
    ls.filter isKeyLine = [] :=
  List.filter_eq_nil_iff.mpr fun line hl => by simp [(h line hl).key]

theorem unmarked_of_mem_linesOf_summary {note : Option String}
    (h : line ∈ linesOf (summary "" note)) : Unmarked line := by
  obtain ⟨rest, rfl⟩ := prefix_of_mem_linesOf_summary h
  exact ⟨rfl, rfl⟩

theorem unmarked_of_mem_linesOf_tableLine {name : String}
    (h : line ∈ linesOf ("[Table(" ++ literal name ++ ")]\n")) : Unmarked line := by
  have hopen : OneLine "[Table(" := by decide
  rw [linesOf_closed (hopen.append (oneLine_literal name)), List.mem_singleton] at h
  subst h
  simp only [String.toList_append, List.append_assoc]
  exact ⟨rfl, rfl⟩

theorem unmarked_of_mem_linesOf_indexLine {i : IndexPlan} (hi : ∀ name ∈ i.properties, OneLine name)
    (h : line ∈ linesOf (indexLine i)) : Unmarked line := by
  have hopen : OneLine "[Index(" := by decide
  have hname : OneLine ", Name = " := by decide
  have hunique : OneLine ", IsUnique = " := by decide
  have hflag : OneLine (booleanText i.unique) := by
    unfold booleanText
    split <;> decide
  have hone := ((((hopen.append (oneLine_nameofs hi)).append hname).append
    (oneLine_literal i.name)).append hunique).append hflag
  rw [indexLine, linesOf_closed hone, List.mem_singleton] at h
  subst h
  simp only [String.toList_append, List.append_assoc]
  exact ⟨rfl, rfl⟩

def keyLine (names : List String) : String :=
  "[PrimaryKey(" ++ nameofs names ++ ")]"

theorem linesOf_compositeKeyLine (h : OneLineNames e) :
    linesOf (compositeKeyLine e) = ((e.key.filter fun key => 1 < key.properties.length).map
      fun key => (keyLine key.properties).toList).toList := by
  unfold compositeKeyLine
  cases hk : e.key with
  | none => rfl
  | some key =>
    by_cases hl : 1 < key.properties.length
    · have hopen : OneLine "[PrimaryKey(" := by decide
      have hone := hopen.append (oneLine_nameofs (h.key key hk))
      dsimp only
      rw [if_pos hl, linesOf_closed hone, Option.filter_some, if_pos (by simpa using hl)]
      rfl
    · dsimp only
      rw [if_neg hl, Option.filter_some, if_neg (by simpa using hl)]
      rfl

theorem marks_of_mem_linesOf_compositeKeyLine (h : OneLineNames e)
    (hl : line ∈ linesOf (compositeKeyLine e)) :
    isDeclaration line = false ∧ isKeyLine line = true := by
  rw [linesOf_compositeKeyLine h, Option.mem_toList, Option.map_eq_some_iff] at hl
  obtain ⟨key, -, rfl⟩ := hl
  simp only [keyLine, String.toList_append, List.append_assoc]
  exact ⟨rfl, rfl⟩

def classMarks (e : EntityPlan) : String :=
  summary "" e.table.note ++ ("[Table(" ++ literal e.table.name ++ ")]\n" ++
    (compositeKeyLine e ++ String.join (e.indexes.map indexLine)))

theorem endsLine_compositeKeyLine (e : EntityPlan) : EndsLine (compositeKeyLine e) := by
  unfold compositeKeyLine
  split
  · exact .ite (.of_last _ rfl) .empty
  · exact .empty

theorem endsLine_of_mem_indexLines (h : s ∈ e.indexes.map indexLine) : EndsLine s := by
  obtain ⟨i, -, rfl⟩ := List.mem_map.mp h
  exact .of_last _ rfl

theorem unmarked_of_mem_indexLines (h : OneLineNames e)
    (hl : line ∈ (e.indexes.map indexLine).flatMap linesOf) : Unmarked line := by
  obtain ⟨x, hx, hl⟩ := List.mem_flatMap.mp hl
  obtain ⟨i, hi, rfl⟩ := List.mem_map.mp hx
  exact unmarked_of_mem_linesOf_indexLine (h.indexes i hi) hl

theorem linesOf_classMarks (e : EntityPlan) :
    linesOf (classMarks e) = linesOf (summary "" e.table.note) ++
      (linesOf ("[Table(" ++ literal e.table.name ++ ")]\n") ++
        (linesOf (compositeKeyLine e) ++ (e.indexes.map indexLine).flatMap linesOf)) := by
  rw [classMarks, linesOf_append (endsLine_summary _ _), linesOf_append (.of_last _ rfl),
    linesOf_append (endsLine_compositeKeyLine e),
    linesOf_join fun _ => endsLine_of_mem_indexLines]

theorem headLines_entityClass (settings : Settings) (h : OneLineNames e) :
    headLines (entityClass settings e) = linesOf (classMarks e) := by
  -- The head stops where the declaration starts, so the name in it may be any text.
  have hclass : "public partial class " = "public partial class" ++ " " := rfl
  have hcut : entityClass settings e = classMarks e ++ ("public partial class" ++ (" " ++
      (e.name ++ ("\n\x7b\n" ++
        ("\n".intercalate (members settings.collectionType e) ++ "\x7d\n"))))) := by
    simp only [entityClass, classMarks, toString, hclass, String.append_assoc]
  have hends : EndsLine (classMarks e) := by
    have hjoin : EndsLine (String.join (e.indexes.map indexLine)) :=
      .join fun _ => endsLine_of_mem_indexLines
    exact (endsLine_summary _ _).append
      ((EndsLine.of_last _ rfl).append ((endsLine_compositeKeyLine e).append hjoin))
  rw [hcut]
  refine headLines_append hends (fun line hl => ?_) _
  rw [linesOf_classMarks, List.mem_append, List.mem_append, List.mem_append] at hl
  rcases hl with hl | hl | hl | hl
  · exact (unmarked_of_mem_linesOf_summary hl).declaration
  · exact (unmarked_of_mem_linesOf_tableLine hl).declaration
  · exact (marks_of_mem_linesOf_compositeKeyLine h hl).1
  · exact (unmarked_of_mem_indexLines h hl).declaration

theorem keyLines_entityClass (settings : Settings) (h : OneLineNames e) :
    keyLines (entityClass settings e) =
      ((e.key.filter fun key => 1 < key.properties.length).map
        fun key => keyLine key.properties).toList := by
  have hsummary : (linesOf (summary "" e.table.note)).filter isKeyLine = [] :=
    filter_isKeyLine_eq_nil fun _ => unmarked_of_mem_linesOf_summary
  have htable : (linesOf ("[Table(" ++ literal e.table.name ++ ")]\n")).filter isKeyLine = [] :=
    filter_isKeyLine_eq_nil fun _ => unmarked_of_mem_linesOf_tableLine
  have hindexes : ((e.indexes.map indexLine).flatMap linesOf).filter isKeyLine = [] :=
    filter_isKeyLine_eq_nil fun _ => unmarked_of_mem_indexLines h
  have hkey : (linesOf (compositeKeyLine e)).filter isKeyLine = linesOf (compositeKeyLine e) :=
    List.filter_eq_self.mpr fun line hl => (marks_of_mem_linesOf_compositeKeyLine h hl).2
  rw [keyLines, headLines_entityClass settings h, linesOf_classMarks, List.filter_append,
    List.filter_append, List.filter_append, hsummary, htable, hindexes, hkey,
    linesOf_compositeKeyLine h]
  cases e.key.filter fun key => 1 < key.properties.length with
  | none => rfl
  | some key => simp

end EntityGen.Code
