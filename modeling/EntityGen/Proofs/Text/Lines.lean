import EntityGen.Text.Basic
import Mathlib.Data.List.Infix

/-! # Lines of a text

A text is cut at its line feeds, so no line has one. A text that stops with a line feed is cut
without regard to what follows.
-/

namespace EntityGen.Text

variable {c : Char} {a b cs line word : List Char}

theorem forall_getLast?_of_cons {P : Char → Prop} (h : ∀ d ∈ (c :: a).getLast?, P d) :
    ∀ d ∈ a.getLast?, P d := by
  cases a with
  | nil => exact nofun
  | cons b rest => rwa [List.getLast?_cons_cons] at h

theorem getLast?_flatMap {α : Type} {f : α → List Char} {xs : List α}
    (h : ∀ x ∈ xs, (f x).getLast? = some '\n') : ∀ c ∈ (xs.flatMap f).getLast?, c = '\n' := by
  intro c hc
  rcases List.eq_nil_or_concat xs with rfl | ⟨before, x, rfl⟩
  · cases hc
  · rw [List.concat_eq_append, List.flatMap_append, List.flatMap_singleton, List.getLast?_append,
      h x (by simp)] at hc
    exact (Option.some.inj hc).symm

theorem dropReturn_eq (h : cs.getLast? ≠ some '\r') : dropReturn cs = cs :=
  if_neg h

theorem prefix_dropReturn (hp : a <+: cs) (h : a.getLast? ≠ some '\r') : a <+: dropReturn cs := by
  unfold dropReturn
  split
  · next hl =>
    obtain ⟨front, rfl⟩ := List.getLast?_eq_some_iff.mp hl
    rw [List.dropLast_concat]
    rcases List.prefix_concat_iff.mp hp with rfl | hp
    · exact absurd hl h
    · exact hp
  · exact hp

theorem linesFrom_append (h : '\n' ∉ a) (word b : List Char) :
    linesFrom word (a ++ b) = linesFrom (a.reverse ++ word) b := by
  induction a generalizing word with
  | nil => rfl
  | cons c a ih =>
    rw [List.mem_cons, not_or] at h
    rw [List.cons_append, linesFrom, if_neg (Ne.symm h.1), ih h.2, List.reverse_cons,
      List.append_assoc, List.singleton_append]

/-- A line without line feeds before a line feed. -/
theorem lines_line (h : '\n' ∉ a) (b : List Char) :
    lines (a ++ '\n' :: b) = dropReturn a :: lines b := by
  rw [lines, linesFrom_append h, linesFrom, if_pos rfl, List.append_nil, List.reverse_reverse,
    lines]

theorem linesFrom_append_of_getLast? (h : ∀ c ∈ a.getLast?, c = '\n') (hw : a = [] → word = [])
    (b : List Char) : linesFrom word (a ++ b) = linesFrom word a ++ lines b := by
  induction a generalizing word with
  | nil =>
    rw [hw rfl]
    rfl
  | cons c a ih =>
    rw [List.cons_append, linesFrom, linesFrom]
    by_cases hc : c = '\n'
    · rw [if_pos hc, if_pos hc, ih (forall_getLast?_of_cons h) fun _ => rfl, List.cons_append]
    · rw [if_neg hc, if_neg hc]
      refine ih (forall_getLast?_of_cons h) ?_
      rintro rfl
      exact absurd (h c rfl) hc

theorem lines_append (h : ∀ c ∈ a.getLast?, c = '\n') (b : List Char) :
    lines (a ++ b) = lines a ++ lines b :=
  linesFrom_append_of_getLast? h (fun _ => rfl) b

theorem lines_flatMap {α : Type} {f : α → List Char} {xs : List α}
    (h : ∀ x ∈ xs, ∀ c ∈ (f x).getLast?, c = '\n') :
    lines (xs.flatMap f) = xs.flatMap fun x => lines (f x) := by
  induction xs with
  | nil => rfl
  | cons x xs ih =>
    obtain ⟨hx, hxs⟩ := List.forall_mem_cons.mp h
    rw [List.flatMap_cons, lines_append hx, ih hxs, List.flatMap_cons]

/-- Lines that are written one below the other are found again. -/
theorem lines_flatMap_lineFeed {ls : List (List Char)}
    (h : ∀ l ∈ ls, '\n' ∉ l ∧ l.getLast? ≠ some '\r') :
    lines (ls.flatMap fun l => l ++ ['\n']) = ls := by
  induction ls with
  | nil => rfl
  | cons l ls ih =>
    obtain ⟨⟨hn, hr⟩, hls⟩ := List.forall_mem_cons.mp h
    rw [List.flatMap_cons, List.append_assoc, List.singleton_append, lines_line hn,
      dropReturn_eq hr, ih hls]

theorem lineFeed_not_mem_of_mem_linesFrom (hw : '\n' ∉ word) (h : line ∈ linesFrom word cs) :
    '\n' ∉ line := by
  fun_induction linesFrom word cs with
  | case1 => exact absurd h List.not_mem_nil
  | case2 word he =>
    obtain rfl := List.mem_singleton.mp h
    exact fun hm => hw (List.mem_reverse.mp hm)
  | case3 word rest ih =>
    rcases List.mem_cons.mp h with rfl | h
    · unfold dropReturn
      split
      · exact fun hm => hw (List.mem_reverse.mp (List.mem_of_mem_dropLast hm))
      · exact fun hm => hw (List.mem_reverse.mp hm)
    · exact ih List.not_mem_nil h
  | case4 word c rest hc ih => exact ih (by simp [hw, Ne.symm hc]) h

theorem lineFeed_not_mem_of_mem_lines (h : line ∈ lines cs) : '\n' ∉ line :=
  lineFeed_not_mem_of_mem_linesFrom List.not_mem_nil h

/-- The first line keeps the start that it was given. -/
theorem exists_lines_eq_cons (hn : a ≠ []) (h : '\n' ∉ a) (hr : a.getLast? ≠ some '\r')
    (b : List Char) : ∃ first rest, lines (a ++ b) = first :: rest ∧ a <+: first := by
  have hfrom : ∀ word, a <+: word.reverse →
      ∃ first rest, linesFrom word b = first :: rest ∧ a <+: first := by
    intro word hp
    fun_induction linesFrom word b with
    | case1 word he =>
      rw [List.isEmpty_iff.mp he] at hp
      exact absurd (List.prefix_nil.mp hp) hn
    | case2 word he => exact ⟨_, _, rfl, hp⟩
    | case3 word rest ih => exact ⟨_, _, rfl, prefix_dropReturn hp hr⟩
    | case4 word c rest hc ih =>
      refine ih ?_
      rw [List.reverse_cons]
      exact hp.trans (List.prefix_append _ _)
  rw [lines, linesFrom_append h, List.append_nil]
  exact hfrom _ (by rw [List.reverse_reverse])

end EntityGen.Text
