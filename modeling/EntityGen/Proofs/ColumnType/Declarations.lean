import EntityGen.ColumnType
import EntityGen.Proofs.Text.Blank
import Mathlib.Algebra.Group.Nat.Defs
import Mathlib.Data.List.Basic

/-! # Declared types

A type is declared by its name, sizes in parentheses and array markers, with blanks at every joint.
Resolving finds all three again: the scalar of the name, the depth of the array, and the facets of
the sizes when they are small enough and meant for this scalar.
-/

namespace EntityGen

open Text

/-! ## Written types -/

/-- A name that sizes and markers can be put behind. -/
structure IsTypeName (name : List Char) : Prop where
  ne_nil : name ≠ []
  tight : Tight name
  noSizes : '(' ∉ name
  noMarker : ¬ ['[', ']'] <:+ name

inductive WritesSizes : List Nat → List Char → Prop
  | none {cs : List Char} : Blanks cs → WritesSizes [] cs
  | one {n : Nat} {arg : List Char} : Padded (toString n).toList arg → WritesSizes [n] arg
  | more {n m : Nat} {sizes : List Nat} {arg cs : List Char} : Padded (toString n).toList arg →
      WritesSizes (m :: sizes) cs → WritesSizes (n :: m :: sizes) (arg ++ ',' :: cs)

/-- The text declares the named type with some sizes, in an array of some depth. -/
inductive Declares (name : List Char) : List Nat → Nat → List Char → Prop
  | plain {cs : List Char} : Padded name cs → Declares name [] 0 cs
  | sized {sizes : List Nat} {head args tail : List Char} : Padded name head →
      WritesSizes sizes args → Blanks tail →
      Declares name sizes 0 (head ++ '(' :: args ++ ')' :: tail)
  | array {sizes : List Nat} {depth : Nat} {cs marker : List Char} :
      Declares name sizes depth cs → Padded ['[', ']'] marker →
      Declares name sizes (depth + 1) (cs ++ marker)

/-- The sizes that count: all of them when each fits into 32 bits. -/
def fittingSizes (sizes : List Nat) : List Nat :=
  if ∀ n ∈ sizes, n < 2 ^ 32 then sizes else []

/-! ## Sizes -/

section Sizes

variable {c : Char} {n : Nat} {sizes : List Nat} {cs arg : List Char}

theorem isBlank_of_isDigit (h : c.isDigit = true) : isBlank c = false := by
  have hc : 48 ≤ c.toNat ∧ c.toNat ≤ 57 := by
    simpa [Char.isDigit, UInt32.le_iff_toNat_le] using h
  simp [isBlank, inRanges, blankRanges, CodeRange.contains]
  omega

theorem isDigit_of_mem_toString (h : c ∈ (toString n).toList) : c.isDigit = true := by
  rw [Nat.toString_eq_repr, Nat.toList_repr] at h
  exact Nat.isDigit_of_mem_toDigits (by decide) (Nat.le_refl 10) h

theorem tight_toString (n : Nat) : Tight (toString n).toList where
  head _ hc := isBlank_of_isDigit (isDigit_of_mem_toString (List.mem_of_mem_head? hc))
  last _ hc := isBlank_of_isDigit (isDigit_of_mem_toString (List.mem_of_getLast? hc))

theorem digitsValue_eq_ofDigitChars (h : ∀ c ∈ cs, c.isDigit = true) :
    digitsValue 10 cs = Nat.ofDigitChars 10 cs 0 := by
  have hstep : ∀ m, cs.foldl (fun n d => 10 * n + digitValue d) m = Nat.ofDigitChars 10 cs m := by
    induction cs with
    | nil => exact fun _ => rfl
    | cons c cs ih =>
      obtain ⟨hc, hcs⟩ := List.forall_mem_cons.mp h
      intro m
      rw [List.foldl_cons, ih hcs, Nat.ofDigitChars_cons, digitValue, if_pos hc]
  exact hstep 0

theorem decimal?_of_isDigit (hn : cs ≠ []) (h : ∀ c ∈ cs, c.isDigit = true) :
    decimal? cs = some (Nat.ofDigitChars 10 cs 0) := by
  have hall : cs.all Char.isDigit = true := List.all_eq_true.mpr h
  have hne : cs.isEmpty = false := List.isEmpty_eq_false_iff.mpr hn
  unfold decimal?
  split
  · exact absurd (h '+' List.mem_cons_self) (by decide)
  · simp [hall, hne, digitsValue_eq_ofDigitChars h]

theorem size?_toString (n : Nat) :
    ResolvedType.size? (toString n).toList = if n < 2 ^ 32 then some n else none := by
  have hn : (toString n).toList ≠ [] := by
    rw [Nat.toString_eq_repr, Nat.toList_repr]
    exact Nat.toDigits_ne_nil
  have hd : decimal? (toString n).toList = some n := by
    rw [decimal?_of_isDigit hn fun c => isDigit_of_mem_toString, Nat.toString_eq_repr,
      Nat.toList_repr, Nat.ofDigitChars_toDigits (by decide) (Nat.le_refl 10)]
  rw [ResolvedType.size?, hd, Option.filter_some]
  simp

theorem comma_not_mem_of_padded (h : Padded (toString n).toList arg) : ',' ∉ arg := by
  intro hc
  rcases h.mem hc with hb | hm
  · exact absurd hb (by decide)
  · exact absurd (isDigit_of_mem_toString hm) (by decide)

theorem closing_not_mem_of_writesSizes (h : WritesSizes sizes cs) : ')' ∉ cs := by
  have hpadded : ∀ {n : Nat} {arg : List Char}, Padded (toString n).toList arg → ')' ∉ arg := by
    intro n arg h hc
    rcases h.mem hc with hb | hm
    · exact absurd hb (by decide)
    · exact absurd (isDigit_of_mem_toString hm) (by decide)
  induction h with
  | none hb => exact fun hc => absurd (hb _ hc) (by decide)
  | one harg => exact hpadded harg
  | more harg _ ih => simpa using ⟨hpadded harg, ih⟩

/-- The sizes are read together or not at all. -/
theorem mapM_size?_of_writesSizes (h : WritesSizes sizes cs) (hn : sizes ≠ []) :
    ((ResolvedType.splitCommas cs).mapM fun arg => ResolvedType.size? (trim arg)) =
      if ∀ n ∈ sizes, n < 2 ^ 32 then some sizes else none := by
  induction h with
  | none => exact absurd rfl hn
  | @one n arg harg =>
    rw [ResolvedType.splitCommas, List.splitOn_eq_singleton (comma_not_mem_of_padded harg),
      List.mapM_cons, trim_of_padded (tight_toString n) harg, size?_toString]
    by_cases hn : n < 2 ^ 32
    · rw [if_pos hn, if_pos (by simpa using hn)]
      rfl
    · rw [if_neg hn, if_neg (by simpa using hn)]
      rfl
  | @more n m sizes arg cs harg _ ih =>
    have hcons : (∀ k ∈ n :: m :: sizes, k < 2 ^ 32) ↔
        n < 2 ^ 32 ∧ ∀ k ∈ m :: sizes, k < 2 ^ 32 := List.forall_mem_cons
    have hrest := ih (List.cons_ne_nil m sizes)
    rw [ResolvedType.splitCommas] at hrest
    rw [ResolvedType.splitCommas,
      List.splitOn_append_cons_self_of_not_mem (comma_not_mem_of_padded harg),
      List.mapM_cons, trim_of_padded (tight_toString n) harg, size?_toString, hrest]
    by_cases hn : n < 2 ^ 32
    · by_cases hs : ∀ k ∈ m :: sizes, k < 2 ^ 32
      · rw [if_pos hn, if_pos hs, if_pos (hcons.mpr ⟨hn, hs⟩)]
        rfl
      · rw [if_pos hn, if_neg hs, if_neg fun h => hs (hcons.mp h).2]
        rfl
    · rw [if_neg hn, if_neg fun h => hn (hcons.mp h).1]
      rfl

theorem sizes_of_writesSizes (h : WritesSizes sizes cs) :
    ((ResolvedType.splitCommas cs).mapM fun arg => ResolvedType.size? (trim arg)).getD [] =
      fittingSizes sizes := by
  by_cases hn : sizes = []
  · subst hn
    cases h with
    | none hb =>
      have hcomma : ',' ∉ cs := fun hc => absurd (hb _ hc) (by decide)
      rw [ResolvedType.splitCommas, List.splitOn_eq_singleton hcomma, List.mapM_cons, hb.trim_eq]
      rfl
  · rw [mapM_size?_of_writesSizes h hn, fittingSizes]
    split <;> rfl

end Sizes

/-! ## Array markers -/

namespace ResolvedType

variable {c : Char} {blanks cs marker name gap args : List Char}

theorem splitMarkers_blank (h : isBlank c = true) (cs : List Char) :
    splitMarkers (c :: cs) = splitMarkers cs := by
  rw [splitMarkers, if_pos h]
  rintro rest rfl
  exact absurd h (by decide)

theorem splitMarkers_blanks (h : Blanks blanks) (cs : List Char) :
    splitMarkers (blanks ++ cs) = splitMarkers cs := by
  induction blanks with
  | nil => rfl
  | cons c blanks ih =>
    obtain ⟨hc, hb⟩ := List.forall_mem_cons.mp h
    rw [List.cons_append, splitMarkers_blank hc, ih hb]

theorem splitMarkers_marker (h : Padded ['[', ']'] marker) (cs : List Char) :
    splitMarkers (marker.reverse ++ cs) = ((splitMarkers cs).1 + 1, (splitMarkers cs).2) := by
  obtain ⟨before, after, hb, ha, rfl⟩ := h
  simp only [List.reverse_append, List.append_assoc]
  rw [splitMarkers_blanks ha.reverse]
  show splitMarkers (']' :: '[' :: (before.reverse ++ cs)) = _
  rw [splitMarkers, splitMarkers_blanks hb.reverse]

/-- Nothing is cut off from a text that ends neither in a blank nor in a marker. -/
theorem splitMarkers_reverse (hn : cs ≠ []) (hl : ∀ c ∈ cs.getLast?, isBlank c = false)
    (hm : ¬ ['[', ']'] <:+ cs) : splitMarkers cs.reverse = (0, cs.reverse) := by
  have hp : ¬ [']', '['] <+: cs.reverse := fun h => hm (List.reverse_prefix.mp h)
  have hb : ∀ c ∈ cs.reverse.head?, isBlank c = false := by simpa using hl
  have hne : cs.reverse ≠ [] := by simpa using hn
  generalize cs.reverse = ds at hp hb hne
  cases ds with
  | nil => exact absurd rfl hne
  | cons c ds =>
    rw [splitMarkers, if_neg (by simp [hb c rfl])]
    rintro rest rfl rfl
    exact hp ⟨rest, rfl⟩

/-- Blanks before a name make no marker of its end. -/
theorem not_marker_suffix (hb : Blanks blanks) (h : IsTypeName name) :
    ¬ ['[', ']'] <:+ blanks ++ name := by
  rintro ⟨stem, hs⟩
  obtain ⟨front, x, rfl⟩ := (List.eq_nil_or_concat name).resolve_left h.ne_nil
  have hs' : (stem ++ ['[']) ++ [']'] = (blanks ++ front) ++ [x] := by simpa using hs
  obtain ⟨hf, hx⟩ := List.append_inj' hs' rfl
  obtain rfl := List.singleton_inj.mp hx
  rcases List.eq_nil_or_concat front with rfl | ⟨front, y, rfl⟩
  · rw [List.append_nil] at hf
    exact absurd (hb '[' (hf ▸ List.mem_concat_self)) (by decide)
  · rw [List.concat_eq_append, ← List.append_assoc] at hf
    obtain ⟨-, hy⟩ := List.append_inj' hf rfl
    obtain rfl := List.singleton_inj.mp hy
    exact h.noMarker ⟨front, by simp⟩

/-! ## Names and sizes -/

theorem isBlank_of_closed (cs : List Char) : ∀ c ∈ (cs ++ [')']).getLast?, isBlank c = false := by
  intro c hc
  rw [List.getLast?_concat, Option.mem_some_iff] at hc
  subst hc
  decide

theorem not_marker_of_closed (cs : List Char) : ¬ ['[', ']'] <:+ cs ++ [')'] := by
  rintro ⟨stem, hs⟩
  have hs' : (stem ++ ['[']) ++ [']'] = cs ++ [')'] := by simpa using hs
  exact absurd (List.append_inj' hs' rfl).2 (by decide)

theorem trimClosing_append (h : ')' ∉ args) : trimClosing (args ++ [')']) = args := by
  have hr : ∀ c ∈ args.reverse, (c == ')') = false := by
    intro c hc
    rw [beq_eq_false_iff_ne]
    rintro rfl
    exact h (List.mem_reverse.mp hc)
  have hdrop : args.reverse.dropWhile (· == ')') = args.reverse := by
    generalize args.reverse = ds at hr
    cases ds with
    | nil => rfl
    | cons c ds => exact List.dropWhile_cons_of_neg (by simp [hr c List.mem_cons_self])
  rw [trimClosing, List.reverse_append, List.reverse_singleton, List.singleton_append,
    List.dropWhile_cons_of_pos (by rfl), hdrop, List.reverse_reverse]

theorem splitSizes_of_plain (h : '(' ∉ name) : splitSizes name = (name, []) := by
  have hd : name.dropWhile (· != '(') = [] := by
    refine List.dropWhile_eq_nil_iff.mpr fun c hc => ?_
    rw [bne_iff_ne]
    rintro rfl
    exact h hc
  rw [splitSizes, hd]

theorem splitSizes_of_sized {sizes : List Nat} (hn : '(' ∉ name) (hw : WritesSizes sizes args) :
    splitSizes (name ++ '(' :: (args ++ [')'])) = (name, fittingSizes sizes) := by
  have hp : ∀ c ∈ name, (c != '(') = true := by
    intro c hc
    rw [bne_iff_ne]
    rintro rfl
    exact hn hc
  have hend : trimEnd (args ++ [')']) = args ++ [')'] := trimEnd_eq (isBlank_of_closed args)
  rw [splitSizes, List.dropWhile_append_of_pos hp, List.takeWhile_append_of_pos hp,
    List.dropWhile_cons_of_neg (by decide), List.takeWhile_cons_of_neg (by decide),
    List.append_nil]
  dsimp only
  rw [hend, trimClosing_append (closing_not_mem_of_writesSizes hw), sizes_of_writesSizes hw]

/-- A declaration without its markers is the name, maybe with blanks behind, and the sizes. -/
theorem exists_split_of_declares {sizes : List Nat} {depth : Nat} (hn : IsTypeName name)
    (h : Declares name sizes depth cs) :
    ∃ base gap, splitMarkers cs.reverse = (depth, base.reverse) ∧ Blanks gap ∧
      splitSizes (trim base) = (name ++ gap, fittingSizes sizes) := by
  induction h with
  | plain hp =>
    obtain ⟨before, after, hb, ha, rfl⟩ := hp
    refine ⟨before ++ name, [], ?_, .nil, ?_⟩
    · rw [List.reverse_append, splitMarkers_blanks ha.reverse]
      refine splitMarkers_reverse (by simp [hn.ne_nil]) ?_ (not_marker_suffix hb hn)
      rw [List.getLast?_append_of_ne_nil before hn.ne_nil]
      exact hn.tight.last
    · rw [trim_of_padded hn.tight ⟨before, [], hb, .nil, by simp⟩, List.append_nil]
      exact splitSizes_of_plain hn.noSizes
  | @sized sizes head args tail hp hw ht =>
    obtain ⟨before, after, hb, ha, rfl⟩ := hp
    have hbase : before ++ name ++ after ++ '(' :: args ++ ')' :: tail =
        before ++ (name ++ after ++ '(' :: (args ++ [')'])) ++ tail := by simp
    have hclosed : ∀ front : List Char, front ++ (name ++ after ++ '(' :: (args ++ [')'])) =
        (front ++ name ++ after ++ '(' :: args) ++ [')'] := by simp
    have htight : Tight (name ++ after ++ '(' :: (args ++ [')'])) := by
      refine ⟨?_, hclosed [] ▸ isBlank_of_closed _⟩
      rw [List.append_assoc, List.head?_append_of_ne_nil _ hn.ne_nil]
      exact hn.tight.head
    have hopen : '(' ∉ name ++ after := by
      rw [List.mem_append, not_or]
      exact ⟨hn.noSizes, fun hc => absurd (ha _ hc) (by decide)⟩
    refine ⟨before ++ (name ++ after ++ '(' :: (args ++ [')'])), after, ?_, ha, ?_⟩
    · rw [hbase, List.reverse_append, splitMarkers_blanks ht.reverse]
      rw [hclosed before]
      exact splitMarkers_reverse (by simp) (isBlank_of_closed _) (not_marker_of_closed _)
    · rw [trim_of_padded htight ⟨before, [], hb, .nil, by simp⟩]
      exact splitSizes_of_sized hopen hw
  | @array sizes depth cs marker _ hm ih =>
    obtain ⟨base, gap, hs, hg, hb⟩ := ih
    refine ⟨base, gap, ?_, hg, hb⟩
    rw [List.reverse_append, splitMarkers_marker hm, hs]

/-! ## Resolving -/

theorem ofChars_of_declares {sizes : List Nat} {depth : Nat} (hn : IsTypeName name)
    (h : Declares name sizes depth cs) :
    ofChars cs =
      if depth = 0 then ofScalar (Scalar.ofName name) (fittingSizes sizes)
      else ⟨(ColumnType.scalar (Scalar.ofName name)).nest depth, none, none⟩ := by
  obtain ⟨base, gap, hm, hg, hs⟩ := exists_split_of_declares hn h
  have htrim : trim (name ++ gap) = name := trim_of_padded hn.tight ⟨[], gap, .nil, hg, rfl⟩
  have hname : Scalar.ofName (name ++ gap) = Scalar.ofName name := by
    rw [Scalar.ofName, htrim, Scalar.ofName, hn.tight.trim_eq]
  rw [ofChars, hm]
  dsimp only
  rw [List.reverse_reverse, hs]
  dsimp only
  rw [hname]
  rfl

structure Resolves (r : ResolvedType) (s : Scalar) (sizes : List Nat) (depth : Nat) : Prop where
  type : r.type = (ColumnType.scalar s).nest depth
  length : ∀ n, r.length = some n ↔ depth = 0 ∧ s = .string ∧ sizes = [n] ∧ n < 2 ^ 32
  precision : ∀ p scale, r.precision = some (p, scale) ↔
    depth = 0 ∧ s = .decimal ∧ sizes = p :: scale.toList ∧ ∀ n ∈ sizes, n < 2 ^ 32
  render : ∀ nullable : Bool, r.type.render nullable = s.keyword ++
    (if nullable ∧ depth = 0 ∧ s ≠ .string then "?" else "") ++
    String.join (List.replicate depth "[]")

theorem render_nest (s : Scalar) (depth : Nat) (nullable : Bool) :
    ((ColumnType.scalar s).nest depth).render nullable = s.keyword ++
      (if nullable ∧ depth = 0 ∧ s ≠ .string then "?" else "") ++
      String.join (List.replicate depth "[]") := by
  induction depth generalizing nullable with
  | zero =>
    rw [ColumnType.nest, ColumnType.render]
    cases nullable <;> cases s <;> rfl
  | succ depth ih =>
    rw [ColumnType.nest, ColumnType.render, ih false, List.replicate_succ', String.join_append]
    simp [String.append_assoc]

theorem ofScalar_length_eq_some (s : Scalar) (sizes : List Nat) (n : Nat) :
    (ofScalar s sizes).length = some n ↔ s = .string ∧ sizes = [n] := by
  unfold ofScalar
  dsimp only
  split <;> simp_all

theorem ofScalar_precision_eq_some (s : Scalar) (sizes : List Nat) (p : Nat)
    (scale : Option Nat) :
    (ofScalar s sizes).precision = some (p, scale) ↔
      s = .decimal ∧ sizes = p :: scale.toList := by
  unfold ofScalar
  dsimp only
  split <;> cases scale <;> simp_all

theorem fittingSizes_eq_cons (sizes : List Nat) (n : Nat) (rest : List Nat) :
    fittingSizes sizes = n :: rest ↔ sizes = n :: rest ∧ ∀ n ∈ sizes, n < 2 ^ 32 := by
  rw [fittingSizes]
  by_cases h : ∀ n ∈ sizes, n < 2 ^ 32
  · rw [if_pos h]
    exact ⟨fun hs => ⟨hs, h⟩, And.left⟩
  · rw [if_neg h]
    exact ⟨fun hs => absurd hs.symm (List.cons_ne_nil n rest), fun hs => absurd hs.2 h⟩

/-- A declaration resolves to the scalar of its name in an array of its depth. -/
theorem resolves_of_declares {name : String} {sizes : List Nat} {depth : Nat} {declared : String}
    (hn : IsTypeName name.toList) (h : Declares name.toList sizes depth declared.toList) :
    Resolves (ofDeclaration declared) (Scalar.ofName name.toList) sizes depth := by
  have hof := ofChars_of_declares hn h
  rw [ofDeclaration, hof]
  by_cases hd : depth = 0
  · rw [if_pos hd]
    subst hd
    refine ⟨rfl, fun n => ?_, fun p scale => ?_, render_nest _ 0⟩
    · rw [ofScalar_length_eq_some, fittingSizes_eq_cons]
      constructor
      · rintro ⟨hs, rfl, hf⟩
        exact ⟨rfl, hs, rfl, hf n List.mem_cons_self⟩
      · rintro ⟨-, hs, rfl, hf⟩
        exact ⟨hs, rfl, by simpa using hf⟩
    · rw [ofScalar_precision_eq_some, fittingSizes_eq_cons]
      simp
  · rw [if_neg hd]
    exact ⟨rfl, by simp [hd], by simp [hd], render_nest _ depth⟩

theorem numeric_array_resolves :
    IsTypeName "numeric".toList ∧
      Declares "numeric".toList [10, 2] 1 "numeric ( 10, 2 ) []".toList ∧
      Resolves (ofDeclaration "numeric ( 10, 2 ) []") .decimal [10, 2] 1 := by
  have htight : Tight "numeric".toList := by
    refine ⟨?_, ?_⟩ <;> rintro c ⟨⟩ <;> rfl
  have hn : IsTypeName "numeric".toList := ⟨by decide, htight, by decide, by decide⟩
  have hb : Blanks [' '] := by simp [Blanks]; decide
  have hsizes : WritesSizes [10, 2] " 10, 2 ".toList :=
    .more ⟨[' '], [], hb, .nil, rfl⟩ (.one ⟨[' '], [' '], hb, hb, rfl⟩)
  have hbase : Declares "numeric".toList [10, 2] 0 "numeric ( 10, 2 )".toList :=
    .sized ⟨[], [' '], .nil, hb, rfl⟩ hsizes .nil
  have h : Declares "numeric".toList [10, 2] 1 "numeric ( 10, 2 ) []".toList :=
    .array hbase ⟨[' '], [], hb, .nil, rfl⟩
  exact ⟨hn, h, resolves_of_declares hn h⟩

example : (ofDeclaration " decimal ( 10 , 2 ) ").precision = some (10, some 2) := by
  decide +kernel

end ResolvedType

end EntityGen
