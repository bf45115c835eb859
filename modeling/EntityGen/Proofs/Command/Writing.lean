import EntityGen.Proofs.Command.Runs
import EntityGen.Proofs.Pass.FileNames

/-! # Writing units

Writing a unit leaves its code at its path or fails, and changes no file anywhere else. Units with
distinct file names do not disturb each other, so after all of them are written each path reads the
code of its unit.
-/

namespace EntityGen

namespace FileTree

variable {t : FileTree} {directory a b : String} {q : List String}

/-- Two plain paths below one directory lead to two places. -/
theorem eq_of_place?_join (ha : Path.IsPlain a) (hb : Path.IsPlain b)
    (hqa : t.place? (Path.join directory a) = some q)
    (hqb : t.place? (Path.join directory b) = some q) : a = b := by
  obtain ⟨d, hd, rfl⟩ := place?_join ha hqa
  obtain ⟨d', hd', he⟩ := place?_join hb hqb
  obtain rfl : d = d' := Option.some.inj (hd.symm.trans hd')
  exact Path.parts_injective (List.append_cancel_left he)

end FileTree

namespace Command

variable {α β : Type} {t t' t'' : FileTree} {path text : String}
  {files files' : List (String × String)}

/-! ## Parts of commands that write -/

/-- A part of a command that stops it when it does not work. -/
def insist (action : StateM FileTree Bool) (failure : Failure) :
    Command (StateM FileTree) Unit := do
  if ← access action then pure () else throw failure

theorem gives_insist_true {action : StateM FileTree Bool} (h : action t = (true, t'))
    (failure : Failure) : Gives (insist action failure) t (.ok ()) [] t' := by
  have ha := Gives.access action t
  rw [h] at ha
  exact ha.bind (Observes.pure ())

theorem gives_insist_false {action : StateM FileTree Bool} (h : action t = (false, t'))
    (failure : Failure) : Gives (insist action failure) t (.error failure) [] t' := by
  have ha := Gives.access action t
  rw [h] at ha
  exact ha.bind (Observes.throw failure)

theorem gives_createDirectories (h : t.createDirectories path = (true, t')) :
    Gives (insist (FileTree.disk.createDirectories path) (.directoryNotCreated path)) t (.ok ())
      [] t' :=
  gives_insist_true h _

theorem gives_writeText (h : t.writeText path text = (true, t')) :
    Gives (insist (FileTree.disk.writeText path text) (.fileNotWritten path)) t (.ok ()) [] t' :=
  gives_insist_true h _

def IsFilePlace (t : FileTree) (files : List (String × String)) (place : List String) : Prop :=
  ∃ file ∈ files, t.place? file.1 = some place

/-- The files are in the tree, unless a failure has come in between. -/
structure Saves (files : List (String × String)) (t : FileTree) (result : Except Failure α)
    (t' : FileTree) : Prop where
  grows : FileTree.Grows (IsFilePlace t' files) t t'
  failure : ∀ e, result = .error e → e.IsWriting
  saved : ∀ a, result = .ok a → ∀ file ∈ files, t'.readText file.1 = some file.2

namespace IsFilePlace

variable {place : List String}

theorem mono (h : IsFilePlace t files place) (hs : files ⊆ files') : IsFilePlace t files' place :=
  h.imp fun _ => And.imp_left (hs ·)

theorem of_grows {written : List String → Prop} (h : IsFilePlace t files place)
    (hg : FileTree.Grows written t t') : IsFilePlace t' files place :=
  h.imp fun _ => And.imp_right hg.place?

end IsFilePlace

namespace Saves

variable {r : Except Failure α} {s : Except Failure β} {a : α} {e : Failure}

theorem of_eq_nil (h : ∀ written, FileTree.Grows written t t')
    (he : ∀ e, r = .error e → e.IsWriting) : Saves [] t r t' :=
  ⟨h _, he, fun _ _ => List.forall_mem_nil _⟩

/-- A failure ends a sequence of files. -/
theorem error (h : Saves files t (.error e : Except Failure α) t') (hs : files ⊆ files') :
    Saves files' t (.error e : Except Failure β) t' := by
  refine ⟨h.grows.mono fun _ hp => hp.mono hs, ?_, nofun⟩
  rintro _ ⟨⟩
  exact h.failure e rfl

/-- Files that are saved stay when others are saved at other places. -/
theorem append (h : Saves files t (.ok a) t') (h' : Saves files' t' s t'')
    (hd : ∀ file ∈ files, ∀ file' ∈ files', ∀ q, t''.place? file.1 = some q →
      t''.place? file'.1 ≠ some q) : Saves (files ++ files') t s t'' := by
  refine ⟨?_, h'.failure, fun b hb file hm => ?_⟩
  · have hfirst := h.grows.mono fun _ hp =>
      (hp.of_grows h'.grows).mono (List.subset_append_left files files')
    exact hfirst.trans (h'.grows.mono fun _ hp => hp.mono (List.subset_append_right files files'))
  · rcases List.mem_append.mp hm with hm | hm
    · refine h'.grows.readText (h.saved a rfl file hm) fun q hq hw => ?_
      obtain ⟨file', hm', hq'⟩ := hw
      exact hd file hm file' hm' q (h'.grows.place? hq) hq'
    · exact h'.saved b hb file hm

end Saves

theorem exists_createDirectories (t : FileTree) (path : String) :
    ∃ (r : Except Failure Unit) (t' : FileTree),
      Gives (insist (FileTree.disk.createDirectories path) (.directoryNotCreated path)) t r [] t' ∧
        Saves [] t r t' := by
  have hg : ∀ written, FileTree.Grows written t (t.createDirectories path).2 := fun written =>
    FileTree.grows_createDirectories t path
  cases hc : t.createDirectories path with
  | mk created t' =>
    rw [hc] at hg
    cases created with
    | true => exact ⟨_, t', gives_createDirectories hc, .of_eq_nil hg nofun⟩
    | false =>
      refine ⟨_, t', gives_insist_false hc _, .of_eq_nil hg ?_⟩
      rintro _ ⟨⟩
      trivial

theorem exists_writeText (t : FileTree) (path text : String) :
    ∃ (r : Except Failure Unit) (t' : FileTree),
      Gives (insist (FileTree.disk.writeText path text) (.fileNotWritten path)) t r [] t' ∧
        Saves [(path, text)] t r t' ∧ FileTree.Grows (t.place? path = some ·) t t' := by
  cases hw : t.writeText path text with
  | mk written t' =>
    cases written with
    | true =>
      obtain ⟨place, hp, hg, hfile⟩ := FileTree.writeText_eq_true hw
      refine ⟨_, t', gives_writeText hw, ⟨hg.mono ?_, nofun, fun _ _ => ?_⟩, hg.mono ?_⟩
      · rintro _ rfl
        exact ⟨_, List.mem_singleton_self _, hg.place? hp⟩
      · rintro _ hm
        obtain rfl := List.mem_singleton.mp hm
        simp [FileTree.readText, hg.place? hp, hfile, Content.text?]
      · rintro _ rfl
        exact hp
    | false =>
      obtain rfl := FileTree.writeText_eq_false hw
      refine ⟨_, t', gives_insist_false hw _, ⟨.refl t', ?_, nofun⟩, .refl t'⟩
      rintro _ ⟨⟩
      trivial

/-! ## Units -/

section Units

variable {directory : String} {unit : GeneratedUnit} {units : List GeneratedUnit}

def unitFile (directory : String) (unit : GeneratedUnit) : String × String :=
  (Path.join directory unit.fileName, unit.code)

theorem Saves.readText_unit {a : α} (h : Saves (units.map (unitFile directory)) t (.ok a) t')
    (hm : unit ∈ units) : t'.readText (Path.join directory unit.fileName) = some unit.code :=
  h.saved a rfl (unitFile directory unit) (List.mem_map_of_mem hm)

def saveUnit (directory : String) (unit : GeneratedUnit) : Command (StateM FileTree) Bool := do
  let path := Path.join directory unit.fileName
  let above := Path.parent path
  insist (FileTree.disk.createDirectories above) (.directoryNotCreated above)
  insist (FileTree.disk.writeText path unit.code) (.fileNotWritten path)
  note ⟨.info, .commands, s!"Wrote {path}", []⟩
  return true

theorem writeUnit_eq (directory : String) (unit : GeneratedUnit) :
    writeUnit FileTree.disk directory unit = (do
      let path := Path.join directory unit.fileName
      if (← access (FileTree.disk.readText path)) == some unit.code then
        note ⟨.debug, .commands, s!"Unchanged {path}", []⟩
        return false
      else saveUnit directory unit) := by
  unfold writeUnit saveUnit insist
  refine bind_congr fun existing => ?_
  dsimp only
  split
  · rfl
  · simp only [bind_assoc]
    refine bind_congr fun created => ?_
    cases created
    · rfl
    · simp only [Bool.not_true, Bool.false_eq_true, if_false, if_true, pure_bind]
      refine bind_congr fun written => ?_
      cases written <;> rfl

theorem observes_writeUnit
    (h : t.readText (Path.join directory unit.fileName) = some unit.code) :
    Observes (writeUnit FileTree.disk directory unit) t (.ok false) := by
  rw [writeUnit_eq]
  refine (observes_readText t _).bind ?_
  rw [if_pos (by rw [h, beq_self_eq_true])]
  exact (Observes.noteAll _).bind (.pure false)

theorem gives_saveUnit
    (hc : t.createDirectories (Path.parent (Path.join directory unit.fileName)) = (true, t'))
    (hw : t'.writeText (Path.join directory unit.fileName) unit.code = (true, t'')) :
    Gives (saveUnit directory unit) t (.ok true) [] t'' :=
  (gives_createDirectories hc).bind ((gives_writeText hw).bind
    ((Observes.noteAll _).bind (.pure true)))

/-- A unit that can be saved is saved, unless it is there already. -/
theorem exists_writeUnit_ok
    (hc : t.createDirectories (Path.parent (Path.join directory unit.fileName)) = (true, t'))
    (hw : t'.writeText (Path.join directory unit.fileName) unit.code = (true, t'')) :
    ∃ written after, Gives (writeUnit FileTree.disk directory unit) t (.ok written) [] after := by
  by_cases h : t.readText (Path.join directory unit.fileName) = some unit.code
  · exact ⟨false, t, observes_writeUnit h⟩
  · refine ⟨true, t'', ?_⟩
    rw [writeUnit_eq]
    refine (observes_readText t _).then_gives ?_
    rw [if_neg (by simpa using h)]
    exact gives_saveUnit hc hw

theorem exists_saveUnit (t : FileTree) (directory : String) (unit : GeneratedUnit) :
    ∃ (r : Except Failure Bool) (t' : FileTree), Gives (saveUnit directory unit) t r [] t' ∧
      Saves [unitFile directory unit] t r t' := by
  obtain ⟨r, t₁, hc, hs⟩ :=
    exists_createDirectories t (Path.parent (Path.join directory unit.fileName))
  cases r with
  | error e => exact ⟨_, t₁, hc.bind_error, hs.error (List.nil_subset _)⟩
  | ok =>
    obtain ⟨s, t₂, hw, hs', -⟩ := exists_writeText t₁ (Path.join directory unit.fileName) unit.code
    have hboth := hs.append hs' (List.forall_mem_nil _)
    cases s with
    | error e => exact ⟨_, t₂, hc.bind hw.bind_error, hboth.error (List.Subset.refl _)⟩
    | ok =>
      refine ⟨.ok true, t₂, hc.bind (hw.bind ((Observes.noteAll _).bind (.pure true))),
        hboth.grows, nofun, fun _ _ => hboth.saved () rfl⟩

theorem exists_writeUnit (t : FileTree) (directory : String) (unit : GeneratedUnit) :
    ∃ (r : Except Failure Bool) (t' : FileTree),
      Gives (writeUnit FileTree.disk directory unit) t r [] t' ∧
        Saves [unitFile directory unit] t r t' := by
  by_cases h : t.readText (Path.join directory unit.fileName) = some unit.code
  · refine ⟨_, t, observes_writeUnit h, .refl t, nofun, fun _ _ => ?_⟩
    exact List.forall_mem_singleton.mpr h
  · obtain ⟨r, t', hg, hs⟩ := exists_saveUnit t directory unit
    refine ⟨r, t', ?_, hs⟩
    rw [writeUnit_eq]
    refine (observes_readText t _).then_gives ?_
    rw [if_neg (by simpa using h)]
    exact hg

/-- Units with distinct file names are saved, each in a file of its own. -/
theorem exists_writeUnits (hp : ∀ unit ∈ units, Path.IsPlain unit.fileName)
    (hn : (units.map (·.fileName)).Nodup) (t : FileTree) (directory : String) :
    ∃ (r : Except Failure Nat) (t' : FileTree),
      Gives (writeUnits FileTree.disk directory units) t r [] t' ∧
        Saves (units.map (unitFile directory)) t r t' := by
  induction units generalizing t with
  | nil => exact ⟨_, t, Observes.pure 0, .of_eq_nil (fun _ => .refl t) nofun⟩
  | cons unit rest ih =>
    obtain ⟨hpu, hpr⟩ := List.forall_mem_cons.mp hp
    obtain ⟨hnu, hnr⟩ := List.nodup_cons.mp hn
    obtain ⟨r, t₁, hg, hs⟩ := exists_writeUnit t directory unit
    rw [writeUnits]
    cases r with
    | error e => exact ⟨_, t₁, hg.bind_error, hs.error (by simp)⟩
    | ok written =>
      obtain ⟨s, t₂, hg', hs'⟩ := ih hpr hnr t₁
      -- Plain paths lead to different places, so writing the rest leaves the first file alone.
      have hall := hs.append hs' (by
        intro file hm file' hm' q hq hq'
        obtain rfl := List.mem_singleton.mp hm
        obtain ⟨other, ho, rfl⟩ := List.mem_map.mp hm'
        have he := FileTree.eq_of_place?_join hpu (hpr other ho) hq hq'
        exact hnu (List.mem_map.mpr ⟨other, ho, he.symm⟩))
      cases s with
      | error e => exact ⟨_, t₂, hg.bind hg'.bind_error, hall⟩
      | ok count =>
        exact ⟨.ok _, t₂, hg.bind (hg'.bind (Observes.pure _)), hall.grows, nofun,
          fun _ _ => hall.saved count rfl⟩

/-- Units whose files are there already are left alone. -/
theorem observes_writeUnits
    (h : ∀ unit ∈ units, t.readText (Path.join directory unit.fileName) = some unit.code) :
    Observes (writeUnits FileTree.disk directory units) t (.ok 0) := by
  induction units with
  | nil => exact .pure 0
  | cons unit rest ih =>
    obtain ⟨hu, hr⟩ := List.forall_mem_cons.mp h
    exact (observes_writeUnit hu).bind ((ih hr).bind (.pure 0))

/-- A single unit is saved where its file can be made. -/
theorem exists_writeUnits_singleton
    (hc : t.createDirectories (Path.parent (Path.join directory unit.fileName)) = (true, t'))
    (hw : t'.writeText (Path.join directory unit.fileName) unit.code = (true, t'')) :
    ∃ written after,
      Gives (writeUnits FileTree.disk directory [unit]) t (.ok written) [] after := by
  obtain ⟨written, after, hg⟩ := exists_writeUnit_ok hc hw
  have hrest : Observes (writeUnits FileTree.disk directory []) after (.ok 0) :=
    observes_writeUnits (List.forall_mem_nil _)
  rw [writeUnits]
  exact ⟨_, after, hg.bind (hrest.bind (.pure _))⟩

end Units

end Command

end EntityGen
