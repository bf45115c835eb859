import EntityGen.Proofs.Command.Writing

/-! # Files of a new project

Starting a project makes its manifest and one schema below its directory. The schema is made only
where no file is. A manifest that is there already stops the command, unless its path leads nowhere
before the directory of the schema is created.
-/

namespace EntityGen

namespace Starter

variable {name : String}

theorem isIdentifier_className (h : nameError? name = none) :
    isIdentifier (className name).toList = true := by
  unfold nameError? at h
  dsimp only at h
  split at h
  · cases h
  split at h
  · cases h
  next hi => simpa using hi

theorem no_slash_of_nameError? (h : nameError? name = none) : '/' ∉ name.toList := by
  intro hm
  obtain ⟨piece, hp, hs⟩ := exists_mem_of_mem_splitOnP (p := isSeparator) hm (by decide)
  have hc : '/' ∈ Naming.capitalizeChars piece := by
    cases piece with
    | nil => cases hs
    | cons c rest =>
      rcases List.mem_cons.mp hs with rfl | hr
      · exact List.mem_append_left _ (by decide)
      · exact List.mem_append_right _ hr
  refine Target.no_slash_of_isIdentifier (isIdentifier_className h) ?_
  rw [className, String.toList_ofList]
  exact List.mem_flatMap.mpr ⟨piece, hp, hc⟩

theorem isPart_schemaFile (h : nameError? name = none) : Path.IsPart (name ++ ".json") :=
  Path.isPart_append (no_slash_of_nameError? h) (by decide) (by decide)

end Starter

namespace Command

variable {t t' : FileTree} {name directory path text : String}

theorem createFile_eq (path text : String) : createFile FileTree.disk path text = (do
    insist (FileTree.disk.writeText path text) (.fileNotWritten path)
    printLine s!"  Created {path}") := by
  unfold createFile insist
  rw [bind_assoc]
  refine bind_congr fun written => ?_
  cases written <;> rfl

def createMissing (path text : String) : Command (StateM FileTree) Unit := do
  if ← access (FileTree.disk.pathExists path) then pure () else createFile FileTree.disk path text

def manifestPath (directory : String) : String :=
  Path.join directory Manifest.fileName

def schemaPath (name directory : String) : String :=
  Path.join (Path.join directory "schemas") (name ++ ".json")

def fill (name directory : String) : Command (StateM FileTree) Unit := do
  insist (FileTree.disk.createDirectories (Path.join directory "schemas"))
    (.directoryNotCreated (Path.join directory "schemas"))
  createMissing (schemaPath name directory) Starter.schemaText
  createFile FileTree.disk (manifestPath directory)
    (Starter.manifestText name (Starter.className name))
  note ⟨.info, .settingUp, s!"Initialized schemagen project in {directory}", []⟩
  print (nextSteps directory)

theorem start_eq (environment level : Option String) (name : String) (directory : Option String) :
    start FileTree.disk environment level name directory = (do
      setUpLog environment level
      match Starter.nameError? name with
      | some failure => throw failure
      | none =>
        let manifest := manifestPath (directory.getD ".")
        if ← access (FileTree.disk.pathExists manifest) then throw (.manifestExists manifest)
        else fill name (directory.getD ".")) := by
  unfold start fill insist createMissing manifestPath schemaPath
  refine bind_congr fun _ => ?_
  cases Starter.nameError? name with
  | some failure => exact throw_bind failure
  | none =>
    refine bind_congr fun taken => ?_
    cases taken with
    | true => exact throw_bind _
    | false =>
      simp only [Bool.false_eq_true, if_false, bind_assoc]
      refine bind_congr fun created => ?_
      cases created with
      | false => simp only [Bool.not_false, Bool.false_eq_true, if_true, if_false, throw_bind]
      | true =>
        simp only [Bool.not_true, Bool.false_eq_true, if_false, if_true, pure_bind]
        refine bind_congr fun found => ?_
        cases found <;> simp only [Bool.not_true, Bool.not_false, Bool.false_eq_true, if_false,
          if_true, pure_bind]

theorem Gives.request_start {environment level directory : Option String}
    {r : Except Failure Unit} {texts : List String}
    (h : Gives (start FileTree.disk environment level name directory) t r texts t') :
    ∃ errorOutput, t.request environment (.start level name directory) =
      (⟨exitCode (r.map fun _ => 0), String.join texts, errorOutput⟩, t') :=
  (h.map fun _ => 0).runCommand_eq

/-! ## What is made -/

theorem exists_createFile (t : FileTree) (path text : String) :
    ∃ (r : Except Failure Unit) (texts : List String) (t' : FileTree),
      Gives (createFile FileTree.disk path text) t r texts t' ∧
      FileTree.Grows (t.place? path = some ·) t t' ∧ ∀ e, r = .error e → e.IsWriting := by
  obtain ⟨r, t', hg, hs, hgrows⟩ := exists_writeText t path text
  rw [createFile_eq]
  cases r with
  | error e => exact ⟨_, _, t', hg.bind_error, hgrows, hs.failure⟩
  | ok => exact ⟨_, _, t', hg.bind (Gives.printLine _ t'), hgrows, nofun⟩

/-- Nothing is at a place that does not exist. -/
theorem file?_of_not_pathExists {place : List String} (h : t.pathExists path = false)
    (hp : t.place? path = some place) : t.file? place = none := by
  have hn : t.isDirectory place = false ∧ t.file? place = none := by
    simpa [FileTree.pathExists, hp] using h
  exact hn.2

theorem exists_createMissing (t : FileTree) (path text : String) :
    ∃ (r : Except Failure Unit) (texts : List String) (t' : FileTree),
      Gives (createMissing path text) t r texts t' ∧
      FileTree.Grows (fun q => t.place? path = some q ∧ t.file? q = none) t t' ∧
      ∀ e, r = .error e → e.IsWriting := by
  cases h : t.pathExists path with
  | true =>
    refine ⟨.ok (), [], t, (observes_pathExists t path).then_gives ?_, .refl t, nofun⟩
    rw [if_pos h]
    exact Observes.pure ()
  | false =>
    obtain ⟨r, texts, t', hg, hgrows, he⟩ := exists_createFile t path text
    refine ⟨r, texts, t', (observes_pathExists t path).then_gives ?_,
      hgrows.mono fun q hq => ⟨hq, file?_of_not_pathExists h hq⟩, he⟩
    rw [if_neg (Bool.eq_false_iff.mp h)]
    exact hg

theorem isPart_manifest : Path.IsPart Manifest.fileName := by
  decide

theorem isPart_schemas : Path.IsPart "schemas" := by
  decide

/-- The files that a new project gets: no schema is replaced. -/
def IsStarterPlace (t t' : FileTree) (name directory : String) (place : List String) : Prop :=
  t'.place? (manifestPath directory) = some place ∨
    t'.place? (schemaPath name directory) = some place ∧ t.file? place = none

theorem file?_eq_none_of_grows {written : List String → Prop} {place : List String}
    (h : FileTree.Grows written t t') (hf : t'.file? place = none) : t.file? place = none := by
  cases hq : t.file? place with
  | none => rfl
  | some content =>
    have hs := h.isSome_file? (q := place) (by rw [hq]; rfl)
    rw [hf] at hs
    cases hs

theorem exists_fill (t : FileTree) (name directory : String) :
    ∃ (r : Except Failure Unit) (texts : List String) (t' : FileTree),
      Gives (fill name directory) t r texts t' ∧
      FileTree.Grows (IsStarterPlace t t' name directory) t t' ∧
        ∀ e, r = .error e → e.IsWriting := by
  unfold fill
  obtain ⟨r₁, t₁, h₁, hs₁⟩ := exists_createDirectories t (Path.join directory "schemas")
  have hg₁ : ∀ written, FileTree.Grows written t t₁ := fun _ =>
    hs₁.grows.mono fun _ ⟨_, hm, _⟩ => absurd hm List.not_mem_nil
  cases r₁ with
  | error e => exact ⟨.error e, _, t₁, h₁.bind_error, hg₁ _, hs₁.failure⟩
  | ok =>
  obtain ⟨r₂, texts₂, t₂, h₂, hg₂, he₂⟩ :=
    exists_createMissing t₁ (schemaPath name directory) Starter.schemaText
  have hschema : ∀ t' written, FileTree.Grows written t₂ t' →
      FileTree.Grows (IsStarterPlace t t' name directory) t t₂ := fun _ written hg =>
    (hg₁ _).trans (hg₂.mono fun q ⟨hp, hf⟩ =>
      .inr ⟨hg.place? (hg₂.place? hp), file?_eq_none_of_grows (hg₁ written) hf⟩)
  cases r₂ with
  | error e =>
    have hstarted := hschema t₂ (fun _ => False) (.refl t₂)
    exact ⟨.error e, _, t₂, h₁.bind h₂.bind_error, hstarted, he₂⟩
  | ok =>
  obtain ⟨r₃, texts₃, t₃, h₃, hg₃, he₃⟩ :=
    exists_createFile t₂ (manifestPath directory)
      (Starter.manifestText name (Starter.className name))
  have hall : FileTree.Grows (IsStarterPlace t t₃ name directory) t t₃ :=
    (hschema _ _ hg₃).trans (hg₃.mono fun q hp => .inl (hg₃.place? hp))
  cases r₃ with
  | error e => exact ⟨.error e, _, t₃, h₁.bind (h₂.bind h₃.bind_error), hall, he₃⟩
  | ok =>
    exact ⟨.ok (), _, t₃, h₁.bind (h₂.bind (h₃.bind ((Observes.noteAll _).then_gives
      (Gives.print _ t₃)))), hall, nofun⟩

inductive Started (name directory : String) (t : FileTree) : Except Failure Unit → FileTree → Prop
  | refused {e : Failure} : Started name directory t (.error e) t
  | filled {r : Except Failure Unit} {t' : FileTree} : Starter.nameError? name = none →
      t.pathExists (manifestPath directory) = false →
      FileTree.Grows (IsStarterPlace t t' name directory) t t' →
      (∀ e, r = .error e → e.IsWriting) → Started name directory t r t'

theorem exists_start (t : FileTree) (environment level : Option String) (name : String)
    (directory : Option String) : ∃ (r : Except Failure Unit) (texts : List String) (t' : FileTree),
      Gives (start FileTree.disk environment level name directory) t r texts t' ∧
        Started name (directory.getD ".") t r t' := by
  rw [start_eq]
  have hlog := Observes.setUpLog (t := t) environment level
  cases hl : logFilter environment level with
  | error e =>
    rw [hl] at hlog
    exact ⟨_, _, t, hlog.bind_error, .refused⟩
  | ok filter =>
  rw [hl] at hlog
  cases hn : Starter.nameError? name with
  | some e => exact ⟨_, _, t, hlog.bind (.throw e), .refused⟩
  | none =>
  have hexists := observes_pathExists t (manifestPath (directory.getD "."))
  cases hm : t.pathExists (manifestPath (directory.getD ".")) with
  | true =>
    rw [hm] at hexists
    exact ⟨_, _, t, hlog.bind (hexists.bind (.throw _)), .refused⟩
  | false =>
    rw [hm] at hexists
    obtain ⟨r, texts, t', hg, hgrows, he⟩ := exists_fill t name (directory.getD ".")
    exact ⟨r, texts, t', hlog.then_gives (hexists.then_gives hg), .filled hn hm hgrows he⟩

namespace Started

variable {r : Except Failure Unit} {place : List String}

theorem eq_of_early {e : Failure} (h : Started name directory t (.error e) t')
    (he : ¬ e.IsWriting) : t' = t := by
  cases h with
  | refused => rfl
  | filled _ _ _ hw => exact absurd (hw e rfl) he

/-- A file that changes is the manifest or the schema, at its place below the directory. -/
theorem place_of_ne (h : Started name directory t r t') (hne : t'.file? place ≠ t.file? place) :
    ∃ d, t'.follow? directory = some d ∧
      (place = d ++ ["schemagen.toml"] ∨ place = d ++ ["schemas", name ++ ".json"]) := by
  cases h with
  | refused => exact absurd rfl hne
  | filled hn _ hg =>
    rcases hg.written_of_ne hne with hm | ⟨hs, -⟩
    · obtain ⟨d, hd, rfl⟩ := FileTree.place?_join (Path.isPlain_of_isPart isPart_manifest) hm
      refine ⟨d, hd, .inl ?_⟩
      rw [Path.parts_of_no_slash isPart_manifest.no_slash]
      rfl
    · have hschema := Starter.isPart_schemaFile hn
      obtain ⟨_, hbelow, rfl⟩ := FileTree.place?_join (Path.isPlain_of_isPart hschema) hs
      obtain ⟨d, hd, rfl⟩ :=
        FileTree.follow?_join_of_isPlain (Path.isPlain_of_isPart isPart_schemas) hbelow
      refine ⟨d, hd, .inr ?_⟩
      rw [Path.parts_of_no_slash hschema.no_slash, Path.parts_of_no_slash isPart_schemas.no_slash,
        List.append_assoc]
      rfl

/-- A file that is there already changes only if it is the manifest and the path of the manifest
has led nowhere before. -/
theorem kept (h : Started name directory t r t') (hne : t'.file? place ≠ t.file? place)
    (hf : (t.file? place).isSome = true) : t.place? (manifestPath directory) = none ∧
      t'.place? (manifestPath directory) = some place := by
  cases h with
  | refused => exact absurd rfl hne
  | filled _ hm hg =>
    rcases hg.written_of_ne hne with hp | ⟨-, hnone⟩
    · refine ⟨?_, hp⟩
      cases hq : t.place? (manifestPath directory) with
      | none => rfl
      | some q =>
        obtain rfl := Option.some.inj ((hg.place? hq).symm.trans hp)
        rw [file?_of_not_pathExists hm hq] at hf
        cases hf
    · rw [hnone] at hf
      cases hf

end Started

end Command

end EntityGen
