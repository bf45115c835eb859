import EntityGen.Proofs.Command.Prediction
import EntityGen.Proofs.Command.Starting

/-! # Files that commands own

Of all requests only generating and starting change a tree. Generating changes the files of units,
and starting makes a manifest and a schema. A command that stops before it writes leaves the tree as
it is.
-/

namespace EntityGen.Command

variable {t : FileTree} {environment level : Option String} {options : GenerateOptions}

/-- The tree after generating holds the code of every unit, and other files as they were. -/
structure GeneratesOwn (t : FileTree) (environment level : Option String)
    (options : GenerateOptions) (t' : FileTree) : Prop where
  early : ∀ e, result (generate FileTree.disk environment level options) t = .error e →
    ¬ e.IsWriting → t' = t
  written : ∀ tidings, result (generate FileTree.disk environment level options) t = .ok tidings →
    ∃ p, prepared t environment level (options.manifest.getD Manifest.fileName) = .ok p ∧
      ∀ unit ∈ p.units,
        t'.readText (Path.join (options.directory p.project) unit.fileName) = some unit.code
  place_of_ne : ∀ place, t'.file? place ≠ t.file? place →
    ∃ p, prepared t environment level (options.manifest.getD Manifest.fileName) = .ok p ∧
      ∃ unit ∈ p.units,
        t'.place? (Path.join (options.directory p.project) unit.fileName) = some place

/-- The tree after starting a project has at most two files more. A file that was there has changed
only if the path of the manifest leads to it and has led nowhere before. -/
structure StartsOwn (t : FileTree) (environment level : Option String) (name : String)
    (directory : Option String) (t' : FileTree) : Prop where
  early : ∀ e, result (start FileTree.disk environment level name directory) t = .error e →
    ¬ e.IsWriting → t' = t
  place_of_ne : ∀ place, t'.file? place ≠ t.file? place →
    ∃ d, t'.follow? (directory.getD ".") = some d ∧
      (place = d ++ ["schemagen.toml"] ∨ place = d ++ ["schemas", name ++ ".json"])
  kept : ∀ place, t'.file? place ≠ t.file? place → (t.file? place).isSome = true →
    t.place? (manifestPath (directory.getD ".")) = none ∧
      t'.place? (manifestPath (directory.getD ".")) = some place

theorem generatesOwn (t : FileTree) (environment level : Option String)
    (hs : options.stdout = false) :
    GeneratesOwn t environment level options
      (t.request environment (.generate level options)).2 := by
  cases h : prepared t environment level (options.manifest.getD Manifest.fileName) with
  | error e =>
    have hg := observes_generate_of_error options h
    rw [Gives.tree_generate hg]
    refine ⟨fun _ _ _ => rfl, fun tidings ht => ?_, fun _ hne => absurd rfl hne⟩
    cases hg.result_eq.symm.trans ht
  | ok p =>
    obtain ⟨r, texts, t', hg, hsaves⟩ := exists_generate options hs h
    rw [hg.tree_generate]
    refine ⟨fun e he hearly => ?_, fun tidings ht => ⟨p, h, ?_⟩, fun place hne => ⟨p, h, ?_⟩⟩
    · rw [hg.result_eq] at he
      cases r with
      | ok written => cases he
      | error e' =>
        exact absurd (hsaves.failure e (congrArg Except.error (Except.error.inj he))) hearly
    · rw [hg.result_eq] at ht
      cases r with
      | error e => cases ht
      | ok written => exact fun unit hm => hsaves.readText_unit hm
    · obtain ⟨file, hm, hp⟩ := hsaves.grows.written_of_ne hne
      obtain ⟨unit, hu, rfl⟩ := List.mem_map.mp hm
      exact ⟨unit, hu, hp⟩

theorem startsOwn (t : FileTree) (environment level : Option String) (name : String)
    (directory : Option String) :
    StartsOwn t environment level name directory
      (t.request environment (.start level name directory)).2 := by
  obtain ⟨r, texts, t', hg, hs⟩ := exists_start t environment level name directory
  obtain ⟨_, hr⟩ := hg.request_start
  have htree : (t.request environment (.start level name directory)).2 = t' := congrArg (·.2) hr
  rw [htree]
  refine ⟨fun e he hearly => ?_, fun _ => hs.place_of_ne, fun _ => hs.kept⟩
  rw [hg.result_eq] at he
  subst he
  exact hs.eq_of_early hearly

theorem request_check (t : FileTree) (environment level manifest : Option String) :
    (t.request environment (.check level manifest)).2 = t := by
  have hc : ∃ r texts, Gives (check FileTree.disk environment level manifest) t r texts t := by
    cases h : prepared t environment level (manifest.getD Manifest.fileName) with
    | error e => exact ⟨_, gives_check_of_error h⟩
    | ok p => exact ⟨_, _, gives_check h⟩
  obtain ⟨r, texts, hc⟩ := hc
  obtain ⟨_, hr⟩ := hc.request_check
  exact congrArg (·.2) hr

theorem request_generate_stdout (t : FileTree) (environment level : Option String)
    (hs : options.stdout = true) :
    (t.request environment (.generate level options)).2 = t := by
  have hg : ∃ r texts, Gives (generate FileTree.disk environment level options) t r texts t := by
    cases h : prepared t environment level (options.manifest.getD Manifest.fileName) with
    | error e => exact ⟨_, _, observes_generate_of_error options h⟩
    | ok p => exact ⟨_, _, gives_generate_stdout options hs h⟩
  obtain ⟨r, texts, hg⟩ := hg
  exact hg.tree_generate

/-- Every command line changes only the files that its command owns. -/
theorem run_changes_own_files (t : FileTree) (environment : Option String) (args : List String) :
    match Arguments.request? none args with
    | some (.generate level options) =>
      if options.stdout then (t.run environment args).2 = t
      else GeneratesOwn t environment level options (t.run environment args).2
    | some (.start level name directory) =>
      StartsOwn t environment level name directory (t.run environment args).2
    | _ => (t.run environment args).2 = t := by
  rw [t.run_eq environment args]
  cases Arguments.request? none args with
  | none => rfl
  | some request =>
    cases request with
    | help => rfl
    | version => rfl
    | check level manifest => exact request_check t environment level manifest
    | start level name directory => exact startsOwn t environment level name directory
    | generate level options =>
      dsimp only
      split
      · next hs => exact request_generate_stdout t environment level hs
      · next hs => exact generatesOwn t environment level (Bool.eq_false_iff.mpr hs)

/-- Where the directory is reached through one that is missing, the manifest that is there is found
too late. -/
theorem start_replaces_manifest :
    let t : FileTree := ⟨[(["schemagen.toml"], .file (.text "# ours\n"))]⟩
    (t.run none ["init", "-p", "new/.."]).1.exitCode = 0 ∧
      (t.run none ["init", "-p", "new/.."]).2.file? ["schemagen.toml"] ≠
        t.file? ["schemagen.toml"] := by
  decide +kernel

end EntityGen.Command
