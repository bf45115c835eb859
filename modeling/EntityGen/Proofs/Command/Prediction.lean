import EntityGen.Proofs.Command.Preparation
import EntityGen.Proofs.Command.Writing

/-! # What checking tells about generating

Checking, printing and writing prepare the same from one tree, so they fail alike before the pass
and tell the same about it afterwards. Only writing can fail later, and if it does not, its files
hold what printing prints.
-/

namespace EntityGen.Command

variable {t t' : FileTree} {environment level manifest : Option String} {p : Prepared} {e : Failure}

/-! ## Reports -/

section Reports

variable {r : Except Failure Tidings} {texts : List String} {options : GenerateOptions}

theorem Gives.request_check
    (h : Gives (check FileTree.disk environment level manifest) t r texts t') :
    ∃ errorOutput, t.request environment (.check level manifest) =
      (⟨exitCode (r.map Tidings.exitCode), String.join texts, errorOutput⟩, t') :=
  (h.map Tidings.exitCode).runCommand_eq

theorem Gives.request_generate
    (h : Gives (generate FileTree.disk environment level options) t r texts t') :
    ∃ errorOutput, t.request environment (.generate level options) =
      (⟨exitCode (r.map Tidings.exitCode), String.join texts, errorOutput⟩, t') :=
  (h.map Tidings.exitCode).runCommand_eq

theorem Gives.tree_generate
    (h : Gives (generate FileTree.disk environment level options) t r texts t') :
    (t.request environment (.generate level options)).2 = t' := by
  obtain ⟨_, hr⟩ := h.request_generate
  rw [hr]

theorem exitCode_generate (t : FileTree) (environment level : Option String)
    (options : GenerateOptions) :
    (t.request environment (.generate level options)).1.exitCode = exitCode
      ((result (generate FileTree.disk environment level options) t).map Tidings.exitCode) :=
  (exitCode_runCommand _ t).trans (congrArg exitCode (result_map _ _ t))

end Reports

/-! ## Checking -/

def checkTexts (path : String) (p : Prepared) : List String := [
  s!"Checking manifest: {path}" ++ "\n",
  s!"✓ Targets: {p.project.manifest.targets.length}" ++ "\n",
  unitLines p.units,
  (if p.tally.hasErrors then s!"\n{p.tally.errors} error(s), {p.tally.warnings} warning(s)"
    else s!"\nManifest is valid! ({p.tally.warnings} warning(s))") ++ "\n"]

theorem gives_check_of_error
    (h : prepared t environment level (manifest.getD Manifest.fileName) = .error e) :
    ∃ texts, Gives (check FileTree.disk environment level manifest) t (.error e) texts t := by
  have hl := observes_loadProject t environment level (manifest.getD Manifest.fileName)
  rcases prepared_eq_error h with he | ⟨project, he, hd⟩
  · rw [he] at hl
    exact ⟨_, (Gives.printLine _ t).bind hl.bind_error⟩
  · rw [he] at hl
    have hp := observes_runPass t project
    rw [hd] at hp
    exact ⟨_, (Gives.printLine _ t).bind
      (hl.then_gives ((Gives.printLine _ t).bind hp.bind_error))⟩

theorem gives_check (h : prepared t environment level (manifest.getD Manifest.fileName) = .ok p) :
    Gives (check FileTree.disk environment level manifest) t (.ok p.tidings)
      (checkTexts (manifest.getD Manifest.fileName) p) t := by
  obtain ⟨project, resources, he, hd, rfl⟩ := prepared_eq_ok h
  have hl := observes_loadProject t environment level (manifest.getD Manifest.fileName)
  rw [he] at hl
  have hp := observes_runPass t project
  rw [hd] at hp
  refine (Gives.printLine _ t).bind (hl.then_gives ((Gives.printLine _ t).bind
    (hp.then_gives ((Gives.print _ t).bind ?_))))
  dsimp only
  split <;> exact (Gives.printLine _ t).bind (Observes.pure _)

/-! ## Generating -/

def GenerateOptions.directory (options : GenerateOptions) (project : LoadedProject) : String :=
  options.output.getD (project.manifest.outputDir project.base)

def summary (directory : String) (p : Prepared) (written : Nat) : String :=
  s!"Generated {p.units.length} of {p.project.manifest.targets.length} target(s) " ++
    s!"into {directory} ({written} written, {p.tally.errors} error(s), " ++
    s!"{p.tally.warnings} warning(s))" ++ "\n"

theorem observes_generate_of_error (options : GenerateOptions)
    (h : prepared t environment level (options.manifest.getD Manifest.fileName) = .error e) :
    Observes (generate FileTree.disk environment level options) t (.error e) :=
  observes_of_prepared_error h

theorem gives_generate_stdout (options : GenerateOptions) (hs : options.stdout = true)
    (h : prepared t environment level (options.manifest.getD Manifest.fileName) = .ok p) :
    Gives (generate FileTree.disk environment level options) t (.ok p.tidings)
      [unitsText p.units] t := by
  refine gives_of_prepared h ?_
  dsimp only
  rw [if_pos hs]
  exact (Gives.print _ t).bind (Observes.pure _)

theorem gives_generate_of_written (options : GenerateOptions) {written : Nat}
    (hs : options.stdout = false)
    (h : prepared t environment level (options.manifest.getD Manifest.fileName) = .ok p)
    (hw : Gives (writeUnits FileTree.disk (options.directory p.project) p.units) t (.ok written)
      [] t') :
    Gives (generate FileTree.disk environment level options) t (.ok { p.tidings with written })
      [summary (options.directory p.project) p written] t' := by
  refine gives_of_prepared h ?_
  dsimp only
  rw [if_neg (Bool.eq_false_iff.mp hs)]
  exact hw.bind ((Gives.printLine _ t').bind (Observes.pure _))

theorem gives_generate_of_not_written (options : GenerateOptions) (hs : options.stdout = false)
    (h : prepared t environment level (options.manifest.getD Manifest.fileName) = .ok p)
    (hw : Gives (writeUnits FileTree.disk (options.directory p.project) p.units) t (.error e)
      [] t') :
    Gives (generate FileTree.disk environment level options) t (.error e) [] t' := by
  refine gives_of_prepared h ?_
  dsimp only
  rw [if_neg (Bool.eq_false_iff.mp hs)]
  exact hw.bind_error

/-- What is prepared is written, or writing it fails. -/
theorem exists_generate (options : GenerateOptions) (hs : options.stdout = false)
    (h : prepared t environment level (options.manifest.getD Manifest.fileName) = .ok p) :
    ∃ (r : Except Failure Nat) (texts : List String) (t' : FileTree),
      Gives (generate FileTree.disk environment level options) t
        (r.map fun written => { p.tidings with written }) texts t' ∧
      Saves (p.units.map (unitFile (options.directory p.project))) t r t' := by
  obtain ⟨r, t', hw, hsaves⟩ := exists_writeUnits (isPlain_of_prepared h)
    (fileNames_of_prepared h).2 t (options.directory p.project)
  cases r with
  | error e => exact ⟨.error e, _, t', gives_generate_of_not_written options hs h hw, hsaves⟩
  | ok written => exact ⟨.ok written, _, t', gives_generate_of_written options hs h hw, hsaves⟩

/-! ## All three -/

/-- Checking, printing and writing tell the same about what is prepared, with the same exit code
unless writing fails. What is printed is what the files hold. -/
structure Prediction (t : FileTree) (environment level manifest output : Option String)
    (p : Prepared) : Prop where
  checked : result (check FileTree.disk environment level manifest) t = .ok p.tidings
  printed : result (generate FileTree.disk environment level
    { manifest, output, stdout := true }) t = .ok p.tidings
  written : (∃ written, result (generate FileTree.disk environment level { manifest, output }) t =
      .ok { p.tidings with written }) ∨
    ∃ e, e.IsWriting ∧
      result (generate FileTree.disk environment level { manifest, output }) t = .error e
  check_exit : (t.request environment (.check level manifest)).1.exitCode = 0 ↔
    ∀ target ∈ p.project.manifest.targets, ∃ unit ∈ p.units, unit.target = target
  print_exit :
    (t.request environment (.generate level { manifest, output, stdout := true })).1.exitCode = 0 ↔
      ∀ target ∈ p.project.manifest.targets, ∃ unit ∈ p.units, unit.target = target
  write_exit : ∀ tidings,
    result (generate FileTree.disk environment level { manifest, output }) t = .ok tidings →
      (t.request environment (.generate level { manifest, output })).1.exitCode =
        (t.request environment (.check level manifest)).1.exitCode
  order : List.Sublist (p.units.map (·.target)) p.project.manifest.targets
  check_lines : ∃ before after,
    (t.request environment (.check level manifest)).1.output =
      before ++ unitLines p.units ++ after
  print_output : (t.request environment
      (.generate level { manifest, output, stdout := true })).1.output =
    String.join (p.units.map fun unit => "// " ++ unit.fileName ++ "\n" ++ unit.code)
  files : ∀ tidings,
    result (generate FileTree.disk environment level { manifest, output }) t = .ok tidings →
      ∀ unit ∈ p.units, (t.request environment (.generate level { manifest, output })).2.readText
        (Path.join (output.getD (p.project.manifest.outputDir p.project.base)) unit.fileName) =
          some unit.code

theorem prediction_of_prepared (output : Option String)
    (h : prepared t environment level (manifest.getD Manifest.fileName) = .ok p) :
    Prediction t environment level manifest output p := by
  have hc := gives_check h
  have hp := gives_generate_stdout { manifest, output, stdout := true } rfl h
  obtain ⟨r, texts, t', hg, hs⟩ := exists_generate { manifest, output } rfl h
  obtain ⟨_, hrc⟩ := hc.request_check
  obtain ⟨_, hrp⟩ := hp.request_generate
  obtain ⟨_, hrg⟩ := hg.request_generate
  constructor
  case checked => exact hc.result_eq
  case printed => exact hp.result_eq
  case order => exact sublist_of_prepared h
  case check_exit =>
    rw [hrc]
    exact exitCode_of_prepared h
  case print_exit =>
    rw [hrp]
    exact exitCode_of_prepared h
  case check_lines =>
    rw [hrc]
    exact ⟨_, _, rfl⟩
  case print_output =>
    rw [hrp]
    exact String.empty_append
  case written =>
    cases r with
    | ok written => exact .inl ⟨written, hg.result_eq⟩
    | error e => exact .inr ⟨e, hs.failure e rfl, hg.result_eq⟩
  case write_exit =>
    intro tidings ht
    rw [hg.result_eq] at ht
    cases r with
    | error e => cases ht
    | ok written =>
      rw [hrg, hrc]
      rfl
  case files =>
    intro tidings ht unit hm
    rw [hg.result_eq] at ht
    cases r with
    | error e => cases ht
    | ok written =>
      rw [hrg]
      exact hs.readText_unit hm

theorem check_predicts_generate (t : FileTree) (environment level manifest output : Option String) :
    match prepared t environment level (manifest.getD Manifest.fileName) with
    | .error e =>
      result (check FileTree.disk environment level manifest) t = .error e ∧
      result (generate FileTree.disk environment level { manifest, output, stdout := true }) t =
        .error e ∧
      result (generate FileTree.disk environment level { manifest, output }) t = .error e ∧
      ¬ e.IsWriting
    | .ok p => Prediction t environment level manifest output p := by
  split
  · next e h =>
    obtain ⟨texts, hc⟩ := gives_check_of_error h
    have hp := observes_generate_of_error { manifest, output, stdout := true } h
    have hw := observes_generate_of_error { manifest, output } h
    exact ⟨hc.result_eq, hp.result_eq, hw.result_eq, early_prepared t environment level _ e h⟩
  · next p h => exact prediction_of_prepared output h

end EntityGen.Command
