import EntityGen.Proofs.Command.Runs
import EntityGen.Proofs.Pass.FileNames

/-! # Preparing what is generated

Loading a project, discovering its schemas and running the pass over its targets only observe a
tree. What they result in is therefore the same for every command that starts with them.
-/

namespace EntityGen.Command

variable {α β : Type} {t : FileTree}

/-- The command has not come to writing, unless it goes on. -/
def Early (r : Except Failure α) : Prop :=
  ∀ e, r = .error e → ¬ e.IsWriting

namespace Early

theorem ok (a : α) : Early (.ok a) :=
  nofun

theorem error {e : Failure} (h : ¬ e.IsWriting) : Early (.error e : Except Failure α) := by
  rintro _ ⟨⟩
  exact h

theorem bind {r : Except Failure α} {f : α → Except Failure β} (hr : Early r)
    (hf : ∀ a, Early (f a)) : Early (r >>= f) := by
  cases r with
  | error e => exact error (hr e rfl)
  | ok a => exact hf a

theorem map {r : Except Failure α} (hr : Early r) (f : α → β) : Early (r.map f) := by
  cases r with
  | error e => exact error (hr e rfl)
  | ok a => exact ok (f a)

end Early

/-! ## Loading a project -/

def manifestOf (path : String) : Option String → Except Failure Manifest
  | none => .error (.unreadableManifest path)
  | some text =>
    match Manifest.ofToml? text with
    | none => .error .unparsableManifest
    | some manifest => .ok manifest

def validated (path : String) (manifest : Manifest) : Except Failure LoadedProject :=
  match manifest.error? with
  | some error => .error (.invalidManifest error)
  | none => .ok ⟨manifest, Path.parent path⟩

/-- What loading a project makes of the text of its manifest. -/
def loaded (environment level : Option String) (path : String) (text : Option String) :
    Except Failure LoadedProject :=
  manifestOf path text >>= fun manifest =>
    ((logFilter environment (level.or manifest.project.logLevel)).map fun _ => ()) >>= fun _ =>
      validated path manifest

theorem observes_readManifest (t : FileTree) (path : String) :
    Observes (readManifest FileTree.disk path) t (manifestOf path (t.readText path)) := by
  refine (observes_readText t path).bind ?_
  unfold manifestOf
  cases t.readText path with
  | none => exact .throw _
  | some text =>
    dsimp only
    cases Manifest.ofToml? text with
    | none => exact .throw _
    | some manifest => exact .pure _

theorem observes_loadProject (t : FileTree) (environment level : Option String) (path : String) :
    Observes (loadProject FileTree.disk environment level path) t
      (loaded environment level path (t.readText path)) := by
  refine (observes_readManifest t path).bind_result fun manifest =>
    (Observes.setUpLog environment _).bind_result fun _ => ?_
  unfold validated
  cases manifest.error? with
  | some error => exact .throw _
  | none => exact (Observes.noteAll _).bind (.pure _)

theorem validated_eq_ok {path : String} {manifest : Manifest} {project : LoadedProject}
    (h : validated path manifest = .ok project) : project.manifest.error? = none := by
  unfold validated at h
  split at h
  · cases h
  · next hn =>
    cases h
    exact hn

theorem early_loaded (environment level : Option String) (path : String) (text : Option String) :
    Early (loaded environment level path text) := by
  refine .bind ?_ fun manifest => .bind (.map ?_ _) fun _ => ?_
  · unfold manifestOf
    cases text with
    | none => exact .error id
    | some text =>
      dsimp only
      cases Manifest.ofToml? text with
      | none => exact .error id
      | some manifest => exact .ok _
  · unfold logFilter
    repeat' split
    all_goals first | exact .ok _ | exact .error id
  · unfold validated
    cases manifest.error? with
    | none => exact .ok _
    | some error => exact .error id

/-- A project that is loaded has a valid manifest. -/
theorem error?_of_loaded {environment level : Option String} {path : String}
    {text : Option String} {project : LoadedProject}
    (h : loaded environment level path text = .ok project) : project.manifest.error? = none := by
  unfold loaded at h
  cases hm : manifestOf path text with
  | error e =>
    rw [hm] at h
    cases h
  | ok manifest =>
    rw [hm] at h
    change (Except.map (fun _ => ()) (logFilter environment _) >>= fun _ => _) = _ at h
    cases hl : logFilter environment (level.or manifest.project.logLevel) with
    | error e =>
      rw [hl] at h
      cases h
    | ok filter =>
      rw [hl] at h
      exact validated_eq_ok h

/-! ## Discovering schemas -/

section Discovery

variable {depth : Nat} {parts : List String} {path name : String}

def collectName (depth : Nat) (parts : List String) (path name : String) :
    Command (StateM FileTree) (List Found) := do
  let isDirectory ← access (FileTree.disk.isDirectory (Path.join path name))
  if Path.isHidden name then pure []
  else if isDirectory then collect FileTree.disk depth (parts ++ [name]) (Path.join path name)
  else if Path.ending? name == some schemaEnding then
    pure [⟨parts ++ [name], Path.join path name⟩]
  else pure []

theorem collectNames_cons (rest : List String) :
    collectNames FileTree.disk depth parts path (name :: rest) = (do
      let found ← collectName depth parts path name
      return found ++ (← collectNames FileTree.disk depth parts path rest)) := by
  rw [collectNames, collectName, bind_assoc]
  congr 1
  funext isDirectory
  cases Path.isHidden name <;> cases isDirectory <;>
    cases Path.ending? name == some schemaEnding <;> simp

def foundFile (parts : List String) (path name : String) : List Found :=
  if Path.ending? name == some schemaEnding then [⟨parts ++ [name], Path.join path name⟩] else []

theorem observes_collectName_hidden (hh : Path.isHidden name = true) :
    Observes (collectName depth parts path name) t (.ok []) := by
  refine (observes_isDirectory t _).bind ?_
  rw [if_pos hh]
  exact .pure []

theorem observes_collectName_directory {r : Except Failure (List Found)}
    (hh : Path.isHidden name = false) (hd : leadsToDirectory t (Path.join path name) = true)
    (hc : Observes (collect FileTree.disk depth (parts ++ [name]) (Path.join path name)) t r) :
    Observes (collectName depth parts path name) t r := by
  refine (observes_isDirectory t _).bind ?_
  rw [if_neg (Bool.eq_false_iff.mp hh), if_pos hd]
  exact hc

theorem observes_collectName_file (hh : Path.isHidden name = false)
    (hd : leadsToDirectory t (Path.join path name) = false) :
    Observes (collectName depth parts path name) t (.ok (foundFile parts path name)) := by
  refine (observes_isDirectory t _).bind ?_
  rw [if_neg (Bool.eq_false_iff.mp hh), if_neg (Bool.eq_false_iff.mp hd), foundFile]
  split <;> exact .pure _

theorem observes_collectNames_cons {rest : List String} {r s : Except Failure (List Found)}
    (hr : Observes (collectName depth parts path name) t r)
    (hs : Observes (collectNames FileTree.disk depth parts path rest) t s) :
    Observes (collectNames FileTree.disk depth parts path (name :: rest)) t
      (r >>= fun found => s >>= fun more => .ok (found ++ more)) := by
  rw [collectNames_cons]
  exact hr.bind_result fun found => hs.bind_result fun more => .pure _

theorem exists_collectName (name : String)
    (hc : ∃ r, Observes (collect FileTree.disk depth (parts ++ [name]) (Path.join path name)) t r ∧
      Early r) : ∃ r, Observes (collectName depth parts path name) t r ∧ Early r := by
  cases hh : Path.isHidden name with
  | true => exact ⟨_, observes_collectName_hidden hh, .ok _⟩
  | false =>
    cases hd : leadsToDirectory t (Path.join path name) with
    | true => exact hc.imp fun _ => And.imp_left (observes_collectName_directory hh hd)
    | false => exact ⟨_, observes_collectName_file hh hd, .ok _⟩

theorem exists_collectNames
    (hc : ∀ parts path, ∃ r, Observes (collect FileTree.disk depth parts path) t r ∧ Early r)
    (parts : List String) (path : String) (names : List String) :
    ∃ r, Observes (collectNames FileTree.disk depth parts path names) t r ∧ Early r := by
  induction names with
  | nil =>
    rw [collectNames]
    exact ⟨_, .pure [], .ok []⟩
  | cons name rest ih =>
    obtain ⟨s, hs, hes⟩ := ih
    obtain ⟨r, hr, her⟩ := exists_collectName name (hc _ (Path.join path name))
    exact ⟨_, observes_collectNames_cons hr hs, her.bind fun _ => hes.bind fun _ => .ok _⟩

theorem observes_collect_none (h : listed t path = none) :
    Observes (collect FileTree.disk (depth + 1) parts path) t
      (.error (.unreadableDirectory path)) := by
  rw [collect]
  refine (observes_names t path).bind ?_
  rw [h]
  exact .throw _

theorem observes_collect_some {names : List String} {r : Except Failure (List Found)}
    (h : listed t path = some names)
    (hn : Observes (collectNames FileTree.disk depth parts path names) t r) :
    Observes (collect FileTree.disk (depth + 1) parts path) t r := by
  rw [collect]
  refine (observes_names t path).bind ?_
  rw [h]
  exact hn

theorem exists_collect (t : FileTree) (depth : Nat) (parts : List String) (path : String) :
    ∃ r, Observes (collect FileTree.disk depth parts path) t r ∧ Early r := by
  induction depth generalizing parts path with
  | zero =>
    rw [collect]
    exact ⟨_, .pure [], .ok []⟩
  | succ depth ih =>
    cases hl : listed t path with
    | none => exact ⟨_, observes_collect_none hl, .error id⟩
    | some names =>
      exact (exists_collectNames ih parts path names).imp fun _ =>
        And.imp_left (observes_collect_some hl)

/-- Discovery that succeeds has succeeded under every name. -/
theorem observes_collectNames_cons_ok {rest : List String} {found : List Found}
    (h : Observes (collectNames FileTree.disk depth parts path (name :: rest)) t (.ok found)) :
    ∃ first more, Observes (collectName depth parts path name) t (.ok first) ∧
      Observes (collectNames FileTree.disk depth parts path rest) t (.ok more) ∧
      first ++ more = found := by
  obtain ⟨r, hr, -⟩ := exists_collectName name
    (exists_collect t depth (parts ++ [name]) (Path.join path name))
  obtain ⟨s, hs, -⟩ := exists_collectNames (exists_collect t depth) parts path rest
  have he := h.unique (observes_collectNames_cons hr hs)
  cases r with
  | error e => cases he
  | ok first =>
    cases s with
    | error e => cases he
    | ok more => exact ⟨first, more, hr, hs, (Except.ok.inj he).symm⟩

theorem observes_collectName_cases {found : List Found}
    (h : Observes (collectName depth parts path name) t (.ok found)) :
    Path.isHidden name = true ∧ found = [] ∨
      Path.isHidden name = false ∧ (leadsToDirectory t (Path.join path name) = true ∧
          Observes (collect FileTree.disk depth (parts ++ [name]) (Path.join path name)) t
            (.ok found) ∨
        leadsToDirectory t (Path.join path name) = false ∧ found = foundFile parts path name) := by
  cases hh : Path.isHidden name with
  | true => exact .inl ⟨rfl, Except.ok.inj (h.unique (observes_collectName_hidden hh))⟩
  | false =>
    refine .inr ⟨rfl, ?_⟩
    cases hd : leadsToDirectory t (Path.join path name) with
    | true =>
      obtain ⟨r, hr, -⟩ := exists_collect t depth (parts ++ [name]) (Path.join path name)
      obtain rfl := h.unique (observes_collectName_directory hh hd hr)
      exact .inl ⟨rfl, hr⟩
    | false => exact .inr ⟨rfl, Except.ok.inj (h.unique (observes_collectName_file hh hd))⟩

theorem observes_collect_ok {found : List Found}
    (h : Observes (collect FileTree.disk (depth + 1) parts path) t (.ok found)) :
    ∃ names, listed t path = some names ∧
      Observes (collectNames FileTree.disk depth parts path names) t (.ok found) := by
  cases hl : listed t path with
  | none => cases h.unique (observes_collect_none hl)
  | some names =>
    obtain ⟨r, hr, -⟩ := exists_collectNames (exists_collect t depth) parts path names
    obtain rfl := h.unique (observes_collect_some hl hr)
    exact ⟨names, rfl, hr⟩

def resourcesOf (t : FileTree) : List Found → Except Failure (List Resource)
  | [] => .ok []
  | f :: rest =>
    match t.readText f.path with
    | none => .error (.unreadableSchema f.path)
    | some content => (resourcesOf t rest).map (⟨withSlashes f.path, content⟩ :: ·)

theorem observes_readSchemas {disk : Disk (StateM FileTree)} (hs : disk.Shows t)
    (found : List Found) : Observes (readSchemas disk found) t (resourcesOf t found) := by
  induction found with
  | nil => exact .pure []
  | cons f rest ih =>
    rw [readSchemas, resourcesOf]
    refine (Observes.of_access (hs.readText f.path)).bind ?_
    cases t.readText f.path with
    | none => exact .throw _
    | some content =>
      refine Observes.bind (.noteAll _) ?_
      cases hr : resourcesOf t rest with
      | error e => exact Observes.bind_error (hr ▸ ih)
      | ok resources => exact Observes.bind (hr ▸ ih) (.pure _)

theorem early_resourcesOf (t : FileTree) (found : List Found) : Early (resourcesOf t found) := by
  induction found with
  | nil => exact .ok []
  | cons f rest ih =>
    rw [resourcesOf]
    cases t.readText f.path with
    | none => exact .error id
    | some content => exact ih.map _

theorem observes_discover_none {root : String} (h : leadsToDirectory t root = false) :
    Observes (Command.discover FileTree.disk root) t (.error (.noSchemaDirectory root)) := by
  refine (observes_isDirectory t _).bind ?_
  rw [if_neg (Bool.eq_false_iff.mp h)]
  exact .throw _

theorem observes_discover_of_collect {disk : Disk (StateM FileTree)} (hs : disk.Shows t)
    {root : String} {r : Except Failure (List Found)} (h : leadsToDirectory t root = true)
    (hc : Observes (collect disk deepest [] root) t r) :
    Observes (Command.discover disk root) t
      (r >>= fun found => resourcesOf t (sortFound found)) := by
  refine (Observes.of_access (hs.isDirectory root)).bind ?_
  rw [if_pos h]
  exact hc.bind_result fun found => observes_readSchemas hs _

theorem observes_discover (t : FileTree) (root : String) :
    Observes (Command.discover FileTree.disk root) t (t.discover root) ∧
      Early (t.discover root) := by
  have hd : ∃ r, Observes (Command.discover FileTree.disk root) t r ∧ Early r := by
    cases h : leadsToDirectory t root with
    | false => exact ⟨_, observes_discover_none h, .error id⟩
    | true =>
      obtain ⟨r, hr, he⟩ := exists_collect t deepest [] root
      exact ⟨_, observes_discover_of_collect t.shows_disk h hr,
        he.bind fun _ => early_resourcesOf t _⟩
  obtain ⟨r, hr, he⟩ := hd
  have hresult : t.discover root = r := hr.result_eq
  rw [hresult]
  exact ⟨hr, he⟩

/-- A directory with one name in it holds what is found under this name. -/
theorem discover_of_listed {root : String} {found : List Found} (hl : listed t root = some [name])
    (hd : leadsToDirectory t root = true)
    (hc : Observes (collectName 4095 [] root name) t (.ok found)) :
    t.discover root = resourcesOf t (sortFound found) := by
  have hrest : Observes (collectNames FileTree.disk 4095 [] root []) t (.ok []) := by
    rw [collectNames]
    exact .pure []
  have hall := observes_discover_of_collect t.shows_disk hd
    (observes_collect_some hl (observes_collectNames_cons hc hrest))
  rw [(observes_discover t root).1.unique hall]
  show resourcesOf t (sortFound (found ++ [])) = _
  rw [List.append_nil]

theorem discover_of_listed_hidden {root : String} (hl : listed t root = some [name])
    (hd : leadsToDirectory t root = true) (hh : Path.isHidden name = true) :
    t.discover root = .ok [] := by
  rw [discover_of_listed hl hd (observes_collectName_hidden hh), sortFound, List.mergeSort_nil]
  rfl

theorem discover_of_listed_file {root content : String} (hl : listed t root = some [name])
    (hd : leadsToDirectory t root = true) (hh : Path.isHidden name = false)
    (he : Path.ending? name = some schemaEnding)
    (hf : leadsToDirectory t (Path.join root name) = false)
    (hr : t.readText (Path.join root name) = some content) :
    t.discover root = .ok [⟨withSlashes (Path.join root name), content⟩] := by
  rw [discover_of_listed hl hd (observes_collectName_file hh hf), foundFile, he,
    if_pos (beq_self_eq_true _), sortFound, List.mergeSort_singleton, resourcesOf, hr]
  rfl

end Discovery

/-! ## Preparing what is generated -/

structure Prepared where
  project : LoadedProject
  units : List GeneratedUnit
  tally : Tally

namespace LoadedProject

variable (project : LoadedProject)

def schemaDir : String :=
  project.manifest.schemaDir project.base

def pass (resources : List Resource) : PassResult :=
  Generator.run { settings := project.manifest.settings } jsonParser resources
    project.manifest.targets

def prepared (resources : List Resource) : Prepared :=
  ⟨project, (project.pass resources).units, .ofDiagnostics (project.pass resources).diagnostics⟩

end LoadedProject

def prepared (t : FileTree) (environment level : Option String) (path : String) :
    Except Failure Prepared :=
  loaded environment level path (t.readText path) >>= fun project =>
    (t.discover project.schemaDir).map project.prepared

theorem observes_runPass (t : FileTree) (project : LoadedProject) :
    Observes (runPass FileTree.disk project) t
      ((t.discover project.schemaDir).map fun resources =>
        ((project.prepared resources).units, (project.prepared resources).tally)) := by
  have hd := (observes_discover t project.schemaDir).1
  unfold runPass
  cases hr : t.discover project.schemaDir with
  | error e =>
    rw [hr] at hd
    exact hd.bind_error
  | ok resources =>
    rw [hr] at hd
    exact hd.bind ((Observes.noteAll _).bind ((Observes.noteAll _).bind (.pure _)))

theorem early_prepared (t : FileTree) (environment level : Option String) (path : String) :
    Early (prepared t environment level path) :=
  Early.bind (early_loaded environment level path _) fun _ => (observes_discover t _).2.map _

section Prepared

variable {environment level : Option String} {path : String} {p : Prepared} {e : Failure}

theorem prepared_eq_ok (h : prepared t environment level path = .ok p) :
    ∃ project resources, loaded environment level path (t.readText path) = .ok project ∧
      t.discover project.schemaDir = .ok resources ∧ project.prepared resources = p := by
  unfold prepared at h
  cases hl : loaded environment level path (t.readText path) with
  | error e =>
    rw [hl] at h
    cases h
  | ok project =>
    rw [hl] at h
    change Except.map project.prepared (t.discover project.schemaDir) = _ at h
    cases hd : t.discover project.schemaDir with
    | error e =>
      rw [hd] at h
      cases h
    | ok resources =>
      rw [hd] at h
      exact ⟨project, resources, rfl, hd, Except.ok.inj h⟩

theorem prepared_of_discover {project : LoadedProject} {resources : List Resource}
    (hl : loaded environment level path (t.readText path) = .ok project)
    (hd : t.discover project.schemaDir = .ok resources) :
    prepared t environment level path = .ok (project.prepared resources) := by
  rw [prepared, hl]
  change Except.map project.prepared (t.discover project.schemaDir) = _
  rw [hd]
  rfl

theorem prepared_eq_error (h : prepared t environment level path = .error e) :
    loaded environment level path (t.readText path) = .error e ∨
      ∃ project, loaded environment level path (t.readText path) = .ok project ∧
        t.discover project.schemaDir = .error e := by
  unfold prepared at h
  cases hl : loaded environment level path (t.readText path) with
  | error e' =>
    rw [hl] at h
    exact .inl (congrArg Except.error (Except.error.inj h))
  | ok project =>
    rw [hl] at h
    change Except.map project.prepared (t.discover project.schemaDir) = _ at h
    cases hd : t.discover project.schemaDir with
    | error e' =>
      rw [hd] at h
      exact .inr ⟨project, rfl, hd.trans (congrArg Except.error (Except.error.inj h))⟩
    | ok resources =>
      rw [hd] at h
      cases h

variable {α : Type} {f : LoadedProject → List GeneratedUnit × Tally → Command (StateM FileTree) α}
  {r : Except Failure α} {texts : List String} {t' : FileTree}

theorem observes_of_prepared_error (h : prepared t environment level path = .error e) :
    Observes (do
      let project ← loadProject FileTree.disk environment level path
      let units ← runPass FileTree.disk project
      f project units) t (.error e) := by
  have hl := observes_loadProject t environment level path
  rcases prepared_eq_error h with he | ⟨project, he, hd⟩
  · rw [he] at hl
    exact hl.bind_error
  · rw [he] at hl
    have hp := observes_runPass t project
    rw [hd] at hp
    exact hl.bind hp.bind_error

theorem gives_of_prepared (h : prepared t environment level path = .ok p)
    (hf : Gives (f p.project (p.units, p.tally)) t r texts t') :
    Gives (do
      let project ← loadProject FileTree.disk environment level path
      let units ← runPass FileTree.disk project
      f project units) t r texts t' := by
  obtain ⟨project, resources, he, hd, rfl⟩ := prepared_eq_ok h
  have hl := observes_loadProject t environment level path
  rw [he] at hl
  have hp := observes_runPass t project
  rw [hd] at hp
  exact hl.then_gives (hp.then_gives hf)

/-- The units come from valid targets and have distinct file names. -/
theorem fileNames_of_prepared (h : prepared t environment level path = .ok p) :
    (∀ unit ∈ p.units, unit.target.error? = none ∧ unit.fileName = unit.target.fileName) ∧
      (p.units.map (·.fileName)).Nodup := by
  obtain ⟨project, resources, he, -, rfl⟩ := prepared_eq_ok h
  obtain ⟨hvalid, hnodup⟩ := Manifest.targets_of_error? (error?_of_loaded he)
  refine ⟨fun unit hm => ?_, Generator.nodup_fileNames _ _ _ hnodup⟩
  obtain ⟨ht, hf⟩ := Generator.fileName_of_mem_units _ _ _ hm
  exact ⟨hvalid _ ht, hf⟩

theorem isPlain_of_prepared (h : prepared t environment level path = .ok p) :
    ∀ unit ∈ p.units, Path.IsPlain unit.fileName := by
  intro unit hm
  obtain ⟨he, hf⟩ := (fileNames_of_prepared h).1 unit hm
  rw [hf]
  exact Target.isPlain_fileName he

theorem sublist_of_prepared (h : prepared t environment level path = .ok p) :
    List.Sublist (p.units.map (·.target)) p.project.manifest.targets := by
  obtain ⟨project, resources, -, -, rfl⟩ := prepared_eq_ok h
  exact Generator.map_target_units_sublist _ _ _ _

theorem Tidings.exitCode_eq_zero_iff (tidings : Tidings) :
    tidings.exitCode = 0 ↔ tidings.tally.errors = 0 := by
  unfold exitCode Tally.hasErrors
  split
  · next h => simpa [Nat.pos_iff_ne_zero] using h
  · next h => simpa using h

def Prepared.tidings (p : Prepared) : Tidings :=
  { generated := p.units.length, tally := p.tally }

theorem exitCode_of_prepared (h : prepared t environment level path = .ok p) :
    p.tidings.exitCode = 0 ↔
      ∀ target ∈ p.project.manifest.targets, ∃ unit ∈ p.units, unit.target = target := by
  obtain ⟨project, resources, -, -, rfl⟩ := prepared_eq_ok h
  exact (Tidings.exitCode_eq_zero_iff _).trans (Generator.errors_eq_zero_iff _ _ _ _)

end Prepared

end EntityGen.Command
