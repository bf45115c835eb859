import EntityGen.Command.Program
import EntityGen.Proofs.Files.Places

/-! # Runs of commands on file trees

What a command results in and prints depends on the tree alone and not on what is on the console
already. A command that only observes prints nothing and leaves the tree as it is.
-/

namespace EntityGen

def Failure.IsWriting : Failure → Prop
  | directoryNotCreated _ => True
  | fileNotWritten _ => True
  | _ => False

namespace Command

variable {α β : Type} {t t' t'' : FileTree} {k k' : Console}

/-- What a command results in, and the console and the tree after it. -/
def on (c : Command (StateM FileTree) α) (k : Console) (t : FileTree) :
    (Except Failure α × Console) × FileTree :=
  ((ExceptT.run c).run k).run t

/-- On the tree `t` the command has the result, prints the texts and leaves `t'`. -/
def Gives (c : Command (StateM FileTree) α) (t : FileTree) (result : Except Failure α)
    (texts : List String) (t' : FileTree) : Prop :=
  ∀ k, ∃ k', on c k t = ((result, k'), t') ∧ k'.output = k.output ++ texts

/-- All that the command changes on the tree is the log. -/
def Observes (c : Command (StateM FileTree) α) (t : FileTree) (result : Except Failure α) : Prop :=
  Gives c t result [] t

def result (c : Command (StateM FileTree) α) (t : FileTree) : Except Failure α :=
  (on c {} t).1.1

section Sequence

variable {c : Command (StateM FileTree) α} {f : α → Command (StateM FileTree) β}

theorem on_bind_ok {a : α} (h : on c k t = ((.ok a, k'), t')) :
    on (c >>= f) k t = on (f a) k' t' := by
  unfold on at h ⊢
  simp only [ExceptT.run_bind, StateT.run_bind, h]
  rfl

theorem on_bind_error {e : Failure} (h : on c k t = ((.error e, k'), t')) :
    on (c >>= f) k t = ((.error e, k'), t') := by
  unfold on at h ⊢
  simp only [ExceptT.run_bind, StateT.run_bind, h]
  rfl

theorem throw_bind (e : Failure) :
    (throw e >>= f) = throw e :=
  rfl

end Sequence

namespace Gives

variable {c : Command (StateM FileTree) α} {f : α → Command (StateM FileTree) β}
  {r : Except Failure α} {s : Except Failure β} {a : α} {e : Failure} {texts texts' : List String}

theorem access (action : StateM FileTree α) (t : FileTree) :
    Gives (Command.access action) t (.ok (action t).1) [] (action t).2 :=
  fun k => ⟨k, rfl, (List.append_nil _).symm⟩

theorem print (text : String) (t : FileTree) : Gives (Command.print text) t (.ok ()) [text] t :=
  fun _ => ⟨_, rfl, rfl⟩

theorem printLine (text : String) (t : FileTree) :
    Gives (Command.printLine text) t (.ok ()) [text ++ "\n"] t :=
  print _ t

theorem bind (hc : Gives c t (.ok a) texts t') (hf : Gives (f a) t' s texts' t'') :
    Gives (c >>= f) t s (texts ++ texts') t'' := by
  intro k
  obtain ⟨k₁, h₁, ho₁⟩ := hc k
  obtain ⟨k₂, h₂, ho₂⟩ := hf k₁
  exact ⟨k₂, by rw [on_bind_ok h₁, h₂], by rw [ho₂, ho₁, List.append_assoc]⟩

theorem bind_error (hc : Gives c t (.error e) texts t') :
    Gives (c >>= f) t (.error e) texts t' := by
  intro k
  obtain ⟨k₁, h₁, ho₁⟩ := hc k
  exact ⟨k₁, on_bind_error h₁, ho₁⟩

theorem map (g : α → β) (h : Gives c t r texts t') : Gives (g <$> c) t (r.map g) texts t' := by
  rw [← bind_pure_comp]
  cases r with
  | error e => exact h.bind_error
  | ok a =>
    have hb := h.bind (f := fun a => pure (g a)) (fun k => ⟨k, rfl, (List.append_nil _).symm⟩)
    rwa [List.append_nil] at hb

theorem result_eq (h : Gives c t r texts t') : result c t = r := by
  obtain ⟨k, h, -⟩ := h {}
  rw [result, h]

end Gives

namespace Observes

variable {c : Command (StateM FileTree) α} {f : α → Command (StateM FileTree) β}
  {r r' : Except Failure α} {s : Except Failure β} {a : α} {e : Failure} {texts : List String}

theorem pure (a : α) : Observes (Pure.pure a) t (.ok a) :=
  fun k => ⟨k, rfl, (List.append_nil _).symm⟩

theorem throw (e : Failure) :
    Observes (MonadExcept.throw e : Command (StateM FileTree) α) t (.error e) :=
  fun k => ⟨k, rfl, (List.append_nil _).symm⟩

theorem of_access {action : StateM FileTree α} (h : action t = (a, t)) :
    Observes (Command.access action) t (.ok a) := by
  have ha := Gives.access action t
  rwa [h] at ha

theorem noteAll (lines : List LogLine) : Observes (Command.noteAll lines) t (.ok ()) :=
  fun _ => ⟨_, rfl, (List.append_nil _).symm⟩

theorem setUpLog (environment level : Option String) :
    Observes (Command.setUpLog environment level) t
      ((logFilter environment level).map fun _ => ()) := by
  intro k
  unfold Command.setUpLog
  cases logFilter environment level with
  | error e => exact ⟨k, rfl, (List.append_nil _).symm⟩
  | ok filter => exact ⟨{ k with filter }, rfl, (List.append_nil _).symm⟩

/-- What follows an observation is all that there is to see. -/
theorem then_gives (hc : Observes c t (.ok a)) (hf : Gives (f a) t s texts t') :
    Gives (c >>= f) t s texts t' :=
  Gives.bind hc hf

theorem bind (hc : Observes c t (.ok a)) (hf : Observes (f a) t s) : Observes (c >>= f) t s :=
  hc.then_gives hf

theorem bind_error (hc : Observes c t (.error e)) : Observes (c >>= f) t (.error e) :=
  Gives.bind_error hc

theorem bind_result {g : α → Except Failure β} (hc : Observes c t r)
    (hf : ∀ a, Observes (f a) t (g a)) : Observes (c >>= f) t (r >>= g) := by
  cases r with
  | error e => exact hc.bind_error
  | ok a => exact hc.bind (hf a)

theorem unique (h : Observes c t r) (h' : Observes c t r') : r = r' :=
  h.result_eq.symm.trans h'.result_eq

theorem result_eq (h : Observes c t r) : result c t = r :=
  Gives.result_eq h

end Observes

/-! ## Access to files -/

def leadsToDirectory (t : FileTree) (path : String) : Bool :=
  (t.place? path).any t.isDirectory

theorem leadsToDirectory_iff {path : String} : leadsToDirectory t path = true ↔
    ∃ place, t.place? path = some place ∧ t.isDirectory place = true := by
  rw [leadsToDirectory, Option.any_eq_true]

def listed (t : FileTree) (path : String) : Option (List String) :=
  ((t.place? path).filter t.isDirectory).map t.names

section Access

variable (t : FileTree) (path : String)

theorem observes_readText :
    Observes (access (FileTree.disk.readText path)) t (.ok (t.readText path)) :=
  .access _ t

theorem observes_isDirectory :
    Observes (access (FileTree.disk.isDirectory path)) t (.ok (leadsToDirectory t path)) :=
  .access _ t

theorem observes_pathExists :
    Observes (access (FileTree.disk.pathExists path)) t (.ok (t.pathExists path)) :=
  .access _ t

theorem observes_names :
    Observes (access (FileTree.disk.names path)) t (.ok (listed t path)) :=
  .access _ t

end Access

end Command

open Command

/-! ## Disks that show a tree -/

/-- A disk that shows a tree. Only the order of the names in its listings is its own. -/
structure Disk.Shows (disk : Disk (StateM FileTree)) (t : FileTree) : Prop where
  readText (path : String) : disk.readText path t = (t.readText path, t)
  isDirectory (path : String) : disk.isDirectory path t = (leadsToDirectory t path, t)
  names (path : String) : ∃ names, disk.names path t = (names, t) ∧
    Option.Rel List.Perm names (listed t path)

theorem FileTree.shows_disk (t : FileTree) : FileTree.disk.Shows t := by
  refine ⟨fun _ => rfl, fun _ => rfl, fun path => ⟨_, rfl, ?_⟩⟩
  change Option.Rel List.Perm (listed t path) (listed t path)
  cases listed t path with
  | none => exact .none
  | some names => exact .some (.refl names)

/-! ## Requests -/

namespace Command

def exitCode : Except Failure Nat → Nat
  | .ok code => code
  | .error _ => 1

end Command

def FileTree.request (t : FileTree) (environment : Option String) (request : Request) :
    Report × FileTree :=
  runRequest FileTree.disk environment request t

theorem FileTree.run_eq (t : FileTree) (environment : Option String) (args : List String) :
    t.run environment args =
      match Arguments.request? none args with
      | some request => t.request environment request
      | none => ({ exitCode := 2 }, t) := by
  unfold run Command.run
  cases Arguments.request? none args <;> rfl

theorem Command.result_map {α β : Type} (c : Command (StateM FileTree) α) (g : α → β)
    (t : FileTree) : result (g <$> c) t = (result c t).map g := by
  rw [← bind_pure_comp]
  unfold result
  rcases h : on c {} t with ⟨⟨r, k⟩, t'⟩
  cases r with
  | error e => rw [on_bind_error h]; rfl
  | ok a => rw [on_bind_ok h]; rfl

theorem Command.exitCode_runCommand (c : Command (StateM FileTree) Nat) (t : FileTree) :
    ((runCommand c : StateM FileTree Report) t).1.exitCode = exitCode (result c t) := by
  change (report (on c {} t).1.1 (on c {} t).1.2).exitCode = _
  unfold result report
  cases (on c {} t).1.1 <;> rfl

/-- A command that ends a program ends it with its result, and with what it has printed. -/
theorem Command.Gives.runCommand_eq {c : Command (StateM FileTree) Nat} {t t' : FileTree}
    {r : Except Failure Nat} {texts : List String} (h : Gives c t r texts t') :
    ∃ errorOutput, (runCommand c : StateM FileTree Report) t =
      (⟨exitCode r, String.join texts, errorOutput⟩, t') := by
  obtain ⟨k, h, ho⟩ := h {}
  have hrun : (runCommand c : StateM FileTree Report) t = (report r k, t') := by
    change (let x := on c {} t; (report x.1.1 x.1.2, x.2)) = _
    rw [h]
  have houtput : k.output = texts := ho
  rw [hrun]
  cases r with
  | error e => exact ⟨_, by rw [report, houtput]; rfl⟩
  | ok code => exact ⟨_, by rw [report, houtput]; rfl⟩

end EntityGen
