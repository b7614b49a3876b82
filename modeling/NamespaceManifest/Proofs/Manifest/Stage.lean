import NamespaceManifest.Manifest.Compiler
import NamespaceManifest.Proofs.Directive.Pass
import NamespaceManifest.Proofs.Work

/-!
# The stage of a compiler

A compiler is called again and again: to compile, to run its passes, to write their output, to clean.  Its
stage is all that it remembers from call to call, and between the calls somebody else may change any file.

* One call: the stage moves on exactly if the call is an import pass, or a full pass that returned
  (`Call.compiler_perform`).  An import pass moves it even if the manifest cannot be written, because
  imports can always be resolved.
* A whole run: the stage is that of the last such call (`Session.tracked_after`).
* An output of a compiler whose stage is not complete fails at once and touches nothing; every other
  failure of an output comes from the writer (`fails_write`).
-/

namespace NamespaceManifest

open Directive

/-! ## How work can fail -/

namespace Work

variable {α β : Type} {P : Error → Prop}

/-- Work that fails with errors of a given kind only. -/
def FailsWith (P : Error → Prop) (x : Work α) : Prop :=
  ∀ s e, (x s).outcome = .error e → P e

theorem FailsWith.bind
    {x : Work α} {f : α → Work β}
    (hx : FailsWith P x)
    (hf : ∀ a, FailsWith P (f a)) :
    FailsWith P (x >>= f) := by
  intro s e h
  have hend : Ends (x >>= f) s (.error e) _ := ⟨h, rfl⟩
  rcases hend.of_bind_error with hfail | ⟨a, u, -, hfail⟩
  · exact hx s e hfail.1
  · exact hf a u e hfail.1

theorem failsWith_pure
    (a : α) :
    FailsWith P (pure a : Work α) := by
  intro s e h
  cases h

theorem failsWith_fail
    {e : Error}
    (h : P e) :
    FailsWith P (fail e : Work α) := by
  rintro s _ ⟨⟩
  exact h

theorem failsWith_records
    (log : List LogRecord) :
    FailsWith P (records log) := by
  intro s e h
  cases h

theorem failsWith_open?
    (h : ∀ q fault, P (.fileSystem q fault))
    (p : Path) :
    FailsWith P (Work.open? p) := by
  intro s e hfail
  have hend : Ends (Work.open? p) s (.error e) _ := ⟨hfail, rfl⟩
  obtain ⟨⟨fault, -, rfl⟩, -⟩ := hend.of_open?_error
  exact h p fault

theorem failsWith_makeFolders
    (h : ∀ q fault, P (.fileSystem q fault))
    (p : Path) :
    FailsWith P (Work.makeFolders p) := by
  intro s e hfail
  simp only [Work.makeFolders] at hfail
  split at hfail
  · cases hfail
    exact h _ _
  · cases hfail

theorem failsWith_replaceFile
    (p : Path) (f : File) :
    FailsWith P (Work.replaceFile p f) := by
  intro s e h
  cases h

end Work

namespace Writer

open Work

/-- The ways in which a write can fail. -/
inductive WriteFault : Error → Prop
  | name (name : String) : WriteFault (.invalidName name)
  | conflict (p : Path) : WriteFault (.conflict p)
  | fileSystem (p : Path) (fault : FileFault) : WriteFault (.fileSystem p fault)

/-- A write fails because of the name, the check, or the file system. -/
theorem fails_write
    (w : Writer) (p : Path) (entries : List String) (check : Bool) :
    FailsWith WriteFault (w.write p entries check) := by
  have hreplace : ∀ bytes, FailsWith WriteFault (replace p bytes) := by
    intro bytes
    refine (failsWith_makeFolders .fileSystem p.parent).bind fun _ => ?_
    refine (failsWith_open? .fileSystem p).bind fun present => ?_
    exact failsWith_replaceFile p _
  unfold write
  split
  · exact failsWith_fail (.name p.name)
  · refine (failsWith_open? .fileSystem p).bind fun old => ?_
    split
    · exact (failsWith_records _).bind fun _ => failsWith_pure false
    · split
      · exact (failsWith_records _).bind fun _ => failsWith_fail (.conflict p)
      · refine (hreplace _).bind fun _ => ?_
        exact (failsWith_records _).bind fun _ => failsWith_pure true

end Writer

namespace Compiler

open Work

/-! ## Calls -/

/-- A call to a compiler. -/
inductive Call where
  | compile (kinds : KindSet) (evaluator : Option Evaluator) (blocks : List Block)
  | preprocess (blocks : List Block)
  | process (evaluator : Option Evaluator) (blocks : List Block)
  | output (pass : Pass)
  | clean

/-- What a call leaves: the compiler, the workspace, and how the call ended. -/
structure Reply where
  compiler : Compiler
  workspace : Workspace
  ending : Except Error Unit

/-- The reply of a call that leaves a compiler and has been run. -/
def Reply.ofRun {α : Type} (c : Compiler) (run : Run α) : Reply :=
  { compiler := c
    workspace := run.workspace
    ending := run.outcome.map fun _ => () }

namespace Call

/-- Performs a call. -/
def perform (call : Call) (c : Compiler) (s : Workspace) : Reply :=
  match call with
  | .compile kinds evaluator blocks => .ofRun c (runPass kinds evaluator blocks s)
  | .preprocess blocks => .ofRun (c.preprocess blocks s).1 (c.preprocess blocks s).2
  | .process evaluator blocks => .ofRun (c.process evaluator blocks s).1 (c.process evaluator blocks s).2
  | .output pass => .ofRun c (c.output pass s)
  | .clean => .ofRun c (c.clean s)

/-- The stage that a call reaches, judged by the call and its ending: an import pass counts in any case, and a
full pass if it returned. -/
def reaches : Call × Except Error Unit → Option Stage
  | (.preprocess _, _) => some .importsDone
  | (.process _ _, .ok _) => some .complete
  | _ => none

theorem preprocess_fst
    (c : Compiler) (blocks : List Block) (s : Workspace) :
    (c.preprocess blocks s).1 = { c with stage := .importsDone } := by
  obtain ⟨pass, hpass⟩ := exists_imports none blocks
  simp only [Compiler.preprocess, hpass]

/-- A call changes nothing of a compiler but its stage, and that only if it reaches one. -/
theorem compiler_perform
    (call : Call) (c : Compiler) (s : Workspace) :
    (call.perform c s).compiler =
      { c with stage := (reaches (call, (call.perform c s).ending)).getD c.stage } := by
  cases call with
  | preprocess blocks =>
      exact preprocess_fst c blocks s
  | process evaluator blocks =>
      cases hrun : (fullPass evaluator blocks s).outcome with
      | ok pass =>
          simp [perform, Reply.ofRun, Compiler.process, hrun, reaches, Except.map]
      | error e =>
          simp [perform, Reply.ofRun, Compiler.process, hrun, reaches, Except.map]
  | compile kinds evaluator blocks =>
      rfl
  | output pass =>
      rfl
  | clean =>
      rfl

/-- An output of a compiler that is not complete fails at once. -/
theorem perform_output_of_ne
    {c : Compiler}
    (hstage : c.stage ≠ .complete)
    (pass : Pass)
    (s : Workspace) :
    (Call.output pass).perform c s =
      { compiler := c, workspace := s, ending := .error .fullPassMissing } := by
  simp [perform, Compiler.output, hstage, Reply.ofRun, fail, Except.map]

/-- An output of a complete compiler can fail in the writer only. -/
theorem ending_output_ne
    {c : Compiler}
    (hstage : c.stage = .complete)
    (pass : Pass)
    (s : Workspace) :
    ((Call.output pass).perform c s).ending ≠ .error .fullPassMissing := by
  have hfails : FailsWith Writer.WriteFault (writeOutput c.writer c.path pass) :=
    (Writer.fails_write c.writer c.path pass.lines true).bind fun _ => failsWith_pure _
  simp only [perform, Compiler.output, hstage, if_true, Reply.ofRun]
  intro hending
  cases hrun : (writeOutput c.writer c.path pass s).outcome with
  | ok report =>
      simp [hrun, Except.map] at hending
  | error e =>
      simp only [hrun, Except.map, Except.error.injEq] at hending
      subst hending
      cases hfails s _ hrun

end Call

/-! ## Runs -/

/-- A compiler at work: the files around it, and the calls so far with their endings. -/
structure Session where
  compiler : Compiler
  workspace : Workspace
  history : List (Call × Except Error Unit) := []

/-- What happens in a session: a call, or a change of files by somebody else. -/
inductive Event where
  | call (call : Call)
  | edit (files : Workspace)

namespace Session

/-- The session of a new compiler. -/
def start (p : Path) (w : Writer) (s : Workspace) : Session :=
  { compiler := { path := p, writer := w }, workspace := s }

/-- A session after one more event. -/
def step (t : Session) : Event → Session
  | .call call =>
      let reply := call.perform t.compiler t.workspace
      { compiler := reply.compiler
        workspace := reply.workspace
        history := t.history ++ [(call, reply.ending)] }
  | .edit files => { t with workspace := files }

/-- A session after some events. -/
def after (t : Session) (events : List Event) : Session :=
  events.foldl step t

/-- The stages that the calls so far have reached, in order. -/
def passes (t : Session) : List Stage :=
  t.history.filterMap Call.reaches

/-- The stage is the one that was reached last. -/
def Tracked (t : Session) : Prop :=
  t.compiler.stage = t.passes.getLast?.getD .uninitialized

theorem tracked_start
    (p : Path) (w : Writer) (s : Workspace) :
    (start p w s).Tracked := by
  rfl

theorem passes_call
    (t : Session) (call : Call) :
    (t.step (.call call)).passes =
      t.passes ++ (Call.reaches (call, (call.perform t.compiler t.workspace).ending)).toList := by
  simp only [passes, step, List.filterMap_append]
  rfl

theorem Tracked.step
    {t : Session}
    (h : t.Tracked)
    (event : Event) :
    (t.step event).Tracked := by
  cases event with
  | edit files =>
      exact h
  | call call =>
      have hstage : (t.step (.call call)).compiler.stage =
          (Call.reaches (call, (call.perform t.compiler t.workspace).ending)).getD
            t.compiler.stage :=
        congrArg Compiler.stage (Call.compiler_perform call t.compiler t.workspace)
      rw [Tracked, hstage, passes_call]
      cases Call.reaches (call, (call.perform t.compiler t.workspace).ending) with
      | none =>
          rw [Option.getD_none, Option.toList_none, List.append_nil]
          exact h
      | some stage =>
          simp

/-- The stage is tracked through every run. -/
theorem tracked_after
    {t : Session}
    (h : t.Tracked)
    (events : List Event) :
    (t.after events).Tracked := by
  induction events generalizing t with
  | nil =>
      exact h
  | cons event events ih =>
      exact ih (h.step event)

/-- No call reaches the stage of a new compiler. -/
theorem ne_uninitialized_of_mem_passes
    {t : Session} {stage : Stage}
    (h : stage ∈ t.passes) :
    stage ≠ .uninitialized := by
  obtain ⟨⟨call, ending⟩, -, hreached⟩ := List.mem_filterMap.mp h
  rintro rfl
  cases call <;> cases ending <;> simp [Call.reaches] at hreached

theorem uninitialized_iff_of_tracked
    {t : Session}
    (h : t.Tracked) :
    t.compiler.stage = .uninitialized ↔ t.passes = [] := by
  rw [h]
  cases hlast : t.passes.getLast? with
  | none =>
      simp [List.getLast?_eq_none_iff.mp hlast]
  | some stage =>
      have hmem := List.mem_of_getLast? hlast
      have hne := ne_uninitialized_of_mem_passes hmem
      simp [hne, List.ne_nil_of_mem hmem]

theorem complete_iff_of_tracked
    {t : Session}
    (h : t.Tracked) :
    t.compiler.stage = .complete ↔ t.passes.getLast? = some .complete := by
  rw [h]
  cases t.passes.getLast? <;> simp

end Session

/-- The stage of a compiler after any run of calls.  It is complete if and only if, of the import passes and
the full passes that returned, the last one was a full pass, and uninitialized if and only if there was
none.  An output fails for want of a full pass if and only if the stage is not complete, and then it leaves
the compiler and all files as they are.  Only import passes and full passes that return change the stage. -/
theorem stage_after_calls
    (p : Path) (w : Writer) (s : Workspace)
    (events : List Event) :
    let t := (Session.start p w s).after events
    (t.compiler.stage = .complete ↔ t.passes.getLast? = some .complete) ∧
    (t.compiler.stage = .uninitialized ↔ t.passes = []) ∧
    (∀ pass, ((Call.output pass).perform t.compiler t.workspace).ending = .error .fullPassMissing ↔
      t.compiler.stage ≠ .complete) ∧
    (∀ pass, t.compiler.stage ≠ .complete →
      t.step (.call (.output pass)) =
        { t with history := t.history ++ [(.output pass, .error .fullPassMissing)] }) ∧
    ∀ call,
      (∀ blocks, call ≠ .preprocess blocks) →
      (∀ evaluator blocks, call = .process evaluator blocks →
        ∃ e, (call.perform t.compiler t.workspace).ending = .error e) →
      (t.step (.call call)).compiler = t.compiler := by
  intro t
  have ht : t.Tracked := Session.tracked_after (Session.tracked_start p w s) events
  refine ⟨Session.complete_iff_of_tracked ht, Session.uninitialized_iff_of_tracked ht, ?_, ?_, ?_⟩
  · intro pass
    constructor
    · intro hending hstage
      exact Call.ending_output_ne hstage pass t.workspace hending
    · intro hstage
      rw [Call.perform_output_of_ne hstage]
  · intro pass hstage
    simp only [Session.step, Call.perform_output_of_ne hstage]
  · intro call hpre hprocess
    have hreached : Call.reaches (call, (call.perform t.compiler t.workspace).ending) = none := by
      cases call with
      | preprocess blocks =>
          exact absurd rfl (hpre blocks)
      | process evaluator blocks =>
          obtain ⟨e, he⟩ := hprocess evaluator blocks rfl
          rw [he]
          rfl
      | compile kinds evaluator blocks =>
          rfl
      | output pass =>
          rfl
      | clean =>
          rfl
    show (call.perform t.compiler t.workspace).compiler = t.compiler
    rw [Call.compiler_perform, hreached]
    rfl

end Compiler
end NamespaceManifest
