import ContractBench.Proofs.Steps
import Mathlib.Data.List.Forall2

/-! # Two runs side by side

Two operations that take the same steps, each in a world of its own, may still put different
commands to the daemon and find different disks. `Difference` says in what they may differ, and
`Difference.Paired` that they differ in nothing else, step by step. Then two daemons that do not
heed the difference keep the two runs together (`Paired.perform`): both give the same result, wait
and log alike, and remember the same messages.

The logs that were written before the two runs do not count. A run is therefore compared by the
deeds that it adds to those it found.
-/

namespace ContractBench

/-- In what two runs may differ. -/
structure Difference where
  commands : List String → List String → Prop
  disks : Disk → Disk → Prop

namespace Difference

variable (differ : Difference)

structure Calls (call call' : Invocation) : Prop where
  argv : differ.commands call.argv call'.argv
  disk : differ.disks call.disk call'.disk
  environment : call'.environment = call.environment

/-- Two deeds that are the same but for what calls may differ in. -/
inductive Deeds : Deed → Deed → Prop where
  | called {call call' : Invocation} (calls : differ.Calls call call') :
      Deeds (.called call) (.called call')
  | waited (seconds : Binary64) : Deeds (.waited seconds) (.waited seconds)
  | logged (record : LogRecord) : Deeds (.logged record) (.logged record)
  | printed (line : String) : Deeds (.printed line) (.printed line)

/-- Two daemons that do not heed the difference, nor in how long they take. Before the two runs
    there were the calls `begun` and `begun'`. -/
def Unheeded (begun begun' : List Invocation) (daemon daemon' : Daemon) : Prop :=
  ∀ earlier earlier' call call', List.Forall₂ differ.Calls earlier earlier' →
    differ.Calls call call' →
    (daemon' (earlier' ++ begun') call').outcome = (daemon (earlier ++ begun) call).outcome ∧
      (daemon' (earlier' ++ begun') call').elapsed = (daemon (earlier ++ begun) call).elapsed ∧
      differ.disks (daemon (earlier ++ begun) call).disk
        (daemon' (earlier' ++ begun') call').disk

/-- Two ways of working on files that give the same, and leave disks that differ no more than those
    they found. -/
def Works {α : Type} (op op' : FileOp α) : Prop :=
  ∀ disk disk', differ.disks disk disk' →
    (op'.perform disk').1 = (op.perform disk).1 ∧
      differ.disks (op.perform disk).2 (op'.perform disk').2

/-- Two operations that take the same steps. -/
inductive Paired : {α : Type} → Bench α → Bench α → Prop where
  | pure {α : Type} (a : α) : Paired (pure a : Bench α) (pure a)
  | throw {α : Type} (failure : Failure) :
      Paired (throw failure : Bench α) (throw failure)
  | log (level : Level) (logger message : String) :
      Paired (Bench.log level logger message) (Bench.log level logger message)
  | logThrottled (logger level message : String) (key : Option String) :
      Paired (Bench.logThrottled logger level message key)
        (Bench.logThrottled logger level message key)
  | wait (seconds : Binary64) : Paired (Bench.wait seconds) (Bench.wait seconds)
  | call {argv argv' : List String} (commands : differ.commands argv argv') :
      Paired (Bench.call argv) (Bench.call argv')
  | tryFiles {α : Type} {op op' : FileOp α} (works : differ.Works op op') :
      Paired (Bench.tryFiles op) (Bench.tryFiles op')
  /-- What comes next may depend on what the first steps gave, which is the same for both. -/
  | bind {α β : Type} {first first' : Bench α} {next next' : α → Bench β}
      (start : Paired first first') (further : ∀ a, Paired (next a) (next' a)) :
      Paired (first >>= next) (first' >>= next')
  | observe {α : Type} {action action' : Bench α} (paired : Paired action action') :
      Paired (Bench.observe action) (Bench.observe action')

/-- What is alike in two worlds that two runs have come to, which began with the deeds `begun` and
    `begun'`. -/
structure Alongside (begun begun' : List Deed) (world world' : World) : Prop where
  disk : differ.disks world.disk world'.disk
  clock : world'.clock = world.clock
  longestWait : world'.longestWait = world.longestWait
  throttle : world'.throttle = world.throttle
  environment : world'.environment = world.environment
  deeds : ∃ added added', world.deeds = added ++ begun ∧ world'.deeds = added' ++ begun' ∧
    List.Forall₂ differ.Deeds added added'

variable {differ}

/-! ## What can be told from the deeds -/

theorem Deeds.calls {added added' : List Deed} (h : List.Forall₂ differ.Deeds added added') :
    List.Forall₂ differ.Calls (callsIn added) (callsIn added') := by
  induction h with
  | nil => exact .nil
  | cons first rest ih =>
      cases first with
      | called calls => exact .cons calls ih
      | waited | logged | printed => exact ih

/-- What each deed tells of itself is told alike by both runs, unless calls are told apart. -/
theorem Deeds.told {α : Type} {tell : Deed → Option α} {added added' : List Deed}
    (h : List.Forall₂ differ.Deeds added added') (silent : ∀ call, tell (.called call) = none) :
    added'.filterMap tell = added.filterMap tell := by
  induction h with
  | nil => rfl
  | cons first rest ih =>
      cases first with
      | called => simp only [List.filterMap_cons, silent, ih]
      | waited | logged | printed => simp only [List.filterMap_cons, ih]

/-! ## One step, and all steps -/

variable {begun begun' : List Deed} {daemon daemon' : Daemon} {world world' : World}

namespace Alongside

theorem did (h : differ.Alongside begun begun' world world') {deed deed' : Deed}
    (deeds : differ.Deeds deed deed') :
    differ.Alongside begun begun' (world.did deed) (world'.did deed') := by
  obtain ⟨added, added', found, found', alike⟩ := h.deeds
  refine ⟨h.disk, h.clock, h.longestWait, h.throttle, h.environment, deed :: added,
    deed' :: added', ?_, ?_, .cons deeds alike⟩
  · rw [World.did, found, List.cons_append]
  · rw [World.did, found', List.cons_append]

theorem withDisk (h : differ.Alongside begun begun' world world') {disk disk' : Disk}
    (disks : differ.disks disk disk') :
    differ.Alongside begun begun' (world.withDisk disk) (world'.withDisk disk') :=
  ⟨disks, h.clock, h.longestWait, h.throttle, h.environment, h.deeds⟩

theorem passed (h : differ.Alongside begun begun' world world') (seconds : Binary64) :
    differ.Alongside begun begun' (world.passed seconds) (world'.passed seconds) := by
  have waited := h.did (.waited seconds)
  refine ⟨h.disk, ?_, h.longestWait, h.throttle, h.environment, waited.deeds⟩
  rw [World.passed, World.passed, h.clock]

theorem wait (h : differ.Alongside begun begun' world world') (seconds : Binary64) :
    (Bench.perform (Bench.wait seconds) daemon' world').1 =
        (Bench.perform (Bench.wait seconds) daemon world).1 ∧
      differ.Alongside begun begun' (Bench.perform (Bench.wait seconds) daemon world).2
        (Bench.perform (Bench.wait seconds) daemon' world').2 := by
  have alike : world'.Grants seconds ↔ world.Grants seconds :=
    World.grants_congr h.longestWait seconds
  by_cases granted : world.Grants seconds
  · rw [Bench.perform_wait daemon granted, Bench.perform_wait daemon' (alike.mpr granted)]
    exact ⟨rfl, h.passed seconds⟩
  · rw [Bench.perform_wait_of_not daemon granted,
      Bench.perform_wait_of_not daemon' (mt alike.mp granted)]
    exact ⟨rfl, h⟩

theorem call (h : differ.Alongside begun begun' world world') {argv argv' : List String}
    (commands : differ.commands argv argv') :
    differ.Calls (world.scene.call argv) (world'.scene.call argv') :=
  ⟨commands, h.disk, h.environment⟩

theorem asked (h : differ.Alongside begun begun' world world')
    (unheeded : differ.Unheeded (callsIn begun) (callsIn begun') daemon daemon')
    {argv argv' : List String} (commands : differ.commands argv argv') :
    (world'.scene.run daemon' argv').outcome = (world.scene.run daemon argv).outcome ∧
      differ.Alongside begun begun' (world.asked daemon argv) (world'.asked daemon' argv') := by
  obtain ⟨added, added', found, found', alike⟩ := h.deeds
  have calls : world.calls = callsIn added ++ callsIn begun := by
    rw [← callsIn_append, ← found]
    rfl
  have calls' : world'.calls = callsIn added' ++ callsIn begun' := by
    rw [← callsIn_append, ← found']
    rfl
  obtain ⟨outcome, elapsed, disk⟩ := unheeded _ _ _ _ (Deeds.calls alike) (h.call commands)
  rw [← calls, ← calls'] at outcome elapsed disk
  have called := h.did (.called (h.call commands))
  refine ⟨outcome, disk, ?_, h.longestWait, h.throttle, h.environment, called.deeds⟩
  rw [World.asked, World.asked, Scene.run, Scene.run, h.clock]
  exact congrArg (world.clock + ·) elapsed

theorem remembering (h : differ.Alongside begun begun' world world') (key : String) :
    differ.Alongside begun begun' (world.remembering key) (world'.remembering key) := by
  refine ⟨h.disk, h.clock, h.longestWait, ?_, h.environment, h.deeds⟩
  simp only [World.remembering, h.throttle, h.clock]

theorem logThrottled (h : differ.Alongside begun begun' world world')
    (logger level message : String) (key : Option String) :
    let action := Bench.logThrottled logger level message key
    (Bench.perform action daemon' world').1 = (Bench.perform action daemon world).1 ∧
      differ.Alongside begun begun' (Bench.perform action daemon world).2
        (Bench.perform action daemon' world').2 := by
  intro action
  simp only [action, Bench.perform_logThrottled, h.throttle, h.clock]
  split
  · exact ⟨rfl, h⟩
  · cases LevelName.ofText logger level message with
    | logs known => exact ⟨rfl, (h.did (.logged ⟨known, logger, message⟩)).remembering _⟩
    | silent => exact ⟨rfl, h.remembering _⟩
    | refused fault => exact ⟨rfl, h⟩

end Alongside

/-- Two operations that take the same steps give the same result and leave worlds that are alike, as
    long as the daemons do not heed the difference. -/
theorem Paired.perform {α : Type} {action action' : Bench α} (paired : differ.Paired action action')
    (unheeded : differ.Unheeded (callsIn begun) (callsIn begun') daemon daemon')
    (h : differ.Alongside begun begun' world world') :
    (Bench.perform action' daemon' world').1 = (Bench.perform action daemon world).1 ∧
      differ.Alongside begun begun' (Bench.perform action daemon world).2
        (Bench.perform action' daemon' world').2 := by
  -- The worlds that the induction is about are those between two steps, which stay alongside.
  induction paired generalizing world world' with
  | pure | throw => exact ⟨rfl, h⟩
  | log level logger message => exact ⟨rfl, h.did (.logged ⟨level, logger, message⟩)⟩
  | logThrottled logger level message key => exact h.logThrottled logger level message key
  | wait seconds => exact h.wait seconds
  | call commands =>
      obtain ⟨outcome, asked⟩ := h.asked unheeded commands
      exact ⟨congrArg Except.ok outcome, asked⟩
  | tryFiles works =>
      obtain ⟨given, disks⟩ := works _ _ h.disk
      exact ⟨congrArg Except.ok given, h.withDisk disks⟩
  | @bind _ _ first first' next next' start further ihFirst ihNext =>
      obtain ⟨same, between⟩ := ihFirst h
      rw [Bench.perform_bind, Bench.perform_bind]
      rcases performed : Bench.perform first daemon world with ⟨result, later⟩
      rcases performed' : Bench.perform first' daemon' world' with ⟨result', later'⟩
      rw [performed, performed'] at same between
      obtain rfl : result' = result := same
      cases result' with
      | error failure => exact ⟨rfl, between⟩
      | ok a => exact ihNext a between
  | observe paired ih =>
      obtain ⟨same, later⟩ := ih h
      rw [Bench.perform_observe, Bench.perform_observe]
      exact ⟨congrArg Except.ok same, later⟩

/-! ## Running a command -/

/-- Two commands that differ as they may, and beyond the arguments that are ever named. -/
structure Namesakes (differ : Difference) (launcher : Launcher) (command command' : List String) :
    Prop where
  commands : differ.commands (launcher.argv command) (launcher.argv command')
  head : command'.take Launcher.distinctArguments = command.take Launcher.distinctArguments

namespace Namesakes

variable {launcher : Launcher} {command command' : List String}

theorem describe (h : differ.Namesakes launcher command command') {depth : Nat}
    (shallow : depth ≤ Launcher.distinctArguments) :
    launcher.describe depth command' = launcher.describe depth command := by
  have head : command'.take depth = command.take depth := by
    have taken := congrArg (List.take depth) h.head
    rwa [List.take_take, List.take_take, Nat.min_eq_left shallow] at taken
  rw [Launcher.describe, Launcher.describe, head]

theorem named (h : differ.Namesakes launcher command command') :
    launcher.named command' = launcher.named command := h.describe (by decide)

theorem invoke (h : differ.Namesakes launcher command command') :
    differ.Paired (launcher.invoke command) (launcher.invoke command') := by
  simp only [Launcher.invoke, h.named]
  refine .bind (.log ..) fun _ => .bind (.call h.commands) fun outcome => ?_
  cases outcome with
  | finished output => exact .bind (.log ..) fun _ => .pure output
  | refused fault =>
      refine .bind (.log ..) fun _ => ?_
      split
      · exact .throw _
      · exact .throw _
  | embeddedNul => exact .throw _

theorem announceRetry (h : differ.Namesakes launcher command command') (attempt : Nat)
    (complaint : String) :
    differ.Paired (launcher.announceRetry command attempt complaint)
      (launcher.announceRetry command' attempt complaint) := by
  simp only [Launcher.announceRetry, h.named, h.describe (Nat.le_refl _)]
  refine .bind (.logThrottled ..) fun warned => ?_
  cases warned with
  | true => exact .pure ()
  | false => exact .log ..

theorem settle (h : differ.Namesakes launcher command command') (left attempt : Nat)
    (output : Output) :
    differ.Paired (launcher.settle command left attempt output)
      (launcher.settle command' left attempt output) := by
  induction left generalizing attempt output with
  | zero => exact .pure output
  | succ left ih =>
      rw [Launcher.settle, Launcher.settle]
      cases output.isSettled with
      | true => exact .pure output
      | false =>
          exact .bind (h.announceRetry attempt _) fun _ => .bind (.wait _) fun _ =>
            .bind h.invoke fun next => ih (attempt + 1) next

theorem run (h : differ.Namesakes launcher command command') :
    differ.Paired (launcher.run command) (launcher.run command') :=
  .bind h.invoke fun output => .bind (h.settle _ 1 output) fun last => .pure last.answer

theorem readAnswer (h : differ.Namesakes launcher command command') (answer : String) :
    differ.Paired (launcher.readAnswer command answer) (launcher.readAnswer command' answer) := by
  simp only [Launcher.readAnswer, h.named]
  cases Json.read answer with
  | ok document => exact .pure document
  | error e =>
      simp only
      cases Failure.ofSize? e.fault with
      | some failure => exact .throw failure
      | none => exact .bind (.log ..) fun _ => .throw _

end Namesakes

theorem Namesakes.runJson {launcher : Launcher} {args args' : List String}
    (h : differ.Namesakes launcher (args ++ launcher.settings.outputFlags)
      (args' ++ launcher.settings.outputFlags)) :
    differ.Paired (launcher.runJson args) (launcher.runJson args') := by
  rw [Launcher.runJson_eq, Launcher.runJson_eq]
  exact .bind h.run fun answer => h.readAnswer answer

end Difference

/-- One operation that is run twice takes the same steps, as long as its work on files is not
    disturbed by the difference. -/
theorem Launcher.Steps.paired {launcher : Launcher} {permitted : (β : Type) → FileOp β → Prop}
    {α : Type} {action : Bench α} (steps : launcher.Steps permitted action) {differ : Difference}
    (sameCommands : ∀ argv, differ.commands argv argv)
    (works : ∀ (β : Type) (op : FileOp β), permitted β op → differ.Works op op) :
    differ.Paired action action := by
  induction steps with
  | pure a => exact .pure a
  | throw failure => exact .throw failure
  | log level logger message => exact .log level logger message
  | tryFiles allowed => exact .tryFiles (works _ _ allowed)
  | run command => exact Difference.Namesakes.run ⟨sameCommands _, rfl⟩
  | bind start further ihStart ihFurther => exact .bind ihStart ihFurther
  | observe steps ih => exact .observe ih

end ContractBench
