import ContractBench.Proofs.Noise
import Mathlib.Data.List.Forall2

/-! # Answers in other words

Two daemons say the same in other words if what they answer to each command of a deployment reads as
the same value of the type that is asked for. A deployment then comes to the same contract with
both, after the same calls (`Client.deploy_reworded`). The two runs go side by side: after each step
both have given the same, or both have failed, and both see the same scene and the same system.
-/

namespace ContractBench

/-! ## The same in other words -/

/-- Two outcomes of which the second has the answer of the first in other words. -/
inductive Outcome.Reworded (alike : Value → Value → Prop) : Outcome → Outcome → Prop where
  | same (outcome : Outcome) : Reworded alike outcome outcome
  | finished {output output' : Output} {document document' : Value}
      (complaint : output'.complaint = output.complaint)
      (read : Json.read output.answer = .ok document)
      (read' : Json.read output'.answer = .ok document') (said : alike document document') :
      Reworded alike (.finished output) (.finished output')

/-- Two ends of which the second has the answer of the first in other words. -/
inductive Ending.Reworded (alike : Value → Value → Prop) : Ending → Ending → Prop where
  | came {outcome outcome' : Outcome} (said : outcome.Reworded alike outcome') :
      Reworded alike (.came outcome) (.came outcome')
  | unwaited (output output' : Output) : Reworded alike (.unwaited output) (.unwaited output')

/-- The commands of a deployment, with the types of their answers. -/
inductive Command.Deploys : List String → AnswerType → Prop where
  | store (file : String) (user gas backend : Option String) :
      Deploys (Command.store file user gas backend) .broadcast
  | instantiate (codeId message label sender : String) (gas backend : Option String) :
      Deploys (Command.instantiate codeId message label sender gas backend) .broadcast
  | transaction (hash : String) : Deploys (Command.transaction hash) .transaction
  | listCodes : Deploys Command.listCodes .storedCodes

/-- Two daemons of which the second does what the first does, and answers the commands of a
    deployment in other words. -/
def Client.Rewords (client : Client) (alike : AnswerType → Value → Value → Prop)
    (daemon daemon' : Daemon) : Prop :=
  ∀ earlier call command type, Command.Deploys command type →
    call.argv = client.launcher.argv (command ++ client.launcher.settings.outputFlags) →
    (daemon' earlier call).disk = (daemon earlier call).disk ∧
      ((daemon earlier call).outcome).Reworded (alike type) (daemon' earlier call).outcome

namespace Outcome.Reworded

variable {alike : Value → Value → Prop} {outcome outcome' : Outcome}

theorem isFinished (h : outcome.Reworded alike outcome') :
    outcome'.isFinished = outcome.isFinished := by
  cases h <;> rfl

theorem isSettled (h : outcome.Reworded alike outcome') :
    outcome'.isSettled = outcome.isSettled := by
  cases h with
  | same => rfl
  | finished complaint => simp only [Outcome.isSettled, Output.isSettled, complaint]

end Outcome.Reworded

/-! ## Two runs in step -/

/-- Two worlds with the same scene, in which the system grants the same waits. -/
structure World.Meets (world world' : World) : Prop where
  scene : world'.scene = world.scene
  longestWait : world'.longestWait = world.longestWait

namespace World.Meets

variable {world world' later later' : World}

theorem disk (h : world.Meets world') : world'.disk = world.disk := congrArg Scene.disk h.scene

theorem waits (h : world.Meets world') (launcher : Launcher) :
    launcher.Waits world' ↔ launcher.Waits world := grants_congr h.longestWait _

theorem quiet (h : world.Meets world') (after : world.Quiet later) (after' : world'.Quiet later') :
    later.Meets later' where
  scene := by rw [after.scene, after'.scene, h.scene]
  longestWait := by rw [after.longestWait, after'.longestWait, h.longestWait]

end World.Meets

/-- Where two worlds meet an action leads to worlds that meet with both daemons, and gives the same
    unless it fails with both. -/
def Bench.InStep {α : Type} (daemon daemon' : Daemon) (action : Bench α) : Prop :=
  ∀ ⦃world world' : World⦄, world.Meets world' →
    (perform action daemon' world').1.toOption = (perform action daemon world).1.toOption ∧
      (perform action daemon world).2.Meets (perform action daemon' world').2

namespace Bench.InStep

variable {α β : Type} {daemon daemon' : Daemon}

theorem pure (a : α) : InStep daemon daemon' (pure a : Bench α) := fun _ _ meets => ⟨rfl, meets⟩

theorem throw (failure : Failure) : InStep daemon daemon' (throw failure : Bench α) :=
  fun _ _ meets => ⟨rfl, meets⟩

theorem log (level : Level) (logger message : String) :
    InStep daemon daemon' (Bench.log level logger message) := by
  intro world world' meets
  exact ⟨rfl, meets.quiet (.logged ..) (.logged ..)⟩

theorem tryFiles (op : FileOp α) : InStep daemon daemon' (Bench.tryFiles op) := by
  intro world world' meets
  rw [perform_tryFiles, perform_tryFiles, meets.disk]
  refine ⟨rfl, ?_, meets.longestWait⟩
  exact congrArg (fun scene : Scene => { scene with disk := (op.perform world.disk).2 })
    meets.scene

theorem bind {first : Bench α} {next : α → Bench β} (start : InStep daemon daemon' first)
    (further : ∀ a, InStep daemon daemon' (next a)) : InStep daemon daemon' (first >>= next) := by
  intro world world' meets
  obtain ⟨results, between⟩ := start meets
  rw [perform_bind, perform_bind]
  rcases performed : perform first daemon world with ⟨failure | a, later⟩ <;>
    rcases performed' : perform first daemon' world' with ⟨failure' | a', later'⟩ <;>
    rw [performed, performed'] at results between
  case error.error => exact ⟨rfl, between⟩
  case ok.ok =>
    -- Both have gone on, and with the same value, so that they go on to the same action.
    obtain rfl : a' = a := Option.some.inj results
    exact further a' between
  all_goals cases results

theorem ofExcept (result : Except Failure α) : InStep daemon daemon' (Bench.ofExcept result) := by
  intro world world' meets
  rw [perform_ofExcept, perform_ofExcept]
  exact ⟨rfl, meets⟩

/-- What an action gives may be known of the disk it finds. -/
theorem of_quiet {action : Bench α} (result : Disk → Except Failure α)
    (spec : ∀ daemon world, ∃ later,
      perform action daemon world = (result world.disk, later) ∧ world.Quiet later) :
    InStep daemon daemon' action := by
  intro world world' meets
  obtain ⟨later, performed, quiet⟩ := spec daemon world
  obtain ⟨later', performed', quiet'⟩ := spec daemon' world'
  rw [performed, performed', meets.disk]
  exact ⟨rfl, meets.quiet quiet quiet'⟩

end Bench.InStep

/-! ## Two runs of the retry loop -/

namespace Launcher

variable {launcher : Launcher} {command : List String} {daemon daemon' : Daemon}
  {alike : Value → Value → Prop} {retries : Nat} {world world' : World}

/-- One loop does not end for want of a wait where another one, whose first call comes to the same
    end, does not. -/
theorem Attempted.no_unwaited {before before' : List Output} {outcome : Outcome} {output : Output}
    {later later' : World}
    (h : launcher.Attempted command daemon retries world before (.came outcome) later)
    (h' : launcher.Attempted command daemon' retries world' before' (.unwaited output) later')
    (waits : launcher.Waits world → launcher.Waits world')
    (finished : (world.scene.outcomes daemon (launcher.argv command) 0).isFinished =
      (world'.scene.outcomes daemon' (launcher.argv command) 0).isFinished)
    (settled : (world.scene.outcomes daemon (launcher.argv command) 0).isSettled =
      (world'.scene.outcomes daemon' (launcher.argv command) 0).isSettled) : False := by
  obtain ⟨noisy, rfl, allowed⟩ := h'.trials.stuck output rfl
  obtain rfl : before = [] :=
    Classical.byContradiction fun more => h'.refused output rfl (waits (h.waits more))
  have first : world.scene.outcomes daemon (launcher.argv command) 0 = outcome := h.ending
  have first' : world'.scene.outcomes daemon' (launcher.argv command) 0 = .finished output :=
    h'.ending
  rw [first, first'] at finished settled
  rcases h.trials.done outcome rfl finished with isSettled | all
  · rw [settled] at isSettled
    simp [Outcome.isSettled, noisy] at isSettled
  · exact allowed all.symm

theorem Attempted.length_eq_of_reworded {before before' : List Output} {last last' : Outcome}
    {later later' : World}
    (reworded : ∀ i, (world.scene.outcomes daemon (launcher.argv command) i).Reworded alike
      (world'.scene.outcomes daemon' (launcher.argv command) i))
    (h : launcher.Attempted command daemon retries world before (.came last) later)
    (h' : launcher.Attempted command daemon' retries world' before' (.came last') later') :
    before'.length = before.length := by
  -- Neither loop can go on where the other one stops, as settled outcomes are so on both sides.
  refine Nat.le_antisymm ?_ ?_
  · have trials := h.trials
    rw [show last = _ from h.ending.symm] at trials
    refine trials.le_length h'.trials.few fun j below => ?_
    rw [← (reworded j).isFinished, ← (reworded j).isSettled]
    exact ⟨h'.finished j below, h'.noisy j below⟩
  · have trials := h'.trials
    rw [show last' = _ from h'.ending.symm] at trials
    refine trials.le_length h.trials.few fun j below => ?_
    rw [(reworded j).isFinished, (reworded j).isSettled]
    exact ⟨h.finished j below, h.noisy j below⟩

/-- Both loops end after as many calls, and in the same way. -/
theorem Attempted.reworded {before before' : List Output} {last last' : Ending}
    {later later' : World}
    (reworded : ∀ i, (world.scene.outcomes daemon (launcher.argv command) i).Reworded alike
      (world'.scene.outcomes daemon' (launcher.argv command) i))
    (waits : launcher.Waits world' ↔ launcher.Waits world)
    (h : launcher.Attempted command daemon retries world before last later)
    (h' : launcher.Attempted command daemon' retries world' before' last' later') :
    before'.length = before.length ∧ last.Reworded alike last' := by
  have first := reworded 0
  cases last with
  | came outcome =>
      cases last' with
      | came outcome' =>
          have length := h.length_eq_of_reworded reworded h'
          have final := reworded before.length
          rw [h.ending, ← length, h'.ending] at final
          exact ⟨length, .came final⟩
      | unwaited output' =>
          exact (h.no_unwaited h' waits.mpr first.isFinished.symm first.isSettled.symm).elim
  | unwaited output =>
      cases last' with
      | came outcome' => exact (h'.no_unwaited h waits.mp first.isFinished first.isSettled).elim
      | unwaited output' =>
          obtain ⟨-, rfl, -⟩ := h.trials.stuck output rfl
          obtain ⟨-, rfl, -⟩ := h'.trials.stuck output' rfl
          exact ⟨rfl, .unwaited output output'⟩

end Launcher

namespace Client

variable {client : Client} {alike : AnswerType → Value → Value → Prop} {daemon daemon' : Daemon}

theorem Rewords.scene_eq (rewords : client.Rewords alike daemon daemon') {command : List String}
    {type : AnswerType} (asked : Command.Deploys command type) (scene : Scene) (i : Nat) :
    let argv := client.launcher.argv (command ++ client.launcher.settings.outputFlags)
    scene.reached daemon' argv i = scene.reached daemon argv i := by
  intro argv
  induction i with
  | zero => rfl
  | succ i ih =>
      rw [Scene.reached_succ, Scene.reached_succ, ih]
      have same := (rewords (scene.reached daemon argv i).calls
        ((scene.reached daemon argv i).call argv) command type asked rfl).1
      simp only [Scene.next, Scene.run, same]

theorem Rewords.outcomes (rewords : client.Rewords alike daemon daemon') {command : List String}
    {type : AnswerType} (asked : Command.Deploys command type) (scene : Scene) (i : Nat) :
    let argv := client.launcher.argv (command ++ client.launcher.settings.outputFlags)
    (scene.outcomes daemon argv i).Reworded (alike type) (scene.outcomes daemon' argv i) := by
  intro argv
  rw [Scene.outcomes_eq, Scene.outcomes_eq, rewords.scene_eq asked]
  exact (rewords _ _ command type asked rfl).2

section

variable (rewords : client.Rewords alike daemon daemon')
  (reads : ∀ command type, Command.Deploys command type → ∀ document document',
    alike type document document' → type.schema.validate document' = type.schema.validate document)
include rewords reads

/-- One command: the loop ends after as many calls, and the answers read alike. -/
theorem inStep_run {command : List String} {type : AnswerType}
    (asked : Command.Deploys command type) :
    Bench.InStep daemon daemon' (client.run command type) := by
  intro world world' meets
  obtain ⟨before, last, ended, later, performed, attempted, quiet⟩ :=
    client.run_spec command type daemon world
  obtain ⟨before', last', ended', later', performed', attempted', quiet'⟩ :=
    client.run_spec command type daemon' world'
  obtain ⟨length, final⟩ := attempted.reworded
    (fun i => by rw [meets.scene]; exact rewords.outcomes asked world.scene i)
    (meets.waits client.launcher) attempted'
  have together : ended.Meets ended' := by
    refine ⟨?_, ?_⟩
    · rw [attempted.scene, attempted'.scene, length, meets.scene]
      exact rewords.scene_eq asked ..
    · rw [attempted.leads.longestWait, attempted'.leads.longestWait, meets.longestWait]
  rw [performed, performed']
  refine ⟨?_, together.quiet quiet quiet'⟩
  cases final with
  | unwaited => rfl
  | came said =>
      cases said with
      | same => rfl
      | finished _ read read' said =>
          simp only [Launcher.conclusion, Launcher.verdict_finished, Except.bind, reading,
            Launcher.document, read, read', Schema.accept, reads command type asked _ _ said]
          cases type.schema.validate _ <;> rfl

theorem inStep_store (file : String) (user gas backend : Option String) :
    Bench.InStep daemon daemon' (client.store file user gas backend) :=
  .bind (inStep_run rewords reads (.store ..)) fun _ => .bind (.log ..) fun _ => .pure _

theorem inStep_transaction (hash : String) :
    Bench.InStep daemon daemon' (client.transaction hash) :=
  .bind (inStep_run rewords reads (.transaction hash)) fun _ => .pure _

theorem inStep_create (message : Value) (contract : Contract) (label sender : String)
    (gas backend : Option String) :
    Bench.InStep daemon daemon'
      (client.create message contract label sender gas backend) := by
  refine .bind ?_ fun _ => inStep_transaction rewords reads _
  exact .bind (.ofExcept _) fun _ => .bind (inStep_run rewords reads (.instantiate ..)) fun _ =>
    .bind (.log ..) fun _ => .pure _

theorem inStep_storedCodes : Bench.InStep daemon daemon' client.storedCodes :=
  .bind (inStep_run rewords reads .listCodes) fun _ => .pure _

omit rewords reads in
theorem inStep_attributeOf (tx : Transaction) (key step : String) :
    Bench.InStep daemon daemon' (client.attributeOf tx key step) := by
  rw [attributeOf]
  cases tx.findAttribute? key client.settings.attributeScan with
  | some text => exact .pure text
  | none => exact .bind (.log ..) fun _ => .pure ""

omit rewords reads in
theorem inStep_reportFailure (tx : Transaction) :
    Bench.InStep daemon daemon' (client.reportFailure tx false) := by
  rw [reportFailure]
  cases tx.hasFailed with
  | false => exact .pure ()
  | true => exact .bind (.pure ()) fun _ => .log ..

theorem inStep_deployNew (plan : DeployPlan) :
    Bench.InStep daemon daemon' (client.deployNew plan) :=
  .bind (inStep_store rewords reads ..) fun _ =>
    .bind (inStep_transaction rewords reads _) fun storeTx =>
    .bind (inStep_attributeOf storeTx ..) fun _ =>
    .bind (inStep_create rewords reads ..) fun initTx =>
    .bind (inStep_reportFailure initTx) fun _ => .bind (inStep_attributeOf initTx ..) fun _ =>
    .bind (inStep_storedCodes rewords reads) fun _ => .pure _

omit rewords reads in
theorem inStep_keep (registry : Registry) (name : Option String) (label : String)
    (deployed : Deployed) :
    Bench.InStep daemon daemon' (keep registry name label deployed) := by
  rw [keep.eq_def]
  cases deployed.contract.isResolved with
  | false => exact .log ..
  | true =>
      cases name with
      | none => exact .log ..
      | some given =>
          refine .bind (.bind (.tryFiles _) fun result => ?_) fun _ => .pure ()
          cases result with
          | ok => exact .bind (.log ..) fun _ => .pure true
          | error e =>
              simp only
              split
              · exact .throw _
              · exact .bind (.log ..) fun _ => .pure false

/-- A deployment asks the same of both daemons, leaves the same disk, and gives the same contract or
    fails with both. -/
theorem deploy_reworded (plan : DeployPlan) (name : Option String) (registry : Option Registry)
    (world : World) :
    let run := Bench.perform (client.deploy plan name registry) daemon world
    let run' := Bench.perform (client.deploy plan name registry) daemon' world
    run'.1.toOption = run.1.toOption ∧ run'.2.calls = run.2.calls ∧ run'.2.disk = run.2.disk := by
  have inStep : Bench.InStep daemon daemon' (client.deploy plan name registry) := by
    refine .bind (.of_quiet
      (fun disk => .ok ⟨name, ((client.registryFor registry).found disk name).toOption⟩)
      ((client.registryFor registry).lookup_spec name)) fun looked => ?_
    cases looked.contract with
    | some contract => exact .pure contract
    | none =>
        exact .bind (inStep_deployNew rewords reads plan) fun deployed =>
          .bind (inStep_keep _ _ _ deployed) fun _ => .pure _
  have start : world.Meets world := ⟨rfl, rfl⟩
  obtain ⟨results, meets⟩ := inStep start
  exact ⟨results, congrArg Scene.calls meets.scene, meets.disk⟩

end

/-- Daemons that give their answers in order reword each other answer by answer. -/
theorem rewords_ofAnswers (client : Client) {alike : Value → Value → Prop}
    {answers answers' : List String}
    (each : List.Forall₂ (fun answer answer' => answer' = answer ∨
      ∃ document document', Json.read answer = .ok document ∧
        Json.read answer' = .ok document' ∧ alike document document') answers answers') :
    client.Rewords (fun _ => alike) (.ofAnswers answers) (.ofAnswers answers') := by
  intro earlier call command type _ _
  refine ⟨rfl, ?_⟩
  change (Outcome.finished ⟨answers[earlier.length]?, none, 0⟩).Reworded alike
    (.finished ⟨answers'[earlier.length]?, none, 0⟩)
  generalize earlier.length = i
  induction each generalizing i with
  | nil => exact .same _
  | cons first rest ih =>
      cases i with
      | succ i => exact ih i
      | zero =>
          rcases first with rfl | ⟨document, document', read, read', said⟩
          · exact .same _
          · exact .finished rfl read read' said

end Client

end ContractBench
