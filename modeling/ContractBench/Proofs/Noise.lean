import ContractBench.Proofs.Deployment
import ContractBench.Proofs.Steps

/-! # Noise makes no difference

A noisy daemon gives the answers of a steady one, but complains some times before each of them. The
retry loop makes up for that: a flow of the client gives the same result, leaves the same disk and
makes the same calls, each repeated once for every complaint (`Flow.with_noise`). The two runs go
side by side. What is alike in their worlds (`Noise.Alike`) is all that the next step depends on;
the logs and the memory of the throttle differ.
-/

namespace ContractBench

/-! ## Waiting -/

/-- The times that were waited, the latest first. -/
def World.waits (world : World) : List Binary64 :=
  world.deeds.filterMap fun
    | .waited seconds => some seconds
    | _ => none

def Act.wait? : Act → Option Binary64
  | .waited seconds => some seconds
  | .asked _ _ => none

namespace World

theorem waits_acts (world : World) (daemon : Daemon) :
    (world.acts daemon).filterMap Act.wait? = world.waits.reverse := by
  simp only [acts, waits]
  induction world.deeds with
  | nil => rfl
  | cons deed earlier ih => cases deed <;> simp [actsIn, Act.wait?, ih]

theorem Leads.waits {daemon : Daemon} {before after : World} {acts : List Act}
    (h : before.Leads daemon acts after) :
    after.waits = (acts.filterMap Act.wait?).reverse ++ before.waits := by
  have all := after.waits_acts daemon
  rw [h.acts, List.filterMap_append, before.waits_acts daemon] at all
  rw [← List.reverse_reverse after.waits, ← all]
  simp

end World

theorem waits_rounds (argv : List String) (interval : Binary64) (before : List Outcome)
    (last : Outcome) :
    (rounds argv interval before last).filterMap Act.wait? =
      List.replicate before.length interval := by
  rw [rounds]
  induction before with
  | nil => rfl
  | cons outcome before ih =>
      rw [List.flatMap_cons, List.append_assoc, List.filterMap_append, ih]
      rfl

/-! ## Trials are determined by the daemon -/

theorem Trials.le_length {retries i : Nat} {before : List Output} {outcome : Nat → Outcome}
    (h : Trials retries before (.came (outcome before.length))) (allowed : i ≤ retries)
    (noisy : ∀ j < i, (outcome j).isFinished = true ∧ (outcome j).isSettled = false) :
    i ≤ before.length := by
  refine Nat.le_of_not_lt fun below => ?_
  obtain ⟨finished, complains⟩ := noisy _ below
  rcases h.done _ rfl finished with settled | all
  · simp [complains] at settled
  · omega

/-- Outputs that complain and an outcome that ends the loop are what a run goes through when the
    daemon has them in store. -/
theorem Launcher.run_of_trials (launcher : Launcher) (command : List String) {daemon : Daemon}
    {world : World} {before : List Output} {last : Outcome}
    (trials : Trials launcher.settings.maxRetries before (.came last))
    (waits : before ≠ [] → launcher.Waits world)
    (complaints : ∀ (i : Nat) (inside : i < before.length),
      world.scene.outcomes daemon (launcher.argv command) i = .finished before[i])
    (ending : world.scene.outcomes daemon (launcher.argv command) before.length = last) :
    ∃ later, Bench.perform (launcher.run command) daemon world =
        ((launcher.verdict command last).map Output.answer, later) ∧
      later.scene = world.scene.reached daemon (launcher.argv command) (before.length + 1) ∧
      later.longestWait = world.longestWait ∧
      later.waits =
        List.replicate before.length launcher.settings.retryInterval ++ world.waits := by
  obtain ⟨before', ended, later, performed, attempted⟩ :=
    launcher.run_spec command daemon world
  subst ending
  have came := attempted.came fun finished due => waits fun none => by
    -- Without a complaint the first call is the last one that is asked for.
    subst none
    have first := lastAttempt_eq (Nat.zero_le _) nofun (trials.done _ rfl finished)
    omega
  rw [← attempted.ending] at came
  subst came
  have length : before'.length = before.length := by
    refine Nat.le_antisymm ?_ ?_
    · refine trials.le_length attempted.trials.few fun j below => ?_
      exact ⟨attempted.finished j below, attempted.noisy j below⟩
    · refine attempted.trials.le_length trials.few fun j below => ?_
      rw [complaints j below]
      exact ⟨rfl, trials.noisy _ (List.getElem_mem below)⟩
  refine ⟨later, by rw [performed, length, conclusion], by rw [attempted.scene, length],
    attempted.leads.longestWait, ?_⟩
  rw [attempted.leads.waits, waits_rounds, List.length_map, length, List.reverse_replicate]

/-- A run that gives an output and leaves the disk as it was, however long it takes. -/
structure Run.Complains (run : Run) (output : Output) (disk : Disk) : Prop where
  outcome : run.outcome = .finished output
  disk : run.disk = disk

theorem Scene.reached_of_complaints (daemon : Daemon) (argv : List String) (scene : Scene)
    (before : List Output)
    (complaints : ∀ (i : Nat) (inside : i < before.length),
      (daemon (List.replicate i (scene.call argv) ++ scene.calls) (scene.call argv)).Complains
        before[i] scene.disk) (i : Nat) (inside : i ≤ before.length) :
    scene.reached daemon argv i =
      ⟨List.replicate i (scene.call argv) ++ scene.calls, scene.disk, scene.environment⟩ :=
  reached_of_unchanged fun j below => (complaints j (by omega)).disk

/-- A command to which a daemon complains some times and leaves the disk alone, before it runs in a
    way that ends the loop. -/
theorem Launcher.run_after_complaints (launcher : Launcher) (command : List String)
    (daemon : Daemon) (world : World) {call : Invocation} (before : List Output) {last : Run}
    (known : world.scene.call (launcher.argv command) = call)
    (trials : Trials launcher.settings.maxRetries before (.came last.outcome))
    (waits : before ≠ [] → launcher.Waits world)
    (complaints : ∀ (i : Nat) (inside : i < before.length),
      (daemon (List.replicate i call ++ world.calls) call).Complains before[i] call.disk)
    (ending : daemon (List.replicate before.length call ++ world.calls) call = last) :
    ∃ later, Bench.perform (launcher.run command) daemon world =
        ((launcher.verdict command last.outcome).map Output.answer, later) ∧
      later.calls = List.replicate (before.length + 1) call ++ world.calls ∧
      later.disk = last.disk ∧ later.environment = world.environment ∧
      later.longestWait = world.longestWait ∧
      later.waits =
        List.replicate before.length launcher.settings.retryInterval ++ world.waits := by
  subst known
  have reached := world.scene.reached_of_complaints daemon (launcher.argv command) before complaints
  have run (i : Nat) (inside : i ≤ before.length) :
      (world.scene.reached daemon (launcher.argv command) i).run daemon (launcher.argv command) =
        daemon (List.replicate i (world.scene.call (launcher.argv command)) ++ world.calls)
          (world.scene.call (launcher.argv command)) := by
    rw [reached i inside]
    rfl
  obtain ⟨later, performed, scene, longestWait, waited⟩ :=
    launcher.run_of_trials command trials waits
    (fun i inside => by rw [Scene.outcomes_eq, run i (by omega), (complaints i inside).outcome])
    (by rw [Scene.outcomes_eq, run _ (Nat.le_refl _), ending])
  rw [Scene.reached_succ, Scene.next, run _ (Nat.le_refl _), ending, reached _ (Nat.le_refl _)]
    at scene
  exact ⟨later, performed, congrArg Scene.calls scene, congrArg Scene.disk scene,
    congrArg Scene.environment scene, longestWait, waited⟩

/-! ## Noisy daemons -/

/-- The outputs that complain before the answer to a call, by the calls of the flow before it. -/
abbrev Noise := List Invocation → Invocation → List Output

namespace Noise

/-- The calls of a flow, each repeated once for every output that complains. -/
def calls (noise : Noise) : List Invocation → List Invocation
  | [] => []
  | call :: earlier =>
    List.replicate ((noise earlier call).length + 1) call ++ noise.calls earlier

/-- How many outputs complain in a flow. -/
def total (noise : Noise) : List Invocation → Nat
  | [] => 0
  | call :: earlier => (noise earlier call).length + noise.total earlier

/-- For one call of a flow, a steady daemon settles at once or refuses, and a noisy one complains
    first, without changing the disk and not more often than the call may be repeated. Before the
    flow there were the calls `begun`. -/
structure Inserted (noise : Noise) (retries : Nat) (steady noisy : Daemon)
    (begun earlier : List Invocation) (call : Invocation) : Prop where
  settled : (steady (earlier ++ begun) call).outcome.isFinished →
    (steady (earlier ++ begun) call).outcome.isSettled
  few : (noise earlier call).length ≤ retries
  complain : ∀ output ∈ noise earlier call, output.isSettled = false
  before : ∀ (i : Nat) (inside : i < (noise earlier call).length),
    (noisy (List.replicate i call ++ (noise.calls earlier ++ begun)) call).Complains
      (noise earlier call)[i] call.disk
  after :
    let answer := noisy
      (List.replicate (noise earlier call).length call ++ (noise.calls earlier ++ begun)) call
    answer.outcome = (steady (earlier ++ begun) call).outcome ∧
      answer.disk = (steady (earlier ++ begun) call).disk

/-- What is alike in two runs of a flow that began in one world. -/
structure Alike (noise : Noise) (interval : Binary64) (begun : World) (calls : List Invocation)
    (steady noisy : World) : Prop where
  disk : noisy.disk = steady.disk
  environment : noisy.environment = steady.environment
  longestWait : noisy.longestWait = begun.longestWait
  called : steady.calls = calls ++ begun.calls
  repeated : noisy.calls = noise.calls calls ++ begun.calls
  waits : steady.waits = begun.waits
  waited : noisy.waits = List.replicate (noise.total calls) interval ++ begun.waits

variable {launcher : Launcher} {noise : Noise} {steady noisy : Daemon} {begun world world' : World}
  {calls : List Invocation}

/-- One command: the steady daemon is called once, the noisy one until it has nothing more to
    complain of. -/
theorem Alike.run (h : noise.Alike launcher.settings.retryInterval begun calls world world')
    (command : List String)
    (inserted : noise.Inserted launcher.settings.maxRetries steady noisy begun.calls calls
      (world.scene.call (launcher.argv command)))
    (granted : noise calls (world.scene.call (launcher.argv command)) ≠ [] →
      launcher.Waits begun) :
    (Bench.perform (launcher.run command) noisy world').1 =
        (Bench.perform (launcher.run command) steady world).1 ∧
      noise.Alike launcher.settings.retryInterval begun
        (world.scene.call (launcher.argv command) :: calls)
        (Bench.perform (launcher.run command) steady world).2
        (Bench.perform (launcher.run command) noisy world').2 := by
  have sameCall : world'.scene.call (launcher.argv command) =
      world.scene.call (launcher.argv command) := by
    simp only [Scene.call, World.scene, h.disk, h.environment]
  obtain ⟨later, performed, called, disk, environment, -, waits⟩ :=
    launcher.run_after_complaints command steady world [] rfl
      (.now fun finished => .inl (inserted.settled finished)) (fun some => absurd rfl some)
      (fun i inside => absurd inside (Nat.not_lt_zero i))
      (congrFun (congrArg steady h.called) _)
  have after := inserted.after
  have trials : Trials launcher.settings.maxRetries (noise calls _) (.came (noisy _ _).outcome) :=
    .settled inserted.few inserted.complain fun finished => .inl (by
      rw [after.1] at finished ⊢
      exact inserted.settled finished)
  have waits' : noise calls (world.scene.call (launcher.argv command)) ≠ [] →
      launcher.Waits world' := fun some => (World.grants_congr h.longestWait _).mpr (granted some)
  obtain ⟨later', performed', called', disk', environment', longestWait', waited'⟩ :=
    launcher.run_after_complaints command noisy world' _ sameCall trials waits'
      (by simpa only [h.repeated] using inserted.before) (by rw [h.repeated])
  rw [performed, performed', after.1]
  refine ⟨rfl, ?_, ?_, ?_, ?_, ?_, ?_, ?_⟩
  · rw [disk, disk', after.2]
  · rw [environment, environment', h.environment]
  · rw [longestWait', h.longestWait]
  · rw [called, h.called]
    rfl
  · rw [called', h.repeated, Noise.calls, List.append_assoc]
  · rw [waits, h.waits]
    rfl
  · rw [waited', h.waited, total, ← List.append_assoc, List.replicate_append_replicate]

/-- Two runs of any steps go side by side, as long as the noisy daemon does what it should for the
    calls of the steady run. -/
theorem Alike.perform {permitted : (β : Type) → FileOp β → Prop} {α : Type} {action : Bench α}
    (steps : launcher.Steps permitted action)
    (h : noise.Alike launcher.settings.retryInterval begun calls world world')
    (inserted : ∀ earlier call,
      call :: (earlier ++ begun.calls) <:+ (Bench.perform action steady world).2.calls →
      noise.Inserted launcher.settings.maxRetries steady noisy begun.calls earlier call)
    (granted : ∀ earlier call, noise earlier call ≠ [] → launcher.Waits begun) :
    (Bench.perform action noisy world').1 = (Bench.perform action steady world).1 ∧
      ∃ more, noise.Alike launcher.settings.retryInterval begun more
        (Bench.perform action steady world).2 (Bench.perform action noisy world').2 := by
  induction steps generalizing world world' calls with
  | pure | throw => exact ⟨rfl, calls, h⟩
  | log =>
      exact ⟨rfl, calls, h.disk, h.environment, h.longestWait, h.called, h.repeated, h.waits,
        h.waited⟩
  | tryFiles allowed =>
      rw [Bench.perform_tryFiles, Bench.perform_tryFiles, h.disk]
      exact ⟨rfl, calls, rfl, h.environment, h.longestWait, h.called, h.repeated, h.waits, h.waited⟩
  | run command =>
      have called := inserted calls (world.scene.call (launcher.argv command)) (by
        rw [← h.called]
        exact launcher.call_suffix command steady world)
      obtain ⟨same, alike⟩ := h.run command called (granted _ _)
      exact ⟨same, _, alike⟩
  | @bind _ _ first next start further ihFirst ihNext =>
      have grown : (Bench.perform first steady world).2.calls <:+
          (Bench.perform (first >>= next) steady world).2.calls :=
        Launcher.Steps.calls_suffix_bind further steady world
      obtain ⟨same, more, alike⟩ := ihFirst h fun earlier call inside =>
        inserted earlier call (inside.trans grown)
      rw [Bench.perform_bind] at inserted
      rw [Bench.perform_bind, Bench.perform_bind]
      rcases performed : Bench.perform first steady world with ⟨result, later⟩
      rcases performed' : Bench.perform first noisy world' with ⟨result', later'⟩
      rw [performed, performed'] at same alike
      obtain rfl : result' = result := same
      rw [performed] at inserted
      cases result' with
      | error failure => exact ⟨rfl, more, alike⟩
      | ok a => exact ihNext a alike inserted
  | observe steps ih =>
      rw [Bench.perform_observe] at inserted
      rw [Bench.perform_observe, Bench.perform_observe]
      obtain ⟨same, more, alike⟩ := ih h inserted
      exact ⟨congrArg Except.ok same, more, alike⟩

/-! ## Noise for any daemon -/

/-- Where a noisy flow has come to: the calls that were answered, the latest first, and how often
    the next one was met with a complaint. -/
def place (noise : Noise) : List Invocation → List Invocation × Nat
  | [] => ([], 0)
  | call :: before =>
    let (earlier, met) := noise.place before
    if met < (noise earlier call).length then (earlier, met + 1) else (call :: earlier, 0)

/-- The daemon that complains before each answer of a steady one, after the calls `begun`. -/
def insert (noise : Noise) (steady : Daemon) (begun : List Invocation) : Daemon :=
  fun history call =>
    let (earlier, met) := noise.place (history.take (history.length - begun.length))
    match (noise earlier call)[met]? with
    | some output => ⟨.finished output, call.disk, .zero⟩
    | none => steady (earlier ++ begun) call

theorem place_again {before earlier : List Invocation} (known : noise.place before = (earlier, 0))
    (call : Invocation) (i : Nat) (inside : i ≤ (noise earlier call).length) :
    noise.place (List.replicate i call ++ before) = (earlier, i) := by
  induction i with
  | zero => exact known
  | succ i ih =>
      rw [List.replicate_succ, List.cons_append, place, ih (by omega)]
      exact if_pos inside

theorem place_calls (noise : Noise) (earlier : List Invocation) :
    noise.place (noise.calls earlier) = (earlier, 0) := by
  induction earlier with
  | nil => rfl
  | cons call earlier ih =>
      rw [Noise.calls, List.replicate_succ, List.cons_append, place,
        place_again ih call _ (Nat.le_refl _)]
      exact if_neg (Nat.lt_irrefl _)

theorem insert_met (noise : Noise) (steady : Daemon) (begun earlier : List Invocation)
    (call : Invocation) (i : Nat) (inside : i ≤ (noise earlier call).length) :
    noise.insert steady begun (List.replicate i call ++ (noise.calls earlier ++ begun)) call =
      match (noise earlier call)[i]? with
      | some output => ⟨.finished output, call.disk, .zero⟩
      | none => steady (earlier ++ begun) call := by
  have flow : (List.replicate i call ++ (noise.calls earlier ++ begun)).take
      ((List.replicate i call ++ (noise.calls earlier ++ begun)).length - begun.length) =
        List.replicate i call ++ noise.calls earlier := by
    rw [← List.append_assoc]
    generalize List.replicate i call ++ noise.calls earlier = flow
    exact List.take_left' (by rw [List.length_append, Nat.add_sub_cancel])
  rw [insert, flow, place_again (noise.place_calls earlier) call i inside]

theorem inserted_insert {retries : Nat} {begun earlier : List Invocation} {call : Invocation}
    (settled : (steady (earlier ++ begun) call).outcome.isFinished →
      (steady (earlier ++ begun) call).outcome.isSettled)
    (few : (noise earlier call).length ≤ retries)
    (complain : ∀ output ∈ noise earlier call, output.isSettled = false) :
    noise.Inserted retries steady (noise.insert steady begun) begun earlier call where
  settled := settled
  few := few
  complain := complain
  before i inside := by
    rw [insert_met noise steady begun earlier call i (Nat.le_of_lt inside),
      List.getElem?_eq_getElem inside]
    exact ⟨rfl, rfl⟩
  after := by
    rw [insert_met noise steady begun earlier call _ (Nat.le_refl _),
      List.getElem?_eq_none (Nat.le_refl _)]
    exact ⟨rfl, rfl⟩

end Noise

/-! ## Flows -/

namespace Client

/-- The flows of a client, by what they give. -/
inductive Flow : Type → Type where
  | deploy (plan : DeployPlan) (name : Option String) (registry : Option Registry) : Flow Contract
  | deployUncached (plan : DeployPlan) : Flow Contract
  | create (message : Value) (contract : Contract) (label sender : String)
      (gas backend : Option String) : Flow Transaction
  | handle (message : Value) (contract : Contract) (sender : String)
      (gas backend amount : Option String) : Flow (Computation × Transaction)
  | ask (contract : Contract) (message : Value) (type : Option AnswerType) : Flow Value
  | address (key : String) : Flow String
  | sign (document : Value) (signer : String) : Flow Signature

namespace Flow

def action (client : Client) {α : Type} : Flow α → Bench α
  | .deploy plan name registry => client.deploy plan name registry
  | .deployUncached plan => client.deployUncached plan
  | .create message contract label sender gas backend =>
    client.create message contract label sender gas backend
  | .handle message contract sender gas backend amount =>
    client.handle message contract sender gas backend amount
  | .ask contract message type => client.ask contract message type
  | .address key => client.address key
  | .sign document signer => client.sign document signer

theorem steps (client : Client) {α : Type} (flow : Flow α) :
    client.launcher.Steps (fun _ _ => True) (flow.action client) := by
  cases flow with
  | deploy => exact steps_deploy _ _ _ (fun _ => trivial) (fun _ _ _ => trivial)
  | deployUncached => exact steps_deployUncached _
  | create => exact steps_create ..
  | handle => exact steps_handle ..
  | ask => exact steps_ask ..
  | address => exact steps_address _
  | sign => exact steps_sign _ _ (fun _ => trivial) trivial

/-- None, one or two complaints before the answers of a daemon. -/
def counterNoise : Noise := fun earlier _ =>
  List.replicate (earlier.length % 3) ⟨some "pending", some "tx not found", 1⟩

/-- A client that runs commands again without end in sight. -/
def endlessClient : Client := .ofSettings Launcher.endless.settings defaultLogger

def steadyDaemon : Daemon := .ofOutcomes fun _ _ => .finished ⟨some "secret1", none, 0⟩

/-- One complaint before each answer. -/
def oneComplaint : Noise := fun _ _ => [⟨none, some "not yet", 1⟩]

end Flow

end Client

end ContractBench
