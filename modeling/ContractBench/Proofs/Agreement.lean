import ContractBench.Proofs.Resolved
import ContractBench.Proofs.SideBySide

/-! # Ways of deploying agree

A deployment without a name, one without a registry and one by its message take the same steps, and
files do not matter to any of them (`Bench.Blind`). A deployment under a name that is not kept yet
takes these steps too, and can do no more to the disk than saving does (`deployments_agree`).
-/

namespace ContractBench

namespace Difference

variable {differ : Difference} {begun begun' : List Deed} {daemon daemon' : Daemon}

/-- Where commands do not differ, both runs do the same with the daemon and the clock. -/
theorem acts_alike (sameCommands : ∀ argv argv', differ.commands argv argv' → argv' = argv)
    (unheeded : differ.Unheeded (callsIn begun) (callsIn begun') daemon daemon')
    (before : actsIn daemon' begun' = actsIn daemon begun) {added added' : List Deed}
    (h : List.Forall₂ differ.Deeds added added') :
    actsIn daemon' (added' ++ begun') = actsIn daemon (added ++ begun) := by
  induction h with
  | nil => exact before
  | cons first rest ih =>
      cases first with
      | called calls =>
          have outcome := (unheeded _ _ _ _ (Deeds.calls rest) calls).1
          simp only [List.cons_append, actsIn, callsIn_append, ih, outcome,
            sameCommands _ _ calls.argv]
      | waited | logged | printed => simp only [List.cons_append, actsIn, ih]

/-- No difference at all. -/
def nothing : Difference := ⟨(· = ·), (· = ·)⟩

theorem calls_nothing {calls calls' : List Invocation}
    (h : List.Forall₂ nothing.Calls calls calls') : calls' = calls := by
  induction h with
  | nil => rfl
  | @cons call call' _ _ first rest ih =>
      obtain ⟨argv, disk, environment⟩ := call
      obtain ⟨argv', disk', environment'⟩ := call'
      have sameArgv : argv = argv' := first.argv
      have sameDisk : disk = disk' := first.disk
      have sameEnvironment : environment' = environment := first.environment
      rw [ih, sameArgv, sameDisk, sameEnvironment]

theorem unheeded_nothing (begun : List Invocation) (daemon : Daemon) :
    nothing.Unheeded begun begun daemon daemon := by
  intro earlier earlier' call call' before now
  have same := calls_nothing (.cons now before)
  obtain ⟨rfl, rfl⟩ := List.cons.inj same
  exact ⟨rfl, rfl, rfl⟩

end Difference

/-- Steps are taken alike in two worlds that differ in what was logged before. -/
theorem Launcher.Steps.after_logging {launcher : Launcher}
    {permitted : (β : Type) → FileOp β → Prop} {α : Type} {action : Bench α}
    (steps : launcher.Steps permitted action) (daemon : Daemon) {world world' : World}
    (quiet : world.Quiet world') (throttle : world'.throttle = world.throttle) :
    let result := Bench.perform action daemon world
    let result' := Bench.perform action daemon world'
    result'.1 = result.1 ∧ result'.2.scene = result.2.scene ∧
      result'.2.acts daemon = result.2.acts daemon := by
  intro result result'
  have sameCalls : callsIn world'.deeds = callsIn world.deeds := quiet.calls
  have unheeded : Difference.nothing.Unheeded (callsIn world.deeds) (callsIn world'.deeds) daemon
      daemon := by
    rw [sameCalls]
    exact Difference.unheeded_nothing _ _
  have begins : Difference.nothing.Alongside world.deeds world'.deeds world world' :=
    ⟨quiet.disk.symm, quiet.clock, quiet.longestWait, throttle, quiet.environment, [], [], rfl, rfl,
      .nil⟩
  have paired : Difference.nothing.Paired action action :=
    steps.paired (fun _ => rfl) fun _ _ _ disk disk' same => by
      obtain rfl : disk = disk' := same
      exact ⟨rfl, rfl⟩
  obtain ⟨same, alongside⟩ := paired.perform unheeded begins
  obtain ⟨added, added', found, found', alike⟩ := alongside.deeds
  have calls : result'.2.calls = result.2.calls := by
    have both : callsIn (added' ++ world'.deeds) = callsIn (added ++ world.deeds) := by
      rw [callsIn_append, callsIn_append, sameCalls,
        Difference.calls_nothing (Difference.Deeds.calls alike)]
    rwa [← found, ← found'] at both
  refine ⟨same, ?_, ?_⟩
  · rw [World.scene, World.scene, calls, alongside.environment, show _ = _ from alongside.disk]
  · have acts := Difference.acts_alike (fun _ _ same => Eq.symm same) unheeded (quiet.acts daemon)
      alike
    rwa [← found, ← found'] at acts

/-! ## Blind operations -/

/-- A daemon whose outcomes, and the time they take, depend on nothing but the commands that it was
    given. -/
def Daemon.HeedsCommands (daemon : Daemon) : Prop :=
  ∀ earlier earlier' call call', earlier'.map Invocation.argv = earlier.map Invocation.argv →
    call'.argv = call.argv →
    (daemon earlier' call').outcome = (daemon earlier call).outcome ∧
      (daemon earlier' call').elapsed = (daemon earlier call).elapsed

theorem Daemon.heedsCommands_ofStream (begun : Nat) (stream : Nat → Outcome)
    (elapsed : Nat → Binary64) : (Daemon.ofStream begun stream elapsed).HeedsCommands := by
  intro earlier earlier' call call' same _
  have length : earlier'.length = earlier.length := by
    simpa only [List.length_map] using congrArg List.length same
  simp only [ofStream, length]
  exact ⟨trivial, trivial⟩

theorem Daemon.leavesDisk_ofStream (begun : Nat) (stream : Nat → Outcome)
    (elapsed : Nat → Binary64) : (Daemon.ofStream begun stream elapsed).LeavesDisk :=
  fun _ _ => rfl

/-- An operation to which files do not matter. With a daemon that does not look at them either, it
    gives the same result on every disk, does the same with the daemon and the clock, and leaves the
    disk as it was. -/
def Bench.Blind {α : Type} (action : Bench α) : Prop :=
  ∀ (daemon : Daemon), daemon.HeedsCommands → daemon.LeavesDisk →
    ∀ (world : World) (disk : Disk),
      let result := perform action daemon world
      let result' := perform action daemon (world.withDisk disk)
      result'.1 = result.1 ∧ result'.2.acts daemon = result.2.acts daemon ∧
        result'.2.disk = disk

theorem Launcher.Steps.blind {launcher : Launcher} {α : Type} {action : Bench α}
    (steps : launcher.Steps (fun _ _ => False) action) : action.Blind := by
  intro daemon heeds leaves world disk result result'
  let differ : Difference := ⟨(· = ·), fun one other => one = world.disk ∧ other = disk⟩
  have sameArgv {calls calls' : List Invocation} (h : List.Forall₂ differ.Calls calls calls') :
      calls'.map Invocation.argv = calls.map Invocation.argv := by
    induction h with
    | nil => rfl
    | cons first rest ih => rw [List.map_cons, List.map_cons, ih, show _ = _ from first.argv]
  have unheeded : differ.Unheeded (callsIn world.deeds) (callsIn world.deeds) daemon daemon := by
    intro earlier earlier' call call' before now
    have argvs : (earlier' ++ callsIn world.deeds).map Invocation.argv =
        (earlier ++ callsIn world.deeds).map Invocation.argv := by
      rw [List.map_append, List.map_append, sameArgv before]
    obtain ⟨outcome, elapsed⟩ := heeds _ _ _ _ argvs (Eq.symm now.argv)
    refine ⟨outcome, elapsed, ?_⟩
    rw [leaves, leaves]
    exact now.disk
  have begins : differ.Alongside world.deeds world.deeds world (world.withDisk disk) :=
    ⟨⟨rfl, rfl⟩, rfl, rfl, rfl, rfl, [], [], rfl, rfl, .nil⟩
  have paired : differ.Paired action action :=
    steps.paired (fun _ => rfl) fun _ _ never => never.elim
  obtain ⟨same, alongside⟩ := paired.perform unheeded begins
  obtain ⟨added, added', found, found', alike⟩ := alongside.deeds
  have acts := Difference.acts_alike (fun _ _ same => Eq.symm same) unheeded rfl alike
  rw [← found, ← found'] at acts
  exact ⟨same, acts, alongside.disk.2⟩

/-! ## What a deployment adds to its exchanges -/

namespace Registry

variable {registry : Registry} {daemon : Daemon} {world : World}

theorem lookup_of_missing {name : Option String} {failure : Failure}
    (missing : registry.found world.disk name = .error failure) :
    Bench.perform (registry.lookup name) daemon world =
      (.ok ⟨name, none⟩, world.logged .debug logger ("Cache miss: " ++ failure.message)) := by
  have loaded : Bench.perform (registry.load name) daemon world = (.error failure, world) := by
    cases name with
    | none =>
        obtain rfl := Except.error.inj missing
        rfl
    | some name =>
        simp only [load, Bench.perform_bind, Bench.perform_tryFiles, FileOp.perform_readBytes]
        cases held : world.disk.content (registry.pathOf name) with
        | error fault =>
            rw [found_of_unreadable held] at missing
            obtain rfl := Except.error.inj missing
            rfl
        | ok bytes =>
            rw [found_of_bytes held] at missing
            simp only
            cases read : readEntry bytes with
            | error fault =>
                rw [read] at missing
                obtain rfl := Except.error.inj missing
                rfl
            | ok contract =>
                rw [read] at missing
                contradiction
  simp only [lookup, Bench.perform_bind, Bench.perform_observe, loaded, isMiss_of_found missing,
    if_true]
  rfl

/-- A lookup that finds nothing only logs that. -/
theorem missed_of_lookup {name : Option String} {missed : World}
    (miss : Bench.perform (registry.lookup name) daemon world = (.ok ⟨name, none⟩, missed)) :
    ∃ message, missed = world.logged .debug logger message := by
  obtain ⟨_, spec, -⟩ := registry.lookup_spec name daemon world
  cases known : registry.found world.disk name with
  | ok contract =>
      rw [known, miss] at spec
      simp [Except.toOption] at spec
  | error failure =>
      rw [lookup_of_missing known] at miss
      exact ⟨_, (Prod.mk.inj miss).2.symm⟩

end Registry

namespace Client

variable {client : Client} {daemon : Daemon} {world later : World}

theorem steps_deploy_unnamed {permitted : (β : Type) → FileOp β → Prop} (plan : DeployPlan)
    (registry : Option Registry) :
    client.launcher.Steps permitted (client.deploy plan none registry) := by
  refine .bind (.bind (.observe (.throw _)) fun result => ?_) fun looked => ?_
  · cases result with
    | ok contract => exact .pure _
    | error failure =>
        simp only
        split
        · exact .bind (.log ..) fun _ => .pure _
        · exact .throw failure
  · cases looked.contract with
    | some contract => exact .pure contract
    | none =>
        refine .bind (steps_deployNew plan) fun deployed => .bind ?_ fun _ => .pure _
        rw [keep.eq_def]
        cases deployed.contract.isResolved with
        | true => exact .log ..
        | false => exact .log ..

theorem steps_deployByMessage {permitted : (β : Type) → FileOp β → Prop} (titles : List String)
    (plan : DeployPlan) :
    client.launcher.Steps permitted (client.deployByMessage titles plan) :=
  .bind (.ofExcept _) fun _ => steps_deployUncached _

theorem perform_deployUncached (client : Client) (plan : DeployPlan) (daemon : Daemon)
    (world : World) :
    Bench.perform (client.deployUncached plan) daemon world =
      ((Bench.perform (client.deployNew plan) daemon world).1.map Deployed.contract,
        (Bench.perform (client.deployNew plan) daemon world).2) := by
  rw [deployUncached, Bench.perform_bind]
  rcases Bench.perform (client.deployNew plan) daemon world with ⟨_ | _, _⟩ <;> rfl

/-- After a miss the exchanges of a deployment are those of one without a registry. -/
theorem deployNew_of_missed (client : Client) (plan : DeployPlan) {registry : Registry}
    {name : Option String} {missed : World}
    (miss : Bench.perform (registry.lookup name) daemon world = (.ok ⟨name, none⟩, missed)) :
    let made := Bench.perform (client.deployNew plan) daemon missed
    let uncached := Bench.perform (client.deployUncached plan) daemon world
    uncached.1 = made.1.map Deployed.contract ∧ uncached.2.scene = made.2.scene ∧
      uncached.2.acts daemon = made.2.acts daemon := by
  obtain ⟨message, rfl⟩ := Registry.missed_of_lookup miss
  have steps : client.launcher.Steps (fun _ _ => False) (client.deployNew plan) :=
    steps_deployNew plan
  obtain ⟨same, scene, acts⟩ := steps.after_logging daemon
    (.logged world .debug Registry.logger message) rfl
  intro made uncached
  simp only [made, uncached, perform_deployUncached, same]
  exact ⟨trivial, scene.symm, acts.symm⟩

/-- A deployment that was made under no name is like one without a registry. -/
theorem deploy_unnamed (client : Client) (plan : DeployPlan) (registry : Option Registry)
    (daemon : Daemon) (world : World) :
    let unnamed := Bench.perform (client.deploy plan none registry) daemon world
    let uncached := Bench.perform (client.deployUncached plan) daemon world
    unnamed.1 = uncached.1 ∧ unnamed.2.scene = uncached.2.scene ∧
      unnamed.2.acts daemon = uncached.2.acts daemon := by
  have miss : Bench.perform ((client.registryFor registry).lookup none) daemon world =
      (.ok ⟨none, none⟩, _) := Registry.lookup_of_missing rfl
  obtain ⟨result, scene, acts⟩ := client.deployNew_of_missed plan miss
  intro unnamed uncached
  rw [result, scene, acts]
  simp only [unnamed, deploy, Bench.perform_bind, miss]
  rcases Bench.perform (client.deployNew plan) daemon _ with ⟨failure | deployed, made⟩
  · exact ⟨rfl, rfl, rfl⟩
  · obtain ⟨kept, spec, quiet⟩ : ∃ kept, Bench.perform
        (keep (client.registryFor registry) none plan.label deployed) daemon made =
          (.ok (), kept) ∧ made.Quiet kept := keep_spec_of_not (.inl rfl) daemon made
    simp only [spec, Bench.perform_pure]
    exact ⟨rfl, quiet.scene, quiet.acts daemon⟩

/-- A deployment under a name that is not kept yet is like one without a registry, but that what it
    made may be saved. -/
theorem deploy_named {plan : DeployPlan} {name : String} {registry : Option Registry}
    {missed : World} {contract : Contract}
    (miss : Bench.perform ((client.registryFor registry).lookup (some name)) daemon world =
      (.ok ⟨some name, none⟩, missed))
    (done : Bench.perform (client.deploy plan (some name) registry) daemon world =
      (.ok contract, later)) :
    let uncached := Bench.perform (client.deployUncached plan) daemon world
    uncached.1 = .ok contract ∧ later.calls = uncached.2.calls ∧
      later.acts daemon = uncached.2.acts daemon ∧
      later.disk = if contract.isResolved then
        (Bench.perform ((client.registryFor registry).save name contract) daemon uncached.2).2.disk
      else uncached.2.disk := by
  obtain ⟨result, scene, acts⟩ := client.deployNew_of_missed plan miss
  intro uncached
  simp only [deploy, Bench.perform_bind, miss] at done
  rcases deploying : Bench.perform (client.deployNew plan) daemon missed with
    ⟨failure | deployed, made⟩
  · simp [deploying] at done
  rw [deploying] at result scene acts
  simp only [deploying] at done
  have calls : uncached.2.calls = made.calls := congrArg Scene.calls scene
  have disk : uncached.2.disk = made.disk := congrArg Scene.disk scene
  obtain ⟨final, saves, changed⟩ :=
    (client.registryFor registry).save_spec name deployed.contract daemon made
  obtain ⟨final', saves', changed'⟩ :=
    (client.registryFor registry).save_spec name deployed.contract daemon uncached.2
  generalize Registry.saveResult _ = saved at saves
  cases resolved : deployed.contract.isResolved with
  | false =>
      obtain ⟨kept, spec, quiet⟩ : ∃ kept, Bench.perform
          (keep (client.registryFor registry) (some name) plan.label deployed) daemon made =
            (.ok (), kept) ∧ made.Quiet kept := keep_spec_of_not (.inr resolved) daemon made
      simp only [spec, Bench.perform_pure, Prod.mk.injEq, Except.ok.injEq] at done
      obtain ⟨rfl, rfl⟩ := done
      rw [resolved]
      refine ⟨result, quiet.calls.trans calls.symm, (quiet.acts daemon).trans acts.symm, ?_⟩
      exact quiet.disk.trans disk.symm
  | true =>
      simp only [keep_named resolved, Bench.perform_bind, saves] at done
      cases saved with
      | error failure => simp at done
      | ok written =>
          simp only [Bench.perform_pure, Prod.mk.injEq, Except.ok.injEq] at done
          obtain ⟨rfl, rfl⟩ := done
          rw [resolved, saves', disk] at *
          refine ⟨result, ?_, ?_, ?_⟩
          · exact changed.calls.trans calls.symm
          · exact (changed.acts daemon).trans acts.symm
          · exact changed.disk.trans changed'.disk.symm

/-- Ways of deploying agree. A deployment under no name, one without a registry and one by its
    message give the same, do the same with the daemon and the clock, and are blind. One under a
    name that is not kept yet gives this too if it gives a contract, and beyond that saves a
    contract of which all is known. -/
theorem deployments_agree (client : Client) (plan : DeployPlan) (registry : Option Registry)
    (titles : List String) (daemon : Daemon) (world : World) :
    let uncached := Bench.perform (client.deployUncached plan) daemon world
    let unnamed := Bench.perform (client.deploy plan none registry) daemon world
    (unnamed.1 = uncached.1 ∧ unnamed.2.scene = uncached.2.scene ∧
      unnamed.2.acts daemon = uncached.2.acts daemon) ∧
    (∀ title fields extras, plan.message = .record title fields extras →
      titles.contains title = true →
      Bench.perform (client.deployByMessage titles plan) daemon world = uncached) ∧
    ((client.deployUncached plan).Blind ∧ (client.deploy plan none registry).Blind ∧
      (client.deployByMessage titles plan).Blind) ∧
    ∀ name missed contract later,
      Bench.perform ((client.registryFor registry).lookup (some name)) daemon world =
        (.ok ⟨some name, none⟩, missed) →
      Bench.perform (client.deploy plan (some name) registry) daemon world =
        (.ok contract, later) →
      uncached.1 = .ok contract ∧ later.calls = uncached.2.calls ∧
        later.acts daemon = uncached.2.acts daemon ∧
        later.disk = if contract.isResolved then
          (Bench.perform ((client.registryFor registry).save name contract) daemon
            uncached.2).2.disk
        else uncached.2.disk := by
  intro uncached unnamed
  have blind : (client.deployUncached plan).Blind ∧ (client.deploy plan none registry).Blind ∧
      (client.deployByMessage titles plan).Blind :=
    ⟨(steps_deployUncached plan).blind, (steps_deploy_unnamed plan registry).blind,
      (steps_deployByMessage titles plan).blind⟩
  refine ⟨client.deploy_unnamed plan registry daemon world, ?_, blind, ?_⟩
  · intro title fields extras isRecord titled
    have usable : Message.forUse "inst_init" titles plan.message = .ok plan.message := by
      rw [isRecord, Message.forUse, if_pos titled]
    rw [deployByMessage, usable, Bench.perform_bind, Bench.perform_ofExcept]
  · intro name missed contract later miss done
    exact deploy_named miss done

/-- The plan of a counter that starts with a message of its own type. -/
def typedPlan : DeployPlan := { counterPlan with message := .record "CounterInit" [] [] }

theorem typed_counter_agrees :
    Bench.perform (counterClient.deployByMessage ["CounterInit"] typedPlan) counterDaemon
        counterStart =
      Bench.perform (counterClient.deployUncached typedPlan) counterDaemon counterStart ∧
    counterDaemon.HeedsCommands ∧ counterDaemon.LeavesDisk ∧
    (Bench.perform (counterClient.deploy typedPlan none none) counterDaemon
      (counterStart.withDisk (.ofNodes [(["held"], .folder)]))).2.disk =
        .ofNodes [(["held"], .folder)] ∧
    ∃ later, Bench.perform (counterClient.deploy typedPlan (some "counter") none) counterDaemon
        counterStart = (.ok counterContract, later) ∧
      later.disk = (Bench.perform ((counterClient.registryFor none).save "counter" counterContract)
        counterDaemon
        (Bench.perform (counterClient.deployUncached typedPlan) counterDaemon
          counterStart).2).2.disk := by
  have heeds : counterDaemon.HeedsCommands := Daemon.heedsCommands_ofStream _ _ _
  have leaves : counterDaemon.LeavesDisk := Daemon.leavesDisk_ofStream _ _ _
  obtain ⟨-, typed, ⟨-, blind, -⟩, named⟩ :=
    counterClient.deployments_agree typedPlan none ["CounterInit"] counterDaemon counterStart
  have done : Bench.perform (counterClient.deploy typedPlan (some "counter") none) counterDaemon
      counterStart = (.ok counterContract, _) := Bench.perform_eq (by decide +kernel)
  obtain ⟨-, -, -, saved⟩ := named "counter" counterMissed counterContract _ counter_miss done
  exact ⟨typed "CounterInit" [] [] rfl (by decide), heeds, leaves,
    (blind counterDaemon heeds leaves counterStart _).2.2, _, done, saved⟩

end Client

end ContractBench
