import ContractBench.Proofs.Failing
import ContractBench.Proofs.Loggers
import ContractBench.Proofs.Noise
import Mathlib.Data.List.Infix

/-! # Executions and what is fetched of them

An execution is three requests, of which the second and the third ask for the hash in the answer to
the first. `Client.HandleCourse` says how far they come and what is given then, for an execution of
which both results are fetched and for one of which only the computation is: the two do not part
before the third request. That a contract refused the message is logged and makes no other
difference (`Client.handled_and_computed`).
-/

namespace ContractBench

namespace Transaction

/-- A text occurs in another exactly if it is a part of it without gaps. -/
theorem occurs_iff (part text : List Char) : occurs part text = true ↔ part <:+: text := by
  induction text with
  | nil => simp [occurs]
  | cons c rest ih => simp [occurs, ih, List.infix_cons_iff]

/-- Whether the log holds the marker, with which a contract refuses a message. -/
theorem hasFailed_iff (tx : Transaction) :
    tx.hasFailed = true ↔ failureMarker.toList <:+: tx.rawLog.toList :=
  occurs_iff _ _

end Transaction

/-! ## Exchanges that a daemon has in store -/

/-- A daemon that is met in a scene has the outputs of an exchange in store, and leads to another
    scene with them. -/
structure Exchange.Awaits {launcher : Launcher} {command : List String}
    (exchange : Exchange launcher command) (daemon : Daemon) (scene scene' : Scene) : Prop where
  complaints : ∀ (i : Nat) (inside : i < exchange.before.length),
    scene.outcomes daemon (launcher.argv command) i = .finished exchange.before[i]
  ending : scene.outcomes daemon (launcher.argv command) exchange.before.length =
    .finished exchange.output
  scene : scene' = scene.reached daemon (launcher.argv command) (exchange.before.length + 1)

namespace Client

variable {client : Client} {daemon : Daemon} {world : World} {type : AnswerType}
  {command : List String}

/-- A request gives the value that is in store for it. -/
theorem run_of_awaits {answered : Answered client.launcher command type} {scene' : Scene}
    (awaits : answered.Awaits daemon world.scene scene')
    (waits : answered.before ≠ [] → client.launcher.Waits world) :
    ∃ later, Bench.perform (client.run command type) daemon world = (.ok answered.value, later) ∧
      later.scene = scene' ∧ later.longestWait = world.longestWait := by
  obtain ⟨asked, ran, reached, system, -⟩ := client.launcher.run_of_trials _ answered.trials waits
    awaits.complaints awaits.ending
  have parsed := answered.parsed
  rw [AnswerType.parse?] at parsed
  cases read : Json.read answered.output.answer with
  | error e => simp [read] at parsed
  | ok document =>
      cases accepted : type.schema.accept type.title document with
      | error report => simp [read, accepted, Except.toOption] at parsed
      | ok value =>
          obtain rfl : value = answered.value := by
            simpa [read, accepted, Except.toOption] using parsed
          refine ⟨asked, ?_, reached.trans awaits.scene.symm, system⟩
          simp only [run, fit, Launcher.runJson_eq, Launcher.readAnswer, Bench.perform_bind, ran,
            Launcher.verdict_finished, Except.map, read, accepted, Bench.perform_pure]

/-- A request is answered, or it is not. -/
theorem run_either (client : Client) (command : List String) (type : AnswerType) (daemon : Daemon)
    (world : World) :
    (∃ (answered : Answered client.launcher command type) (later : World),
      Bench.perform (client.run command type) daemon world = (.ok answered.value, later) ∧
        world.Leads daemon answered.acts later) ∨
    ∃ (failure : Failure) (failed : Unanswered client command type failure) (later : World),
      Bench.perform (client.run command type) daemon world = (.error failure, later) ∧
        world.Leads daemon failed.acts later := by
  rcases performed : Bench.perform (client.run command type) daemon world with
    ⟨failure | value, later⟩
  · obtain ⟨failed, leads⟩ := run_error performed
    exact .inr ⟨failure, failed, later, rfl, leads⟩
  · obtain ⟨answered, rfl, leads⟩ := run_ok performed
    exact .inl ⟨answered, later, rfl, leads⟩

/-! ## The course of an execution -/

/-- How far an execution comes. The results are those of one of which the computation and the
    transaction are fetched, and of one of which only the computation is. The acts are those that
    both have in common, and those that only the first one does. -/
inductive HandleCourse (client : Client) (command : List String) :
    Except Failure (Computation × Transaction) → Except Failure Computation →
      List Act → List Act → Prop where
  | unsent {failure : Failure} (failed : Unanswered client command .broadcast failure) :
      HandleCourse client command (.error failure) (.error failure) failed.acts []
  | uncomputed {failure : Failure} (sent : Answered client.launcher command .broadcast)
      (failed : Unanswered client
        (Command.computation (Broadcast.ofRecord sent.value).txHash) .computation failure) :
      HandleCourse client command (.error failure) (.error failure) (sent.acts ++ failed.acts) []
  | unfetched {failure : Failure} (sent : Answered client.launcher command .broadcast)
      (computed : Answered client.launcher
        (Command.computation (Broadcast.ofRecord sent.value).txHash) .computation)
      (failed : Unanswered client
        (Command.transaction (Broadcast.ofRecord sent.value).txHash) .transaction failure) :
      HandleCourse client command (.error failure) (.ok (.ofRecord computed.value))
        (sent.acts ++ computed.acts) failed.acts
  | fetched (sent : Answered client.launcher command .broadcast)
      (computed : Answered client.launcher
        (Command.computation (Broadcast.ofRecord sent.value).txHash) .computation)
      (tx : Answered client.launcher
        (Command.transaction (Broadcast.ofRecord sent.value).txHash) .transaction) :
      HandleCourse client command (.ok (.ofRecord computed.value, .ofRecord tx.value))
        (.ok (.ofRecord computed.value)) (sent.acts ++ computed.acts) tx.acts

/-- What is logged of an execution beside its requests, the latest record first: two warnings if the
    log of its transaction holds the marker of a refusal. -/
def refusalRecords (client : Client) :
    Except Failure (Computation × Transaction) → List LogRecord
  | .ok (_, tx) =>
    if Transaction.failureMarker.toList <:+: tx.rawLog.toList then
      [⟨.warning, flowLogger, "Tx Hash (call " ++ client.settings.binary ++
        " q compute tx <hash> to see encrypted error) " ++ tx.txHash⟩,
        ⟨.warning, flowLogger, "Raw log: " ++ tx.rawLog⟩]
    else []
  | .error _ => []

theorem perform_reportFailure (client : Client) (computed : Computation) (tx : Transaction)
    (daemon : Daemon) (world : World) :
    Bench.perform (client.reportFailure tx true) daemon world =
      (.ok (), { world with
        deeds := (client.refusalRecords (.ok (computed, tx))).map .logged ++ world.deeds }) := by
  rw [reportFailure, refusalRecords]
  by_cases refused : tx.hasFailed = true
  · rw [if_pos refused, if_pos (tx.hasFailed_iff.mp refused)]
    rfl
  · rw [if_neg refused, if_neg fun marked => refused (tx.hasFailed_iff.mpr marked)]
    rfl

variable {contract : Contract} {message : Value} {text sender : String}
  {gas backend amount : Option String}

/-- A message with a text is sent, and that it was is logged. -/
theorem perform_execute (encoded : Message.encode message = .ok text) (daemon : Daemon)
    (world : World) :
    Bench.perform (client.execute contract message sender gas backend amount) daemon world =
      match Bench.perform (client.run
        (Command.execute contract.address text sender gas backend amount) .broadcast) daemon
        world with
      | (.ok value, later) =>
        (.ok (.ofRecord value), later.logged .info client.logger
          ("Execute transaction sent: " ++ (Broadcast.ofRecord value).txHash))
      | (.error failure, later) => (.error failure, later) := by
  rw [execute, encoded]
  simp only [Bench.ofExcept, pure_bind, Bench.perform_bind]
  rcases Bench.perform (client.run _ .broadcast) daemon world with ⟨failure | value, later⟩ <;> rfl

/-- The three requests of an execution of which both results are fetched. -/
def fetchBoth (client : Client) (message : Value) (contract : Contract) (sender : String)
    (gas backend amount : Option String) : Bench (Computation × Transaction) := do
  let sent ← client.execute contract message sender gas backend amount
  let computed ← client.computation sent.txHash
  let tx ← client.transaction sent.txHash
  return (computed, tx)

/-- Beyond its requests an execution only logs. -/
theorem perform_handle (client : Client) (message : Value) (contract : Contract) (sender : String)
    (gas backend amount : Option String) (daemon : Daemon) (world : World) :
    Bench.perform (client.handle message contract sender gas backend amount) daemon world =
      let fetched :=
        Bench.perform (client.fetchBoth message contract sender gas backend amount) daemon world
      (fetched.1, { fetched.2 with
        deeds := (client.refusalRecords fetched.1).map .logged ++ fetched.2.deeds }) := by
  have handles : client.handle message contract sender gas backend amount =
      client.fetchBoth message contract sender gas backend amount >>= fun fetched => do
        client.reportFailure fetched.2 true
        return fetched := by
    simp only [handle, fetchBoth, bind_assoc, pure_bind]
  rw [handles, Bench.perform_bind]
  rcases Bench.perform (client.fetchBoth message contract sender gas backend amount) daemon world
    with ⟨failure | ⟨computed, tx⟩, later⟩
  · rfl
  · simp only [Bench.perform_bind, client.perform_reportFailure computed tx, Bench.perform_pure]

theorem logsBy_fetchBoth (client : Client) (message : Value) (contract : Contract)
    (sender : String) (gas backend amount : Option String) :
    Bench.LogsBy client.loggers
      (client.fetchBoth message contract sender gas backend amount) := by
  have execute : Bench.LogsBy client.loggers
      (client.execute contract message sender gas backend amount) := by
    refine .bind ?_ fun _ => .bind (client.logsBy_run ..) fun _ =>
      .bind (.log (.head _) ..) fun _ => .pure _
    cases Message.encode message with
    | ok text => exact .pure text
    | error failure => exact .throw failure
  exact .bind execute fun _ => .bind (.bind (client.logsBy_run ..) fun _ => .pure _) fun _ =>
    .bind (.bind (client.logsBy_run ..) fun _ => .pure _) fun _ => .pure _

/-- One request after the other is answered or ends both executions. They part at the third. -/
theorem fetched_and_computed (client : Client) (contract : Contract)
    (encoded : Message.encode message = .ok text) (sender : String)
    (gas backend amount : Option String) (daemon : Daemon) (world : World) :
    let fetched :=
      Bench.perform (client.fetchBoth message contract sender gas backend amount) daemon world
    let computed :=
      Bench.perform (client.compute message contract sender gas backend amount) daemon world
    ∃ first last, client.HandleCourse
        (Command.execute contract.address text sender gas backend amount) fetched.1 computed.1
        first last ∧
      world.Leads daemon first computed.2 ∧ world.Leads daemon (first ++ last) fetched.2 := by
  intro fetched computed
  simp only [fetched, computed, fetchBoth, compute, Bench.perform_bind, perform_execute encoded]
  rcases client.run_either (Command.execute contract.address text sender gas backend amount)
    .broadcast daemon world with
    ⟨sent, w₁, sending, leads₁⟩ | ⟨failure, failed, w₁, sending, leads₁⟩
  case inr =>
    rw [sending]
    exact ⟨_, [], .unsent failed, leads₁, by simpa using leads₁⟩
  -- The record that the message was sent is no act, so the first request still leads here.
  have leads := leads₁.quiet (.logged w₁ .info client.logger
    ("Execute transaction sent: " ++ (Broadcast.ofRecord sent.value).txHash))
  simp only [sending, computation, Bench.perform_bind, Bench.perform_pure]
  rcases client.run_either (Command.computation (Broadcast.ofRecord sent.value).txHash)
    .computation daemon _ with
    ⟨result, w₂, computing, leads₂⟩ | ⟨failure, failed, w₂, computing, leads₂⟩
  case inr =>
    rw [computing]
    exact ⟨_, [], .uncomputed sent failed, leads.trans leads₂, by simpa using leads.trans leads₂⟩
  simp only [computing, transaction, Bench.perform_bind, Bench.perform_pure]
  rcases client.run_either (Command.transaction (Broadcast.ofRecord sent.value).txHash)
    .transaction daemon w₂ with
    ⟨tx, w₃, fetching, leads₃⟩ | ⟨failure, failed, w₃, fetching, leads₃⟩
  · rw [fetching]
    exact ⟨_, _, .fetched sent result tx, leads.trans leads₂, (leads.trans leads₂).trans leads₃⟩
  · rw [fetching]
    exact ⟨_, _, .unfetched sent result failed, leads.trans leads₂,
      (leads.trans leads₂).trans leads₃⟩

/-- Where a daemon has an answer in store for each request, and the system grants the waits that it
    takes to come to it, both results are given. -/
theorem fetchBoth_of_awaits (encoded : Message.encode message = .ok text)
    {sent : Answered client.launcher
      (Command.execute contract.address text sender gas backend amount) .broadcast}
    {computed : Answered client.launcher
      (Command.computation (Broadcast.ofRecord sent.value).txHash) .computation}
    {tx : Answered client.launcher
      (Command.transaction (Broadcast.ofRecord sent.value).txHash) .transaction}
    {scene₁ scene₂ scene₃ : Scene} (sending : sent.Awaits daemon world.scene scene₁)
    (computing : computed.Awaits daemon scene₁ scene₂)
    (fetching : tx.Awaits daemon scene₂ scene₃)
    (waits : sent.before ++ computed.before ++ tx.before ≠ [] → client.launcher.Waits world) :
    ∃ later, Bench.perform (client.fetchBoth message contract sender gas backend amount) daemon
        world = (.ok (.ofRecord computed.value, .ofRecord tx.value), later) ∧
      later.scene = scene₃ := by
  obtain ⟨w₁, sends, rfl, system₁⟩ := run_of_awaits sending fun some => waits (by simp [some])
  have quiet : w₁.Quiet (w₁.logged .info client.logger
    ("Execute transaction sent: " ++ (Broadcast.ofRecord sent.value).txHash)) := .logged ..
  rw [← quiet.scene] at computing
  have system : (w₁.logged .info client.logger ("Execute transaction sent: " ++
      (Broadcast.ofRecord sent.value).txHash)).longestWait = world.longestWait :=
    quiet.longestWait.trans system₁
  obtain ⟨w₂, computes, rfl, system₂⟩ := run_of_awaits computing fun some =>
    (World.grants_congr system _).mpr (waits (by simp [some]))
  obtain ⟨w₃, fetches, reached, -⟩ := run_of_awaits fetching fun some =>
    (World.grants_congr (system₂.trans system) _).mpr (waits (by simp [some]))
  refine ⟨w₃, ?_, reached⟩
  simp only [fetchBoth, computation, transaction, Bench.perform_bind, perform_execute encoded,
    sends, computes, fetches, Bench.perform_pure]

/-- What comes of an execution. Both of its forms put the same requests to the daemon, each once the
    one before it is answered, but for the third, and give the same computation. Where all requests
    have an answer in store, and the waits that it takes to come to them are granted, both results
    are given. Beside its requests an execution logs nothing, or two warnings exactly if the log of
    its transaction holds the marker of a refusal. No form works on files. -/
theorem handled_and_computed (client : Client) (contract : Contract)
    (encoded : Message.encode message = .ok text) (sender : String)
    (gas backend amount : Option String) (daemon : Daemon) (world : World) :
    let command := Command.execute contract.address text sender gas backend amount
    let handled :=
      Bench.perform (client.handle message contract sender gas backend amount) daemon world
    let computed :=
      Bench.perform (client.compute message contract sender gas backend amount) daemon world
    (∃ first last, client.HandleCourse command handled.1 computed.1 first last ∧
      world.Leads daemon first computed.2 ∧ world.Leads daemon (first ++ last) handled.2) ∧
    (∀ (sent : Answered client.launcher command .broadcast)
        (result : Answered client.launcher
          (Command.computation (Broadcast.ofRecord sent.value).txHash) .computation)
        (tx : Answered client.launcher
          (Command.transaction (Broadcast.ofRecord sent.value).txHash) .transaction)
        (scene₁ scene₂ scene₃ : Scene),
      sent.Awaits daemon world.scene scene₁ → result.Awaits daemon scene₁ scene₂ →
      tx.Awaits daemon scene₂ scene₃ →
      (sent.before ++ result.before ++ tx.before ≠ [] → client.launcher.Waits world) →
      handled.1 = .ok (.ofRecord result.value, .ofRecord tx.value)) ∧
    (∃ requested, handled.2.deeds =
        (client.refusalRecords handled.1).map .logged ++ (requested ++ world.deeds) ∧
      LoggedBy client.loggers requested) ∧
    (daemon.LeavesDisk → handled.2.disk = world.disk ∧ computed.2.disk = world.disk) := by
  intro command handled computed
  have handles := client.perform_handle message contract sender gas backend amount daemon world
  let fetched :=
    Bench.perform (client.fetchBoth message contract sender gas backend amount) daemon world
  have quiet : fetched.2.Quiet handled.2 := by
    simp only [handled, handles]
    exact ⟨rfl, rfl, rfl, rfl, rfl, _, rfl⟩
  have result : handled.1 = fetched.1 := by simp only [handled, handles, fetched]
  refine ⟨?_, ?_, ?_, ?_⟩
  · obtain ⟨first, last, course, alone, both⟩ :=
      client.fetched_and_computed contract encoded sender gas backend amount daemon world
    exact ⟨first, last, by rw [result]; exact course, alone, both.quiet quiet⟩
  · intro sent given tx scene₁ scene₂ scene₃ sending computing fetching waits
    obtain ⟨later, performed, -⟩ := fetchBoth_of_awaits encoded sending computing fetching waits
    rw [result]
    simp only [fetched, performed]
  · obtain ⟨requested, grown, own⟩ :=
      (client.logsBy_fetchBoth message contract sender gas backend amount).added daemon world
    refine ⟨requested, ?_, own⟩
    rw [← grown]
    simp only [handled, handles]
  · intro leaves
    exact ⟨(steps_handle ..).disk_unchanged leaves, (steps_compute ..).disk_unchanged leaves⟩

/-- A daemon that runs a message which the contract refuses. -/
def refusingDaemon : Daemon := .ofAnswers [
  "\x7b\"txhash\":\"E\"\x7d",
  "\x7b\"output_data\":\"b2s=\",\"plaintext_error\":\"no\"\x7d",
  "\x7b\"txhash\":\"E\",\"raw_log\":\"failed to execute message: no\"\x7d"]

def incrementMessage : Value := .dict [(.text "increment", .dict [])]

def refusedIncrement : Transaction :=
  ⟨"E", none, none, "failed to execute message: no", [], none, none⟩

def refusedRun : Except Failure (Computation × Transaction) × World :=
  Bench.perform (counterClient.handle incrementMessage counterContract "a" none none none)
    refusingDaemon counterStart

theorem counter_refused :
    refusedRun.1.map (·.2) = .ok refusedIncrement ∧ refusedRun.2.calls.length = 3 ∧
    refusedRun.2.disk = counterStart.disk ∧
    ∃ requested, refusedRun.2.deeds =
        [.logged ⟨.warning, "secretcli.harness",
          "Tx Hash (call secretd q compute tx <hash> to see encrypted error) E"⟩,
        .logged ⟨.warning, "secretcli.harness", "Raw log: failed to execute message: no"⟩] ++
          requested ∧
      LoggedBy ["secretcli.client", "secretcli.client"] requested := by
  have encoded : Message.encode incrementMessage = .ok "\x7b\"increment\":\x7b\x7d\x7d" := by
    decide +kernel
  have result : refusedRun.1.map (·.2) = .ok refusedIncrement := by decide +kernel
  have calls : refusedRun.2.calls.length = 3 := by decide +kernel
  have marked := refusedIncrement.hasFailed_iff.mp (by decide +kernel)
  have leaves : refusingDaemon.LeavesDisk := Daemon.leavesDisk_ofStream _ _ _
  unfold refusedRun at result calls ⊢
  obtain ⟨-, -, ⟨requested, deeds, own⟩, disk⟩ :=
    handled_and_computed counterClient counterContract encoded "a" none none none refusingDaemon
      counterStart
  obtain ⟨⟨given, tx⟩, known, same⟩ := map_eq_ok.mp result
  obtain rfl : tx = refusedIncrement := same
  rw [known, refusalRecords, if_pos marked, show counterStart.deeds = [] from rfl,
    List.append_nil] at deeds
  exact ⟨result, calls, (disk leaves).1, requested, deeds, own⟩

end Client

end ContractBench
