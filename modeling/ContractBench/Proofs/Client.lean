import ContractBench.Client
import ContractBench.Proofs.Retry

/-! # Exchanges with the daemon

An exchange is one command put to the daemon until it settles, with the outputs that it complained
of and the one that counts. Every operation of the client that gives a result is one exchange whose
answer reads as a value of the type that the operation asks for; `run_ok` says so for all of them
at once.
-/

namespace ContractBench

/-- One command with what came of it: the outputs that complained, and the one that counts. -/
structure Exchange (launcher : Launcher) (command : List String) where
  before : List Output
  output : Output
  trials : Trials launcher.settings.maxRetries before (.came (.finished output))

/-- What an exchange does with the daemon and the clock. -/
def Exchange.acts {launcher : Launcher} {command : List String}
    (exchange : Exchange launcher command) : List Act :=
  rounds (launcher.argv command) launcher.settings.retryInterval
    (exchange.before.map .finished) (.finished exchange.output)

/-- The daemon that gives some answers in order at once and complains of nothing. -/
def Daemon.ofAnswers (answers : List String) : Daemon :=
  .ofStream 0 (fun i => .finished ⟨answers[i]?, none, 0⟩) fun _ => .zero

/-- The value of a type that a text is the answer for. -/
def AnswerType.parse? (type : AnswerType) (answer : String) : Option Value :=
  match Json.read answer with
  | .ok document => (type.schema.accept type.title document).toOption
  | .error _ => none

/-- An exchange of a command with the output flags whose answer reads as a value of a type. -/
structure Answered (launcher : Launcher) (command : List String) (type : AnswerType) extends
    Exchange launcher (command ++ launcher.settings.outputFlags) where
  value : Value
  parsed : type.parse? output.answer = some value

namespace Launcher

variable {launcher : Launcher} {daemon : Daemon} {world later : World}

theorem run_ok {command : List String} {answer : String}
    (performed : Bench.perform (launcher.run command) daemon world = (.ok answer, later)) :
    ∃ exchange : Exchange launcher command, exchange.output.answer = answer ∧
      world.Leads daemon exchange.acts later := by
  obtain ⟨before, last, ended, attempted, split⟩ :=
    launcher.attempts_spec command daemon launcher.settings.maxRetries 1 world
  rw [run_eq_attempts, Bench.perform_bind, attempted] at performed
  cases given : launcher.conclusion command last with
  | error failure => simp [given] at performed
  | ok output =>
      obtain rfl := launcher.came_of_conclusion command given
      simp only [given, Bench.perform_pure, Prod.mk.injEq, Except.ok.injEq] at performed
      obtain ⟨rfl, rfl⟩ := performed
      exact ⟨⟨before, output, split.trials⟩, rfl, split.leads⟩

theorem runJson_ok {args : List String} {document : Value}
    (performed : Bench.perform (launcher.runJson args) daemon world = (.ok document, later)) :
    ∃ exchange : Exchange launcher (args ++ launcher.settings.outputFlags),
      Json.read exchange.output.answer = .ok document ∧
      world.Leads daemon exchange.acts later := by
  rw [runJson_eq] at performed
  obtain ⟨answer, between, ran, read⟩ := Bench.bind_ok performed
  obtain ⟨exchange, rfl, leads⟩ := run_ok ran
  obtain ⟨final, spec, quiet⟩ :=
    launcher.readAnswer_spec (args ++ launcher.settings.outputFlags) exchange.output.answer daemon
      between
  rw [spec] at read
  obtain ⟨found, rfl⟩ := Prod.mk.inj read
  exact ⟨exchange, document_ok launcher found, leads.quiet quiet⟩

end Launcher

namespace Client

variable {client : Client} {daemon : Daemon} {world later : World}

theorem fit_ok {type : AnswerType} {document value : Value}
    (performed : Bench.perform (client.fit type document) daemon world = (.ok value, later)) :
    type.schema.accept type.title document = .ok value ∧ later = world := by
  rw [fit] at performed
  cases accepted : type.schema.accept type.title document with
  | ok found => simpa [accepted, eq_comm] using performed
  | error report => simp [accepted] at performed

/-- A command that gives a value is one exchange that answers with it. -/
theorem run_ok {command : List String} {type : AnswerType} {value : Value}
    (performed : Bench.perform (client.run command type) daemon world = (.ok value, later)) :
    ∃ answered : Answered client.launcher command type, answered.value = value ∧
      world.Leads daemon answered.acts later := by
  rw [run] at performed
  obtain ⟨document, between, ran, fitted⟩ := Bench.bind_ok performed
  obtain ⟨accepted, rfl⟩ := fit_ok fitted
  obtain ⟨exchange, read, leads⟩ := Launcher.runJson_ok ran
  have parsed : type.parse? exchange.output.answer = some value := by
    rw [AnswerType.parse?, read]
    simp only [accepted, Except.toOption]
  exact ⟨⟨exchange, value, parsed⟩, rfl, leads⟩

theorem store_ok {file : String} {user gas backend : Option String} {answer : Broadcast}
    (performed : Bench.perform (client.store file user gas backend) daemon world =
      (.ok answer, later)) :
    ∃ answered : Answered client.launcher (Command.store file user gas backend) .broadcast,
      answer = .ofRecord answered.value ∧ world.Leads daemon answered.acts later := by
  rw [store] at performed
  obtain ⟨value, between, ran, logged⟩ := Bench.bind_ok performed
  obtain ⟨answered, rfl, leads⟩ := run_ok ran
  simp only [logSent, Bench.perform_bind, Bench.perform_log, Bench.perform_pure, Prod.mk.injEq,
    Except.ok.injEq] at logged
  obtain ⟨rfl, rfl⟩ := logged
  exact ⟨answered, rfl, leads.quiet (.logged ..)⟩

theorem instantiate_ok {contract : Contract} {message : Value} {label sender : String}
    {gas backend : Option String} {answer : Broadcast}
    (performed : Bench.perform (client.instantiate contract message label sender gas backend)
      daemon world = (.ok answer, later)) :
    ∃ (text : String) (answered : Answered client.launcher
        (Command.instantiate contract.id text label sender gas backend) .broadcast),
      Message.encode message = .ok text ∧
      answer = .ofRecord answered.value ∧ world.Leads daemon answered.acts later := by
  rw [instantiate] at performed
  obtain ⟨text, start, wrote, performed⟩ := Bench.bind_ok performed
  rw [Bench.perform_ofExcept] at wrote
  obtain ⟨encoded, rfl⟩ := Prod.mk.inj wrote
  obtain ⟨value, between, ran, logged⟩ := Bench.bind_ok performed
  obtain ⟨answered, rfl, leads⟩ := run_ok ran
  simp only [logSent, Bench.perform_bind, Bench.perform_log, Bench.perform_pure, Prod.mk.injEq,
    Except.ok.injEq] at logged
  obtain ⟨rfl, rfl⟩ := logged
  exact ⟨text, answered, encoded, rfl, leads.quiet (.logged ..)⟩

theorem transaction_ok {hash : String} {tx : Transaction}
    (performed : Bench.perform (client.transaction hash) daemon world = (.ok tx, later)) :
    ∃ answered : Answered client.launcher (Command.transaction hash) .transaction,
      tx = .ofRecord answered.value ∧ world.Leads daemon answered.acts later := by
  rw [transaction] at performed
  obtain ⟨value, between, ran, made⟩ := Bench.bind_ok performed
  obtain ⟨answered, rfl, leads⟩ := run_ok ran
  obtain ⟨rfl, rfl⟩ : Transaction.ofRecord answered.value = tx ∧ between = later := by
    simpa using made
  exact ⟨answered, rfl, leads⟩

theorem storedCodes_ok {codes : List StoredCode}
    (performed : Bench.perform client.storedCodes daemon world = (.ok codes, later)) :
    ∃ answered : Answered client.launcher Command.listCodes .storedCodes,
      codes = answered.value.asList.map .ofRecord ∧ world.Leads daemon answered.acts later := by
  rw [storedCodes] at performed
  obtain ⟨value, between, ran, made⟩ := Bench.bind_ok performed
  obtain ⟨answered, rfl, leads⟩ := run_ok ran
  obtain ⟨rfl, rfl⟩ : answered.value.asList.map StoredCode.ofRecord = codes ∧ between = later := by
    simpa using made
  exact ⟨answered, rfl, leads⟩

end Client

end ContractBench
