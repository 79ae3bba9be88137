import ContractBench.Proofs.Client
import ContractBench.Proofs.Noise
import ContractBench.Proofs.Oversized

/-! # Which failures a request reports

A request of a client fails with a failure of the bench's own kinds: the daemon cannot be run, its
answer is no document or does not fit, a message cannot be written. Three failures come from beneath
and are passed on as they are (`Client.fails_as_reported`). An answer that is too large fails in the
reader, a command with the character that ends texts cannot be put to the system, and the system may
refuse the wait before a command is run again.
-/

namespace ContractBench

/-- The kinds of failure that the bench has for its own operations. The others come from what lies
    beneath it. -/
def Failure.isOwn : Failure → Bool
  | .daemonMissing _ _ => true
  | .daemonUnusable _ _ => true
  | .notJson _ _ _ => true
  | .mismatch _ _ _ => true
  | .unwritable _ => true
  | .unnamedEntry => true
  | .noEntry _ _ _ => true
  | _ => false

theorem Failure.eq_of_ofSize? {fault : Json.ReadFault} {failure : Failure}
    (large : ofSize? fault = some failure) : ∃ fault, failure = .oversizedDocument fault := by
  cases fault with
  | longNumeral digits => exact ⟨_, (Option.some.inj large).symm⟩
  | deepList => exact ⟨_, (Option.some.inj large).symm⟩
  | deepObject => exact ⟨_, (Option.some.inj large).symm⟩
  | _ => contradiction

theorem Bench.bind_error {α β : Type} {daemon : Daemon} {world later : World} {action : Bench α}
    {next : α → Bench β} {failure : Failure}
    (performed : perform (action >>= next) daemon world = (.error failure, later)) :
    perform action daemon world = (.error failure, later) ∨
      ∃ a between, perform action daemon world = (.ok a, between) ∧
        perform (next a) daemon between = (.error failure, later) := by
  rw [perform_bind] at performed
  rcases step : perform action daemon world with ⟨failed | a, between⟩
  · simp only [step] at performed
    obtain ⟨same, rfl⟩ := Prod.mk.inj performed
    obtain rfl := Except.error.inj same
    exact .inl rfl
  · simp only [step] at performed
    exact .inr ⟨a, between, rfl, performed⟩

namespace Launcher

variable {launcher : Launcher} {command : List String} {daemon : Daemon} {world later : World}

/-- A command comes to an answer, or its attempts come to an end without one. -/
theorem run_cases (launcher : Launcher) (command : List String) (daemon : Daemon) (world : World) :
    (∃ (exchange : Exchange launcher command) (later : World),
      Bench.perform (launcher.run command) daemon world = (.ok exchange.output.answer, later) ∧
      world.Leads daemon exchange.acts later) ∨
    ∃ before last failure later,
      launcher.Attempted command daemon launcher.settings.maxRetries world before last later ∧
      launcher.conclusion command last = .error failure ∧
      Bench.perform (launcher.run command) daemon world = (.error failure, later) := by
  obtain ⟨before, last, later, performed, attempted⟩ := launcher.run_spec command daemon world
  cases concluded : launcher.conclusion command last with
  | error failure =>
      rw [concluded] at performed
      exact .inr ⟨before, last, failure, later, attempted, concluded, performed⟩
  | ok output =>
      obtain rfl := launcher.came_of_conclusion command concluded
      exact .inl ⟨⟨before, output, attempted.trials⟩, later, performed, attempted.leads⟩

/-- An answer is a document, or is reported with its text, or is too large. -/
theorem document_cases (launcher : Launcher) (answer : String) :
    (∃ document, Json.read answer = .ok document ∧ launcher.document answer = .ok document) ∨
      (∃ failure, launcher.document answer = .error failure ∧ failure.isOwn = true ∧
        failure.rawAnswer? = some answer) ∨
      (Json.Oversized answer ∧
        ∃ fault, launcher.document answer = .error (.oversizedDocument fault)) := by
  rw [document]
  cases read : Json.read answer with
  | ok document => exact .inl ⟨document, rfl, rfl⟩
  | error e =>
      simp only
      cases large : Failure.ofSize? e.fault with
      | none => exact .inr (.inl ⟨_, rfl, rfl, rfl⟩)
      | some failure =>
          obtain ⟨fault, rfl⟩ := Failure.eq_of_ofSize? large
          exact .inr (.inr ⟨Json.oversized_of_read read large, fault, rfl⟩)

/-- A failure of the bench's own kinds, or one from beneath and what it comes of. -/
inductive Reported (launcher : Launcher) (daemon : Daemon) (world : World) :
    Failure → World → Prop where
  | own {failure : Failure} {later : World} (isOwn : failure.isOwn = true) :
      Reported launcher daemon world failure later
  /-- An answer of the daemon is too large. -/
  | oversized {command : List String} (exchange : Exchange launcher command)
      {fault : Json.ReadFault} {later : World}
      (large : Json.Oversized exchange.output.answer)
      (leads : world.Leads daemon exchange.acts later) :
      Reported launcher daemon world (.oversizedDocument fault) later
  /-- A command could not be put to the system. -/
  | embeddedNul {command : List String} {before : List Output} {later : World}
      (leads : world.Leads daemon (rounds (launcher.argv command) launcher.settings.retryInterval
        (before.map .finished) .embeddedNul) later) :
      Reported launcher daemon world .embeddedNul later
  /-- A command complained, and the system refused the wait. -/
  | endlessWait {command : List String} {output : Output} {later : World}
      (noisy : output.isSettled = false) (refused : ¬ launcher.Waits world)
      (leads : world.Leads daemon [.asked (launcher.argv command) (.finished output)] later) :
      Reported launcher daemon world .endlessWait later

theorem Attempted.reported {before : List Output} {last : Ending} {failure : Failure}
    (h : launcher.Attempted command daemon launcher.settings.maxRetries world before last later)
    (concluded : launcher.conclusion command last = .error failure) :
    launcher.Reported daemon world failure later := by
  have leads := h.leads
  cases last with
  | unwaited output =>
      obtain rfl := Except.error.inj concluded
      obtain ⟨noisy, rfl, -⟩ := h.trials.stuck output rfl
      exact .endlessWait noisy (h.refused output rfl) leads
  | came outcome =>
      cases outcome with
      | finished output => contradiction
      | refused fault =>
          obtain rfl := Except.error.inj concluded
          refine .own ?_
          cases fault.isMissing <;> rfl
      | embeddedNul =>
          obtain rfl := Except.error.inj concluded
          exact .embeddedNul leads

/-- Whatever answers come of the commands of an operation, its failures are reported. -/
def Reports (launcher : Launcher) {α : Type} (action : Bench α) : Prop :=
  ∀ daemon world failure later,
    Bench.perform action daemon world = (.error failure, later) →
    launcher.Reported daemon world failure later

/-- An operation fails only with the bench's own kinds of failure. -/
def FailsOwn {α : Type} (action : Bench α) : Prop :=
  ∀ daemon world failure later, Bench.perform action daemon world = (.error failure, later) →
    failure.isOwn = true

section

variable {α β : Type}

theorem failsOwn_pure (a : α) : FailsOwn (pure a : Bench α) := by
  intro daemon world failure later performed
  simp at performed

theorem failsOwn_logged (level : Level) (logger message : String) {next : Unit → Bench α}
    (further : FailsOwn (next ())) : FailsOwn (Bench.log level logger message >>= next) := by
  intro daemon world failure later performed
  rw [Bench.perform_bind, Bench.perform_log] at performed
  exact further daemon _ failure later performed

theorem Reports.bind {first : Bench α} {next : α → Bench β} (h : launcher.Reports first)
    (further : ∀ a, FailsOwn (next a)) : launcher.Reports (first >>= next) := by
  intro daemon world failure later performed
  rcases Bench.bind_error performed with failed | ⟨a, between, -, failed⟩
  · exact h daemon world failure later failed
  · exact .own (further a daemon between failure later failed)

/-- What is read off what is given makes no difference before anything is done. -/
theorem Reports.after {result : Except Failure α} {next : α → Bench β} {a : α}
    (given : result = .ok a) (h : launcher.Reports (next a)) :
    launcher.Reports (Bench.ofExcept result >>= next) := by
  subst given
  exact h

theorem reports_run (launcher : Launcher) (command : List String) :
    launcher.Reports (launcher.run command) := by
  intro daemon world failure later performed
  rcases launcher.run_cases command daemon world with
    ⟨exchange, _, answered, -⟩ | ⟨before, last, failed, _, attempted, concluded, ended⟩
  · rw [answered] at performed
    exact nomatch (Prod.mk.inj performed).1
  · rw [ended] at performed
    obtain ⟨same, rfl⟩ := Prod.mk.inj performed
    obtain rfl := Except.error.inj same
    exact attempted.reported concluded

end

/-- A document is asked for with one exchange, and is what its answer reads as. -/
theorem runJson_cases (launcher : Launcher) (args : List String) (daemon : Daemon) (world : World) :
    (∃ (exchange : Exchange launcher (args ++ launcher.settings.outputFlags)) (later : World),
      Bench.perform (launcher.runJson args) daemon world =
        (launcher.document exchange.output.answer, later) ∧
      world.Leads daemon exchange.acts later) ∨
    ∃ before last failure later,
      launcher.Attempted (args ++ launcher.settings.outputFlags) daemon launcher.settings.maxRetries
        world before last later ∧
      launcher.conclusion (args ++ launcher.settings.outputFlags) last = .error failure ∧
      Bench.perform (launcher.runJson args) daemon world = (.error failure, later) := by
  rw [runJson_eq, Bench.perform_bind]
  rcases launcher.run_cases (args ++ launcher.settings.outputFlags) daemon world with
    ⟨exchange, between, answered, leads⟩ |
    ⟨before, last, failure, later, attempted, concluded, ended⟩
  · obtain ⟨later, read, quiet⟩ :=
      launcher.readAnswer_spec (args ++ launcher.settings.outputFlags) exchange.output.answer daemon
        between
    rw [answered]
    exact .inl ⟨exchange, later, read, leads.quiet quiet⟩
  · rw [ended]
    exact .inr ⟨before, last, failure, later, attempted, concluded, rfl⟩

theorem reports_runJson (launcher : Launcher) (args : List String) :
    launcher.Reports (launcher.runJson args) := by
  intro daemon world failure later performed
  rcases launcher.runJson_cases args daemon world with
    ⟨exchange, ended, answered, leads⟩ | ⟨before, last, failed, _, attempted, concluded, ended⟩
  · rw [answered] at performed
    obtain ⟨refused, rfl⟩ := Prod.mk.inj performed
    rcases launcher.document_cases exchange.output.answer with
      ⟨document, -, read⟩ | ⟨failed, known, own, -⟩ | ⟨oversized, fault, known⟩
    · rw [read] at refused
      contradiction
    · rw [known] at refused
      obtain rfl := Except.error.inj refused
      exact .own own
    · rw [known] at refused
      obtain rfl := Except.error.inj refused
      exact .oversized exchange oversized leads
  · rw [ended] at performed
    obtain ⟨same, rfl⟩ := Prod.mk.inj performed
    obtain rfl := Except.error.inj same
    exact attempted.reported concluded

end Launcher

namespace Client

open Launcher

/-- What can be asked of a client with one command, by what it gives. -/
inductive Request : Type → Type where
  | store (file : String) (user gas backend : Option String) : Request Broadcast
  | transaction (hash : String) : Request Transaction
  | computation (hash : String) : Request Computation
  | storedCodes : Request (List StoredCode)
  | instances (codeId : Value) : Request (List Instance)
  | address (key : String) : Request String
  | instantiate (contract : Contract) (message : Value) (label sender : String)
      (gas backend : Option String) : Request Broadcast
  | execute (contract : Contract) (message : Value) (sender : String)
      (gas backend amount : Option String) : Request Broadcast
  | ask (contract : Contract) (message : Value) (type : Option AnswerType) : Request Value

namespace Request

def action (client : Client) {α : Type} : Request α → Bench α
  | .store file user gas backend => client.store file user gas backend
  | .transaction hash => client.transaction hash
  | .computation hash => client.computation hash
  | .storedCodes => client.storedCodes
  | .instances codeId => client.instances codeId
  | .address key => client.address key
  | .instantiate contract message label sender gas backend =>
    client.instantiate contract message label sender gas backend
  | .execute contract message sender gas backend amount =>
    client.execute contract message sender gas backend amount
  | .ask contract message type => client.ask contract message type

/-- The message of a request for a contract. -/
def message? {α : Type} : Request α → Option Value
  | .instantiate _ message _ _ _ _ => some message
  | .execute _ message _ _ _ _ => some message
  | .ask _ message _ => some message
  | _ => none

/-- The message of the request, if it has one, can be sent. -/
def Sendable {α : Type} (request : Request α) : Prop :=
  ∀ message, request.message? = some message → ∃ text, Message.encode message = .ok text

end Request

variable {client : Client}

theorem failsOwn_fit (type : AnswerType) (document : Value) :
    FailsOwn (client.fit type document) := by
  intro daemon world failure later performed
  rw [fit] at performed
  cases accepted : type.schema.accept type.title document with
  | ok found => simp [accepted] at performed
  | error report =>
      simp only [accepted, Bench.perform_bind, Bench.perform_log, Bench.perform_throw] at performed
      obtain rfl := Except.error.inj (Prod.mk.inj performed).1
      rfl

theorem reports_run (command : List String) (type : AnswerType) :
    client.launcher.Reports (client.run command type) :=
  (client.launcher.reports_runJson command).bind fun document => failsOwn_fit type document

theorem Request.reports {α : Type} (request : Request α) (sendable : request.Sendable) :
    client.launcher.Reports (request.action client) := by
  cases request with
  | store => exact (reports_run _ _).bind fun _ => failsOwn_logged _ _ _ (failsOwn_pure _)
  | transaction => exact (reports_run _ _).bind fun _ => failsOwn_pure _
  | computation => exact (reports_run _ _).bind fun _ => failsOwn_pure _
  | storedCodes => exact (reports_run _ _).bind fun _ => failsOwn_pure _
  | instances => exact (reports_run _ _).bind fun _ => failsOwn_pure _
  | address => exact (client.launcher.reports_run _).bind fun _ => failsOwn_pure _
  | instantiate contract message =>
      obtain ⟨text, sent⟩ := sendable message rfl
      exact .after sent ((reports_run _ _).bind fun _ => failsOwn_logged _ _ _ (failsOwn_pure _))
  | execute contract message =>
      obtain ⟨text, sent⟩ := sendable message rfl
      exact .after sent ((reports_run _ _).bind fun _ => failsOwn_logged _ _ _ (failsOwn_pure _))
  | ask contract message type =>
      obtain ⟨text, sent⟩ := sendable message rfl
      refine .after sent ((client.launcher.reports_runJson _).bind fun document => ?_)
      cases type with
      | none => exact failsOwn_pure document
      | some type => exact failsOwn_fit type document

/-- A document is read from the one answer of a daemon that complains of nothing. -/
theorem runJson_ofAnswers (launcher : Launcher) (args : List String) (answer : String)
    {world : World} (first : world.calls = []) :
    ∃ later, Bench.perform (launcher.runJson args) (.ofAnswers [answer]) world =
      (launcher.document answer, later) := by
  have trials : Trials launcher.settings.maxRetries []
      (.came (.finished ⟨some answer, none, 0⟩)) := .now fun _ => .inl rfl
  have answers : Daemon.ofAnswers [answer] world.calls
      (world.scene.call (launcher.argv (args ++ launcher.settings.outputFlags))) =
        ⟨.finished ⟨some answer, none, 0⟩, world.disk, .zero⟩ := by
    rw [first]
    rfl
  obtain ⟨between, answered, -⟩ := launcher.run_after_complaints
    (args ++ launcher.settings.outputFlags) (.ofAnswers [answer]) world [] rfl trials nofun
    (fun i inside => absurd inside (Nat.not_lt_zero i)) answers
  obtain ⟨later, read, -⟩ := launcher.readAnswer_spec (args ++ launcher.settings.outputFlags)
    answer (.ofAnswers [answer]) between
  refine ⟨later, ?_⟩
  rw [runJson_eq, Bench.perform_bind, answered]
  exact read

/-- The text of a number of 4301 ones. -/
def manyOnes : String := String.ofList (List.replicate (Numeral.mostDigits + 1) '1')

theorem document_manyOnes (launcher : Launcher) :
    launcher.document manyOnes =
      .error (.oversizedDocument (.longNumeral (Numeral.mostDigits + 1))) := by
  have ones : ∀ c ∈ List.replicate (Numeral.mostDigits + 1) '1', c.isDigit = true := by
    intro c inside
    rw [(List.mem_replicate.mp inside).2]
    rfl
  have noZero : (List.replicate (Numeral.mostDigits + 1) '1').head? ≠ some '0' := by
    rw [List.replicate_succ, List.head?_cons]
    decide
  have refused := Json.read_of_digits ones noZero (by simp)
  rw [List.length_replicate] at refused
  rw [document, manyOnes, refused]
  rfl

/-- A request whose answer is a number of too many digits. -/
def countRequest : Request Value := .ask counterContract (.dict []) none

theorem sendable_countRequest : countRequest.Sendable := by
  intro message same
  obtain rfl := Option.some.inj same
  exact ⟨_, rfl⟩

theorem countRequest_ofAnswers {answer : String} {failure : Failure}
    (refused : counterClient.launcher.document answer = .error failure) :
    ∃ later, Bench.perform (countRequest.action counterClient) (.ofAnswers [answer]) counterStart =
      (.error failure, later) := by
  have first : counterStart.calls = [] := rfl
  obtain ⟨later, failed⟩ := runJson_ofAnswers counterClient.launcher
    (Command.ask counterContract.address "\x7b\x7d") answer first
  rw [refused] at failed
  refine ⟨later, ?_⟩
  change Bench.perform (counterClient.launcher.runJson
    (Command.ask counterContract.address "\x7b\x7d") >>= _) _ _ = _
  rw [Bench.perform_bind, failed]

end Client

end ContractBench
