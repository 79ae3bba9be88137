import ContractBench.Proofs.Steps

/-! # Whose records they are

The requests of a client log with the loggers of the client and of its launcher, and with no other
(`Client.logsBy_run`, by induction on the retry loop). What a flow logs beside its requests can so
be told apart.
-/

namespace ContractBench

/-- Deeds among which every record was logged with one of some loggers. -/
def LoggedBy (loggers : List String) (deeds : List Deed) : Prop :=
  ∀ record, .logged record ∈ deeds → record.logger ∈ loggers

theorem LoggedBy.append {loggers : List String} {deeds more : List Deed}
    (h : LoggedBy loggers deeds) (h' : LoggedBy loggers more) :
    LoggedBy loggers (deeds ++ more) := by
  intro record inside
  rcases List.mem_append.mp inside with held | held
  · exact h record held
  · exact h' record held

namespace Bench

variable {loggers : List String} {α β : Type}

/-- An operation that logs with no other than some loggers. -/
structure LogsBy (loggers : List String) (action : Bench α) : Prop where
  added : ∀ daemon world, ∃ added, (perform action daemon world).2.deeds = added ++ world.deeds ∧
    LoggedBy loggers added

namespace LogsBy

theorem silent {action : Bench α}
    (unsaid : ∀ daemon world, (perform action daemon world).2.deeds = world.deeds) :
    LogsBy loggers action :=
  ⟨fun daemon world => ⟨[], unsaid daemon world, nofun⟩⟩

theorem pure (a : α) : LogsBy loggers (pure a : Bench α) := silent fun _ _ => rfl

theorem throw (failure : Failure) : LogsBy loggers (throw failure : Bench α) :=
  silent fun _ _ => rfl

theorem loggedBy_singleton {logger : String} (own : logger ∈ loggers) (level : Level)
    (message : String) : LoggedBy loggers [.logged ⟨level, logger, message⟩] := by
  intro record inside
  obtain rfl := Deed.logged.inj (List.mem_singleton.mp inside)
  exact own

theorem log {logger : String} (own : logger ∈ loggers) (level : Level) (message : String) :
    LogsBy loggers (log level logger message) :=
  ⟨fun _ _ => ⟨_, rfl, loggedBy_singleton own level message⟩⟩

theorem wait (seconds : Binary64) : LogsBy loggers (wait seconds) := by
  refine ⟨fun _ world => ?_⟩
  by_cases granted : world.Grants seconds
  · rw [perform_wait _ granted]
    exact ⟨[.waited seconds], rfl, by simp [LoggedBy]⟩
  · rw [perform_wait_of_not _ granted]
    exact ⟨[], rfl, nofun⟩

theorem call (argv : List String) : LogsBy loggers (call argv) :=
  ⟨fun _ world => ⟨[.called (world.scene.call argv)], rfl, by simp [LoggedBy]⟩⟩

theorem logThrottled {logger : String} (own : logger ∈ loggers) (level message : String)
    (key : Option String) : LogsBy loggers (logThrottled logger level message key) := by
  refine ⟨fun daemon world => ?_⟩
  rw [perform_logThrottled]
  dsimp only
  split
  · exact ⟨[], rfl, nofun⟩
  · cases LevelName.ofText logger level message with
    | logs known => exact ⟨_, rfl, loggedBy_singleton own known message⟩
    | silent => exact ⟨[], rfl, nofun⟩
    | refused fault => exact ⟨[], rfl, nofun⟩

theorem bind {first : Bench α} {next : α → Bench β} (start : LogsBy loggers first)
    (further : ∀ a, LogsBy loggers (next a)) : LogsBy loggers (first >>= next) := by
  refine ⟨fun daemon world => ?_⟩
  obtain ⟨added, grown, own⟩ := start.added daemon world
  rw [perform_bind]
  rcases performed : perform first daemon world with ⟨failure | a, between⟩
  · rw [performed] at grown
    exact ⟨added, grown, own⟩
  · rw [performed] at grown
    obtain ⟨more, grown', own'⟩ := (further a).added daemon between
    refine ⟨more ++ added, ?_, own'.append own⟩
    rw [List.append_assoc, ← grown]
    exact grown'

end LogsBy

end Bench

namespace Launcher

variable {loggers : List String} {launcher : Launcher} (own : launcher.logger ∈ loggers)
include own

theorem logsBy_invoke (command : List String) :
    Bench.LogsBy loggers (launcher.invoke command) := by
  refine .bind (.log own ..) fun _ => .bind (.call _) fun outcome => ?_
  cases outcome with
  | finished output => exact .bind (.log own ..) fun _ => .pure output
  | refused fault =>
      refine .bind (.log own ..) fun _ => ?_
      split
      · exact .throw _
      · exact .throw _
  | embeddedNul => exact .throw _

theorem logsBy_announceRetry (command : List String) (attempt : Nat) (complaint : String) :
    Bench.LogsBy loggers (launcher.announceRetry command attempt complaint) := by
  refine .bind (.logThrottled own ..) fun warned => ?_
  cases warned with
  | true => exact .pure ()
  | false => exact .log own ..

theorem logsBy_settle (command : List String) (left attempt : Nat) (output : Output) :
    Bench.LogsBy loggers (launcher.settle command left attempt output) := by
  induction left generalizing attempt output with
  | zero => exact .pure output
  | succ left ih =>
      -- One more try logs its own announcement, and then the loop is shorter by one.
      rw [settle]
      cases output.isSettled with
      | true => exact .pure output
      | false =>
          exact .bind (logsBy_announceRetry own ..) fun _ => .bind (.wait _) fun _ =>
            .bind (logsBy_invoke own command) fun next => ih (attempt + 1) next

theorem logsBy_readAnswer (command : List String) (answer : String) :
    Bench.LogsBy loggers (launcher.readAnswer command answer) := by
  rw [readAnswer]
  cases Json.read answer with
  | ok document => exact .pure document
  | error e =>
      simp only
      cases Failure.ofSize? e.fault with
      | some failure => exact .throw failure
      | none => exact .bind (.log own ..) fun _ => .throw _

theorem logsBy_runJson (args : List String) : Bench.LogsBy loggers (launcher.runJson args) := by
  rw [runJson_eq]
  refine .bind ?_ fun answer => logsBy_readAnswer own _ answer
  exact .bind (logsBy_invoke own _) fun output =>
    .bind (logsBy_settle own _ _ 1 output) fun last => .pure last.answer

end Launcher

namespace Client

/-- The loggers of a client's own requests. -/
def loggers (client : Client) : List String := [client.logger, client.launcher.logger]

variable (client : Client)

theorem logsBy_fit (type : AnswerType) (document : Value) :
    Bench.LogsBy client.loggers (client.fit type document) := by
  rw [fit]
  cases type.schema.accept type.title document with
  | ok value => exact .pure value
  | error report => exact .bind (.log (.head _) ..) fun _ => .throw _

theorem logsBy_run (command : List String) (type : AnswerType) :
    Bench.LogsBy client.loggers (client.run command type) :=
  .bind (Launcher.logsBy_runJson (.tail _ (.head _)) command) fun document =>
    client.logsBy_fit type document

end Client

end ContractBench
