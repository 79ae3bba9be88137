import ContractBench.Command
import ContractBench.Proofs.Retry

/-! # Reading a command back

The arguments of a command are a plain list of texts, and any text may stand in any place, also one
that looks like a flag. Still the list tells which command it is: `Call.ofArguments?` reads it back,
up to options that mean the same (`ofArguments?_arguments`). So calls with equal arguments are equal
calls, and the daemon is never asked the same for two calls that differ (`arguments_told_apart`).
-/

namespace ContractBench

namespace Command

/-- A call of one of the four builders that take a caller's texts. -/
inductive Call where
  | store (file : String) (user gas backend : Option String)
  | instantiate (codeId message label sender : String) (gas backend : Option String)
  | execute (address message sender : String) (gas backend amount : Option String)
  | ask (address message : String)
  deriving DecidableEq

namespace Call

def arguments : Call → List String
  | .store file user gas backend => Command.store file user gas backend
  | .instantiate codeId message label sender gas backend =>
    Command.instantiate codeId message label sender gas backend
  | .execute address message sender gas backend amount =>
    Command.execute address message sender gas backend amount
  | .ask address message => Command.ask address message

/-- The call with its options settled: what is absent or empty is the default where there is one,
    and absent elsewhere. -/
def settled : Call → Call
  | .store file user gas backend =>
    .store file (some ((given? user).getD defaultUser)) (some ((given? gas).getD defaultStoreGas))
      (given? backend)
  | .instantiate codeId message label sender gas backend =>
    .instantiate codeId message label sender (some ((given? gas).getD defaultInitGas))
      (given? backend)
  | .execute address message sender gas backend amount =>
    .execute address message sender (some ((given? gas).getD defaultExecuteGas)) (given? backend)
      (given? amount)
  | .ask address message => .ask address message

/-- The options without a default, read from the end of a command. -/
def ofOptions? : List String → Option (Option String × Option String)
  | ["-y"] => some (none, none)
  | ["--keyring-backend", backend, "-y"] => some (some backend, none)
  | ["--amount", amount, "-y"] => some (none, some amount)
  | ["--keyring-backend", backend, "--amount", amount, "-y"] => some (some backend, some amount)
  | _ => none

/-- The call that arguments are for. -/
def ofArguments? : List String → Option Call
  | ["query", "compute", "query", address, message] => some (.ask address message)
  | "tx" :: "compute" :: "store" :: file :: "--from" :: user :: "--gas" :: gas :: options =>
    (ofOptions? options).map fun (backend, _) => .store file (some user) (some gas) backend
  | "tx" :: "compute" :: "instantiate" :: codeId :: message :: "--from" :: sender :: "--label" ::
      label :: "--gas" :: gas :: options =>
    (ofOptions? options).map fun (backend, _) =>
      .instantiate codeId message label sender (some gas) backend
  | "tx" :: "compute" :: "execute" :: address :: message :: "--from" :: sender :: "--gas" :: gas ::
      options =>
    (ofOptions? options).map fun (backend, amount) =>
      .execute address message sender (some gas) backend amount
  | _ => none

end Call

/-! ## Options -/

theorem given?_given? (option : Option String) : given? (given? option) = given? option := by
  cases option with
  | none => rfl
  | some text =>
      by_cases empty : text = ""
      · simp [given?, empty]
      · simp [given?, empty]

theorem given?_ne_empty {option : Option String} {text : String}
    (given : given? option = some text) : text ≠ "" := by
  cases option with
  | none => simp [given?] at given
  | some known =>
      by_cases empty : known = ""
      · simp [given?, empty] at given
      · obtain rfl : known = text := by simpa [given?, empty] using given
        exact empty

/-- An option that has its default is given. -/
theorem given?_getD (option : Option String) {fallback : String} (real : fallback ≠ "") :
    given? (some ((given? option).getD fallback)) = some ((given? option).getD fallback) := by
  cases given : given? option with
  | none => simp [given?, real]
  | some text => simp [given?, given?_ne_empty given]

theorem flag_given? (name : String) (option : Option String) :
    flag name (given? option) = flag name option := by
  simp only [flag, given?_given?]

/-- Only the flags that were given stand at the end, so what stands there tells which they were. -/
theorem ofOptions?_flags (backend amount : Option String) :
    Call.ofOptions? (flag "--keyring-backend" backend ++ (flag "--amount" amount ++ ["-y"])) =
      some (given? backend, given? amount) := by
  cases kept : given? backend with
  | none => cases paid : given? amount <;> simp [flag, kept, paid, Call.ofOptions?]
  | some text => cases paid : given? amount <;> simp [flag, kept, paid, Call.ofOptions?]

theorem ofOptions?_flag (backend : Option String) :
    Call.ofOptions? (flag "--keyring-backend" backend ++ ["-y"]) = some (given? backend, none) :=
  ofOptions?_flags backend none

/-! ## Calls -/

namespace Call

/-- Reading the arguments of a call gives the call back, with its options settled. -/
theorem ofArguments?_arguments (call : Call) : ofArguments? call.arguments = some call.settled := by
  cases call with
  | store file user gas backend =>
      simp [arguments, Command.store, ofArguments?, ofOptions?_flag, settled]
  | instantiate codeId message label sender gas backend =>
      simp [arguments, Command.instantiate, ofArguments?, ofOptions?_flag, settled]
  | execute address message sender gas backend amount =>
      simp [arguments, Command.execute, ofArguments?, ofOptions?_flags, settled]
  | ask address message => rfl

/-- Settling the options changes no argument. -/
theorem arguments_settled (call : Call) : call.settled.arguments = call.arguments := by
  cases call with
  | store file user gas backend =>
      have hasUser := given?_getD user (show defaultUser ≠ "" by decide)
      have hasGas := given?_getD gas (show defaultStoreGas ≠ "" by decide)
      simp [arguments, settled, Command.store, hasUser, hasGas, flag_given?]
  | instantiate codeId message label sender gas backend =>
      have hasGas := given?_getD gas (show defaultInitGas ≠ "" by decide)
      simp [arguments, settled, Command.instantiate, hasGas, flag_given?]
  | execute address message sender gas backend amount =>
      have hasGas := given?_getD gas (show defaultExecuteGas ≠ "" by decide)
      simp [arguments, settled, Command.execute, hasGas, flag_given?]
  | ask address message => rfl

theorem arguments_eq_iff (call other : Call) :
    call.arguments = other.arguments ↔ call.settled = other.settled := by
  constructor
  · intro same
    have read := congrArg ofArguments? same
    rw [ofArguments?_arguments, ofArguments?_arguments] at read
    exact Option.some.inj read
  · intro same
    rw [← arguments_settled call, same, arguments_settled]

end Call

end Command

/-! ## What the daemon is asked -/

theorem Scene.argvs_reached (daemon : Daemon) (argv : List String) (scene : Scene) (tries : Nat) :
    (scene.reached daemon argv tries).calls.map (·.argv) =
      List.replicate tries argv ++ scene.calls.map (·.argv) := by
  induction tries generalizing scene with
  | zero => rfl
  | succ tries ih =>
      rw [reached, ih, List.replicate_succ', List.append_assoc]
      rfl

/-- A document is asked for with one command, its arguments followed by the output flags. -/
theorem Launcher.argvs_runJson (launcher : Launcher) (args : List String) (daemon : Daemon)
    (world : World) :
    ∃ retries, (Bench.perform (launcher.runJson args) daemon world).2.calls.map (·.argv) =
      List.replicate (retries + 1)
        (launcher.settings.binary :: (args ++ launcher.settings.outputFlags)) ++
        world.calls.map (·.argv) := by
  obtain ⟨before, last, later, performed, attempted⟩ := launcher.attempts_spec
    (args ++ launcher.settings.outputFlags) daemon launcher.settings.maxRetries 1 world
  have asked : later.calls.map (·.argv) = List.replicate (before.length + 1)
      (launcher.argv (args ++ launcher.settings.outputFlags)) ++ world.calls.map (·.argv) := by
    have calls := congrArg Scene.calls attempted.scene
    exact (congrArg _ calls).trans (Scene.argvs_reached ..)
  refine ⟨before.length, ?_⟩
  rw [runJson_eq, run_eq_attempts]
  simp only [Bench.perform_bind, performed]
  cases launcher.conclusion (args ++ launcher.settings.outputFlags) last with
  | error failure => exact asked
  | ok output =>
      obtain ⟨final, read, quiet⟩ := launcher.readAnswer_spec
        (args ++ launcher.settings.outputFlags) output.answer daemon later
      simp only [Bench.perform_pure, read, quiet.calls]
      exact asked

namespace Command.Call

/-- Two calls have the same arguments exactly if they are calls of the same builder with the same
    texts and with options that mean the same. Output flags behind the arguments change nothing of
    this, and they are all that the launcher adds when it asks the daemon. -/
theorem arguments_told_apart (call other : Call) :
    (call.arguments = other.arguments ↔ call.settled = other.settled) ∧
    (∀ flags, call.arguments ++ flags = other.arguments ++ flags ↔
      call.settled = other.settled) ∧
    ∀ (launcher : Launcher) (daemon : Daemon) (world : World), ∃ retries,
      (Bench.perform (launcher.runJson call.arguments) daemon world).2.calls.map (·.argv) =
        List.replicate (retries + 1)
          (launcher.settings.binary :: (call.arguments ++ launcher.settings.outputFlags)) ++
          world.calls.map (·.argv) := by
  refine ⟨arguments_eq_iff call other, fun flags => ?_, fun launcher => ?_⟩
  · rw [List.append_left_inj]
    exact arguments_eq_iff call other
  · exact launcher.argvs_runJson call.arguments

end Command.Call

end ContractBench
