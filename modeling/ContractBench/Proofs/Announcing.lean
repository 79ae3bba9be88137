import ContractBench.Proofs.Retry
import ContractBench.Proofs.Throttling

/-! # One notice for every retry

A retry is told of as a warning, or for debugging while a warning of the same target is held back.
The throttle knows messages by their keys only, and the key of a target is a text in which program
and arguments stand side by side; for plain ones that text can be read back (`Target.key_inj`). So
the warnings that were given decide, target by target, how the next retry is told of
(`Launcher.retries_told`). `Launcher.Course` follows the loop, one constructor for a call that ends
it, one for a call that is followed by a retry, and one for a retry that was told of but whose wait
the system refuses. Calls take what time they take, and waits theirs.
-/

namespace ContractBench

open Binary64 (AtMost)

/-- What warnings of retries are told apart by: the program and the leading arguments. -/
structure Target where
  binary : String
  arguments : List String
  deriving DecidableEq

namespace Target

/-- No part of the target holds a space, and none of its arguments is a message. -/
structure IsPlain (target : Target) : Prop where
  spaceless : ∀ part ∈ target.binary :: target.arguments, ' ' ∉ part.toList
  speakable : ∀ arg ∈ target.arguments, Launcher.isSpeakable arg = true

/-- The key under which the throttle knows a warning. -/
def key (target : Target) : String :=
  "retry:" ++ " ".intercalate (target.binary :: target.arguments)

/-- Where no part holds a space, the spaces of the key show where its parts end. -/
theorem key_inj {target other : Target} (plain : target.IsPlain) (plain' : other.IsPlain)
    (same : target.key = other.key) : target = other := by
  have parted {t : Target} (h : t.IsPlain) :
      (" ".intercalate (t.binary :: t.arguments)).toList.splitOn ' ' =
        (t.binary :: t.arguments).map String.toList := by
    rw [String.toList_intercalate]
    exact List.splitOn_intercalate ' ' (by simpa using h.spaceless) (by simp)
  have joined : " ".intercalate (target.binary :: target.arguments) =
      " ".intercalate (other.binary :: other.arguments) := (String.append_right_inj _).mp same
  have parts : (target.binary :: target.arguments).map String.toList =
      (other.binary :: other.arguments).map String.toList := by
    rw [← parted plain, ← parted plain', joined]
  obtain ⟨binary, arguments⟩ := List.cons.inj
    ((List.map_inj_right fun _ _ => String.toList_inj.mp).mp parts)
  cases target
  cases other
  exact congrArg₂ Target.mk binary arguments

end Target

/-- A warning of a retry that was logged. -/
structure Warning where
  target : Target
  time : Binary64

/-- Of the warnings that were logged, the earliest first, one of the target is less than a minute
    old, and fewer than 256 were logged after it. -/
def Target.HeldBack (target : Target) (warnings : List Warning) (now : Binary64) : Prop :=
  ∃ earlier warning later, warnings = earlier ++ warning :: later ∧ warning.target = target ∧
    now.lt (warning.time + Binary64.ofInt 60) = true ∧ later.length < 256

/-- Warnings of other targets never hold one back. -/
theorem Target.HeldBack.own {target : Target} {warnings : List Warning} {now : Binary64}
    (held : target.HeldBack warnings now) :
    target.HeldBack (warnings.filter (·.target = target)) now := by
  obtain ⟨earlier, warning, later, rfl, same, recent, few⟩ := held
  refine ⟨earlier.filter (·.target = target), warning, later.filter (·.target = target), ?_, same,
    recent, (List.length_filter_le ..).trans_lt few⟩
  rw [List.filter_append, List.filter_cons_of_pos (by simpa using same)]

namespace Warning

/-- The warning as a message that the throttle let through. -/
def emission (warning : Warning) : Emission := ⟨warning.target.key, warning.time⟩

theorem holdsBack_iff {warnings : List Warning} {target : Target} (now : Binary64)
    (plain : target.IsPlain) (plainly : ∀ warning ∈ warnings, warning.target.IsPlain) :
    HoldsBack (warnings.map emission) now target.key ↔ target.HeldBack warnings now := by
  constructor
  · rintro ⟨earlier, _, later, split, same, recent, few⟩
    obtain ⟨before, rest, rfl, rfl, others⟩ := List.map_eq_append_iff.mp split
    obtain ⟨warning, after, rfl, rfl, rfl⟩ := List.map_eq_cons_iff.mp others
    exact ⟨before, warning, after, rfl, Target.key_inj (plainly warning (by simp)) plain same,
      recent, by simpa using few⟩
  · rintro ⟨before, warning, after, rfl, rfl, recent, few⟩
    exact ⟨before.map emission, warning.emission, after.map emission, by simp, rfl, recent,
      by simpa using few⟩

end Warning

/-! ## The course of a command -/

/-- A retry that was told of: the output that complained, when that was, and whether the retry was
    told of as a warning. -/
structure Retry where
  output : Output
  time : Binary64
  warned : Bool

namespace Retry

/-- The warnings among the retries of a command. -/
def warnings (target : Target) (retries : List Retry) : List Warning :=
  (retries.filter (·.warned)).map fun retry => ⟨target, retry.time⟩

theorem warnings_cons (target : Target) (retry : Retry) (retries : List Retry) :
    warnings target (retry :: retries) = warnings target [retry] ++ warnings target retries := by
  rw [warnings, ← List.singleton_append, List.filter_append, List.map_append]
  rfl

end Retry

/-- How the retries of a command are told of, after some warnings: those before a retry decide
    whether it is held back. -/
def Retry.Decided (target : Target) (warnings : List Warning) (retries : List Retry) : Prop :=
  ∀ earlier retry rest, retries = earlier ++ retry :: rest →
    (retry.warned = false ↔
      target.HeldBack (warnings ++ Retry.warnings target earlier) retry.time)

namespace Retry.Decided

variable {target : Target} {warnings : List Warning} {retry : Retry} {rest : List Retry}

theorem nil : Decided target warnings [] := by simp [Decided]

theorem cons (first : retry.warned = false ↔ target.HeldBack warnings retry.time)
    (others : Decided target (warnings ++ Retry.warnings target [retry]) rest) :
    Decided target warnings (retry :: rest) := by
  intro earlier chosen later split
  cases earlier with
  | nil =>
      obtain ⟨rfl, rfl⟩ := List.cons.inj split
      rwa [Retry.warnings, List.filter_nil, List.map_nil, List.append_nil]
  | cons head earlier =>
      obtain ⟨rfl, rfl⟩ := List.cons.inj split
      rw [Retry.warnings_cons, ← List.append_assoc]
      exact others earlier chosen later rfl

end Retry.Decided

/-- How many retries were made of those that were told of. -/
def Ending.made (told : Nat) : Ending → Nat
  | .came _ => told
  | .unwaited _ => told - 1

namespace Launcher

variable (launcher : Launcher) (command : List String)

def target : Target := ⟨launcher.settings.binary, command.take 4⟩

/-- The record in which a retry is told of. -/
def notice (attempt : Nat) (retry : Retry) : LogRecord :=
  if retry.warned then
    ⟨.warning, launcher.logger, launcher.named command ++ " wrote to stderr, retrying every " ++
      launcher.settings.retryInterval.text ++ "s: " ++ Text.strip retry.output.complaint⟩
  else
    ⟨.debug, launcher.logger, "Retry " ++ toString attempt ++ "/" ++
      toString launcher.settings.maxRetries ++ " for " ++ launcher.named command⟩

/-- What is done for one call, in order. -/
def callDeeds (scene : Scene) (outcome : Outcome) : List Deed :=
  .logged ⟨.debug, launcher.logger, "Running " ++ launcher.named command⟩ ::
    .called (scene.call (launcher.argv command)) ::
    match outcome with
    | .finished output => [.logged ⟨.debug, launcher.logger, "Exit code " ++
        toString output.exitCode ++ " from " ++ launcher.named command⟩]
    | .refused fault => [.logged ⟨.error, launcher.logger, "Failed to launch " ++
        launcher.settings.binary ++ ": " ++ fault.message⟩]
    | .embeddedNul => []

/-- The wait before what comes next, unless it was refused. -/
def waitBefore : List Retry → Ending → List Deed
  | [], .unwaited _ => []
  | _, _ => [.waited launcher.settings.retryInterval]

/-- What is done for a command, in order: its retries, counted from `attempt`, each with its notice
    and a wait, and the last call. -/
def deedsOf (daemon : Daemon) : Scene → Nat → List Retry → Ending → List Deed
  | scene, _, [], .came last => launcher.callDeeds command scene last
  | _, _, [], .unwaited _ => []
  | scene, attempt, retry :: rest, last =>
    launcher.callDeeds command scene (.finished retry.output) ++
      .logged (launcher.notice command attempt retry) :: launcher.waitBefore rest last ++
      deedsOf daemon (scene.next daemon (launcher.argv command)) (attempt + 1) rest last

/-- The clock after one call. -/
def clockAfter (daemon : Daemon) (scene : Scene) (clock : Binary64) : Binary64 :=
  clock + (scene.run daemon (launcher.argv command)).elapsed

/-- The clock after a call, and after one more call behind each of some waits. -/
def clockAt (daemon : Daemon) : Scene → Binary64 → Nat → Binary64
  | scene, clock, 0 => launcher.clockAfter command daemon scene clock
  | scene, clock, n + 1 =>
    clockAt daemon (scene.next daemon (launcher.argv command))
      (launcher.clockAfter command daemon scene clock + launcher.settings.retryInterval) n

/-- The clock does not go backwards in a call, and in one more call behind each of some waits, nor
    in the waits. -/
def Onward (daemon : Daemon) : Scene → Binary64 → Nat → Prop
  | scene, clock, 0 => AtMost clock (launcher.clockAfter command daemon scene clock)
  | scene, clock, n + 1 =>
    let called := launcher.clockAfter command daemon scene clock
    AtMost clock called ∧ AtMost called (called + launcher.settings.retryInterval) ∧
      Onward daemon (scene.next daemon (launcher.argv command))
        (called + launcher.settings.retryInterval) n

theorem Onward.first {launcher : Launcher} {command : List String} {daemon : Daemon} {scene : Scene}
    {clock : Binary64} {n : Nat} (h : launcher.Onward command daemon scene clock n) :
    AtMost clock (launcher.clockAfter command daemon scene clock) := by
  cases n with
  | zero => exact h
  | succ n => exact h.1

/-- What comes of one call. -/
def outcome (daemon : Daemon) (world : World) : Outcome :=
  (world.scene.run daemon (launcher.argv command)).outcome

/-- The world after one call. -/
def invoked (daemon : Daemon) (world : World) : World :=
  (Bench.perform (launcher.invoke command) daemon world).2

/-- A call complained, and the retry that follows was told of. -/
structure Announced (daemon : Daemon) (attempt : Nat) (world : World) (retry : Retry)
    (told : World) : Prop where
  finished : launcher.outcome command daemon world = .finished retry.output
  noisy : retry.output.isSettled = false
  telling : Bench.perform (launcher.announceRetry command attempt retry.output.complaint) daemon
    (launcher.invoked command daemon world) = (.ok (), told)
  time : retry.time = (launcher.invoked command daemon world).clock
  record : told.deeds = .logged (launcher.notice command attempt retry) ::
    (launcher.invoked command daemon world).deeds

/-- How a command goes that may be run again `left` times, the next time being the `attempt`-th. -/
inductive Course (daemon : Daemon) :
    Nat → Nat → World → List Retry → Ending → World → Prop
  /-- The call settled, was refused, or was the last one allowed. -/
  | ended {left attempt : Nat} {world : World}
      (done : (launcher.outcome command daemon world).isFinished →
        (launcher.outcome command daemon world).isSettled ∨ left = 0) :
      Course daemon left attempt world [] (.came (launcher.outcome command daemon world))
        (launcher.invoked command daemon world)
  /-- The call complained, and is made again after a notice and a wait. -/
  | again {left attempt : Nat} {world told ended : World} {retry : Retry} {retries : List Retry}
      {last : Ending} (announced : launcher.Announced command daemon attempt world retry told)
      (granted : launcher.Waits told)
      (rest : Course daemon left (attempt + 1) (told.passed launcher.settings.retryInterval)
        retries last ended) :
      Course daemon (left + 1) attempt world (retry :: retries) last ended
  /-- The call complained, and is not made again after the notice, for there is no wait. -/
  | unwaited {left attempt : Nat} {world told : World} {retry : Retry}
      (announced : launcher.Announced command daemon attempt world retry told)
      (refused : ¬ launcher.Waits told) :
      Course daemon (left + 1) attempt world [retry] (.unwaited retry.output) told

/-! ## One step of the loop -/

theorem perform_invoke (daemon : Daemon) (world : World) :
    Bench.perform (launcher.invoke command) daemon world =
      (launcher.verdict command (launcher.outcome command daemon world),
        launcher.invoked command daemon world) := by
  rw [invoked, perform_invoke_eq]
  rfl

theorem scene_invoked (daemon : Daemon) (world : World) :
    (launcher.invoked command daemon world).scene =
      world.scene.next daemon (launcher.argv command) := by
  obtain ⟨later, performed, -, scene⟩ := launcher.invoke_spec command daemon world
  rw [invoked, performed, scene]

/-- A call is written down, moves the clock by the time that it takes, and does not touch the
    throttle. -/
theorem invoked_traces (daemon : Daemon) (world : World) :
    (launcher.invoked command daemon world).deeds =
        (launcher.callDeeds command world.scene (launcher.outcome command daemon world)).reverse ++
          world.deeds ∧
      (launcher.invoked command daemon world).clock =
        launcher.clockAfter command daemon world.scene world.clock ∧
      (launcher.invoked command daemon world).throttle = world.throttle := by
  let begun := world.logged .debug launcher.logger ("Running " ++ launcher.named command)
  let called := begun.asked daemon (launcher.argv command)
  have scene : begun.scene = world.scene := (World.Quiet.logged ..).scene
  have deeds : called.deeds = .called (world.scene.call (launcher.argv command)) ::
      .logged ⟨.debug, launcher.logger, "Running " ++ launcher.named command⟩ :: world.deeds := by
    rw [← scene]
    rfl
  have clock : called.clock = launcher.clockAfter command daemon world.scene world.clock := by
    rw [← scene]
    rfl
  have ends : launcher.invoked command daemon world =
      launcher.noteOutcome command called (launcher.outcome command daemon world) := by
    rw [invoked, perform_invoke_eq]
    rfl
  rw [ends]
  cases launcher.outcome command daemon world <;>
    exact ⟨by simp [callDeeds, noteOutcome, World.logged, World.did, deeds], clock, rfl⟩

theorem perform_announceRetry (attempt : Nat) (output : Output) (daemon : Daemon) (world : World) :
    let key := "retry:" ++ launcher.describe distinctArguments command
    let notice (warned : Bool) := launcher.notice command attempt ⟨output, world.clock, warned⟩
    Bench.perform (launcher.announceRetry command attempt output.complaint) daemon world =
      (.ok (), if world.throttle.holds world.clock key then world.did (.logged (notice false))
        else (world.did (.logged (notice true))).remembering key) := by
  intro key notice
  have known (message : String) :
      Bench.throttleKey Level.warning.name message (some key) = key := by
    rw [Bench.throttleKey, if_neg]
    intro empty
    have length := congrArg String.length empty
    simp [key] at length
  have throttled := Bench.perform_logThrottled_level launcher.logger
    (launcher.named command ++ " wrote to stderr, retrying every " ++
      launcher.settings.retryInterval.text ++ "s: " ++ Text.strip output.complaint)
    .warning (some key) daemon world
  rw [known] at throttled
  change Bench.perform (Bench.logThrottled _ "warning" _ (some key)) daemon world = _ at throttled
  rw [announceRetry, Bench.perform_bind, throttled]
  cases world.throttle.holds world.clock key <;> rfl

variable {launcher command} {daemon : Daemon} {left attempt : Nat} {world told ended : World}
  {retry : Retry} {retries : List Retry} {last : Ending}

theorem announced_exists (launcher : Launcher) (command : List String) (attempt : Nat)
    {output : Output} {daemon : Daemon} {world : World}
    (finished : launcher.outcome command daemon world = .finished output)
    (noisy : output.isSettled = false) :
    ∃ retry told, launcher.Announced command daemon attempt world retry told := by
  let called := launcher.invoked command daemon world
  have telling := perform_announceRetry launcher command attempt output daemon called
  by_cases held : called.throttle.holds called.clock
      ("retry:" ++ launcher.describe distinctArguments command) = true
  · exact ⟨⟨output, called.clock, false⟩, _, finished, noisy, telling.trans (by rw [if_pos held]),
      rfl, rfl⟩
  · exact ⟨⟨output, called.clock, true⟩, _, finished, noisy, telling.trans (by rw [if_neg held]),
      rfl, rfl⟩

namespace Announced

/-- The notice shows whether the throttle held the warning back, and what it remembers now. -/
theorem shows (h : launcher.Announced command daemon attempt world retry told) :
    let key := "retry:" ++ launcher.describe distinctArguments command
    retry.warned = !world.throttle.holds retry.time key ∧ told.clock = retry.time ∧
      told.throttle =
        if retry.warned then world.throttle.remember retry.time key else world.throttle := by
  intro key
  obtain ⟨-, -, throttle⟩ := invoked_traces launcher command daemon world
  obtain ⟨-, -, telling, time, record⟩ := h
  rw [perform_announceRetry] at telling
  obtain rfl := (Prod.mk.inj telling).2
  obtain ⟨output, clock, warned⟩ := retry
  obtain rfl : clock = _ := time
  -- Warnings and records for debugging are told apart by their levels.
  rw [← throttle]
  cases held : (launcher.invoked command daemon world).throttle.holds
      (launcher.invoked command daemon world).clock key <;> cases warned <;>
    simp_all [key, notice, World.did, World.remembering]

theorem scene (h : launcher.Announced command daemon attempt world retry told) :
    told.scene = world.scene.next daemon (launcher.argv command) := by
  obtain ⟨later, announced, quiet⟩ := launcher.announceRetry_spec command attempt
    retry.output.complaint daemon (launcher.invoked command daemon world)
  obtain rfl : told = later := (Prod.mk.inj (h.telling.symm.trans announced)).2
  rw [quiet.scene, scene_invoked]

theorem time_eq (h : launcher.Announced command daemon attempt world retry told) :
    retry.time = launcher.clockAfter command daemon world.scene world.clock :=
  h.time.trans (invoked_traces ..).2.1

theorem clock (h : launcher.Announced command daemon attempt world retry told) :
    told.clock = launcher.clockAfter command daemon world.scene world.clock :=
  h.shows.2.1.trans h.time_eq

theorem deeds (h : launcher.Announced command daemon attempt world retry told) :
    told.deeds = (launcher.callDeeds command world.scene (.finished retry.output) ++
      [Deed.logged (launcher.notice command attempt retry)]).reverse ++ world.deeds := by
  have written := (invoked_traces launcher command daemon world).1
  rw [h.finished] at written
  simp [h.record, written]

end Announced

/-! ## The whole course -/

theorem course_exists (launcher : Launcher) (command : List String) (daemon : Daemon)
    (left attempt : Nat) (world : World) :
    ∃ retries last ended, launcher.Course command daemon left attempt world retries last ended := by
  induction left generalizing attempt world with
  | zero => exact ⟨_, _, _, .ended fun _ => .inr rfl⟩
  | succ left ih =>
      by_cases done : (launcher.outcome command daemon world).isFinished →
          (launcher.outcome command daemon world).isSettled ∨ left + 1 = 0
      · exact ⟨_, _, _, .ended done⟩
      · obtain ⟨output, finished, noisy⟩ : ∃ output,
            launcher.outcome command daemon world = .finished output ∧
              output.isSettled = false := by
          cases found : launcher.outcome command daemon world <;>
            simp_all [Outcome.isFinished, Outcome.isSettled]
        obtain ⟨retry, told, announced⟩ :=
          announced_exists launcher command attempt finished noisy
        by_cases granted : launcher.Waits told
        · obtain ⟨retries, last, ended, rest⟩ :=
            ih (attempt + 1) (told.passed launcher.settings.retryInterval)
          exact ⟨_, last, ended, .again announced granted rest⟩
        · exact ⟨_, _, told, .unwaited announced granted⟩

namespace Course

/-- The course is what the loop does. -/
theorem performed (course : launcher.Course command daemon left attempt world retries last ended) :
    Bench.perform (launcher.attempts command left attempt) daemon world =
      (launcher.conclusion command last, ended) := by
  induction course with
  | @ended left attempt world done =>
      rw [attempts, Bench.perform_bind, perform_invoke, conclusion]
      cases found : launcher.outcome command daemon world with
      | refused | embeddedNul => rfl
      | finished output =>
          rw [found] at done
          rcases done rfl with settled | rfl
          · have quiet : output.isSettled = true := settled
            cases left <;> simp [settle, quiet]
          · rfl
  | again announced granted _ ih =>
      have waited := Bench.perform_wait daemon granted
      rw [attempts, Bench.perform_bind, perform_invoke, announced.finished]
      simpa [settle, announced.noisy, announced.telling, waited, attempts] using ih
  | unwaited announced refused =>
      have unwaited := Bench.perform_wait_of_not daemon refused
      rw [attempts, Bench.perform_bind, perform_invoke, announced.finished]
      simp [settle, announced.noisy, announced.telling, unwaited, conclusion]

/-- What is left of a course after a wait goes on with a call. -/
theorem waitBefore (course : launcher.Course command daemon left attempt world retries last ended) :
    launcher.waitBefore retries last = [.waited launcher.settings.retryInterval] := by
  cases course <;> rfl

theorem deeds (course : launcher.Course command daemon left attempt world retries last ended) :
    ended.deeds = (launcher.deedsOf command daemon world.scene attempt retries last).reverse ++
      world.deeds := by
  induction course with
  | ended => exact (invoked_traces ..).1
  | @again left attempt world told ended retry retries last announced _ rest ih =>
      have scene : (told.passed launcher.settings.retryInterval).scene =
          world.scene.next daemon (launcher.argv command) := announced.scene
      rw [ih, scene]
      simp [World.passed, announced.deeds, deedsOf, rest.waitBefore]
  | unwaited announced =>
      simp [announced.deeds, deedsOf, Launcher.waitBefore]

theorem few (course : launcher.Course command daemon left attempt world retries last ended) :
    retries.length ≤ left := by
  induction course with
  | ended => exact Nat.zero_le _
  | again _ _ _ ih => exact Nat.succ_le_succ ih
  | unwaited => exact Nat.succ_le_succ (Nat.zero_le _)

theorem made_succ (course : launcher.Course command daemon left attempt world retries last ended) :
    last.made (retries.length + 1) = last.made retries.length + 1 := by
  cases course with
  | ended => rfl
  | again _ _ rest => cases last <;> rfl
  | unwaited => rfl

theorem times (course : launcher.Course command daemon left attempt world retries last ended) :
    retries.map (·.time) = (List.range retries.length).map
        (launcher.clockAt command daemon world.scene world.clock) ∧
      ended.clock =
        launcher.clockAt command daemon world.scene world.clock (last.made retries.length) := by
  induction course with
  | ended => exact ⟨rfl, (invoked_traces ..).2.1⟩
  | @again left attempt world told ended retry retries last announced _ rest ih =>
      have scene : (told.passed launcher.settings.retryInterval).scene =
          world.scene.next daemon (launcher.argv command) := announced.scene
      have passed : (told.passed launcher.settings.retryInterval).clock =
          launcher.clockAfter command daemon world.scene world.clock +
            launcher.settings.retryInterval := by
        rw [← announced.clock]
        rfl
      rw [scene, passed] at ih
      rw [List.map_cons, ih.1, List.length_cons, rest.made_succ, List.range_succ_eq_map,
        List.map_cons, List.map_map, announced.time_eq]
      exact ⟨rfl, ih.2⟩
  | unwaited announced => exact ⟨by simp [announced.time_eq, clockAt], announced.clock⟩

end Course

/-- Reading an answer as a document logs at most that it is none. -/
theorem readAnswer_adds (answer : String) (daemon : Daemon) (world : World) :
    ∃ result later, Bench.perform (launcher.readAnswer command answer) daemon world =
        (result, later) ∧
      (later = world ∨ ∃ message, later = world.logged .error launcher.logger message) := by
  rw [readAnswer]
  cases Json.read answer with
  | ok document => exact ⟨_, world, rfl, .inl rfl⟩
  | error e =>
      cases large : Failure.ofSize? e.fault with
      | some failure => exact ⟨_, world, by simp [large]; rfl, .inl rfl⟩
      | none => exact ⟨_, _, by simp [large]; exact ⟨rfl, rfl⟩, .inr ⟨_, rfl⟩⟩

theorem perform_runJson {args : List String} (course : launcher.Course
      (args ++ launcher.settings.outputFlags) daemon launcher.settings.maxRetries 1 world retries
      last ended) :
    ∃ result later, Bench.perform (launcher.runJson args) daemon world = (result, later) ∧
      (later = ended ∨ ∃ message, later = ended.logged .error launcher.logger message) := by
  rw [runJson_eq, run_eq_attempts]
  simp only [Bench.perform_bind, course.performed]
  cases launcher.conclusion (args ++ launcher.settings.outputFlags) last with
  | error failure => exact ⟨_, _, rfl, .inl rfl⟩
  | ok output => exact readAnswer_adds output.answer daemon ended

end Launcher

/-! ## The history of warnings -/

/-- The throttle has the end of the warnings that were given, all of them of plain targets. -/
structure Remembers (world : World) (warnings : List Warning) : Prop where
  plainly : ∀ warning ∈ warnings, warning.target.IsPlain
  kept : ∃ forgotten kept, warnings.map Warning.emission = forgotten ++ kept ∧
    world.throttle = Emission.entries kept ∧ Kept forgotten kept world.clock

namespace Remembers

variable {world later : World} {warnings : List Warning} {target : Target}

theorem aside (h : Remembers world warnings) (untouched : later.throttle = world.throttle)
    (onward : AtMost world.clock later.clock) : Remembers later warnings := by
  obtain ⟨forgotten, kept, split, memory, inv⟩ := h.kept
  exact ⟨h.plainly, forgotten, kept, split, untouched.trans memory, inv.mono onward⟩

theorem holds_iff (h : Remembers world warnings) (plain : target.IsPlain) :
    world.throttle.holds world.clock target.key = true ↔
      target.HeldBack warnings world.clock := by
  obtain ⟨forgotten, kept, split, memory, inv⟩ := h.kept
  rw [memory, inv.holds_iff, ← split, Warning.holdsBack_iff _ plain h.plainly]

theorem warned (h : Remembers world warnings) (plain : target.IsPlain)
    (free : world.throttle.holds world.clock target.key = false)
    (remembered : later.throttle = world.throttle.remember world.clock target.key)
    (clock : later.clock = world.clock) :
    Remembers later (warnings ++ [⟨target, world.clock⟩]) := by
  obtain ⟨forgotten, kept, split, memory, inv⟩ := h.kept
  rw [memory] at free remembered
  have unknown : ¬(Emission.entries kept).holds world.clock target.key = true := by simp [free]
  obtain ⟨forgotten', kept', split', remembers, inv'⟩ := inv.remember unknown
  refine ⟨?_, forgotten', kept', ?_, remembered.trans remembers, clock ▸ inv'⟩
  · simpa [or_imp, forall_and] using ⟨h.plainly, plain⟩
  · rw [List.map_append, split, split']
    rfl

end Remembers

theorem Launcher.describe_of_plain {launcher : Launcher} {command : List String}
    (plain : (launcher.target command).IsPlain) :
    "retry:" ++ launcher.describe distinctArguments command = (launcher.target command).key := by
  rw [describe, Target.key]
  congr 3
  exact List.filter_eq_self.mpr plain.speakable

namespace Launcher

variable {launcher : Launcher} {command : List String} {daemon : Daemon} {left attempt : Nat}
  {world told ended : World} {retry : Retry} {retries : List Retry} {last : Ending}
  {warnings : List Warning}

/-- The warnings before a retry decide how it is told of, and the throttle keeps up with them. -/
theorem Announced.decides (h : launcher.Announced command daemon attempt world retry told)
    (plain : (launcher.target command).IsPlain) (remembers : Remembers world warnings)
    (onward : AtMost world.clock (launcher.clockAfter command daemon world.scene world.clock)) :
    (retry.warned = false ↔ (launcher.target command).HeldBack warnings retry.time) ∧
      Remembers told (warnings ++ Retry.warnings (launcher.target command) [retry]) := by
  obtain ⟨decided, clock, memory⟩ := h.shows
  rw [describe_of_plain plain] at decided memory
  -- The throttle is asked at the end of the call.
  let called : World := { world with clock := retry.time }
  have moved : AtMost world.clock retry.time := by rwa [h.time_eq]
  have before : Remembers called warnings := remembers.aside rfl moved
  have holds : world.throttle.holds retry.time (launcher.target command).key = true ↔ _ :=
    before.holds_iff plain
  refine ⟨by rw [← holds, decided, Bool.not_eq_false'], ?_⟩
  cases warned : retry.warned with
  | true =>
      rw [warned] at decided memory
      have free : world.throttle.holds retry.time (launcher.target command).key = false := by
        simpa using decided
      have told := before.warned plain free memory clock
      simpa [Retry.warnings, warned] using told
  | false =>
      rw [warned] at memory
      simpa [Retry.warnings, warned] using before.aside memory (clock ▸ .refl _)

/-- Along a course the throttle keeps up with the warnings, and each retry is told of as they
    decide. -/
theorem Course.decides
    (course : launcher.Course command daemon left attempt world retries last ended)
    (plain : (launcher.target command).IsPlain) (remembers : Remembers world warnings)
    (onward : launcher.Onward command daemon world.scene world.clock
      (last.made retries.length)) :
    Remembers ended (warnings ++ Retry.warnings (launcher.target command) retries) ∧
      Retry.Decided (launcher.target command) warnings retries := by
  induction course generalizing warnings with
  | ended =>
      obtain ⟨-, clock, throttle⟩ := invoked_traces launcher command daemon _
      refine ⟨?_, .nil⟩
      simpa [Retry.warnings] using remembers.aside throttle (clock ▸ onward)
  | @again left attempt world told ended retry retries last announced _ rest ih =>
      rw [List.length_cons, rest.made_succ] at onward
      obtain ⟨calling, waiting, others⟩ := onward
      obtain ⟨decided, after⟩ := announced.decides plain remembers calling
      rw [← announced.clock] at waiting others
      rw [← announced.scene] at others
      obtain ⟨final, rest⟩ := ih (after.aside rfl waiting) others
      rw [List.append_assoc, ← Retry.warnings_cons] at final
      exact ⟨final, .cons decided rest⟩
  | unwaited announced =>
      obtain ⟨decided, after⟩ := announced.decides plain remembers onward
      exact ⟨after, .cons decided .nil⟩

end Launcher

/-- Commands of any launchers run, each of a plain target, and other things happen that leave the
    throttle alone. Together with the warnings of retries that were logged, the earliest first. -/
inductive Retrying : World → List Warning → Prop
  | begun {world : World} (fresh : world.throttle = []) : Retrying world []
  | aside {world later : World} {warnings : List Warning} (run : Retrying world warnings)
      (untouched : later.throttle = world.throttle) (onward : AtMost world.clock later.clock) :
      Retrying later warnings
  | ran {launcher : Launcher} {command : List String} {daemon : Daemon} {world ended : World}
      {warnings : List Warning} {retries : List Retry} {last : Ending}
      (run : Retrying world warnings) (plain : (launcher.target command).IsPlain)
      (course : launcher.Course command daemon launcher.settings.maxRetries 1 world retries last
        ended)
      (onward : launcher.Onward command daemon world.scene world.clock
        (last.made retries.length)) :
      Retrying ended (warnings ++ Retry.warnings (launcher.target command) retries)

theorem Retrying.remembers {world : World} {warnings : List Warning}
    (run : Retrying world warnings) : Remembers world warnings := by
  induction run with
  | begun fresh => exact ⟨by simp, [], [], rfl, fresh, .nil _⟩
  | aside _ untouched onward ih => exact ih.aside untouched onward
  | ran _ plain course onward ih => exact (course.decides plain ih onward).1

namespace Launcher

/-- What the course of a command amounts to. -/
structure Tells (launcher : Launcher) (command : List String) (daemon : Daemon) (world : World)
    (retries : List Retry) (last : Ending) (ended : World) : Prop where
  /-- It is how the command runs for its text. -/
  text : Bench.perform (launcher.run command) daemon world =
    ((launcher.conclusion command last).map (·.answer), ended)
  /-- It is how the command runs for a document, up to a record that the last answer is none. -/
  document : ∀ args, command = args ++ launcher.settings.outputFlags → ∃ result later,
    Bench.perform (launcher.runJson args) daemon world = (result, later) ∧
      (later = ended ∨ ∃ message, later = ended.logged .error launcher.logger message)
  /-- Every retry is told of once, with its number, and these are all the records that the retries
      and the calls leave. -/
  deeds : ended.deeds =
    (launcher.deedsOf command daemon world.scene 1 retries last).reverse ++ world.deeds
  few : retries.length ≤ launcher.settings.maxRetries
  times : retries.map (·.time) =
    (List.range retries.length).map (launcher.clockAt command daemon world.scene world.clock)
  clock : ended.clock =
    launcher.clockAt command daemon world.scene world.clock (last.made retries.length)

theorem Course.tells {launcher : Launcher} {command : List String} {daemon : Daemon}
    {world ended : World} {retries : List Retry} {last : Ending}
    (course : launcher.Course command daemon launcher.settings.maxRetries 1 world retries last
      ended) : launcher.Tells command daemon world retries last ended where
  text := by
    rw [run_eq_attempts, Bench.perform_bind, course.performed]
    cases launcher.conclusion command last <;> rfl
  document := by
    rintro args rfl
    exact perform_runJson course
  deeds := course.deeds
  few := course.few
  times := course.times.1
  clock := course.times.2

/-- An output that complains. -/
def grumbling : Output := ⟨some "", some "not yet", 1⟩

/-- A daemon that never settles, and takes some seconds for each call. -/
def stubborn (seconds : Binary64) : Daemon :=
  .ofStream 0 (fun _ => .finished grumbling) fun _ => seconds

/-- It runs a command a second time, after half a minute. -/
def patient : Launcher :=
  ⟨{ Settings.standard with maxRetries := 1, retryInterval := .ofInt 30 }, "runner"⟩

def asksFor (hash : String) : List String := ["q", "tx", hash, "--output", "json"]

/-- The world after a command and its one retry, with ten seconds for each call. -/
def afterRetry (hash : String) (world : World) : World :=
  (Bench.perform (patient.run (asksFor hash)) (stubborn (.ofInt 10)) world).2

theorem clockAfter_stubborn (launcher : Launcher) (command : List String) (seconds : Binary64)
    (scene : Scene) (clock : Binary64) :
    launcher.clockAfter command (stubborn seconds) scene clock = clock + seconds := rfl

theorem patient_course {hash : String} {world : World} (warned : Bool)
    (record : (Bench.perform (patient.announceRetry (asksFor hash) 1 grumbling.complaint)
        (stubborn (.ofInt 10))
        (patient.invoked (asksFor hash) (stubborn (.ofInt 10)) world)).2.deeds =
      .logged (patient.notice (asksFor hash) 1 ⟨grumbling, world.clock + .ofInt 10, warned⟩) ::
        (patient.invoked (asksFor hash) (stubborn (.ofInt 10)) world).deeds)
    (granted : patient.Waits world) :
    patient.Course (asksFor hash) (stubborn (.ofInt 10)) 1 1 world
      [⟨grumbling, world.clock + .ofInt 10, warned⟩] (.came (.finished grumbling))
      (afterRetry hash world) := by
  generalize ten : Binary64.ofInt 10 = seconds at record ⊢
  obtain ⟨told, telling, quiet⟩ := patient.announceRetry_spec (asksFor hash) 1 grumbling.complaint
    (stubborn seconds) (patient.invoked (asksFor hash) (stubborn seconds) world)
  rw [telling] at record
  have announced : patient.Announced (asksFor hash) (stubborn seconds) 1 world
      ⟨grumbling, world.clock + seconds, warned⟩ told :=
    ⟨rfl, rfl, telling, by rw [(invoked_traces ..).2.1, clockAfter_stubborn], record⟩
  obtain ⟨called, performed, leads, -⟩ :=
    patient.invoke_spec (asksFor hash) (stubborn seconds) world
  rw [invoked, performed] at quiet
  have waits : patient.Waits told := (quiet.grants _).mpr ((leads.grants _).mpr granted)
  have course : patient.Course (asksFor hash) (stubborn seconds) 1 1 world _
      (.came (.finished grumbling)) _ := .again announced waits (.ended fun _ => .inr rfl)
  rwa [afterRetry, ten, course.tells.text]

end Launcher

end ContractBench
