import ContractBench.Launcher
import ContractBench.Proofs.Bench

/-! # The retry loop

A command is put to the daemon until it settles, is refused, or has been tried as often as the
settings allow, or until the system refuses to wait. `attempts_spec` is the one induction on the
loop: it splits every run into the complaining outputs and what ended it, and ties both to the
stream of outcomes that the daemon has in store for the command. What the loop returns, and what is
done on the way, is read off that split. All waits are of one length, so the system grants all of
them or refuses the first.
-/

namespace ContractBench

namespace Outcome

def isSettled : Outcome → Bool
  | .finished output => output.isSettled
  | _ => false

def isFinished : Outcome → Bool
  | .finished _ => true
  | _ => false

def answer : Outcome → String
  | .finished output => output.answer
  | _ => ""

/-- Two outcomes that the loop does not tell apart: they complain alike, or are refused alike. The
    answer and the exit code may differ. -/
def SameCourse : Outcome → Outcome → Prop
  | .finished output, .finished output' => output.complaint = output'.complaint
  | outcome, outcome' => outcome = outcome'

namespace SameCourse

variable {outcome outcome' : Outcome}

theorem isSettled (h : outcome.SameCourse outcome') : outcome'.isSettled = outcome.isSettled := by
  cases outcome <;> cases outcome' <;>
    simp_all [SameCourse, Outcome.isSettled, Output.isSettled]

theorem isFinished (h : outcome.SameCourse outcome') :
    outcome'.isFinished = outcome.isFinished := by
  cases outcome <;> cases outcome' <;> simp_all [SameCourse, Outcome.isFinished]

theorem eq_of_unfinished (h : outcome.SameCourse outcome') (unfinished : ¬ outcome.isFinished) :
    outcome' = outcome := by
  cases outcome <;> cases outcome' <;> simp_all [SameCourse, Outcome.isFinished]

end SameCourse

end Outcome

/-- The number of calls before the one whose outcome counts: the least index below `retries` at
    which the command has settled, or `retries` if there is none. -/
def lastAttempt (outcome : Nat → Outcome) (retries : Nat) : Nat :=
  ((List.range retries).find? fun i => (outcome i).isSettled).getD retries

theorem lastAttempt_spec (outcome : Nat → Outcome) (retries : Nat) :
    lastAttempt outcome retries ≤ retries ∧
      (∀ j < lastAttempt outcome retries, (outcome j).isSettled = false) ∧
      ((outcome (lastAttempt outcome retries)).isSettled ∨
        lastAttempt outcome retries = retries) := by
  rw [lastAttempt]
  cases found : (List.range retries).find? fun i => (outcome i).isSettled with
  | none =>
      refine ⟨Nat.le_refl _, fun j inside => ?_, .inr rfl⟩
      simpa using List.find?_eq_none.mp found j (List.mem_range.mpr inside)
  | some k =>
      obtain ⟨settled, inside, noisy⟩ := List.find?_range_eq_some.mp found
      exact ⟨Nat.le_of_lt (List.mem_range.mp inside), fun j below => by simpa using noisy j below,
        .inl settled⟩

theorem le_lastAttempt {outcome : Nat → Outcome} {retries i : Nat} (allowed : i ≤ retries)
    (noisy : ∀ j < i, (outcome j).isSettled = false) : i ≤ lastAttempt outcome retries := by
  obtain ⟨-, -, done⟩ := lastAttempt_spec outcome retries
  refine Nat.le_of_not_lt fun below => ?_
  rcases done with settled | all
  · simp [noisy _ below] at settled
  · omega

theorem lastAttempt_eq {outcome : Nat → Outcome} {retries i : Nat} (allowed : i ≤ retries)
    (noisy : ∀ j < i, (outcome j).isSettled = false)
    (done : (outcome i).isSettled ∨ i = retries) : lastAttempt outcome retries = i := by
  obtain ⟨few, silent, -⟩ := lastAttempt_spec outcome retries
  refine Nat.le_antisymm (Nat.le_of_not_lt fun above => ?_) (le_lastAttempt allowed noisy)
  rcases done with settled | rfl
  · simp [silent i above] at settled
  · omega

theorem lastAttempt_congr {outcome outcome' : Nat → Outcome} {retries : Nat}
    (same : ∀ i ≤ lastAttempt outcome retries, (outcome' i).isSettled = (outcome i).isSettled) :
    lastAttempt outcome' retries = lastAttempt outcome retries := by
  obtain ⟨few, noisy, done⟩ := lastAttempt_spec outcome retries
  refine lastAttempt_eq few (fun j below => ?_) ?_
  · rw [same j (Nat.le_of_lt below), noisy j below]
  · rwa [same _ (Nat.le_refl _)]

/-- Up to an index either all runs finished, or there is a first one that did not. -/
theorem finished_or_unfinished (outcome : Nat → Outcome) (last : Nat) :
    (∀ i ≤ last, (outcome i).isFinished) ∨
      ∃ j ≤ last, (∀ i < j, (outcome i).isFinished) ∧ ¬ (outcome j).isFinished := by
  cases found : (List.range (last + 1)).find? fun i => !(outcome i).isFinished with
  | none =>
      refine .inl fun i inside => ?_
      have inRange : i ∈ List.range (last + 1) := List.mem_range.mpr (Nat.lt_succ_of_le inside)
      simpa using List.find?_eq_none.mp found i inRange
  | some j =>
      obtain ⟨unfinished, inside, finished⟩ := List.find?_range_eq_some.mp found
      exact .inr ⟨j, Nat.le_of_lt_succ (List.mem_range.mp inside),
        fun i below => by simpa using finished i below, by simpa using unfinished⟩

/-- The daemon that gives the outcomes of a stream, one to each call after the first `begun`, and
    takes the seconds of another stream for them. -/
def Daemon.ofStream (begun : Nat) (stream : Nat → Outcome) (elapsed : Nat → Binary64) : Daemon :=
  fun earlier call =>
    ⟨stream (earlier.length - begun), call.disk, elapsed (earlier.length - begun)⟩

theorem Scene.outcomes_ofStream (scene : Scene) (stream : Nat → Outcome)
    (elapsed : Nat → Binary64) (argv : List String) :
    scene.outcomes (.ofStream scene.calls.length stream elapsed) argv = stream := by
  suffices from_here : ∀ (i begun : Nat) (scene : Scene), begun ≤ scene.calls.length →
      scene.outcomes (.ofStream begun stream elapsed) argv i =
        stream (scene.calls.length - begun + i) by
    funext i
    rw [from_here i _ scene (Nat.le_refl _), Nat.sub_self, Nat.zero_add]
  intro i
  induction i with
  | zero => intro begun scene _; rfl
  | succ i ih =>
      intro begun scene known
      have later : (scene.next (.ofStream begun stream elapsed) argv).calls.length =
          scene.calls.length + 1 := rfl
      rw [outcomes, ih begun _ (by omega), later]
      congr 1
      omega

/-- Calls of one command with a wait after each but the last. -/
def rounds (argv : List String) (interval : Binary64) (before : List Outcome) (last : Outcome) :
    List Act :=
  before.flatMap (fun outcome => [.asked argv outcome, .waited interval]) ++ [.asked argv last]

/-- What the attempts at a command end in. -/
inductive Ending where
  /-- What came of the last call. -/
  | came (outcome : Outcome)
  /-- The last call complained, and the system refused the wait before the next one. -/
  | unwaited (output : Output)

/-- What came of the last call. -/
def Ending.outcome : Ending → Outcome
  | .came outcome => outcome
  | .unwaited output => .finished output

/-- How a command that may be tried again `retries` times comes to its end: all outcomes before the
    last one complained. The last one settled, was refused, or was the last one allowed, unless it
    complained and there was no wait at all. -/
structure Trials (retries : Nat) (before : List Output) (last : Ending) : Prop where
  few : before.length ≤ retries
  noisy : ∀ output ∈ before, output.isSettled = false
  done : ∀ outcome, last = .came outcome → outcome.isFinished →
    outcome.isSettled ∨ before.length = retries
  stuck : ∀ output, last = .unwaited output →
    output.isSettled = false ∧ before = [] ∧ retries ≠ 0

namespace Trials

theorem settled {retries : Nat} {before : List Output} {last : Outcome}
    (few : before.length ≤ retries) (noisy : ∀ output ∈ before, output.isSettled = false)
    (done : last.isFinished → last.isSettled ∨ before.length = retries) :
    Trials retries before (.came last) where
  few := few
  noisy := noisy
  done outcome same finished := by
    obtain rfl := Ending.came.inj same
    exact done finished
  stuck _ same := nomatch same

theorem now {retries : Nat} {last : Outcome} (h : last.isFinished → last.isSettled ∨ retries = 0) :
    Trials retries [] (.came last) :=
  .settled (Nat.zero_le _) (by simp) fun finished => (h finished).imp_right Eq.symm

theorem later {retries : Nat} {output : Output} {before : List Output} {last : Outcome}
    (noisy : output.isSettled = false) (h : Trials retries before (.came last)) :
    Trials (retries + 1) (output :: before) (.came last) := by
  refine .settled (Nat.succ_le_succ h.few) (fun o member => ?_) fun finished =>
    (h.done last rfl finished).imp_right (congrArg (· + 1))
  rcases List.mem_cons.mp member with rfl | member
  · exact noisy
  · exact h.noisy o member

theorem unwaited {retries : Nat} {output : Output} (noisy : output.isSettled = false)
    (allowed : retries ≠ 0) : Trials retries [] (.unwaited output) where
  few := Nat.zero_le _
  noisy := by simp
  done _ same := nomatch same
  stuck o same := by
    obtain rfl := Ending.unwaited.inj same
    exact ⟨noisy, rfl, allowed⟩

end Trials

namespace Launcher

variable (launcher : Launcher) (command : List String)

def argv : List String := launcher.settings.binary :: command

/-- What the launcher makes of an outcome. -/
def verdict : Outcome → Except Failure Output
  | .finished output => .ok output
  | .refused fault =>
    .error (if fault.isMissing then .daemonMissing launcher.settings.binary fault
      else .daemonUnusable (launcher.named command) fault)
  | .embeddedNul => .error .embeddedNul

@[simp] theorem verdict_finished (output : Output) :
    launcher.verdict command (.finished output) = .ok output := rfl

/-- What the launcher makes of the end of its attempts. -/
def conclusion : Ending → Except Failure Output
  | .came outcome => launcher.verdict command outcome
  | .unwaited _ => .error .endlessWait

/-- A command that gives an output came to it. -/
theorem came_of_conclusion {last : Ending} {output : Output}
    (given : launcher.conclusion command last = .ok output) : last = .came (.finished output) := by
  rcases last with ⟨found | fault | _⟩ | found <;> simp_all [conclusion, verdict]

/-- Run a command, and again while it complains and attempts are left. -/
def attempts (left attempt : Nat) : Bench Output := do
  let output ← launcher.invoke command
  launcher.settle command left attempt output

theorem run_eq_attempts :
    launcher.run command = do
      return (← launcher.attempts command launcher.settings.maxRetries 1).answer := by
  simp only [run, attempts, bind_assoc]

/-- What is noted of a call once its outcome is there. -/
def noteOutcome (world : World) : Outcome → World
  | .finished output => world.logged .debug launcher.logger
      ("Exit code " ++ toString output.exitCode ++ " from " ++ launcher.named command)
  | .refused fault => world.logged .error launcher.logger
      ("Failed to launch " ++ launcher.settings.binary ++ ": " ++ fault.message)
  | .embeddedNul => world

theorem quiet_noteOutcome (world : World) (outcome : Outcome) :
    world.Quiet (launcher.noteOutcome command world outcome) := by
  cases outcome with
  | finished | refused => exact .logged ..
  | embeddedNul => exact .refl _

theorem perform_invoke_eq (daemon : Daemon) (world : World) :
    let begun := world.logged .debug launcher.logger ("Running " ++ launcher.named command)
    let outcome := (world.scene.run daemon (launcher.argv command)).outcome
    Bench.perform (launcher.invoke command) daemon world =
      (launcher.verdict command outcome,
        launcher.noteOutcome command (begun.asked daemon (launcher.argv command)) outcome) := by
  intro begun outcome
  have quiet : world.Quiet begun := .logged ..
  simp only [invoke, Bench.perform_bind, Bench.perform_log, Bench.perform_call]
  change Bench.perform (match (begun.scene.run daemon (launcher.argv command)).outcome with
      | .finished _ => _
      | .refused _ => _
      | .embeddedNul => _) daemon (begun.asked daemon (launcher.argv command)) = _
  rw [show (begun.scene.run daemon (launcher.argv command)).outcome = outcome by rw [quiet.scene]]
  cases outcome with
  | finished | embeddedNul => rfl
  | refused fault =>
      cases missing : fault.isMissing <;>
        simp only [verdict, missing, Bench.perform_bind, Bench.perform_log] <;>
        rfl

/-- One call gives the next outcome of the stream, whatever is logged around it. -/
theorem invoke_spec (daemon : Daemon) (world : World) :
    ∃ later, Bench.perform (launcher.invoke command) daemon world =
        (launcher.verdict command (world.scene.outcomes daemon (launcher.argv command) 0), later) ∧
      world.Leads daemon
        [.asked (launcher.argv command) (world.scene.outcomes daemon (launcher.argv command) 0)]
        later ∧
      later.scene = world.scene.next daemon (launcher.argv command) := by
  let argv := launcher.argv command
  let begun := world.logged .debug launcher.logger ("Running " ++ launcher.named command)
  have quiet : world.Quiet begun := .logged ..
  have leads : world.Leads daemon [.asked argv (world.scene.run daemon argv).outcome]
      (begun.asked daemon argv) := by
    rw [← quiet.scene]
    exact (quiet.leads daemon).trans (.asked daemon begun argv)
  have scene : (begun.asked daemon argv).scene = world.scene.next daemon argv := by
    rw [World.scene_asked, quiet.scene]
  have noted := launcher.quiet_noteOutcome command (begun.asked daemon argv)
    (world.scene.run daemon argv).outcome
  exact ⟨_, launcher.perform_invoke_eq command daemon world, leads.quiet noted,
    noted.scene.trans scene⟩

/-- The level of the announcement is one that every logger knows. -/
theorem ofText_warning (logger message : String) :
    LevelName.ofText logger "warning" message = .logs .warning := by
  have small : smallLetters "warning" = "warning" := by decide +kernel
  have known : (levelNames.find? fun entry => entry.1 = "warning") =
      some ("warning", .warning) := by decide +kernel
  simp only [LevelName.ofText, small, known]

theorem announceRetry_spec (attempt : Nat) (complaint : String) (daemon : Daemon) (world : World) :
    ∃ later, Bench.perform (launcher.announceRetry command attempt complaint) daemon world =
      (.ok (), later) ∧ world.Quiet later := by
  simp only [announceRetry, Bench.perform_bind]
  obtain ⟨emitted, later, performed, quiet⟩ :=
    Bench.logThrottled_spec daemon world (ofText_warning launcher.logger _) _
  rw [performed]
  cases emitted with
  | true => exact ⟨later, rfl, quiet⟩
  | false => exact ⟨_, rfl, quiet.trans (.logged ..)⟩

/-- The system grants the waits of a launcher. -/
def Waits (launcher : Launcher) (world : World) : Prop :=
  world.Grants launcher.settings.retryInterval

instance (launcher : Launcher) (world : World) : Decidable (launcher.Waits world) :=
  inferInstanceAs (Decidable (world.Grants _))

/-- A run of the loop, split into the outputs that complained and what ended it. -/
structure Attempted (daemon : Daemon) (retries : Nat) (world : World) (before : List Output)
    (last : Ending) (later : World) : Prop where
  trials : Trials retries before last
  complaints : ∀ (i : Nat) (inside : i < before.length),
    world.scene.outcomes daemon (launcher.argv command) i = .finished before[i]
  ending : world.scene.outcomes daemon (launcher.argv command) before.length = last.outcome
  waits : before ≠ [] → launcher.Waits world
  refused : ∀ output, last = .unwaited output → ¬ launcher.Waits world
  leads : world.Leads daemon (rounds (launcher.argv command) launcher.settings.retryInterval
    (before.map .finished) last.outcome) later
  scene : later.scene = world.scene.reached daemon (launcher.argv command) (before.length + 1)

namespace Attempted

variable {launcher command} {daemon : Daemon} {retries : Nat} {world : World}

theorem now {last : Outcome} {later : World}
    (first : world.scene.outcomes daemon (launcher.argv command) 0 = last)
    (leads : world.Leads daemon [.asked (launcher.argv command) last] later)
    (scene : later.scene = world.scene.next daemon (launcher.argv command))
    (done : last.isFinished → last.isSettled ∨ retries = 0) :
    launcher.Attempted command daemon retries world [] (.came last) later :=
  ⟨.now done, by simp, first, by simp, nofun, leads, scene⟩

theorem unwaited {output : Output} {later : World} (noisy : output.isSettled = false)
    (first : world.scene.outcomes daemon (launcher.argv command) 0 = .finished output)
    (leads : world.Leads daemon [.asked (launcher.argv command) (.finished output)] later)
    (scene : later.scene = world.scene.next daemon (launcher.argv command))
    (refused : ¬ launcher.Waits world) :
    launcher.Attempted command daemon (retries + 1) world [] (.unwaited output) later :=
  ⟨.unwaited noisy (Nat.succ_ne_zero _), by simp, first, by simp, fun _ _ => refused, leads, scene⟩

theorem again {output : Output} {before : List Output} {last : Ending}
    {called announced later : World}
    (noisy : output.isSettled = false)
    (first : world.scene.outcomes daemon (launcher.argv command) 0 = .finished output)
    (leads : world.Leads daemon [.asked (launcher.argv command) (.finished output)] called)
    (scene : called.scene = world.scene.next daemon (launcher.argv command))
    (quiet : called.Quiet announced) (granted : launcher.Waits world)
    (rest : launcher.Attempted command daemon retries
      (announced.passed launcher.settings.retryInterval) before last later) :
    launcher.Attempted command daemon (retries + 1) world (output :: before) last later := by
  have found : (announced.passed launcher.settings.retryInterval).scene =
      world.scene.next daemon (launcher.argv command) := by
    rw [World.scene_passed, quiet.scene, scene]
  have onward := (leads.quiet quiet).trans
    (.passed daemon announced launcher.settings.retryInterval)
  -- A system that granted this wait grants the others as well.
  obtain ⟨outcome, rfl⟩ : ∃ outcome, last = .came outcome := by
    cases last with
    | came outcome => exact ⟨outcome, rfl⟩
    | unwaited output => exact absurd ((onward.grants _).mpr granted) (rest.refused output rfl)
  refine ⟨.later noisy rest.trials, ?_, ?_, fun _ => granted, nofun, onward.trans rest.leads, ?_⟩
  · intro i inside
    cases i with
    | zero => exact first
    | succ i =>
        have tail := rest.complaints i (by simpa using inside)
        rwa [found] at tail
  · have tail := rest.ending
    rwa [found] at tail
  · have tail := rest.scene
    rwa [found] at tail

end Attempted

/-- Every run of the loop splits. The induction is on the attempts that are left, and the invariant
    that carries it is the scene: what is logged between two calls does not change it. -/
theorem attempts_spec (daemon : Daemon) (retries attempt : Nat) (world : World) :
    ∃ before last later, Bench.perform (launcher.attempts command retries attempt) daemon world =
        (launcher.conclusion command last, later) ∧
      launcher.Attempted command daemon retries world before last later := by
  induction retries generalizing attempt world with
  | zero =>
      obtain ⟨later, performed, leads, scene⟩ := launcher.invoke_spec command daemon world
      refine ⟨[], .came _, later, ?_, .now rfl leads scene fun _ => .inr rfl⟩
      rw [attempts, Bench.perform_bind, performed, conclusion]
      cases world.scene.outcomes daemon (launcher.argv command) 0 <;> rfl
  | succ retries ih =>
      obtain ⟨called, performed, leads, scene⟩ := launcher.invoke_spec command daemon world
      rw [attempts, Bench.perform_bind, performed]
      cases first : world.scene.outcomes daemon (launcher.argv command) 0 with
      | refused fault =>
          rw [first] at leads
          exact ⟨[], .came _, called, rfl, .now first leads scene (by simp [Outcome.isFinished])⟩
      | embeddedNul =>
          rw [first] at leads
          exact ⟨[], .came _, called, rfl, .now first leads scene (by simp [Outcome.isFinished])⟩
      | finished output =>
          rw [first] at leads
          simp only [verdict_finished, settle]
          cases settled : output.isSettled with
          | true =>
              exact ⟨[], .came _, called, rfl, .now first leads scene fun _ => .inl settled⟩
          | false =>
              obtain ⟨announced, told, quiet⟩ :=
                launcher.announceRetry_spec command attempt output.complaint daemon called
              have same : announced.Grants launcher.settings.retryInterval ↔
                  launcher.Waits world := (leads.quiet quiet).grants _
              by_cases granted : launcher.Waits world
              · obtain ⟨before, last, later, ended, rest⟩ :=
                  ih (attempt + 1) (announced.passed launcher.settings.retryInterval)
                refine ⟨output :: before, last, later, ?_,
                  .again settled first leads scene quiet granted rest⟩
                have waited := Bench.perform_wait daemon (same.mpr granted)
                simpa [told, waited, attempts] using ended
              · refine ⟨[], .unwaited output, announced, ?_,
                  .unwaited settled first (leads.quiet quiet) (quiet.scene.trans scene) granted⟩
                have refused := Bench.perform_wait_of_not daemon (mt same.mp granted)
                simp [told, refused, conclusion]

namespace Attempted

variable {launcher command} {daemon : Daemon} {retries : Nat} {world later : World}
  {before : List Output} {last : Ending}

theorem outcomes_before (h : launcher.Attempted command daemon retries world before last later) :
    before.map .finished =
      (List.range before.length).map (world.scene.outcomes daemon (launcher.argv command)) := by
  refine List.ext_getElem (by simp) fun i inside _ => ?_
  simp [h.complaints i (by simpa using inside)]

theorem noisy (h : launcher.Attempted command daemon retries world before last later) (i : Nat)
    (inside : i < before.length) :
    (world.scene.outcomes daemon (launcher.argv command) i).isSettled = false := by
  rw [h.complaints i inside]
  exact h.trials.noisy _ (List.getElem_mem inside)

theorem finished (h : launcher.Attempted command daemon retries world before last later) (i : Nat)
    (inside : i < before.length) :
    (world.scene.outcomes daemon (launcher.argv command) i).isFinished = true := by
  rw [h.complaints i inside]
  rfl

theorem length_le (h : launcher.Attempted command daemon retries world before last later) :
    before.length ≤
      lastAttempt (world.scene.outcomes daemon (launcher.argv command)) retries :=
  le_lastAttempt h.trials.few h.noisy

/-- Where no wait is refused, the loop ends in what came of a call. -/
theorem came (h : launcher.Attempted command daemon retries world before last later)
    (waits : (world.scene.outcomes daemon (launcher.argv command) 0).isFinished →
      0 < lastAttempt (world.scene.outcomes daemon (launcher.argv command)) retries →
        launcher.Waits world) :
    last = .came last.outcome := by
  cases last with
  | came outcome => rfl
  | unwaited output =>
      obtain ⟨noisy, rfl, allowed⟩ := h.trials.stuck output rfl
      have first : world.scene.outcomes daemon (launcher.argv command) 0 = .finished output :=
        h.ending
      have later : 1 ≤ lastAttempt (world.scene.outcomes daemon (launcher.argv command)) retries :=
        le_lastAttempt (Nat.one_le_iff_ne_zero.mpr allowed) fun j below => by
          obtain rfl : j = 0 := by omega
          rw [first]
          exact noisy
      exact absurd (waits (by rw [first]; rfl) later) (h.refused output rfl)

theorem length_eq {outcome : Outcome}
    (h : launcher.Attempted command daemon retries world before (.came outcome) later)
    (finished : outcome.isFinished) :
    lastAttempt (world.scene.outcomes daemon (launcher.argv command)) retries =
      before.length :=
  lastAttempt_eq h.trials.few h.noisy (by rw [h.ending]; exact h.trials.done outcome rfl finished)

/-- The first refusal in reach ends the loop. -/
theorem length_eq_of_unfinished {outcome : Outcome}
    (h : launcher.Attempted command daemon retries world before (.came outcome) later) {j : Nat}
    (allowed : j ≤ lastAttempt (world.scene.outcomes daemon (launcher.argv command)) retries)
    (finished : ∀ i < j, (world.scene.outcomes daemon (launcher.argv command) i).isFinished)
    (unfinished : ¬ (world.scene.outcomes daemon (launcher.argv command) j).isFinished) :
    before.length = j := by
  have before_le : before.length ≤ j :=
    Nat.le_of_not_lt fun below => unfinished (h.finished j below)
  rcases Nat.lt_or_eq_of_le before_le with below | same
  · -- The loop would have ended with an output, so no index beyond it is in reach.
    have isFinished : outcome.isFinished := by
      have reached := finished _ below
      rwa [h.ending] at reached
    have ended := h.length_eq isFinished
    omega
  · exact same

end Attempted

/-- An action runs a command as the retry loop should, and makes of its last answer what `read`
    tells. With `outcome` for the stream that the daemon has in store and `last` for the number of
    retries that it asks for:
    - if no call up to that one is refused, the command is called once more than `last`, with a
      wait between every two calls, and the last answer is read;
    - the first refusal up to that one ends the loop with its failure;
    - if a retry is due but the system refuses the wait, the only call is the first one, there is no
      wait, and the loop fails;
    - exit codes, answers before the last, the clock and the throttle make no difference. -/
structure Retries {α : Type} (daemon : Daemon) (world : World) (read : String → Except Failure α)
    (action : Bench α) : Prop where
  answered :
    let outcome := world.scene.outcomes daemon (launcher.argv command)
    let last := lastAttempt outcome launcher.settings.maxRetries
    (0 < last → launcher.Waits world) → (∀ i ≤ last, (outcome i).isFinished) →
      ∃ later, Bench.perform action daemon world = (read (outcome last).answer, later) ∧
        world.Leads daemon (rounds (launcher.argv command) launcher.settings.retryInterval
          ((List.range last).map outcome) (outcome last)) later
  refused :
    let outcome := world.scene.outcomes daemon (launcher.argv command)
    let last := lastAttempt outcome launcher.settings.maxRetries
    ∀ j ≤ last, (0 < j → launcher.Waits world) →
      (∀ i < j, (outcome i).isFinished) → ¬ (outcome j).isFinished →
      ∃ failure later, launcher.verdict command (outcome j) = .error failure ∧
        Bench.perform action daemon world = (.error failure, later) ∧
        world.Leads daemon (rounds (launcher.argv command) launcher.settings.retryInterval
          ((List.range j).map outcome) (outcome j)) later
  unwaited :
    let outcome := world.scene.outcomes daemon (launcher.argv command)
    0 < lastAttempt outcome launcher.settings.maxRetries → (outcome 0).isFinished →
      ¬ launcher.Waits world →
      ∃ later, Bench.perform action daemon world = (.error .endlessWait, later) ∧
        world.Leads daemon [.asked (launcher.argv command) (outcome 0)] later
  sameCourse :
    let outcome := world.scene.outcomes daemon (launcher.argv command)
    let last := lastAttempt outcome launcher.settings.maxRetries
    ∀ (daemon' : Daemon) (world' : World),
      let outcome' := world'.scene.outcomes daemon' (launcher.argv command)
      (launcher.Waits world' ↔ launcher.Waits world) →
      (∀ i ≤ last, (outcome i).SameCourse (outcome' i)) →
      (outcome' last).answer = (outcome last).answer →
      (Bench.perform action daemon' world').1 = (Bench.perform action daemon world).1

section

variable {launcher command} {α : Type}

theorem run_refused (tail : String → Bench α) (daemon : Daemon) (world : World) :
    let outcome := world.scene.outcomes daemon (launcher.argv command)
    let last := lastAttempt outcome launcher.settings.maxRetries
    ∀ j ≤ last, (0 < j → launcher.Waits world) →
      (∀ i < j, (outcome i).isFinished) → ¬ (outcome j).isFinished →
      ∃ failure later, launcher.verdict command (outcome j) = .error failure ∧
        Bench.perform (launcher.run command >>= tail) daemon world = (.error failure, later) ∧
        world.Leads daemon (rounds (launcher.argv command) launcher.settings.retryInterval
          ((List.range j).map outcome) (outcome j)) later := by
  intro outcome last j allowed waits finished unfinished
  obtain ⟨before, ending, later, performed, attempted⟩ :=
    launcher.attempts_spec command daemon launcher.settings.maxRetries 1 world
  have came := attempted.came fun first _ => waits <| Nat.pos_of_ne_zero <| by
    rintro rfl
    exact unfinished first
  generalize ending.outcome = found at came
  subst came
  have length : before.length = j := attempted.length_eq_of_unfinished allowed finished unfinished
  have ends : outcome j = found := by rw [← length]; exact attempted.ending
  rw [ends] at unfinished
  have leads := attempted.leads
  rw [attempted.outcomes_before, length, Ending.outcome, ← ends] at leads
  obtain ⟨failure, fails⟩ : ∃ failure, launcher.verdict command found = .error failure := by
    cases found <;> simp_all [Outcome.isFinished, verdict]
  refine ⟨failure, later, by rw [ends, fails], ?_, leads⟩
  rw [run_eq_attempts]
  simp only [Bench.perform_bind, performed, conclusion, fails]

/-- A retry is due, but there is no wait. -/
theorem run_unwaited (tail : String → Bench α) (daemon : Daemon) (world : World) :
    let outcome := world.scene.outcomes daemon (launcher.argv command)
    0 < lastAttempt outcome launcher.settings.maxRetries → (outcome 0).isFinished →
      ¬ launcher.Waits world →
      ∃ later, Bench.perform (launcher.run command >>= tail) daemon world =
          (.error .endlessWait, later) ∧
        world.Leads daemon [.asked (launcher.argv command) (outcome 0)] later := by
  intro outcome due finished refused
  obtain ⟨before, ending, later, performed, attempted⟩ :=
    launcher.attempts_spec command daemon launcher.settings.maxRetries 1 world
  obtain rfl : before = [] :=
    Classical.byContradiction fun more => refused (attempted.waits more)
  have first : outcome 0 = ending.outcome := attempted.ending
  obtain ⟨output, rfl⟩ : ∃ output, ending = .unwaited output := by
    cases ending with
    | unwaited output => exact ⟨output, rfl⟩
    | came found =>
        -- The first call would have been the last one to be asked for.
        rw [first] at finished
        have length := attempted.length_eq finished
        exact absurd due (by rw [length]; exact Nat.lt_irrefl 0)
  refine ⟨later, ?_, by rw [first]; exact attempted.leads⟩
  rw [run_eq_attempts]
  simp only [Bench.perform_bind, performed, conclusion]

variable {read : String → Except Failure α} {tail : String → Bench α}
  (reads : ∀ answer daemon world, ∃ later,
    Bench.perform (tail answer) daemon world = (read answer, later) ∧ world.Quiet later)
include reads

theorem run_answered (daemon : Daemon) (world : World) :
    let outcome := world.scene.outcomes daemon (launcher.argv command)
    let last := lastAttempt outcome launcher.settings.maxRetries
    (0 < last → launcher.Waits world) → (∀ i ≤ last, (outcome i).isFinished) →
      ∃ later, Bench.perform (launcher.run command >>= tail) daemon world =
          (read (outcome last).answer, later) ∧
        world.Leads daemon (rounds (launcher.argv command) launcher.settings.retryInterval
          ((List.range last).map outcome) (outcome last)) later := by
  intro outcome last waits finished
  obtain ⟨before, ending, later, performed, attempted⟩ :=
    launcher.attempts_spec command daemon launcher.settings.maxRetries 1 world
  have came := attempted.came fun _ => waits
  generalize ending.outcome = found at came
  subst came
  have isFinished : found.isFinished := by
    rw [show found = outcome before.length from attempted.ending.symm]
    exact finished _ attempted.length_le
  have length : last = before.length := attempted.length_eq isFinished
  have ends : outcome last = found := by rw [length]; exact attempted.ending
  obtain ⟨output, rfl⟩ : ∃ output, found = .finished output := by
    cases found <;> simp_all [Outcome.isFinished]
  obtain ⟨final, read, quiet⟩ := reads output.answer daemon later
  refine ⟨final, ?_, ?_⟩
  · rw [run_eq_attempts, ends]
    simp only [Bench.perform_bind, performed, conclusion, verdict_finished, Bench.perform_pure,
      read]
    rfl
  · have leads := attempted.leads.quiet quiet
    rwa [attempted.outcomes_before, ← length, Ending.outcome, ← ends] at leads

theorem run_sameCourse (daemon : Daemon) (world : World) :
    let outcome := world.scene.outcomes daemon (launcher.argv command)
    let last := lastAttempt outcome launcher.settings.maxRetries
    ∀ (daemon' : Daemon) (world' : World),
      let outcome' := world'.scene.outcomes daemon' (launcher.argv command)
      (launcher.Waits world' ↔ launcher.Waits world) →
      (∀ i ≤ last, (outcome i).SameCourse (outcome' i)) →
      (outcome' last).answer = (outcome last).answer →
      (Bench.perform (launcher.run command >>= tail) daemon' world').1 =
        (Bench.perform (launcher.run command >>= tail) daemon world).1 := by
  intro outcome last daemon' world' outcome' alike same answer
  have sameLast : lastAttempt outcome' launcher.settings.maxRetries = last :=
    lastAttempt_congr fun i inside => (same i inside).isSettled
  have sameFinished (i : Nat) (inside : i ≤ last) :
      (outcome' i).isFinished = (outcome i).isFinished := (same i inside).isFinished
  -- A wait that is refused in one world is refused in the other.
  have unwaited (due : 0 < last) (finished : (outcome 0).isFinished)
      (refused : ¬ launcher.Waits world) :
      (Bench.perform (launcher.run command >>= tail) daemon' world').1 =
        (Bench.perform (launcher.run command >>= tail) daemon world).1 := by
    have finished' : (outcome' 0).isFinished := by
      rw [sameFinished 0 (Nat.zero_le _), finished]
    obtain ⟨_, performed, -⟩ := run_unwaited tail daemon world due finished refused
    obtain ⟨_, performed', -⟩ := run_unwaited tail daemon' world' (sameLast ▸ due) finished'
      (mt alike.mp refused)
    rw [performed, performed']
  rcases finished_or_unfinished outcome last with finished | ⟨j, allowed, finished, unfinished⟩
  · have finished' : ∀ i ≤ lastAttempt outcome' launcher.settings.maxRetries,
        (outcome' i).isFinished := by
      intro i inside
      rw [sameLast] at inside
      rw [sameFinished i inside, finished i inside]
    by_cases waits : 0 < last → launcher.Waits world
    · have waits' : 0 < lastAttempt outcome' launcher.settings.maxRetries →
          launcher.Waits world' := fun due => alike.mpr (waits (sameLast ▸ due))
      obtain ⟨_, performed, -⟩ := run_answered reads daemon world waits finished
      obtain ⟨_, performed', -⟩ := run_answered reads daemon' world' waits' finished'
      rw [performed, performed']
      change read (outcome' (lastAttempt outcome' _)).answer = read (outcome last).answer
      rw [sameLast, answer]
    · obtain ⟨due, refused⟩ : 0 < last ∧ ¬ launcher.Waits world := by simpa using waits
      exact unwaited due (finished 0 (Nat.zero_le _)) refused
  · have sameRefusal : outcome' j = outcome j := (same j allowed).eq_of_unfinished unfinished
    have finished' (i : Nat) (inside : i < j) : (outcome' i).isFinished := by
      rw [sameFinished i (Nat.le_trans (Nat.le_of_lt inside) allowed), finished i inside]
    have unfinished' : ¬ (outcome' j).isFinished := by rwa [sameRefusal]
    by_cases waits : 0 < j → launcher.Waits world
    · obtain ⟨failure, _, fails, performed, -⟩ :=
        run_refused tail daemon world j allowed waits finished unfinished
      obtain ⟨failure', _, fails', performed', -⟩ := run_refused tail daemon' world' j
        (sameLast ▸ allowed) (fun later => alike.mpr (waits later)) finished' unfinished'
      have sameFailure : failure' = failure := by
        change launcher.verdict command (outcome' j) = .error failure' at fails'
        rw [sameRefusal, fails] at fails'
        exact (Except.error.inj fails').symm
      rw [performed, performed', sameFailure]
    · obtain ⟨later, refused⟩ : 0 < j ∧ ¬ launcher.Waits world := by simpa using waits
      exact unwaited (Nat.lt_of_lt_of_le later allowed) (finished 0 later) refused

/-- Running a command and then only logging retries as the loop should. -/
theorem run_retries (daemon : Daemon) (world : World) :
    launcher.Retries command daemon world read (launcher.run command >>= tail) :=
  ⟨run_answered reads daemon world, run_refused tail daemon world, run_unwaited tail daemon world,
    run_sameCourse reads daemon world⟩

end

/-- What is made of an answer that must be a document. -/
def document (answer : String) : Except Failure Value :=
  match Json.read answer with
  | .ok document => .ok document
  | .error e =>
    .error ((Failure.ofSize? e.fault).getD (.notJson launcher.settings.binary e answer))

theorem document_ok {answer : String} {document : Value}
    (read : launcher.document answer = .ok document) : Json.read answer = .ok document := by
  rw [Launcher.document] at read
  cases h : Json.read answer with
  | ok found => simpa [h] using read
  | error e => simp [h] at read

/-- Reading the last answer of a command as a document. -/
def readAnswer (answer : String) : Bench Value :=
  match Json.read answer with
  | .ok document => return document
  | .error e => do
    if let some failure := Failure.ofSize? e.fault then throw failure
    Bench.log .error launcher.logger
      ("Invalid JSON from '" ++ launcher.named command ++ "': " ++ e.message answer)
    throw (.notJson launcher.settings.binary e answer)

theorem runJson_eq (args : List String) :
    launcher.runJson args = launcher.run (args ++ launcher.settings.outputFlags) >>=
      launcher.readAnswer (args ++ launcher.settings.outputFlags) := rfl

theorem readAnswer_spec (answer : String) (daemon : Daemon) (world : World) :
    ∃ later, Bench.perform (launcher.readAnswer command answer) daemon world =
      (launcher.document answer, later) ∧ world.Quiet later := by
  rw [readAnswer, document]
  cases Json.read answer with
  | ok document => exact ⟨world, rfl, .refl world⟩
  | error e =>
      cases large : Failure.ofSize? e.fault with
      | some failure => exact ⟨world, by simp [large], .refl world⟩
      | none => exact ⟨_, by simp [large]; rfl, .logged ..⟩

/-- It runs commands again without end in sight. -/
def endless : Launcher := ⟨{ Settings.standard with retryInterval := .infinite false }, "runner"⟩

/-- A system that counts a wait in nanoseconds, with 63 bits for them. -/
def countingWorld : World :=
  { World.start (.ofNodes []) [] with longestWait := .ofInt 9223372036 }

/-- It complains of its first call, and takes no command that holds the character that ends
    texts. -/
def settlingDaemon : Daemon := .ofOutcomes fun earlier call =>
  if call.argv.any fun arg => arg.toList.contains '\x00' then .embeddedNul
  else .finished ⟨some "hello", if earlier = [] then some "not yet" else none, 0⟩

end Launcher

end ContractBench
