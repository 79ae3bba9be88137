import ContractBench.Proofs.Bench
import ContractBench.Proofs.Rounding
import Mathlib.Data.List.TakeWhile

/-! # What the throttle holds back

The throttle forgets on its own: entries run out, and at capacity the oldest one goes. Here its
content is tied to everything that was let through before. `Kept` is the invariant: what the
throttle remembers is the end of that history, and what it no longer remembers has either run out or
has a whole throttle of later messages behind it. So the history alone decides which messages are
held back (`Logging.held_back_or_logged`).
-/

namespace ContractBench

open Binary64 (AtMost)

/-- A message that was let through. -/
structure Emission where
  key : String
  time : Binary64
  deriving DecidableEq

namespace Emission

/-- What the throttle remembers of it. -/
def entry (emission : Emission) : ThrottleEntry := ⟨emission.key, emission.time + Throttle.window⟩

def entries (emissions : List Emission) : Throttle := emissions.map entry

/-- Less than a minute has gone by since. -/
def RecentAt (emission : Emission) (now : Binary64) : Prop :=
  now.lt (emission.time + Binary64.ofInt 60) = true

variable {emission other : Emission} {now later : Binary64}

theorem recentAt_iff : emission.RecentAt now ↔ now.lt emission.entry.deadline = true := Iff.rfl

theorem holds_entries {emissions : List Emission} {key : String} :
    (entries emissions).holds now key = true ↔
      ∃ e ∈ emissions, e.key = key ∧ e.RecentAt now := by
  simp only [Throttle.holds, entries, List.any_map, List.any_eq_true, Function.comp_apply,
    Bool.and_eq_true, decide_eq_true_eq]
  rfl

theorem RecentAt.before (recent : emission.RecentAt later) (h : AtMost now later) :
    emission.RecentAt now :=
  h.lt_of_le recent

/-- Messages stop being recent in the order in which they were let through. -/
theorem RecentAt.newer (recent : emission.RecentAt now) (h : AtMost emission.time other.time) :
    other.RecentAt now := by
  have finite : (Binary64.ofInt 60).isFinite = true := by decide +kernel
  exact (h.add_finite finite).lt_of_lt recent

end Emission

/-- Of the messages that were let through, the earliest first, one with the key is less than a
    minute old, and fewer than 256 were let through after it. -/
def HoldsBack (emissions : List Emission) (now : Binary64) (key : String) : Prop :=
  ∃ earlier emission later, emissions = earlier ++ emission :: later ∧ emission.key = key ∧
    emission.RecentAt now ∧ later.length < 256

/-! ## The end of the history -/

/-- The messages were let through in this order, and none after now. -/
structure Chronological (emissions : List Emission) (now : Binary64) : Prop where
  inOrder : emissions.Pairwise fun e later => AtMost e.time later.time
  past : ∀ e ∈ emissions, AtMost e.time now

theorem Chronological.append {emissions : List Emission} {now : Binary64}
    (h : Chronological emissions now) (key : String) :
    Chronological (emissions ++ [⟨key, now⟩]) now := by
  refine ⟨?_, fun e mem => ?_⟩
  · refine List.pairwise_append.mpr ⟨h.inOrder, List.pairwise_singleton .., fun e mem e' mem' => ?_⟩
    rw [List.mem_singleton.mp mem']
    exact h.past e mem
  · rcases List.mem_append.mp mem with mem | mem
    · exact h.past e mem
    · rw [List.mem_singleton.mp mem]
      exact .refl now

/-- The messages that were let through fall into those that are forgotten and those that the
    throttle still has. -/
structure Kept (forgotten kept : List Emission) (now : Binary64) : Prop where
  history : Chronological (forgotten ++ kept) now
  bounded : kept.length ≤ Throttle.capacity
  lost : kept.length = Throttle.capacity ∨ ∀ e ∈ forgotten, ¬e.RecentAt now

namespace Kept

variable {forgotten kept : List Emission} {now later : Binary64} {key : String}

theorem nil (now : Binary64) : Kept [] [] now := ⟨⟨.nil, by simp⟩, by simp, .inr (by simp)⟩

theorem mono (h : Kept forgotten kept now) (waited : AtMost now later) :
    Kept forgotten kept later where
  history := ⟨h.history.inOrder, fun e mem => (h.history.past e mem).trans waited⟩
  bounded := h.bounded
  lost := h.lost.imp_right fun old e mem recent => old e mem (recent.before waited)

/-- Entries run out from the front. If one has run out, so has everything that was forgotten. -/
theorem dropOld (h : Kept forgotten kept now) :
    ∃ old recent, kept = old ++ recent ∧
      (Emission.entries kept).dropForgotten now = Emission.entries recent ∧
      (∀ e ∈ recent, e.RecentAt now) ∧ Kept (forgotten ++ old) recent now := by
  have drops : (Emission.entries kept).dropForgotten now =
      Emission.entries (kept.dropWhile fun e => !now.lt e.entry.deadline) := by
    rw [Throttle.dropForgotten, Emission.entries, List.dropWhile_map]
    rfl
  generalize taken : kept.takeWhile (fun e => !now.lt e.entry.deadline) = old
  generalize rest : kept.dropWhile (fun e => !now.lt e.entry.deadline) = recent at drops
  have split : kept = old ++ recent := by rw [← taken, ← rest, List.takeWhile_append_dropWhile]
  have expired : ∀ e ∈ old, ¬e.RecentAt now := by
    intro e mem
    rw [← taken] at mem
    simpa [Emission.recentAt_iff] using List.mem_takeWhile_imp mem
  have history := h.history
  rw [split, ← List.append_assoc] at history
  have inOrder := List.pairwise_append.mp history.inOrder
  refine ⟨old, recent, split, drops, ?_, ?_⟩
  · cases recent with
    | nil => simp
    | cons first others =>
        -- The first one that stays is recent, and the others are newer.
        have fresh : first.RecentAt now := by
          have stops := List.head?_dropWhile_not (fun e => !now.lt e.entry.deadline) kept
          rw [rest] at stops
          simpa [Emission.recentAt_iff] using stops
        intro e mem
        rcases List.mem_cons.mp mem with rfl | mem
        · exact fresh
        · exact fresh.newer ((List.pairwise_cons.mp inOrder.2.1).1 e mem)
  · subst split
    refine ⟨history, ?_, ?_⟩
    · exact (Nat.le_add_left ..).trans (List.length_append ▸ h.bounded)
    · cases old with
      | nil => simpa using h.lost
      | cons last others =>
          refine .inr fun e mem recent => ?_
          rcases List.mem_append.mp mem with mem | mem
          · have order := (List.pairwise_append.mp inOrder.1).2.2 e mem last (by simp)
            exact expired last (by simp) (recent.newer order)
          · exact expired e mem recent

end Kept

/-- When nothing is left under the key, it goes to the end, and at capacity the oldest one makes
    room. -/
theorem Throttle.remember_eq {throttle left : Throttle} {now : Binary64} {key : String}
    (drops : throttle.dropForgotten now = left) (others : ∀ entry ∈ left, entry.key ≠ key) :
    throttle.remember now key =
      (if capacity ≤ left.length then left.drop 1 else left) ++ [⟨key, now + window⟩] := by
  have unknown : (left.any fun entry => entry.key = key) = false := by simpa using others
  simp only [remember, drops, unknown, Bool.not_false, Bool.true_and, decide_eq_true_eq]
  congr 1
  refine List.filter_eq_self.mpr fun entry mem => ?_
  have inside : entry ∈ left := by
    split at mem
    · exact List.mem_of_mem_drop mem
    · exact mem
  exact decide_eq_true (others entry inside)

namespace Kept

variable {forgotten kept : List Emission} {now : Binary64} {key : String}

theorem remember (h : Kept forgotten kept now)
    (free : ¬(Emission.entries kept).holds now key = true) :
    ∃ forgotten' kept', forgotten' ++ kept' = forgotten ++ kept ++ [⟨key, now⟩] ∧
      (Emission.entries kept).remember now key = Emission.entries kept' ∧
      Kept forgotten' kept' now := by
  obtain ⟨old, recent, rfl, drops, live, after⟩ := h.dropOld
  have others : ∀ entry ∈ Emission.entries recent, entry.key ≠ key := by
    intro entry mem
    obtain ⟨e, inside, rfl⟩ := List.mem_map.mp mem
    intro same
    exact free (Emission.holds_entries.mpr
      ⟨e, List.mem_append_right _ inside, same, live e inside⟩)
  have size : (Emission.entries recent).length = recent.length := List.length_map ..
  rw [Throttle.remember_eq drops others, size]
  by_cases full : Throttle.capacity ≤ recent.length
  · cases recent with
    | nil => simp [Throttle.capacity] at full
    | cons oldest rest =>
        have whole := after.bounded
        simp only [List.length_cons] at whole
        -- The oldest one is forgotten before its time, but the throttle stays full.
        refine ⟨forgotten ++ old ++ [oldest], rest ++ [⟨key, now⟩], by simp, ?_, ?_, ?_, .inl ?_⟩
        · rw [if_pos full]
          simp [Emission.entries, Emission.entry]
        · simpa using after.history.append key
        · simpa using whole
        · rw [List.length_cons] at full
          simp only [List.length_append, List.length_singleton]
          omega
  · refine ⟨forgotten ++ old, recent ++ [⟨key, now⟩], by simp, ?_, ?_, ?_, .inr ?_⟩
    · rw [if_neg full]
      simp [Emission.entries, Emission.entry]
    · simpa using after.history.append key
    · simp only [List.length_append, List.length_singleton]
      omega
    · exact after.lost.resolve_left (by omega)

/-- The throttle holds a key exactly if the history holds it back. -/
theorem holds_iff (h : Kept forgotten kept now) (key : String) :
    (Emission.entries kept).holds now key = true ↔ HoldsBack (forgotten ++ kept) now key := by
  rw [Emission.holds_entries]
  constructor
  · rintro ⟨e, mem, same, recent⟩
    obtain ⟨before, after, rfl⟩ := List.append_of_mem mem
    refine ⟨forgotten ++ before, e, after, by simp, same, recent, ?_⟩
    have bound := h.bounded
    simp only [List.length_append, List.length_cons, Throttle.capacity] at bound
    omega
  · rintro ⟨earlier, e, after, split, same, recent, few⟩
    refine ⟨e, ?_, same, recent⟩
    rcases List.append_eq_append_iff.mp split with ⟨between, -, whole⟩ | ⟨between, whole, rest⟩
    · rw [whole]
      simp
    · cases between with
      | nil =>
          rw [List.nil_append] at rest
          simp [← rest]
      | cons first others =>
          rw [List.cons_append] at rest
          obtain ⟨rfl, rfl⟩ := List.cons.inj rest
          -- It is among the forgotten: then either a whole throttle came after it, or it is old.
          rcases h.lost with full | old
          · simp only [List.length_append, full, Throttle.capacity] at few
            omega
          · exact absurd recent (old e (by simp [whole]))

end Kept

/-! ## Runs -/

/-- The name of a level. -/
def Level.name : Level → String
  | .debug => "debug"
  | .info => "info"
  | .warning => "warning"
  | .error => "error"
  | .critical => "critical"

theorem LevelName.ofText_name (logger message : String) (level : Level) :
    LevelName.ofText logger level.name message = .logs level := by
  have small : smallLetters level.name = level.name := by cases level <;> decide +kernel
  have known : (levelNames.find? fun entry => entry.1 = level.name) = some (level.name, level) := by
    cases level <;> decide +kernel
  simp only [LevelName.ofText, small, known]

/-- Messages are logged through the throttle, time goes by, and the throttle is reset. Together with
    the messages that were let through since the last reset, the earliest first. -/
inductive Logging (daemon : Daemon) : World → List Emission → Prop
  | begun {world : World} (fresh : world.throttle = []) : Logging daemon world []
  | waited {world later : World} {emissions : List Emission} (run : Logging daemon world emissions)
      (untouched : later.throttle = world.throttle) (onward : AtMost world.clock later.clock) :
      Logging daemon later emissions
  | reset {world : World} {emissions : List Emission} (run : Logging daemon world emissions) :
      Logging daemon (Bench.perform Bench.resetThrottle daemon world).2 []
  | logged {world later : World} {emissions : List Emission} {logger message : String}
      {level : Level} {key : Option String} (run : Logging daemon world emissions)
      (call : Bench.perform (Bench.logThrottled logger level.name message key) daemon world =
        (.ok true, later)) :
      Logging daemon later
        (emissions ++ [⟨Bench.throttleKey level.name message key, world.clock⟩])
  | heldBack {world later : World} {emissions : List Emission} {logger message : String}
      {level : Level} {key : Option String} (run : Logging daemon world emissions)
      (call : Bench.perform (Bench.logThrottled logger level.name message key) daemon world =
        (.ok false, later)) :
      Logging daemon later emissions

theorem Bench.perform_logThrottled_level (logger message : String) (level : Level)
    (key : Option String) (daemon : Daemon) (world : World) :
    perform (logThrottled logger level.name message key) daemon world =
      if world.throttle.holds world.clock (throttleKey level.name message key) then
        (.ok false, world)
      else
        (.ok true, (world.logged level logger message).remembering
          (throttleKey level.name message key)) := by
  rw [perform_logThrottled, LevelName.ofText_name]

namespace Logging

variable {daemon : Daemon} {world : World} {emissions : List Emission}

/-- The throttle has the end of the history, through every run. -/
theorem kept (run : Logging daemon world emissions) :
    ∃ forgotten kept, emissions = forgotten ++ kept ∧ world.throttle = Emission.entries kept ∧
      Kept forgotten kept world.clock := by
  induction run with
  | begun fresh => exact ⟨[], [], rfl, fresh, .nil _⟩
  | waited _ untouched onward ih =>
      obtain ⟨forgotten, kept, split, memory, inv⟩ := ih
      exact ⟨forgotten, kept, split, untouched.trans memory, inv.mono onward⟩
  | reset => exact ⟨[], [], rfl, rfl, .nil _⟩
  | @logged world _ _ logger message level key _ call ih =>
      obtain ⟨forgotten, kept, rfl, memory, inv⟩ := ih
      rw [Bench.perform_logThrottled_level] at call
      split at call
      · simp at call
      next free =>
        obtain ⟨-, rfl⟩ := Prod.mk.inj call
        rw [memory] at free
        obtain ⟨forgotten', kept', split, remembered, inv'⟩ := inv.remember free
        refine ⟨forgotten', kept', split.symm, ?_, inv'⟩
        rw [← remembered, ← memory]
        rfl
  | heldBack _ call ih =>
      rw [Bench.perform_logThrottled_level] at call
      split at call
      · obtain ⟨-, rfl⟩ := Prod.mk.inj call
        exact ih
      · simp at call

/-- A message is held back exactly if one under its key was let through less than a minute ago,
    with fewer than 256 let through after that one. What is held back leaves no trace at all, and
    what is not is logged once. -/
theorem held_back_or_logged (run : Logging daemon world emissions) (logger message : String)
    (level : Level) (key : Option String) :
    let known := Bench.throttleKey level.name message key
    let logs := Bench.logThrottled logger level.name message key
    (HoldsBack emissions world.clock known → Bench.perform logs daemon world = (.ok false, world)) ∧
    (¬HoldsBack emissions world.clock known →
      Bench.perform logs daemon world =
        (.ok true, (world.logged level logger message).remembering known)) := by
  obtain ⟨forgotten, kept, rfl, memory, inv⟩ := run.kept
  intro known logs
  rw [← inv.holds_iff, ← memory, Bench.perform_logThrottled_level]
  exact ⟨fun held => if_pos held, fun free => if_neg free⟩

/-- No message calls it. -/
def uncalledDaemon : Daemon := .ofOutcomes fun _ _ => .embeddedNul

def again : Bench Bool := Bench.logThrottled "lab" Level.warning.name "again" none

def said : World := (Bench.perform again uncalledDaemon (.start (.ofNodes []) [])).2

theorem again_after_a_minute :
    Bench.perform again uncalledDaemon (said.passed (.ofInt 59)) =
        (.ok false, said.passed (.ofInt 59)) ∧
    Bench.perform again uncalledDaemon (said.passed (.ofInt 60)) =
        (.ok true, ((said.passed (.ofInt 60)).logged .warning "lab" "again").remembering
          "warning:again") := by
  have known : Bench.throttleKey Level.warning.name "again" none = "warning:again" := by
    decide +kernel
  have first : (Bench.perform again uncalledDaemon (.start (.ofNodes []) [])).1 = .ok true := by
    decide +kernel
  have run := Logging.logged (.begun rfl) (Prod.ext first rfl)
  rw [known, List.nil_append] at run
  have later (seconds : Int) (onward : said.clock.lt (said.passed (.ofInt seconds)).clock = true) :
      Logging uncalledDaemon (said.passed (.ofInt seconds)) [⟨"warning:again", .zero⟩] :=
    .waited run rfl (.inr (.inl onward))
  constructor
  · obtain ⟨held, -⟩ :=
      held_back_or_logged (later 59 (by decide +kernel)) "lab" "again" .warning none
    exact held ⟨[], _, [], rfl, known.symm, by unfold Emission.RecentAt; decide +kernel, by decide⟩
  · obtain ⟨-, logged⟩ :=
      held_back_or_logged (later 60 (by decide +kernel)) "lab" "again" .warning none
    rw [known] at logged
    refine logged ?_
    rintro ⟨earlier, emission, others, split, -, recent, -⟩
    have only : emission ∈ earlier ++ emission :: others := by simp
    rw [← split, List.mem_singleton] at only
    subst only
    revert recent
    unfold Emission.RecentAt
    decide +kernel

end Logging

end ContractBench
