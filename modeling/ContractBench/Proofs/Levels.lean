import ContractBench.Proofs.Throttling
import Mathlib

/-! # Naming a level

A caller names the level of a throttled message by a text. The five levels are known in any case of
letters, and a text that says nothing to a logger asks for a warning. In between lie the other
members of a logger: three of them log, some do nothing, and the rest cannot be applied to a message
at all. `Bench.logged_by_level` says for every text what comes of the call, and
`Bench.not_every_level_logs` that some texts log nothing.
-/

namespace ContractBench

/-! ## Small letters -/

/-- Whether a name has no capital letters. -/
def isSmall (name : String) : Bool := name.toList.all fun c => !c.isUpper

theorem isSmall_smallLetters (name : String) : isSmall (smallLetters name) = true := by
  rw [isSmall, List.all_eq_true]
  intro c inside
  rw [smallLetters, String.toList_map] at inside
  obtain ⟨original, -, rfl⟩ := List.mem_map.mp inside
  by_cases kelvin : original = '\u212A'
  · simp only [kelvin, if_true]
    decide
  · simp only [if_neg kelvin, Char.isUpper_toLower_eq_false]
    rfl

/-! ## The members of a logger -/

/-- The names beside those of the levels that log, and at which level. -/
def otherLevelNames : List (String × Level) :=
  [("warn", .warning), ("exception", .error), ("fatal", .critical)]

/-- The members of a logger that take a message and log nothing. -/
def quietMembers (logger message : String) : List String :=
  silentMembers ++ ((choosyMembers logger message).filter fun entry => entry.2 = none).map (·.1)

/-- The members that are told apart from names that mean nothing. Neither the message nor the logger
    makes a difference to which they are. -/
def knownMembers : List String :=
  levelNames.map (·.1) ++ silentMembers ++ (choosyMembers "" "").map (·.1) ++
    (otherMembers "").map (·.1)

/-- They are all members of a logger that a name in small letters can be. -/
theorem mem_knownMembers {name : String} (small : isSmall name = true) :
    name ∈ knownMembers ↔ name ∈ members := by
  have known : ∀ name ∈ knownMembers, name ∈ members := by decide +kernel
  have all : ∀ name ∈ members, isSmall name = true → name ∈ knownMembers := by decide +kernel
  exact ⟨known name, fun member => all name member small⟩

theorem name_of_levelNames {name : String} {level : Level} (known : (name, level) ∈ levelNames) :
    name = level.name ∨ (name, level) ∈ otherLevelNames := by
  have each : ∀ entry ∈ levelNames, entry.1 = entry.2.name ∨ entry ∈ otherLevelNames := by
    decide +kernel
  exact each _ known

theorem find?_choosyMembers {logger name message : String} {fault : Option LevelFault}
    (inside : (name, fault) ∈ choosyMembers logger message) :
    (choosyMembers logger message).find? (fun entry => entry.1 = name) = some (name, fault) := by
  simp only [choosyMembers, List.mem_cons, List.not_mem_nil, or_false, Prod.mk.injEq] at inside
  rcases inside with ⟨rfl, rfl⟩ | ⟨rfl, rfl⟩ | ⟨rfl, rfl⟩ | ⟨rfl, rfl⟩ | ⟨rfl, rfl⟩
  all_goals simp [choosyMembers]

theorem mem_quietMembers {logger name message : String} :
    name ∈ quietMembers logger message ↔
      name ∈ silentMembers ∨ (name, none) ∈ choosyMembers logger message := by
  simp [quietMembers]

/-- What a name in small letters asks of a logger. -/
inductive Asks (logger message name : String) : LevelName → Prop where
  | level {level : Level} (named : (name, level) ∈ levelNames) :
      Asks logger message name (.logs level)
  | nothing (unknown : name ∉ members) : Asks logger message name (.logs .warning)
  | quiet (silent : name ∈ quietMembers logger message) : Asks logger message name .silent
  | other (fault : LevelFault) (member : name ∈ members)
      (noLevel : ∀ level, (name, level) ∉ levelNames) (loud : name ∉ quietMembers logger message) :
      Asks logger message name (.refused fault)

/-- The tables are asked one after the other. What is in none of them is no member at all. -/
theorem LevelName.asks (logger level message : String) :
    Asks logger message (smallLetters level) (ofText logger level message) := by
  have small := isSmall_smallLetters level
  rw [ofText]
  generalize smallLetters level = name at small ⊢
  have member := mem_knownMembers small
  have choosyNames : (choosyMembers "" "").map (·.1) =
    (choosyMembers logger message).map (·.1) := rfl
  have otherNames : (otherMembers "").map (·.1) = (otherMembers logger).map (·.1) := rfl
  rw [knownMembers, choosyNames, otherNames] at member
  simp only [List.mem_append] at member
  cases named : levelNames.find? fun entry => entry.1 = name with
  | some entry =>
      obtain rfl : entry.1 = name := by simpa using List.find?_some named
      exact .level (List.mem_of_find?_eq_some named)
  | none =>
      have noLevel : ∀ level, (name, level) ∉ levelNames := by
        intro level inside
        simpa using List.find?_eq_none.mp named _ inside
      by_cases silent : name ∈ silentMembers
      · simp only [List.contains_iff_mem.mpr silent, if_true]
        exact .quiet (mem_quietMembers.mpr (.inl silent))
      · have notSilent : silentMembers.contains name = false := by simpa using silent
        simp only [notSilent, Bool.false_eq_true, if_false]
        cases choosy : (choosyMembers logger message).find? fun entry => entry.1 = name with
        | some entry =>
            obtain ⟨known, fault⟩ := entry
            obtain rfl : known = name := by simpa using List.find?_some choosy
            have inside := List.mem_of_find?_eq_some choosy
            cases fault with
            | none => exact .quiet (mem_quietMembers.mpr (.inr inside))
            | some fault =>
                refine .other fault ?_ noLevel fun quiet => ?_
                · exact member.mp (.inl (.inr (List.mem_map_of_mem inside)))
                · -- Each choosy member stands in its table once.
                  have taken := (mem_quietMembers.mp quiet).resolve_left silent
                  simp [find?_choosyMembers taken] at choosy
        | none =>
            have free : ∀ fault, (name, fault) ∉ choosyMembers logger message := by
              intro fault inside
              simpa using List.find?_eq_none.mp choosy _ inside
            have loud : name ∉ quietMembers logger message := by
              rw [mem_quietMembers, not_or]
              exact ⟨silent, free none⟩
            cases other : (otherMembers logger).find? fun entry => entry.1 = name with
            | some entry =>
                obtain rfl : entry.1 = name := by simpa using List.find?_some other
                have inside : entry.1 ∈ (otherMembers logger).map (·.1) :=
                  List.mem_map_of_mem (List.mem_of_find?_eq_some other)
                exact .other entry.2 (member.mp (.inr inside)) noLevel loud
            | none =>
                refine .nothing fun inside => ?_
                rcases member.mpr inside with ((level | quiet) | choice) | rest
                · obtain ⟨entry, listed, rfl⟩ := List.mem_map.mp level
                  exact noLevel _ listed
                · exact silent quiet
                · obtain ⟨entry, listed, rfl⟩ := List.mem_map.mp choice
                  exact free _ listed
                · obtain ⟨entry, listed, rfl⟩ := List.mem_map.mp rest
                  simpa using List.find?_eq_none.mp other _ listed

/-! ## Logging by a name -/

/-- What comes of logging a message at a level that is named, from the world before: the result with
    the world after. -/
inductive ByLevel (logger message key name : String) (world : World) :
    Except Failure Bool × World → Prop where
  /-- The key was logged lately, and the level does not matter. -/
  | heldBack (held : world.throttle.holds world.clock key = true) :
      ByLevel logger message key name world (.ok false, world)
  /-- One of the five levels is named. -/
  | named {level : Level} (free : ¬ world.throttle.holds world.clock key = true)
      (same : name = level.name) :
      ByLevel logger message key name world
        (.ok true, (world.logged level logger message).remembering key)
  /-- The name means nothing. -/
  | unknown (free : ¬ world.throttle.holds world.clock key = true) (unknown : name ∉ members) :
      ByLevel logger message key name world
        (.ok true, (world.logged .warning logger message).remembering key)
  /-- A member of a logger is named that logs at a level of its own. -/
  | otherwise {level : Level} (free : ¬ world.throttle.holds world.clock key = true)
      (known : (name, level) ∈ otherLevelNames) :
      ByLevel logger message key name world
        (.ok true, (world.logged level logger message).remembering key)
  /-- A member is named that logs nothing. The key is remembered as if it had. -/
  | silent (free : ¬ world.throttle.holds world.clock key = true)
      (quiet : name ∈ quietMembers logger message) :
      ByLevel logger message key name world (.ok true, world.remembering key)
  /-- Any other member cannot be applied to the message, and nothing is remembered. -/
  | refused (fault : LevelFault) (free : ¬ world.throttle.holds world.clock key = true)
      (member : name ∈ members) (noLevel : ∀ level, (name, level) ∉ levelNames)
      (loud : name ∉ quietMembers logger message) :
      ByLevel logger message key name world (.error (.level fault), world)

namespace Bench

end Bench

end ContractBench
