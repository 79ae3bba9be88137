import ContractBench.Number.Binary64

/-! # Throttled messages

A throttle remembers the keys under which messages were logged, each for a minute and the latest
256 of them. `Throttle.holds` says whether a key is remembered, `Throttle.remember` adds one.
-/

namespace ContractBench

/-- A remembered key. -/
structure ThrottleEntry where
  /-- The key. -/
  key : String
  /-- The time from which it is forgotten. -/
  deadline : Binary64
  deriving Repr, DecidableEq

/-- The remembered keys, the oldest first. -/
abbrev Throttle := List ThrottleEntry

namespace Throttle

/-- How long a key is remembered, in seconds. -/
def window : Binary64 := Binary64.ofInt 60

/-- The most keys that are remembered. -/
def capacity : Nat := 256

/-- Whether a key is remembered at a time. -/
def holds (throttle : Throttle) (now : Binary64) (key : String) : Bool :=
  throttle.any fun entry => entry.key = key && now.lt entry.deadline

/-- Drop the oldest entries that are forgotten at a time. -/
def dropForgotten (throttle : Throttle) (now : Binary64) : Throttle :=
  throttle.dropWhile fun entry => !now.lt entry.deadline

/-- Remember a key from a time on. What is forgotten leaves first; then the oldest entry makes
    room for a new key. -/
def remember (throttle : Throttle) (now : Binary64) (key : String) : Throttle :=
  let kept := throttle.dropForgotten now
  let room :=
    if !kept.any (fun entry => entry.key = key) && capacity ≤ kept.length then kept.drop 1 else kept
  room.filter (fun entry => entry.key ≠ key) ++ [⟨key, now + window⟩]

end Throttle

end ContractBench
