import ContractBench.Daemon

/-! # Scripted daemons

A script lists what a daemon does when its arguments begin in some way. The longest beginning that
fits decides. Rules with the same beginning are used up one after the other; the last one stays.
-/

namespace ContractBench

/-- A rule of a script. -/
structure ScriptRule where
  /-- How the arguments begin. -/
  beginning : List String
  /-- What happens then. -/
  outcome : Outcome
  deriving Repr, DecidableEq

/-- The rules of a daemon. -/
abbrev Script := List ScriptRule

namespace Script

/-- The longest beginning of a rule that arguments fit. -/
def beginning? (script : Script) (args : List String) : Option (List String) :=
  (script.filter fun rule => rule.beginning.isPrefixOf args).foldl (fun best rule =>
    match best with
    | none => some rule.beginning
    | some found => if found.length < rule.beginning.length then some rule.beginning else best) none

/-- What happens when no rule fits. -/
def unknownCommand (args : List String) : Outcome :=
  .finished ⟨some "", some ("unknown command: " ++ " ".intercalate args), 1⟩

/-- The rule in turn among those of one beginning, after some of them were used. -/
def inTurn (rules : List ScriptRule) (used : Nat) : Option ScriptRule :=
  rules[min used (rules.length - 1)]?

/-- The daemon that keeps to a script. -/
def daemon (script : Script) : Daemon := .ofOutcomes fun earlier call =>
  let args := call.argv.drop 1
  match script.beginning? args with
  | none => unknownCommand args
  | some found =>
    let used := earlier.countP fun call => script.beginning? (call.argv.drop 1) = some found
    match inTurn (script.filter fun rule => rule.beginning = found) used with
    | some rule => rule.outcome
    | none => unknownCommand args

end Script

end ContractBench
