import ContractBench.Shell.Launch

/-! # The shell

`Shell.toolsTo` says how commands are run that lie within each other to a limited depth, and
`Shell.tools` what a process has.
-/

namespace ContractBench.Shell

/-- What the running of commands needs, where commands lie within each other to a limited depth. -/
def toolsTo : Nat → Tools
  | 0 =>
    { run := fun _ _ => throw (.killed 11)
      script := fun _ _ => throw (.killed 11)
      become := fun _ _ _ => throw (.killed 11) }
  | depth + 1 =>
    { run := fun setting command => (toolsTo depth).step setting command
      script := fun setting text => (toolsTo depth).runText setting text
      become := fun path name args => (toolsTo depth).enter path name args }

/-- How deep commands may lie within each other before a process has no room for more. -/
def depthLimit : Nat := 10000

/-- What the running of commands needs. -/
def tools : Tools := toolsTo depthLimit

end ContractBench.Shell
