import ContractBench.Shell.Program.Characters
import ContractBench.Shell.Program.Comparing
import ContractBench.Shell.Program.Editing
import ContractBench.Shell.Program.Encoding
import ContractBench.Shell.Program.Finding
import ContractBench.Shell.Program.Searching
import ContractBench.Shell.Program.Sorting

/-! # The programs of the host -/

namespace ContractBench.Shell.Program

/-- The programs that tell about the host or do nothing. -/
def plain? (name : String) : Option Program :=
  match name with
  | "arch" => some (fixedLine "x86_64")
  | "false" => some fun _ _ _ => return 1
  | "hostname" => some (fixedLine "localhost")
  | "id" => some id
  | "logname" => some (fixedLine "root")
  | "nproc" => some (fixedLine "1")
  | "sync" => some fun _ _ _ => return 0
  | "true" => some fun _ _ _ => return 0
  | "uname" => some uname
  | "whoami" => some (fixedLine "root")
  | _ => none

/-- The programs that work on text. -/
def textual? (name : String) : Option Program :=
  match name with
  | "[" => some bracketTest
  | "base64" => some base64
  | "basename" => some basename
  | "cat" => some cat
  | "cmp" => some cmp
  | "comm" => some comm
  | "cut" => some cut
  | "diff" => some diff
  | "dirname" => some dirname
  | "echo" => some echo
  | "egrep" => some (grepAs (some 'E'))
  | "expr" => some expr
  | "fgrep" => some (grepAs (some 'F'))
  | "fold" => some fold
  | "grep" => some grep
  | "head" => some head
  | "md5sum" => some (digest Digest.short)
  | "nl" => some nl
  | "od" => some od
  | "paste" => some paste
  | "printf" => some printf
  | "rev" => some rev
  | "sed" => some sed
  | "sha256sum" => some (digest Digest.long)
  | "seq" => some seq
  | "sort" => some sort
  | "tac" => some tac
  | "tail" => some tail
  | "tee" => some tee
  | "test" => some test
  | "tr" => some tr
  | "uniq" => some uniq
  | "wc" => some wc
  | "yes" => some yes
  | _ => none

/-- The programs that work on files and run other programs. -/
def active? (name : String) : Option Program :=
  match name with
  | "chmod" => some chmod
  | "cp" => some cp
  | "env" => some env
  | "find" => some find
  | "kill" => some kill
  | "ln" => some ln
  | "ls" => some ls
  | "mkdir" => some mkdir
  | "mktemp" => some mktemp
  | "mv" => some mv
  | "nice" => some (runPlain { valued := "n" })
  | "nohup" => some (runPlain {})
  | "printenv" => some printenv
  | "pwd" => some pwd
  | "readlink" => some realpath
  | "realpath" => some realpath
  | "rm" => some rm
  | "rmdir" => some rmdir
  | "setsid" => some (runPlain { flags := "cfw" })
  | "sleep" => some sleep
  | "stat" => some stat
  | "stdbuf" => some (runPlain { valued := "ioe" })
  | "timeout" => some timeout
  | "touch" => some touch
  | "unlink" => some rm
  | "which" => some which
  | "xargs" => some xargs
  | _ => none

/-- The program of a name. -/
def named? (name : String) : Option Program :=
  ((plain? name).or (textual? name)).or (active? name)

end ContractBench.Shell.Program
