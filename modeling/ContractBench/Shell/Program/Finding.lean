import ContractBench.Shell.Program.Running

/-! # Finding files

A program that goes through folders and all that lies below them, and does something with what
passes some tests.
-/

namespace ContractBench.Shell.Program

/-- A test of what is found, or something that is done with it. -/
inductive Finding where
  /-- The last name fits a pattern. -/
  | name (pattern : String) (anyCase : Bool)
  /-- The path fits a pattern. -/
  | path (pattern : String)
  /-- It is a folder, or a file. -/
  | kind (letter : Char)
  /-- It holds nothing. -/
  | isEmpty
  /-- It may be run. -/
  | isRunnable
  /-- Its path is written, behind it a character. -/
  | print (ending : String)
  /-- It is removed. -/
  | delete
  /-- A program is run with its path. -/
  | exec (words : List String)
  /-- A program is run once, with all paths. -/
  | execAll (words : List String)
  /-- It holds of all. -/
  | always
  /-- Something does not hold. -/
  | negated (body : Finding)
  /-- Both hold. -/
  | both (first second : Finding)
  /-- One holds. -/
  | either (first second : Finding)

namespace Finding

/-- Whether something is done with what is found. -/
def acts : Finding → Bool
  | .print _ => true
  | .delete => true
  | .exec _ => true
  | .execAll _ => true
  | .negated body => body.acts
  | .both a b => a.acts || b.acts
  | .either a b => a.acts || b.acts
  | _ => false

/-- Whether folders are gone through after what lies in them. -/
def deletes : Finding → Bool
  | .delete => true
  | .negated body => body.deletes
  | .both a b => a.deletes || b.deletes
  | .either a b => a.deletes || b.deletes
  | _ => false

/-- A reading of arguments: a finding and what is left. -/
abbrev Reading := Except String (Finding × List String)

/-- The words up to the sign that ends a program, whether it is run once, and what follows. -/
def splitProgram : List String → Option (List String × Bool × List String)
  | [] => none
  | ";" :: rest => some ([], false, rest)
  | "\x7b\x7d" :: "+" :: rest => some ([], true, rest)
  | word :: rest => (splitProgram rest).map fun (words, once, rest) => (word :: words, once, rest)

mutual
/-- Read findings of which one is to hold. The fuel is more than four times the number of
    arguments. -/
def readEither : Nat → List String → Reading
  | 0, args => .ok (.always, args)
  | fuel + 1, args => do
    let (first, rest) ← readBoth fuel args
    match rest with
    | sign :: rest =>
      if sign = "-o" || sign = "-or" then
        let (second, rest) ← readEither fuel rest
        return (.either first second, rest)
      else return (first, sign :: rest)
    | [] => return (first, [])

/-- Read findings that are all to hold. -/
def readBoth : Nat → List String → Reading
  | 0, args => .ok (.always, args)
  | fuel + 1, args => do
    let (first, rest) ← readOne fuel args
    match rest with
    | [] => return (first, [])
    | sign :: more =>
      if sign = "-o" || sign = "-or" || sign = ")" then return (first, rest)
      else
        let (second, rest) ← readBoth fuel (if sign = "-a" || sign = "-and" then more else rest)
        return (.both first second, rest)

/-- Read one finding. -/
def readOne : Nat → List String → Reading
  | 0, args => .ok (.always, args)
  | _, [] => .ok (.always, [])
  | fuel + 1, arg :: rest =>
    match arg, rest with
    | "!", rest => (readOne fuel rest).map fun (body, rest) => (.negated body, rest)
    | "-not", rest => (readOne fuel rest).map fun (body, rest) => (.negated body, rest)
    | "(", rest => do
      let (body, rest) ← readEither fuel rest
      match rest with
      | ")" :: rest => return (body, rest)
      | _ =>
        throw "invalid expression; I was expecting to find a ')' somewhere but did not see one."
    | "-name", pattern :: rest => .ok (.name pattern false, rest)
    | "-iname", pattern :: rest => .ok (.name pattern true, rest)
    | "-path", pattern :: rest => .ok (.path pattern, rest)
    | "-type", letter :: rest => .ok (.kind (letter.toList.headD 'f'), rest)
    | "-empty", rest => .ok (.isEmpty, rest)
    | "-executable", rest => .ok (.isRunnable, rest)
    | "-print", rest => .ok (.print "\n", rest)
    | "-print0", rest => .ok (.print "\x00", rest)
    | "-delete", rest => .ok (.delete, rest)
    | "-true", rest => .ok (.always, rest)
    | "-false", rest => .ok (.negated .always, rest)
    | "-exec", rest =>
      match splitProgram rest with
      | some (words, false, rest) => .ok (.exec words, rest)
      | some (words, true, rest) => .ok (.execAll words, rest)
      | none => throw "missing argument to '-exec'"
    | other, _ => throw ("unknown predicate " ++ String.singleton (Char.ofNat 96) ++ other ++ "'")
end

/-- The programs that are run once with all paths. -/
def once : Finding → List (List String)
  | .execAll words => [words]
  | .negated body => body.once
  | .both a b => a.once ++ b.once
  | .either a b => a.once ++ b.once
  | _ => []

/-- Whether a finding holds of a path; what it does is done. The paths for programs that are run
    once are kept in an open file. -/
def holds (services : Services) (name path : String) (reached : Reached) (kept : Nat) :
    Finding → Act Bool
  | .always => return true
  | .name pattern anyCase => do
    let lower (text : String) : String := String.ofList (text.toList.map Char.toLower)
    let last := lastName path
    return if anyCase then (Pattern.ofText (lower pattern)).fits (lower last).toList
      else (Pattern.ofText pattern).fits last.toList
  | .path pattern => return (Pattern.ofText pattern).fits path.toList
  | .kind letter =>
    return match reached with
      | .node _ .folder => letter = 'd'
      | .host .folder => letter = 'd'
      | _ => letter = 'f'
  | .isEmpty => do
    match reached with
    | .node place .folder => return ((← Act.disk).namesIn place).isEmpty
    | .node _ (.file bytes _) => return bytes.isEmpty
    | _ => return false
  | .isRunnable =>
    return match reached with
      | .node _ (.file _ sort) => sort.isProgram
      | _ => true
  | .print ending => do
    Act.print (path ++ ending)
    return true
  | .delete => do
    match reached with
    | .node place .folder =>
      if ((← Act.disk).namesIn place).isEmpty then Act.removeFile place
      return true
    | .node place _ => do
      Act.removeFile place
      return true
    | _ => return false
  | .exec words => do
    let words := words.map fun word =>
      String.ofList (replaceAll ['\x7b', '\x7d'] path.toList (word.length + 1) word.toList)
    return (← runOther services name words) = 0
  | .execAll _ => do
    let streams := (← Act.process).streams
    Act.setStream 3 kept
    let _ ← Act.write 3 (path ++ "\x00")
    Act.setProcess fun process => { process with streams := streams }
    return true
  | .negated body => do return !(← holds services name path reached kept body)
  | .both a b => do
    if ← holds services name path reached kept a then holds services name path reached kept b
    else return false
  | .either a b => do
    if ← holds services name path reached kept a then return true
    else holds services name path reached kept b

end Finding

/-- How folders are gone through. -/
structure Walk where
  /-- What is tested and done. -/
  finding : Finding
  /-- The depth from which on it is. -/
  least : Nat
  /-- The depth up to which it is. -/
  most : Nat
  /-- Whether folders come after what lies in them. -/
  depthFirst : Bool
  /-- The open file for the paths of programs that are run once. -/
  kept : Nat

/-- Go through what lies at a path and below. The fuel is more than the depth of the disk. -/
def Walk.go (walk : Walk) (services : Services) (name : String) :
    Nat → Nat → String → Act Unit
  | 0, _, _ => return
  | fuel + 1, depth, path => do
    match ← Act.reach path with
    | .error _ => return
    | .ok (.gap _) => return
    | .ok reached =>
      let visit : Act Unit := do
        if walk.least ≤ depth then
          let _ ← walk.finding.holds services name path reached walk.kept
      if !walk.depthFirst then visit
      if depth < walk.most then
        if ← isFolder path then
          (← namesIn path).forM fun entry =>
            go walk services name fuel (depth + 1) (within path entry)
      if walk.depthFirst then visit

/-- The options among the arguments that say how deep to go, and the other arguments. -/
def walkDepths : List String → Option Nat × Option Nat × Bool × List String
  | "-maxdepth" :: n :: rest =>
    let (least, _, deep, rest) := walkDepths rest
    (least, n.toNat?, deep, rest)
  | "-mindepth" :: n :: rest =>
    let (_, most, deep, rest) := walkDepths rest
    (n.toNat?, most, deep, rest)
  | "-depth" :: rest =>
    let (least, most, _, rest) := walkDepths rest
    (least, most, true, rest)
  | arg :: rest =>
    let (least, most, deep, rest) := walkDepths rest
    (least, most, deep, arg :: rest)
  | [] => (none, none, false, [])

/-- Find files and folders. -/
def find : Program := fun services name args => do
  let beginsTest (arg : String) : Bool := arg.startsWith "-" || arg = "(" || arg = "!"
  let paths := args.takeWhile (!beginsTest ·)
  let (least, most, deep, tests) := walkDepths (args.drop paths.length)
  match Finding.readEither (8 * tests.length + 16) tests with
  | .error words => refuse name words 1
  | .ok (_, extra :: _) => refuse name ("paths must precede expression: " ++ quoted extra) 1
  | .ok (finding, []) =>
    let finding := if finding.acts then finding else .both finding (.print "\n")
    let kept ← Act.addFile ⟨.buffer [] [], true, true⟩
    let walk : Walk := ⟨finding, least.getD 0, most.getD 64, deep || finding.deletes, kept⟩
    let status ← forEach (if paths.isEmpty then ["."] else paths) fun path => do
      match ← found? path with
      | .error fault => refuse name (curled path ++ ": " ++ fault.text) 1
      | .ok _ =>
        walk.go services name 66 0 path
        return 0
    let paths := match ← Act.unreadOf kept with
      | .ok text => ((piecesBetween '\x00' [] text).map String.ofList).dropLast
      | .error _ => []
    if !paths.isEmpty then
      finding.once.forM fun words => do
        let _ ← runOther services name (words ++ paths)
    return status

end ContractBench.Shell.Program
