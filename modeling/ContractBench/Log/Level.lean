import ContractBench.Text.Quoted

/-! # Log levels

A record is logged at one of five levels. A caller names the level; `LevelName.ofText` says what
the name asks for. Capital letters count as small ones, a name that means nothing asks for a
warning, and a name that is another member of a logger asks for that member instead. Loggers are as
they are made: without filters, and without members that an application has added.
-/

namespace ContractBench

/-- How grave a record is. -/
inductive Level where
  /-- Of use for finding faults. -/
  | debug
  /-- As expected. -/
  | info
  /-- Not as expected. -/
  | warning
  /-- A failure. -/
  | error
  /-- A failure of the whole program. -/
  | critical
  deriving Repr, DecidableEq

/-- The name of a level in a log. -/
def Level.text : Level → String
  | .debug => "DEBUG"
  | .info => "INFO"
  | .warning => "WARNING"
  | .error => "ERROR"
  | .critical => "CRITICAL"

/-- A logged record. -/
structure LogRecord where
  /-- How grave it is. -/
  level : Level
  /-- The name of the logger. -/
  logger : String
  /-- What it says. -/
  message : String
  deriving Repr, DecidableEq

/-- Why a level's name cannot be used to log a message. -/
inductive LevelFault where
  /-- It names a member of the given type, which cannot be applied to a message. -/
  | notCallable (typeName : String)
  /-- It names a member that needs more than a message. -/
  | missingArguments (member arguments : String)
  /-- It names a member that cannot take a message; the words say why. -/
  | badArgument (words : String)
  /-- It names a member that takes a record and not a message. -/
  | notRecord
  /-- It asks a logger of the given type for the member that the message names, and there is none
      to be had. -/
  | noMember (typeName name : String)
  /-- It makes a logger of a level that the message names, and there is no such level. -/
  | unknownLevel (name : String)
  deriving Repr, DecidableEq

/-- The words for a fault. -/
def LevelFault.message : LevelFault → String
  | .notCallable typeName => "'" ++ typeName ++ "' object is not callable"
  | .missingArguments member arguments =>
    "Logger." ++ member ++ "() missing " ++ arguments
  | .badArgument words => words
  | .notRecord => "'str' object has no attribute 'levelno'"
  | .noMember typeName name => "'" ++ typeName ++ "' object has no attribute '" ++ name ++ "'"
  | .unknownLevel name => "Unknown level: " ++ Text.quoted name

/-- What the name of a level asks for. -/
inductive LevelName where
  /-- To log at a level. -/
  | logs (level : Level)
  /-- To log nothing, with success. -/
  | silent
  /-- Nothing that can be done. -/
  | refused (fault : LevelFault)
  deriving Repr, DecidableEq

/-- The names that log, and at which level. -/
def levelNames : List (String × Level) :=
  [("debug", .debug), ("info", .info), ("warning", .warning), ("warn", .warning),
   ("error", .error), ("exception", .error), ("critical", .critical), ("fatal", .critical)]

/-- The logger at the top of the loggers of this library; the one above it is the root of all. -/
def topLogger : String := "secretcli"

/-- Whether a logger is the root of all. -/
def isRoot (logger : String) : Bool := logger = "" || logger = "root"

/-- The type of a logger. -/
def loggerType (logger : String) : String := if isRoot logger then "RootLogger" else "Logger"

/-- The type of the logger above a logger. The top logger of the library is one only when the
    application has asked for it, as it is taken to have done here; otherwise the root is above all
    others. -/
def parentType (logger : String) : String :=
  if logger.startsWith (topLogger ++ ".") then "Logger"
  else if isRoot logger then "NoneType"
  else "RootLogger"

/-- The members of a logger that are no levels, and why they cannot log a message. -/
def otherMembers (logger : String) : List (String × LevelFault) :=
  let tooMany (member : String) : LevelFault :=
    .badArgument (loggerType logger ++ "." ++ member ++ "() takes no arguments (1 given)")
  [("name", .notCallable "str"), ("level", .notCallable "int"),
   ("propagate", .notCallable "bool"), ("disabled", .notCallable "bool"),
   ("handlers", .notCallable "list"), ("filters", .notCallable "list"),
   ("parent", .notCallable (parentType logger)),
   ("manager", .notCallable "Manager"), ("root", .notCallable "RootLogger"),
   ("_cache", .notCallable "dict"), ("__dict__", .notCallable "dict"),
   ("__doc__", .notCallable "str"), ("__module__", .notCallable "str"),
   ("__weakref__", .notCallable "NoneType"),
   ("__getstate__", tooMany "__getstate__"), ("__init_subclass__", tooMany "__init_subclass__"),
   ("__new__", .badArgument "object.__new__(X): X is not a type object (str)"),
   ("__reduce_ex__", .badArgument "'str' object cannot be interpreted as an integer"),
   ("__setattr__", .badArgument " expected 2 arguments, got 1"),
   ("__dir__", tooMany "__dir__"), ("__sizeof__", tooMany "__sizeof__"),
   ("__repr__", .badArgument
     "Logger.__repr__() takes 1 positional argument but 2 were given"),
   ("__reduce__", .badArgument
     (loggerType logger ++ ".__reduce__() takes 1 positional argument but 2 were given")),
   ("__str__", .badArgument "expected 0 arguments, got 1"),
   ("__hash__", .badArgument "expected 0 arguments, got 1"),
   ("log", .missingArguments "log" "1 required positional argument: 'msg'"),
   ("_log", .missingArguments "_log" "2 required positional arguments: 'msg' and 'args'"),
   ("handle", .notRecord)]

/-- The members that each logger has for itself and can lose. -/
def ownMembers : List String :=
  ["__dict__", "_cache", "disabled", "filters", "handlers", "level", "manager", "name", "parent",
   "propagate"]

/-- All members of a logger. -/
def members : List String := ownMembers ++
  ["__class__", "__delattr__", "__dir__", "__doc__", "__eq__", "__format__", "__ge__",
   "__getattribute__", "__getstate__", "__gt__", "__hash__", "__init__", "__init_subclass__",
   "__le__", "__lt__", "__module__", "__ne__", "__new__", "__reduce__", "__reduce_ex__",
   "__repr__", "__setattr__", "__sizeof__", "__str__", "__subclasshook__", "__weakref__", "_log",
   "addFilter", "addHandler", "callHandlers", "critical", "debug", "error", "exception", "fatal",
   "filter", "findCaller", "getChild", "getEffectiveLevel", "handle", "hasHandlers", "info",
   "isEnabledFor", "log", "makeRecord", "removeFilter", "removeHandler", "root", "setLevel",
   "warn", "warning"]

/-- The words that name a level to a logger that is made. -/
def levelWords : List String :=
  ["CRITICAL", "FATAL", "ERROR", "WARN", "WARNING", "INFO", "DEBUG", "NOTSET"]

/-- The members of a logger for which the message decides whether they can take it. A logger is made
    with a name, but the root of all with a level. -/
def choosyMembers (logger message : String) : List (String × Option LevelFault) :=
  let make : Option LevelFault :=
    if !isRoot logger || levelWords.contains message then none else some (.unknownLevel message)
  let typeName := loggerType logger
  [("__getattribute__",
     if members.contains message then none else some (.noMember typeName message)),
   ("__delattr__",
     if ownMembers.contains message then none else some (.noMember typeName message)),
   ("__format__", if message = "" then none
     else some (.badArgument ("unsupported format string passed to " ++ typeName ++
       ".__format__"))),
   ("__class__", make), ("__init__", make)]

/-- The members of a logger that take every message and log nothing. -/
def silentMembers : List String :=
  ["filter", "__eq__", "__ne__", "__lt__", "__le__", "__gt__", "__ge__", "__subclasshook__"]

/-- A name in small letters; the sign of the kelvin is a capital too. -/
def smallLetters (name : String) : String :=
  name.map fun c => if c = '\u212A' then 'k' else c.toLower

/-- What the name of a level asks of a logger that is given a message. -/
def LevelName.ofText (logger name message : String) : LevelName :=
  let name := smallLetters name
  match levelNames.find? fun entry => entry.1 = name with
  | some entry => .logs entry.2
  | none =>
    if silentMembers.contains name then .silent
    else
      match (choosyMembers logger message).find? fun entry => entry.1 = name with
      | some (_, none) => .silent
      | some (_, some fault) => .refused fault
      | none =>
        match (otherMembers logger).find? fun entry => entry.1 = name with
        | some entry => .refused entry.2
        | none => .logs .warning

end ContractBench
