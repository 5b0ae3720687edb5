import FaultResponse.Text.Case
/-! # Log configuration — which records are printed, and how

    Levels are numbers, and some numbers have names.  Two names are configured:
    one for the root of all loggers, one for the loggers of this library.  A few
    noisy loggers are held at WARNING.  A logger without a level of its own takes
    the one of the nearest logger above it that has one.

    Which loggers stand above a name is found by cutting it back at its dots, from
    the right.  A cut leads to a logger only if that logger exists: it has a level,
    or something was logged under its name before.  From a name that does not exist
    the search goes on without its last character, so of two dots in a row the left
    one is passed over. -/

namespace FaultResponse

namespace LogConfig

/-- The level names and their numbers. -/
def levelNames : List (String × Int) :=
  [("CRITICAL", 50), ("FATAL", 50), ("ERROR", 40), ("WARN", 30), ("WARNING", 30),
   ("INFO", 20), ("DEBUG", 10), ("NOTSET", 0)]

/-- The number of a level name in any case; an absent, empty or unknown name gives
    the default. -/
def level (name : Option String) (default : Int) : Int :=
  match name with
  | none => default
  | some s => (levelNames.lookup (Text.upper s)).getD default

/-- How a level is printed. -/
def levelLabel (n : Int) : String :=
  match n with
  | 50 => "CRITICAL"
  | 40 => "ERROR"
  | 30 => "WARNING"
  | 20 => "INFO"
  | 10 => "DEBUG"
  | 0 => "NOTSET"
  | n => "Level " ++ toString n

/-- The logger above all loggers of this library. -/
def libraryLogger : String := "errorshield"

/-- The logger above all loggers. -/
def rootLogger : String := "root"

/-- The loggers that repeat what is logged elsewhere. -/
def quietLoggers : List String :=
  ["uvicorn.access", "httpx", "httpcore"]

/-- The level of the quiet loggers. -/
def quietLevel : Int := 30

/-- The root level when none is named. -/
def defaultLevel : Int := 20

end LogConfig

/-- The configured levels. -/
structure LogConfig where
  root : Int
  library : Int
  deriving DecidableEq, Repr

namespace LogConfig

/-- Configure by names; the library follows the root unless it has a name of its own. -/
def ofNames (rootName libraryName : Option String) : LogConfig :=
  let root := level rootName defaultLevel
  ⟨root, level libraryName root⟩

variable (c : LogConfig)

/-- The level that a logger has itself; zero is none. -/
def ownLevel (name : String) : Int :=
  if name = libraryLogger then c.library
  else if quietLoggers.contains name then quietLevel
  else 0

/-- Whether a logger exists, when something was logged under the given names. -/
def hasLogger (used : List String) (name : String) : Bool :=
  decide (c.ownLevel name ≠ 0) || used.contains name

/-- The level of the nearest logger above a name that has one; the name is reversed. -/
def levelAbove (used : List String) : List Char → Int
  | [] | ['.'] => c.root
  | '.' :: last :: shorter =>
    let name := String.ofList (last :: shorter).reverse
    if c.hasLogger used name then
      if c.ownLevel name ≠ 0 then c.ownLevel name else levelAbove used (last :: shorter)
    else levelAbove used shorter
  | _ :: rest => levelAbove used rest

/-- Whether a name is that of the logger above all loggers. -/
def isRoot (name : String) : Bool :=
  name.isEmpty || name == rootLogger

/-- The level that counts for a logger. -/
def effectiveLevel (used : List String) (name : String) : Int :=
  if isRoot name then c.root
  else if c.ownLevel name ≠ 0 then c.ownLevel name
  else c.levelAbove used name.toList.reverse

/-- Whether a level is enabled for a logger; records need a positive one. -/
def enables (used : List String) (name : String) (n : Int) : Bool :=
  decide (0 < n) && decide (c.effectiveLevel used name ≤ n)

/-- The name under which a logger prints. -/
def printedName (name : String) : String :=
  if name.isEmpty then rootLogger else name

/-- One record, line by line. -/
def printed (now : String) (name : String) (n : Int) (text : String) : List String :=
  (now ++ " " ++ levelLabel n ++ " [" ++ printedName name ++ "] " ++ text).splitOn "\n"

end LogConfig

/-! ## Logging -/

/-- What logging leaves behind: the names under which something was logged, and for
    each logger and level whether it was found enabled. -/
structure LogHistory where
  used : List String := []
  decided : List ((String × Int) × Bool) := []

namespace LogHistory

/-- The history after something was logged under a name. -/
def use (h : LogHistory) (name : String) : LogHistory :=
  if LogConfig.isRoot name then h else { h with used := name :: h.used }

/-- Whether a level is enabled for a logger.  The first answer is final: loggers that
    come to exist later do not change it. -/
def enables (h : LogHistory) (c : LogConfig) (name : String) (n : Int) : Bool :=
  (h.decided.lookup (name, n)).getD (c.enables h.used name n)

/-- Keep an answer. -/
def settle (h : LogHistory) (name : String) (n : Int) (enabled : Bool) : LogHistory :=
  { h with decided := ((name, n), enabled) :: h.decided }

end LogHistory

/-- The lines that records print one after another. -/
def LogConfig.lines (c : LogConfig) (now : String) (h : LogHistory) :
    List (String × Int × String) → List String
  | [] => []
  | (name, n, text) :: rest =>
    let h := h.use name
    let enabled := h.enables c name n
    (if enabled then LogConfig.printed now name n text else [])
      ++ c.lines now (h.settle name n enabled) rest

end FaultResponse
