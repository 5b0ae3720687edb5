import FaultResponse.OrderedMap
import FaultResponse.Text.Case
import FaultResponse.Handling
import FaultResponse.Service.LogConfig
/-! # Settings — what an operator configures

    Every setting has a default and a name in the environment, which is read in
    any case.  Texts are taken as they are.  A truth value is one of six words
    for each side, in any case and without blanks around it; any other word is
    reported with the name of its setting. -/

namespace FaultResponse

/-- The configuration of the service. -/
structure Settings where
  projectName : String := "errorshield"
  version : String := "0.1.0"
  debug : Bool := false
  logLevel : Option String := some "INFO"
  libraryLogLevel : Option String := none
  accessDenied : String := "Access is denied"
  fallback : String := "Internal Server Error"
  guidanceEnabled : Bool := true
  deriving DecidableEq, Repr

namespace Settings

/-- The words for true. -/
def trueWords : List String := ["1", "on", "t", "true", "y", "yes"]

/-- The words for false. -/
def falseWords : List String := ["0", "off", "f", "false", "n", "no"]

/-- The truth value of a word. -/
def truth? (word : String) : Option Bool :=
  if trueWords.contains (Text.lower word) then some true
  else if falseWords.contains (Text.lower word) then some false
  else none

/-- What every name in the environment begins with. -/
def variableStem : String := "errorshield_"

/-- The environment under names in small letters; of two names that differ in case
    only, the later one counts. -/
def fold (environment : List (String × String)) : OrderedMap String String :=
  OrderedMap.ofPairs (environment.map fun v => (Text.lower v.1, v.2))

/-- The value of a setting in the environment. -/
def given (environment : OrderedMap String String) (setting : String) : Option String :=
  environment.get? (variableStem ++ setting)

/-- A truth value in the environment: its default when it is absent, nothing when
    it is no truth value. -/
def givenTruth (environment : OrderedMap String String) (setting : String) (default : Bool) :
    Option Bool :=
  match given environment setting with
  | none => some default
  | some word => truth? word

/-- The settings that an environment describes, or the names of those that are no
    truth values, in alphabetical order. -/
def ofEnvironment (environment : List (String × String)) : Except (List String) Settings :=
  let env := fold environment
  let defaults : Settings := {}
  let guidance := givenTruth env "additional_messages_enabled" defaults.guidanceEnabled
  let debug := givenTruth env "debug" defaults.debug
  match guidance, debug with
  | some guidance, some debug =>
    .ok
      { projectName := (given env "project_name").getD defaults.projectName
        version := (given env "version").getD defaults.version
        debug := debug
        logLevel := (given env "log_level").or defaults.logLevel
        libraryLogLevel := (given env "translation_log_level").or defaults.libraryLogLevel
        accessDenied := (given env "access_denied_message").getD defaults.accessDenied
        fallback := (given env "fallback_error_message").getD defaults.fallback
        guidanceEnabled := guidance }
  | none, some _ => .error ["additional_messages_enabled"]
  | some _, none => .error ["debug"]
  | none, none => .error ["additional_messages_enabled", "debug"]

/-- The levels that the settings name. -/
def logConfig (s : Settings) : LogConfig :=
  .ofNames s.logLevel s.libraryLogLevel

/-- The classifier that the settings describe; guidance counts only if it is enabled. -/
def classifier (s : Settings) (g : Guidance) : Classifier where
  decorator := .guidance (if s.guidanceEnabled then g else {})
  accessDenied := s.accessDenied
  fallback := s.fallback

/-- The judge that the settings describe; it uses the shared registry. -/
def judge (s : Settings) (g : Guidance) : Judge :=
  .classifier (s.classifier g) .shared

end Settings

end FaultResponse
