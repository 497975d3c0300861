import ScoreLexer.Lexicon.Category
import ScoreLexer.Listing.Format
import ScoreLexer.Text.Basic

namespace ScoreLexer

inductive TaskName where
  | tokens | check | words
deriving DecidableEq, Repr

namespace TaskName

def all : List TaskName := [.tokens, .check, .words]

def name : TaskName → String
  | .tokens => "tokens"
  | .check => "check"
  | .words => "words"

def ofName? (name : String) : Option TaskName := all.find? fun task => task.name == name

end TaskName

inductive Task where
  | tokens (path : String) (format : Option OutputFormat)
  | check (paths : List String)
  | words (category : Category)
deriving DecidableEq, Repr

structure Invocation where
  task : Task
  -- the file with the settings
  config : Option String
  verbose : Bool
deriving DecidableEq, Repr

inductive Request where
  | run (invocation : Invocation)
  | version
  | help
  | misuse
deriving DecidableEq, Repr

namespace Arguments

inductive Flag where
  | config | format | verbose | help | version
deriving DecidableEq, Repr

namespace Flag

def name : Flag → String
  | .config => "config"
  | .format => "format"
  | .verbose => "verbose"
  | .help => "help"
  | .version => "version"

def letter : Flag → Char
  | .config => 'c'
  | .format => 'f'
  | .verbose => 'v'
  | .help => 'h'
  | .version => 'V'

def takesValue : Flag → Bool
  | .config | .format => true
  | _ => false

-- The options that may stand after the name of a task, or in front of every name.
def allowed : Option TaskName → List Flag
  | none => [.config, .verbose, .help, .version]
  | some .tokens => [.config, .verbose, .help, .format]
  | some _ => [.config, .verbose, .help]

end Flag

inductive Look where
  | value (text : String)
  -- what ends the options
  | divider
  | long (name : String) (attached : Option String)
  | cluster (letters : Text)
deriving DecidableEq, Repr

def Look.of (argument : String) : Look :=
  match argument.toList with
  | ['-', '-'] => .divider
  | '-' :: '-' :: body =>
      let name := String.ofList (body.takeWhile (· != '='))
      match body.dropWhile (· != '=') with
      | [] => .long name none
      | _ :: attached => .long name (some (String.ofList attached))
  | '-' :: letter :: more => .cluster (letter :: more)
  | _ => .value argument

-- What is given on one side of the task's name.
structure Side where
  config : Option String := none
  verbose : Bool := false
  format : Option OutputFormat := none
  values : List String := []

namespace Side

-- On either side of the task's name an option is given at most once.
def setValue (flag : Flag) (value : String) (side : Side) : Except Request Side :=
  match flag with
  | .config =>
      if side.config.isSome then .error .misuse else .ok { side with config := some value }
  | .format =>
      match OutputFormat.ofName? value with
      | none => .error .misuse
      | some format =>
          if side.format.isSome then .error .misuse else .ok { side with format := some format }
  | _ => .error .misuse

def raise (flag : Flag) (side : Side) : Except Request Side :=
  match flag with
  | .verbose => if side.verbose then .error .misuse else .ok { side with verbose := true }
  | .help => .error .help
  | .version => .error .version
  | _ => .error .misuse

def addValue (task : TaskName) (value : String) (side : Side) : Except Request Side :=
  let fits : Bool := match task with
    | .tokens => side.values.isEmpty
    | .check => true
    | .words => side.values.isEmpty && (Category.ofName? value).isSome
  if fits then .ok { side with values := side.values ++ [value] } else .error .misuse

-- Take an option in its long form. The result names the option when its value is still to come.
def takeLong (place : Option TaskName) (name : String) (attached : Option String) (side : Side) :
    Except Request (Side × Option Flag) :=
  match (Flag.allowed place).find? fun flag => flag.name == name with
  | none => .error .misuse
  | some flag =>
      match flag.takesValue, attached with
      | true, none => .ok (side, some flag)
      | true, some value => (side.setValue flag value).map (·, none)
      | false, none => (side.raise flag).map (·, none)
      | false, some _ => .error .misuse

-- Take the short forms of some options. What follows the letter of an option with a value is
-- the value, after an equals sign or not.
def takeCluster (place : Option TaskName) : Text → Side → Except Request (Side × Option Flag)
  | [], side => .ok (side, none)
  | letter :: more, side =>
      match (Flag.allowed place).find? fun flag => flag.letter == letter with
      | none => .error .misuse
      | some flag =>
          match flag.takesValue, more with
          | true, [] => .ok (side, some flag)
          | true, '=' :: value => (side.setValue flag (String.ofList value)).map (·, none)
          | true, value => (side.setValue flag (String.ofList value)).map (·, none)
          | false, more => do takeCluster place more (← side.raise flag)

end Side

-- An option that waits for its value takes the next argument, which must not look like an option.
def readTask (task : TaskName) (waiting : Option Flag) (side : Side) :
    List String → Except Request Side
  | [] => if waiting.isSome then .error .misuse else .ok side
  | argument :: more =>
      match waiting, Look.of argument with
      | some flag, .value value => do readTask task none (← side.setValue flag value) more
      | some _, _ => .error .misuse
      | none, .value value => do readTask task none (← side.addValue task value) more
      | none, .divider => more.foldlM (fun side value => side.addValue task value) side
      | none, .long name attached => do
          let (side, waiting) ← side.takeLong (some task) name attached
          readTask task waiting side more
      | none, .cluster letters => do
          let (side, waiting) ← side.takeCluster (some task) letters
          readTask task waiting side more

-- Settings named after the task win over settings named before it.
def invocation? (task : TaskName) (before after : Side) : Option Invocation := do
  let task ← match task, after.values with
    | .tokens, [path] => some (Task.tokens path after.format)
    | .check, path :: paths => some (.check (path :: paths))
    | .words, [name] => (Category.ofName? name).map .words
    | _, _ => none
  return { task, config := after.config <|> before.config,
           verbose := before.verbose || after.verbose }

def settle : Except Request (Option Invocation) → Request
  | .ok (some invocation) => .run invocation
  | .ok none => .misuse
  | .error request => request

def readHelp : List String → Request
  | [] => .help
  | [name] => if (TaskName.ofName? name).isSome || name == "help" then .help else .misuse
  | _ => .misuse

def readFront (waiting : Option Flag) (side : Side) : List String → Request
  | [] => .misuse
  | argument :: more =>
      match waiting, Look.of argument with
      | some flag, .value value =>
          match side.setValue flag value with
          | .ok side => readFront none side more
          | .error request => request
      | some _, _ => .misuse
      | none, .value "help" => readHelp more
      | none, .value name =>
          match TaskName.ofName? name with
          | none => .misuse
          | some task => settle ((readTask task none {} more).map (invocation? task side))
      | none, .divider => .misuse
      | none, .long name attached =>
          match side.takeLong none name attached with
          | .ok (side, waiting) => readFront waiting side more
          | .error request => request
      | none, .cluster letters =>
          match side.takeCluster none letters with
          | .ok (side, waiting) => readFront waiting side more
          | .error request => request

end Arguments

-- Arguments are read from left to right, and the first thing that is wrong, or that asks for help
-- or for the version, decides.
def Request.ofArguments (arguments : List String) : Request :=
  Arguments.readFront none {} arguments

end ScoreLexer
