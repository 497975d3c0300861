import ScoreLexer.Command.Arguments
import ScoreLexer.Listing.Problem
import ScoreLexer.Listing.Yaml
import ScoreLexer.Settings.Basic

namespace ScoreLexer

inductive FileContent where
  | unreadable (reason : String)
  | notText
  | text (content : Text)
deriving DecidableEq, Repr

namespace FileContent

def missing : FileContent := .unreadable "No such file or directory (os error 2)"

def isFile : FileContent → Bool
  | .unreadable _ => false
  | .notText | .text _ => true

def text? : FileContent → Option Text
  | .text content => some content
  | _ => none

end FileContent

structure Surroundings where
  file : String → FileContent
  log : Option String

-- Why a task is given up. Making recognisers of a vocabulary never fails here: a bound on how large
-- a vocabulary may be, with an error of its own, is left out.
inductive CommandError where
  | unreadable (reason : String)
  | notText
  | extension (error : ExtensionError)
deriving DecidableEq, Repr

def CommandError.message : CommandError → String
  | .unreadable reason => reason
  | .notText => "stream did not contain valid UTF-8"
  | .extension error => error.message

structure Completion where
  exit : UInt8
  output : String := ""
  errors : String := ""
deriving DecidableEq, Repr

namespace Completion

def misused (message : String) : Completion := { exit := 2, errors := message }

def unconfigured : Completion := { exit := 1, errors := "Configuration error" }

end Completion

structure Transcript where
  output : String := ""
  errors : String := ""
deriving DecidableEq, Repr

namespace Transcript

def print (text : String) (transcript : Transcript) : Transcript :=
  { transcript with output := transcript.output ++ text }

def complain (text : String) (transcript : Transcript) : Transcript :=
  { transcript with errors := transcript.errors ++ text }

def report (level : LogLevel) (events : List Event) (transcript : Transcript) : Transcript :=
  let shown := events.filter fun event => level.shows event.level
  transcript.complain (String.join (shown.map Event.render))

def finish (exit : UInt8) (transcript : Transcript) : Completion :=
  ⟨exit, transcript.output, transcript.errors⟩

def fail (error : CommandError) (transcript : Transcript) : Completion :=
  (transcript.complain s!"Error: {error.message}\n").finish 1

end Transcript

namespace Settings

def defaultFile : String := "lylex.toml"

-- A path read backwards, without what only says again that it leads to a directory.
def dropDirectoryMarks : Text → Text
  | '/' :: rest => dropDirectoryMarks rest
  | '.' :: '/' :: rest => dropDirectoryMarks rest
  | ['.'] => []
  | rest => rest

-- The path with the ending of settings files added to its last part. A path whose last part is no
-- name has none.
def withEnding? (path : String) : Option String :=
  let backwards := dropDirectoryMarks path.toList.reverse
  match backwards.takeWhile (· != '/') with
  | [] | ['.', '.'] => none
  | _ => some (String.ofList backwards.reverse ++ ".toml")

-- The files in which settings are looked for under a name, the first one that exists counts.
def candidates (name : String) : List String := name :: (withEnding? name).toList

def locate (file : String → FileContent) (name : String) : Option Text := do
  let content ← ((candidates name).map file).find? FileContent.isFile
  content.text?

-- The texts of the settings files. A named file has to be there as a text, the default one is left
-- out otherwise.
def sources? (file : String → FileContent) : Option String → Option (List Text)
  | some name => (locate file name).map fun text => [text]
  | none => some (locate file defaultFile).toList

-- Only the extension can be refused. A vocabulary too large for its recognisers is no error here.
def lexer (settings : Settings) : Except ExtensionError Lexer :=
  if settings.isPlain then .ok .builtin else settings.lexicon.map Lexicon.lexer

end Settings

namespace Invocation

def overrides (invocation : Invocation) : List (Text × Text) :=
  match invocation.task with
  | .tokens _ (some format) => [("output.format".toList, format.name.toList)]
  | _ => []

def settings? (file : String → FileContent) (invocation : Invocation) : Option Settings := do
  Settings.load? (← Settings.sources? file invocation.config) invocation.overrides

-- How much is reported: what the surroundings say, or what the options say.
def logLevel (log : Option String) (invocation : Invocation) : LogLevel :=
  (log.bind LogLevel.ofName?).getD (if invocation.verbose then .debug else .off)

def files (invocation : Invocation) : List String :=
  Settings.candidates (invocation.config.getD Settings.defaultFile) ++
    match invocation.task with
    | .tokens path _ => [path]
    | .check paths => paths
    | .words _ => []

end Invocation

structure Workshop where
  file : String → FileContent
  settings : Settings
  level : LogLevel

namespace Workshop

-- The events of getting the lexer. The built-in one is prepared once for the whole run.
def preparation (workshop : Workshop) (first : Bool) : List Event :=
  if first || !workshop.settings.isPlain then [.preparedLexer] else []

def openDocument (workshop : Workshop) (path : String) :
    Except CommandError (Lexer × Document) :=
  match workshop.file path with
  | .unreadable reason => .error (.unreadable reason)
  | .notText => .error .notText
  | .text content => do
      let lexer ← workshop.settings.lexer.mapError .extension
      return (lexer, Document.lex lexer .toplevel content)

def listing (workshop : Workshop) (records : List Record) : String :=
  match workshop.settings.format with
  | .text => Record.listText records
  | .json => Record.listJson records
  | .yaml => Record.listYaml records

def tokens (workshop : Workshop) (path : String) : Completion :=
  let start : Transcript := {}
  match workshop.openDocument path with
  | .error error => start.fail error
  | .ok (lexer, document) =>
      let transcript := start.report workshop.level
        (workshop.preparation true ++ document.events lexer)
      let listed := transcript.print (workshop.listing document.records)
      let noted :=
        if document.isUnterminated then
          listed.complain s!"{path}: input ends inside {document.final.render}\n"
        else listed
      noted.finish 0

-- Report what is wrong with some files, given whether the files before them are clean.
def check (workshop : Workshop) (first clean : Bool) (transcript : Transcript) :
    List String → Completion
  | [] => transcript.finish (if clean then 0 else 1)
  | path :: paths =>
      match workshop.openDocument path with
      | .error error => transcript.fail error
      | .ok (lexer, document) =>
          let reported := transcript.report workshop.level
            (workshop.preparation first ++ document.events lexer)
          let problems := document.problems
          let printed := reported.print (String.join (problems.map (Problem.render path)))
          workshop.check false (clean && problems.isEmpty) printed paths

def words (workshop : Workshop) (category : Category) : Completion :=
  let start : Transcript := {}
  let extended :=
    if workshop.settings.isPlain then .ok Lexicon.builtin else workshop.settings.lexicon
  match extended with
  | .error error => start.fail (.extension error)
  | .ok lexicon =>
      let transcript := start.report workshop.level (workshop.preparation true)
      let lines := (lexicon.words category).map fun word => word ++ "\n"
      (transcript.print (String.join lines)).finish 0

def perform (workshop : Workshop) : Task → Completion
  | .tokens path _ => workshop.tokens path
  | .check paths => workshop.check true true {} paths
  | .words category => workshop.words category

end Workshop

def Invocation.run (surroundings : Surroundings) (invocation : Invocation) : Completion :=
  match invocation.settings? surroundings.file with
  | none => .unconfigured
  | some settings =>
      let level := invocation.logLevel surroundings.log
      { file := surroundings.file, settings, level : Workshop }.perform invocation.task

namespace Command

def version : String := "lylex 0.1.0\n"

def usage : String :=
  "A context-sensitive lexer for LilyPond files\n\n" ++
    "Usage: lylex [OPTIONS] <COMMAND>\n\n" ++
    "Commands:\n" ++
    "  tokens  List the tokens of a file, one per line\n" ++
    "  check   Report error tokens and unterminated constructs\n" ++
    "  words   Print the words of a lexicon category\n" ++
    "  help    Print this message or the help of the given subcommand(s)\n\n" ++
    "Options:\n" ++
    "  -c, --config <config>  Configuration file layered over the defaults " ++
    "(default: ./lylex.toml if present)\n" ++
    "  -v, --verbose          Log lexer activity to stderr\n" ++
    "  -h, --help             Print help\n" ++
    "  -V, --version          Print version\n"

def run (surroundings : Surroundings) (arguments : List String) : Completion :=
  match Request.ofArguments arguments with
  | .misuse => .misused usage
  | .help => { exit := 0, output := usage }
  | .version => { exit := 0, output := version }
  | .run invocation => invocation.run surroundings

end Command

end ScoreLexer
