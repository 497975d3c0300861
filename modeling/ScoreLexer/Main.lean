import ScoreLexer.Command.Basic

namespace ScoreLexer

-- A failure of the system with its number, which may come negated.
def describe (code : UInt32) (details : String) : String :=
  let number := code.toInt32.toInt.natAbs
  s!"{details.capitalize} (os error {number})"

def reasonOf : IO.Error → String
  | .noFileOrDirectory _ code details => describe code details
  | .permissionDenied _ code details => describe code details
  | .inappropriateType _ code details => describe code details
  | error => error.toString

def readFile (path : String) : IO FileContent := do
  try
    match String.fromUTF8? (← IO.FS.readBinFile path) with
    | some text => return .text text.toList
    | none => return .notText
  catch error => return .unreadable (reasonOf error)

-- All files that a command line may need are read before the program runs.
def gatherFiles (arguments : List String) : IO (List (String × FileContent)) :=
  match Request.ofArguments arguments with
  | .run invocation => invocation.files.mapM fun path => return (path, ← readFile path)
  | _ => return []

end ScoreLexer

open ScoreLexer in
def main (arguments : List String) : IO UInt32 := do
  let files ← gatherFiles arguments
  let completion := Command.run
    { file := fun path => (files.lookup path).getD .missing, log := ← IO.getEnv "LYLEX_LOG" }
    arguments
  IO.print completion.output
  IO.eprint completion.errors
  -- end the last line when the message leaves it open
  if (completion.errors.toList.getLast?).any (· != '\n') then IO.eprintln ""
  return completion.exit.toUInt32
