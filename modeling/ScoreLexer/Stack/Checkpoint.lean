import ScoreLexer.Json.Reader
import ScoreLexer.Stack.Basic

namespace ScoreLexer.Checkpoint

def ofFrame (frame : Frame) : Json :=
  .object [Json.member "id" (.ofText frame.context.name.toList),
    Json.member "argcount" (.ofNat frame.pending)]

def ofStack (stack : Stack) : Json :=
  .object [Json.member "frames" (.array (stack.frames.map ofFrame))]

def print (stack : Stack) : Text := (ofStack stack).compact

inductive Error where
  | malformed
  | refused (error : StackError)
deriving DecidableEq, Repr

def Error.message? : Error → Option String
  | .malformed => none
  | .refused error => some error.message

-- What the members of an object say about the given keys, in that order. Every key must be
-- there exactly once.
def fields? (keys : List String) (members : List (Text × Json)) : Option (List Json) := do
  let decoded ← members.mapM fun (key, value) => (Json.decodeString? key).map (·, value)
  keys.mapM fun key =>
    match decoded.filter fun entry => entry.1 == key.toList with
    | [(_, value)] => some value
    | _ => none

-- An object, or a list with the fields in the given order. Members of an object that are not asked
-- for are ignored.
def record? (keys : List String) : Json → Option (List Json)
  | .object members => fields? keys members
  | .array items => if items.length = keys.length then some items else none
  | _ => none

def named? (written : Text) : Option Context := do
  Context.ofName? (String.ofList (← Json.decodeString? written))

-- A name, or an object with the name as its only key.
def context? : Json → Option Context
  | .string written => named? written
  | .object [(key, .null)] => named? key
  | _ => none

-- A number of arguments: a whole number of 32 bits.
def count? : Json → Option Nat
  | .number written =>
      if written.all Text.isAsciiDigit then
        let n := written.foldl (fun n c => 10 * n + (c.toNat - '0'.toNat)) 0
        if n < 0x100000000 then some n else none
      else none
  | _ => none

def frame? (json : Json) : Option Frame := do
  match ← record? ["id", "argcount"] json with
  | [id, count] => return ⟨← context? id, ← count? count⟩
  | _ => none

def frames? (json : Json) : Option (List Frame) := do
  match ← record? ["frames"] json with
  | [.array items] => items.mapM frame?
  | _ => none

-- The stack that a text describes. Blanks may surround the description, and nothing else may.
def parse (text : Text) : Except Error Stack :=
  match Json.read? text with
  | none => .error .malformed
  | some (json, rest) =>
      match frames? json with
      | none => .error .malformed
      | some frames =>
          match Stack.ofFrames frames with
          | .error error => .error (.refused error)
          | .ok stack => if (Json.skipBlank rest).isEmpty then .ok stack else .error .malformed

end ScoreLexer.Checkpoint
