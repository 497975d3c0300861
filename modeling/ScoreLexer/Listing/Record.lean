import ScoreLexer.Document.Basic
import ScoreLexer.Json.Basic

namespace ScoreLexer

structure Record where
  line : Nat
  column : Nat
  token : Token
deriving DecidableEq, Repr

-- Columns are counted in characters from one. An offset inside a character has none.
def columnAt (line : Text) (offset : Nat) : Nat :=
  match line.splitAtByte? offset with
  | some (front, _) => front.length + 1
  | none => 0

def Line.records (number : Nat) (line : Line) : List Record :=
  line.tokens.map fun token => ⟨number, columnAt line.text token.position, token⟩

def recordsFrom (number : Nat) : List Line → List Record
  | [] => []
  | line :: below => line.records number ++ recordsFrom (number + 1) below

def Document.records (document : Document) : List Record := recordsFrom 1 document.lines

namespace Record

def quotedText (record : Record) : String := String.ofList (Text.quoted record.token.text)

def render (record : Record) : String :=
  s!"{record.line}:{record.column}\t{record.token.kind.name}\t{record.quotedText}\n"

-- The record as an object. Capabilities are left out when there are none.
def toJson (record : Record) : Json :=
  let token := record.token
  let capabilities := token.kind.capabilities.names.map fun name => Json.ofText name.toList
  .object
    ([Json.member "line" (.ofNat record.line), Json.member "column" (.ofNat record.column),
      Json.member "kind" (.ofText token.kind.name.toList),
      Json.member "text" (.ofText token.text)] ++
      if capabilities.isEmpty then [] else [Json.member "capabilities" (.array capabilities)])

def listText (records : List Record) : String := String.join (records.map render)

def listJson (records : List Record) : String :=
  String.ofList ((Json.array (records.map toJson)).pretty 0 ++ ['\n'])

end Record

end ScoreLexer
