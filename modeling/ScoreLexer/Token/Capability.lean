import ScoreLexer.Token.Kind

namespace ScoreLexer

inductive Capability where
  | space | comment | string | stringStart | stringEnd | numeric | error
  | indent | dedent | matchStart | matchEnd
  -- leaves its context unconditionally
  | leaver
deriving DecidableEq, Repr

namespace Capability

-- All capabilities, lowest bit first.
def all : List Capability :=
  [.space, .comment, .string, .stringStart, .stringEnd, .numeric, .error, .indent, .dedent,
   .matchStart, .matchEnd, .leaver]

def name : Capability → String
  | .space => "space"
  | .comment => "comment"
  | .string => "string"
  | .stringStart => "string-start"
  | .stringEnd => "string-end"
  | .numeric => "numeric"
  | .error => "error"
  | .indent => "indent"
  | .dedent => "dedent"
  | .matchStart => "match-start"
  | .matchEnd => "match-end"
  | .leaver => "leaver"

def bit : Capability → UInt16
  | .space => 1
  | .comment => 2
  | .string => 4
  | .stringStart => 8
  | .stringEnd => 16
  | .numeric => 32
  | .error => 64
  | .indent => 128
  | .dedent => 256
  | .matchStart => 512
  | .matchEnd => 1024
  | .leaver => 2048

end Capability

structure Capabilities where
  bits : UInt16
deriving DecidableEq, Repr

namespace Capabilities

def ofList (list : List Capability) : Capabilities :=
  ⟨list.foldl (fun bits capability => bits ||| capability.bit) 0⟩

def isEmpty (capabilities : Capabilities) : Bool := capabilities.bits == 0

def contains (capabilities other : Capabilities) : Bool :=
  capabilities.bits &&& other.bits == other.bits

def union (capabilities other : Capabilities) : Capabilities :=
  ⟨capabilities.bits ||| other.bits⟩

def has (capabilities : Capabilities) (capability : Capability) : Bool :=
  capabilities.contains ⟨capability.bit⟩

def names (capabilities : Capabilities) : List String :=
  (Capability.all.filter capabilities.has).map Capability.name

def render (capabilities : Capabilities) : String := "|".intercalate capabilities.names

end Capabilities

-- What an opening delimiter and its closing counterpart have in common.
inductive MatchTag where
  | bracket | simultaneous | slur | phrasingSlur | beam | ligature
deriving DecidableEq, Repr

namespace MatchTag

def all : List MatchTag := [.bracket, .simultaneous, .slur, .phrasingSlur, .beam, .ligature]

def name : MatchTag → String
  | .bracket => "bracket"
  | .simultaneous => "simultaneous"
  | .slur => "slur"
  | .phrasingSlur => "phrasingslur"
  | .beam => "beam"
  | .ligature => "ligature"

def ofName? (name : String) : Option MatchTag := all.find? fun tag => tag.name == name

end MatchTag

namespace Kind

def capabilityList : Kind → List Capability
  | .space => [.space]
  | .blockCommentSpace => [.comment, .space]
  | .comment | .lineComment | .schemeComment => [.comment]
  | .blockCommentStart => [.comment, .indent]
  | .blockCommentEnd => [.comment, .dedent, .leaver]
  | .string | .stringQuoteEscape | .repeatStringSpecifier => [.string]
  | .stringQuotedStart => [.string, .stringStart]
  | .stringQuotedEnd => [.string, .stringEnd]
  | .decimalValue | .fraction | .schemeNumber => [.numeric]
  | .repeatCount => [.numeric, .leaver]
  | .error | .errorInChord => [.error]
  | .openBracket | .openBracketMarkup | .sequentialStart | .openSimultaneous
  | .simultaneousStart => [.matchStart, .indent]
  | .closeBracket | .closeBracketMarkup | .sequentialEnd | .closeSimultaneous
  | .simultaneousEnd => [.matchEnd, .dedent]
  | .slurStart | .phrasingSlurStart | .beamStart | .ligatureStart => [.matchStart]
  | .slurEnd | .phrasingSlurEnd | .beamEnd | .ligatureEnd => [.matchEnd]
  | .chordEnd | .scriptAbbreviation => [.leaver]
  | .schemeOpenParen | .schemeLilyPondStart => [.indent]
  | .schemeCloseParen | .schemeLilyPondEnd => [.dedent]
  | _ => []

def capabilities (kind : Kind) : Capabilities := .ofList kind.capabilityList

def isSpace (kind : Kind) : Bool := kind.capabilities.has .space

def isComment (kind : Kind) : Bool := kind.capabilities.has .comment

def isError (kind : Kind) : Bool := kind.capabilities.has .error

def isNumeric (kind : Kind) : Bool := kind.capabilities.has .numeric

def isMatchStart (kind : Kind) : Bool := kind.capabilities.has .matchStart

def isMatchEnd (kind : Kind) : Bool := kind.capabilities.has .matchEnd

def matchTag? : Kind → Option MatchTag
  | .openBracket | .closeBracket | .openBracketMarkup | .closeBracketMarkup
  | .sequentialStart | .sequentialEnd => some .bracket
  | .openSimultaneous | .closeSimultaneous | .simultaneousStart
  | .simultaneousEnd => some .simultaneous
  | .slurStart | .slurEnd => some .slur
  | .phrasingSlurStart | .phrasingSlurEnd => some .phrasingSlur
  | .beamStart | .beamEnd => some .beam
  | .ligatureStart | .ligatureEnd => some .ligature
  | _ => none

-- How a token of this kind changes the indentation: 1 opens a block, -1 closes one.
def indentDelta (kind : Kind) : Int :=
  match kind.capabilities.has .indent, kind.capabilities.has .dedent with
  | true, false => 1
  | false, true => -1
  | _, _ => 0

end Kind

end ScoreLexer
