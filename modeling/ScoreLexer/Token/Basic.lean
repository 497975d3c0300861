import ScoreLexer.Text.Quoted
import ScoreLexer.Token.Capability
import ScoreLexer.Token.Numeric

namespace ScoreLexer

structure Token where
  kind : Kind
  text : Text
  -- byte offset of the text
  position : Nat
deriving DecidableEq, Repr

namespace Token

def finish (token : Token) : Nat := token.position + token.text.byteSize

def shift (offset : Nat) (token : Token) : Token :=
  { token with position := token.position + offset }

def numeric? (token : Token) : Option NumericValue :=
  if token.kind.isNumeric then some (NumericValue.parse token.text) else none

def summary (token : Token) : String :=
  s!"{token.kind.name}({String.ofList (Text.quoted token.text)})"

def render (token : Token) : String := s!"{token.summary}@{token.position}"

-- Tokens of the given kinds and texts, one right after the other.
def consecutive (start : Nat) : List (Kind × Text) → List Token
  | [] => []
  | (kind, text) :: more => ⟨kind, text, start⟩ :: consecutive (start + text.byteSize) more

end Token

def summarize (tokens : List Token) : String := " ".intercalate (tokens.map Token.summary)

end ScoreLexer
