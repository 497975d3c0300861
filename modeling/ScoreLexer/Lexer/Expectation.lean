import ScoreLexer.Lexer.Basic

namespace ScoreLexer

structure Lexed where
  text : Text
  start : Stack
  run : Run

def Lexer.lexed (lexer : Lexer) (start : Stack) (text : Text) : Lexed :=
  ⟨text, start, lexer.lex start text⟩

-- Whether tokens follow each other without a gap from one byte offset to another, none of
-- them empty.
def covers (start finish : Nat) : List Token → Bool
  | [] => start == finish
  | token :: more =>
      token.position == start && !token.text.isEmpty && covers token.finish finish more

-- Whether every closing delimiter closes the innermost open one of its tag and none stays
-- open. The tags that are open already come innermost first.
def balanced (pending : List MatchTag) : List Kind → Bool
  | [] => pending.isEmpty
  | kind :: more =>
      match kind.matchTag? with
      | none => balanced pending more
      | some tag =>
          if kind.isMatchStart then balanced (tag :: pending) more
          else if kind.isMatchEnd then
            match pending with
            | [] => false
            | innermost :: outer => innermost == tag && balanced outer more
          else balanced pending more

inductive Expectation where
  | count (number : Nat)
  | kinds (expected : List Kind)
  | texts (pairs : List (Kind × Text))
  | token (index : Nat) (token : Token) (tag : Option MatchTag) (capabilities : Capabilities)
  | noErrors
  | coversText
  | balancedTags
  | finalDepth (depth : Nat)
  | finalTop (context : Context)
  | returnsToStart

-- Whether the expectation is met. Blanks may be left out of account where tokens are listed
-- or counted.
def Expectation.holds (lexed : Lexed) (skipSpace : Bool) : Expectation → Bool
  | .count number => visible.length == number
  | .kinds expected => visible.map Token.kind == expected
  | .texts pairs => (visible.map fun token => (token.kind, token.text)) == pairs
  | .token index expected tag capabilities =>
      match visible[index]? with
      | none => false
      | some found =>
          found == expected && found.kind.matchTag? == tag &&
            found.kind.capabilities.contains capabilities
  | .noErrors => tokens.all fun token => !token.kind.isError
  | .coversText => covers 0 lexed.text.byteSize tokens
  | .balancedTags => balanced [] (tokens.map Token.kind)
  | .finalDepth depth => lexed.run.final.depth == depth
  | .finalTop context => lexed.run.final.top.context == context
  | .returnsToStart => lexed.run.final == lexed.start
where
  tokens : List Token := lexed.run.tokens
  visible : List Token := tokens.filter fun token => !(skipSpace && token.kind == .space)

end ScoreLexer
