import ScoreLexer.Lexer.Journal

namespace ScoreLexer

-- A line with its tokens, whose positions are counted from the start of the line.
structure Line where
  text : Text
  tokens : List Token
  start : Stack
  final : Stack
deriving DecidableEq

def Line.lex (lexer : Lexer) (start : Stack) (text : Text) : Line :=
  let run := lexer.lex start text
  { text, tokens := run.tokens, start, final := run.final }

structure Document where
  initial : Stack
  lines : List Line
deriving DecidableEq

inductive EditError where
  | lineOutOfRange (index lines : Nat)
  | severalLines (index : Nat)
deriving DecidableEq, Repr

def EditError.message : EditError → String
  | .lineOutOfRange index lines =>
      s!"line {index} is out of range for a document of {lines} line(s)"
  | .severalLines index => s!"replacement text for line {index} spans more than one line"

namespace Document

-- Lex lines one after the other, each from the stack the one before ended with.
def lexLines (lexer : Lexer) : Stack → List Text → List Line
  | _, [] => []
  | stack, text :: texts =>
      let line := Line.lex lexer stack text
      line :: lexLines lexer line.final texts

def ofTexts (lexer : Lexer) (initial : Stack) (texts : List Text) : Document :=
  ⟨initial, lexLines lexer initial texts⟩

def lex (lexer : Lexer) (initial : Stack) (text : Text) : Document :=
  ofTexts lexer initial text.lines

def texts (document : Document) : List Text := document.lines.map Line.text

def text (document : Document) : Text := document.texts.flatten

def final (document : Document) : Stack :=
  match document.lines.getLast? with
  | some line => line.final
  | none => document.initial

def isUnterminated (document : Document) : Bool :=
  document.initial.depth < document.final.depth

def tokensFrom (offset : Nat) : List Line → List Token
  | [] => []
  | line :: below =>
      line.tokens.map (Token.shift offset) ++ tokensFrom (offset + line.text.byteSize) below

-- All tokens, with positions counted from the start of the document.
def tokens (document : Document) : List Token := tokensFrom 0 document.lines

-- Lex a new text for a line from the given stack, and then the lines below it as long as the
-- stacks between them change. The result has the new lines and how many of them were lexed.
def relex (lexer : Lexer) (start : Stack) (text : Text) (previous : Line) :
    List Line → List Line × Nat
  | [] => ([Line.lex lexer start text], 1)
  | next :: below =>
      let line := Line.lex lexer start text
      if line.final = previous.final then (line :: next :: below, 1)
      else
        let (lines, count) := relex lexer line.final next.text next below
        (line :: lines, count + 1)

-- Whether the text has a newline anywhere but at its end.
def spansLines (text : Text) : Bool :=
  match text.reverse with
  | '\n' :: front => front.contains '\n'
  | front => front.contains '\n'

def terminated (text : Text) : Text :=
  if text.getLast? = some '\n' then text else text ++ ['\n']

-- Replace the text of a line. Every line but the last is given the newline it may lack. The
-- result has the new document and the number of lines lexed again.
def replaceLine (lexer : Lexer) (index : Nat) (text : Text) (document : Document) :
    Except EditError (Document × Nat) :=
  match document.lines.drop index with
  | [] => .error (.lineOutOfRange index document.lines.length)
  | previous :: below =>
      if spansLines text then .error (.severalLines index)
      else
        let text := if below.isEmpty then text else terminated text
        let (lines, count) := relex lexer previous.start text previous below
        .ok ({ document with lines := document.lines.take index ++ lines }, count)

def events (lexer : Lexer) (document : Document) : List Event :=
  (document.lines.flatMap fun line =>
    (lexer.lex line.start line.text).events lexer.markupArity line.text.byteSize) ++
    [.lexedDocument document.lines.length]

end Document

end ScoreLexer
