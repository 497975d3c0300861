import ScoreLexer.Document.Basic

namespace ScoreLexer

def deepen (depth : Nat) (kind : Kind) : Nat := (depth + kind.indentDelta).toNat

-- The number of closers that a line begins with, blanks aside.
def leadingClosers (kinds : List Kind) : Nat :=
  ((kinds.filter fun kind => !kind.isSpace).takeWhile fun kind => kind.indentDelta < 0).length

-- A line is indented by the depth at its start less the closers it begins with, so a closing brace
-- lines up with the line that opened the block.
def indentsFrom (depth : Nat) : List (List Kind) → List Nat
  | [] => []
  | line :: below => (depth - leadingClosers line) :: indentsFrom (line.foldl deepen depth) below

theorem length_indentsFrom (depth : Nat) (lines : List (List Kind)) :
    (indentsFrom depth lines).length = lines.length := by
  induction lines generalizing depth with
  | nil => rfl
  | cons line lines ih => rw [indentsFrom, List.length_cons, ih, List.length_cons]

def lineIndents (lines : List (List Kind)) : List Nat := indentsFrom 0 lines

def Document.indents (document : Document) : List Nat :=
  lineIndents (document.lines.map fun line => line.tokens.map Token.kind)

end ScoreLexer
