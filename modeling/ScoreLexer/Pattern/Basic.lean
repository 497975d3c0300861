import ScoreLexer.Text.Basic
import ScoreLexer.Text.WordChar

namespace ScoreLexer

structure Cursor where
  before : Option Char
  rest : Text

namespace Cursor

def start (text : Text) : Cursor := ⟨none, text⟩

def advance (count : Nat) (cursor : Cursor) : Cursor :=
  ⟨(cursor.rest.take count).getLast?.or cursor.before, cursor.rest.drop count⟩

@[simp] theorem rest_advance (count : Nat) (cursor : Cursor) :
    (cursor.advance count).rest = cursor.rest.drop count := rfl

def past? : Text → Cursor → Option Cursor
  | [], cursor => some cursor
  | w :: word, cursor =>
      match cursor.rest with
      | [] => none
      | c :: rest => if w = c then past? word ⟨some c, rest⟩ else none

-- Whether the cursor stands at the edge of a word: exactly one of the characters around it
-- is a word character.
def atWordEdge (cursor : Cursor) : Bool :=
  cursor.before.any Text.isWordChar != cursor.rest.head?.any Text.isWordChar

def insideWord (cursor : Cursor) : Bool :=
  cursor.before.any fun c => Text.isAlphanumeric c || c == '_'

end Cursor

inductive Pattern where
  -- any of the words, earlier ones preferred
  | words (list : List Text)
  | one (accepts : Char → Bool)
  -- one or more characters of a class, as many as possible
  | run (accepts : Char → Bool)
  | seq (first second : Pattern)
  -- either of two patterns, the first preferred
  | alt (first second : Pattern)
  -- any number of times, as often as possible
  | many (inner : Pattern)
  -- nothing, but only at the edge of a word
  | edge

namespace Pattern

def runEnds (accepts : Char → Bool) : Text → List Cursor → List Cursor
  | [], found => found
  | c :: rest, found =>
      if accepts c then runEnds accepts rest (⟨some c, rest⟩ :: found) else found

-- The ends of up to `count` repetitions, more repetitions first.
def manyEnds (step : Cursor → List Cursor) : Nat → Cursor → List Cursor
  | 0, cursor => [cursor]
  | count + 1, cursor => (step cursor).flatMap (manyEnds step count) ++ [cursor]

-- Where the pattern can end when it starts at the cursor, in order of preference: an alternative
-- before the ones after it, a longer run before a shorter one.
def ends : Pattern → Cursor → List Cursor
  | words list, cursor => list.filterMap fun word => cursor.past? word
  | one accepts, cursor =>
      match cursor.rest with
      | [] => []
      | c :: rest => if accepts c then [⟨some c, rest⟩] else []
  | run accepts, cursor => runEnds accepts cursor.rest []
  | seq first second, cursor => (first.ends cursor).flatMap second.ends
  | alt first second, cursor => first.ends cursor ++ second.ends cursor
  | many inner, cursor => manyEnds inner.ends cursor.rest.length cursor
  | edge, cursor => if cursor.atWordEdge then [cursor] else []

def word (text : String) : Pattern := words [text.toList]

def optional (inner : Pattern) : Pattern := alt inner (words [[]])

end Pattern

inductive Guard where
  | anything
  | notLetter
  | notDigit
deriving DecidableEq, Repr

-- Only ASCII letters and digits are refused, and the end of the text never is.
def Guard.allows : Guard → Option Char → Bool
  | notLetter, some c => !Text.isAsciiLetter c
  | notDigit, some c => !Text.isAsciiDigit c
  | _, _ => true

structure Recognizer where
  pattern : Pattern
  -- refuse a start inside a word
  fromWordStart : Bool := false
  guard : Guard := .anything

-- The number of characters recognised at a cursor. Only the preferred end of the pattern is
-- considered: when the guard refuses what follows it there is no match, and an empty match is
-- none either.
def Recognizer.match? (recognizer : Recognizer) (cursor : Cursor) : Option Nat :=
  if recognizer.fromWordStart && cursor.insideWord then none
  else
    match (recognizer.pattern.ends cursor).head? with
    | none => none
    | some last =>
        if last.rest.length < cursor.rest.length && recognizer.guard.allows last.rest.head? then
          some (cursor.rest.length - last.rest.length)
        else none

theorem Recognizer.match?_bounds {recognizer : Recognizer} {cursor : Cursor} {count : Nat}
    (h : recognizer.match? cursor = some count) :
    0 < count ∧ count ≤ cursor.rest.length := by
  unfold match? at h
  split at h
  · simp at h
  · split at h
    · simp at h
    · split at h
      · next hlt =>
        simp only [Bool.and_eq_true, decide_eq_true_eq] at hlt
        simp only [Option.some.injEq] at h
        omega
      · simp at h

end ScoreLexer
