import ScoreLexer.Context.Catalogue
import ScoreLexer.Text.Basic

namespace ScoreLexer

def spaced {α : Type} (blank : α) (pieces : List (List α)) : List α := [blank].intercalate pieces

def enclosed {α : Type} (blank : α) (opening : List α) (pieces : List (List α))
    (closing : List α) : List α :=
  spaced blank (opening :: (pieces ++ [closing]))

theorem spaced_cons {α : Type} (blank : α) (piece : List α) (pieces : List (List α)) :
    spaced blank (piece :: pieces) = piece ++ pieces.flatMap (blank :: ·) := by
  induction pieces generalizing piece with
  | nil => simp [spaced]
  | cons next pieces ih =>
    rw [spaced, List.intercalate_cons_cons, ← spaced, ih, List.flatMap_cons]
    simp

theorem enclosed_eq {α : Type} (blank : α) (opening : List α) (pieces : List (List α))
    (closing : List α) :
    enclosed blank opening pieces closing =
      opening ++ (pieces.flatMap (blank :: ·) ++ ([blank] ++ closing)) := by
  rw [enclosed, spaced_cons, List.flatMap_append]
  simp

def lengthNumbers : List Text :=
  ["1", "2", "4", "8", "16", "32", "64", "128", "256", "512", "1024", "2048"].map String.toList

structure NoteLength where
  number : Text
  dots : Nat
  number_mem : number ∈ lengthNumbers

namespace NoteLength

def text (length : NoteLength) : Text := length.number ++ List.replicate length.dots '.'

def kinds (length : NoteLength) : List Kind := .duration :: List.replicate length.dots .dot

end NoteLength

def isOctaveMark (c : Char) : Bool := c == '\'' || c == ','

structure Pitch where
  letters : Text
  octave : Text
  length? : Option NoteLength
  letters_ne_nil : letters ≠ []
  isLower_letters : letters.all Char.isLower = true
  isOctaveMark_octave : octave.all isOctaveMark = true

namespace Pitch

def text (pitch : Pitch) : Text :=
  pitch.letters ++ (pitch.octave ++ pitch.length?.elim [] NoteLength.text)

-- A lone s is a skip and a lone r is a rest.
def kind (pitch : Pitch) : Kind :=
  if pitch.letters = ['s'] then .skip else if pitch.letters = ['r'] then .rest else .note

def kinds (pitch : Pitch) : List Kind :=
  [pitch.kind] ++ ((if pitch.octave = [] then [] else [.octave]) ++
    pitch.length?.elim [] NoteLength.kinds)

end Pitch

inductive Bracket where
  | braces | angles
deriving DecidableEq, Repr

namespace Bracket

def opening : Bracket → Text
  | braces => ['{']
  | angles => ['<', '<']

def closing : Bracket → Text
  | braces => ['}']
  | angles => ['>', '>']

def openingKind : Bracket → Kind
  | braces => .sequentialStart
  | angles => .simultaneousStart

def closingKind : Bracket → Kind
  | braces => .sequentialEnd
  | angles => .simultaneousEnd

end Bracket

inductive Item where
  | pitch (pitch : Pitch)
  | chord (pitches : List Pitch)
  | group (bracket : Bracket) (items : List Item)

namespace Item

mutual

def text : Item → Text
  | .pitch tone => tone.text
  | .chord pitches => enclosed ' ' ['<'] (pitches.map Pitch.text) ['>']
  | .group bracket items => enclosed ' ' bracket.opening (texts items) bracket.closing

def texts : List Item → List Text
  | [] => []
  | item :: items => item.text :: texts items

end

mutual

def kinds : Item → List Kind
  | .pitch tone => tone.kinds
  | .chord pitches => enclosed .space [.chordStart] (pitches.map Pitch.kinds) [.chordEnd]
  | .group bracket items =>
      enclosed .space [bracket.openingKind] (kindsOf items) [bracket.closingKind]

def kindsOf : List Item → List (List Kind)
  | [] => []
  | item :: items => item.kinds :: kindsOf items

end

end Item

inductive Block where
  | layout | midi | score | bookPart | book
deriving DecidableEq, Repr

namespace Block

def keyword : Block → Text
  | layout => "\\layout".toList
  | midi => "\\midi".toList
  | score => "\\score".toList
  | bookPart => "\\bookpart".toList
  | book => "\\book".toList

def kind : Block → Kind
  | layout => .layout
  | midi => .midi
  | score => .score
  | bookPart => .bookPart
  | book => .book

def waiting : Block → Context
  | layout => .expectLayout
  | midi => .expectMidi
  | score => .expectScore
  | bookPart => .expectBookPart
  | book => .expectBook

def body : Block → Context
  | layout => .layout
  | midi => .midi
  | score => .score
  | bookPart => .bookPart
  | book => .book

end Block

def Context.blocks : Context → List Block
  | .toplevel => [.book, .bookPart, .score]
  | .book => [.bookPart, .score]
  | .bookPart => [.score]
  | .score => [.layout, .midi]
  | _ => []

def Context.holdsGroups : Context → Bool
  | .toplevel | .book | .bookPart | .score => true
  | _ => false

mutual

-- Which blocks may stand in which is a matter of the types: the parts of a block are parts that its
-- body admits.
inductive Part : Context → Type where
  | group {context : Context} (hcontext : context.holdsGroups = true) (bracket : Bracket)
      (items : List Item) : Part context
  | block {context : Context} (block : Block) (hblock : block ∈ context.blocks)
      (parts : Parts block.body) : Part context

inductive Parts : Context → Type where
  | nil {context : Context} : Parts context
  | cons {context : Context} (part : Part context) (parts : Parts context) : Parts context

end

mutual

def Part.text {context : Context} : Part context → Text
  | .group _ bracket items => (Item.group bracket items).text
  | .block block _ parts => spaced ' ' [block.keyword, enclosed ' ' ['{'] parts.texts ['}']]

def Parts.texts {context : Context} : Parts context → List Text
  | .nil => []
  | .cons part parts => part.text :: parts.texts

end

mutual

def Part.kinds {context : Context} : Part context → List Kind
  | .group _ bracket items => (Item.group bracket items).kinds
  | .block block _ parts =>
      spaced .space [[block.kind], enclosed .space [.openBracket] parts.kindsOf [.closeBracket]]

def Parts.kindsOf {context : Context} : Parts context → List (List Kind)
  | .nil => []
  | .cons part parts => part.kinds :: parts.kindsOf

end

def Parts.text (parts : Parts .toplevel) : Text := spaced ' ' parts.texts

-- A dotted pitch and an empty chord between braces, and a layout after them.
example :
    Parts.text
      (.cons
        (.block .score (by decide)
          (.cons
            (.group rfl .braces
              [.pitch ⟨['c'], ['\''], some ⟨['4'], 1, by decide⟩, by decide, by decide, by decide⟩,
                .chord []])
            (.cons (.block .layout (by decide) .nil) .nil)))
        .nil) =
      "\\score \x7b \x7b c'4. < > \x7d \\layout \x7b \x7d \x7d".toList := by
  decide

end ScoreLexer
