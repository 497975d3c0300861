namespace ScoreLexer

abbrev Text := List Char

namespace Text

-- The quasi-quotation mark of Scheme.
def backquote : Char := Char.ofNat 0x60

def byteSize : Text → Nat
  | [] => 0
  | c :: text => c.utf8Size + byteSize text

@[simp] theorem byteSize_nil : byteSize [] = 0 := rfl

@[simp] theorem byteSize_cons (c : Char) (text : Text) :
    byteSize (c :: text) = c.utf8Size + byteSize text := rfl

theorem byteSize_append (front back : Text) :
    byteSize (front ++ back) = byteSize front + byteSize back := by
  induction front with
  | nil => simp
  | cons c front ih => simp [ih, Nat.add_assoc]

-- The parts of a text before and after a byte offset. There is no such split when the
-- offset lies inside a character or beyond the end.
def splitAtByte? : Text → Nat → Option (Text × Text)
  | text, 0 => some ([], text)
  | [], _ + 1 => none
  | c :: text, offset + 1 =>
      if c.utf8Size ≤ offset + 1 then
        (splitAtByte? text (offset + 1 - c.utf8Size)).map fun (front, back) => (c :: front, back)
      else none

-- The lines of a text, each with its newline. Only the last one may lack it.
def lines : Text → List Text
  | [] => []
  | c :: text =>
      if c = '\n' then [c] :: lines text
      else match lines text with
        | [] => [[c]]
        | line :: below => (c :: line) :: below

theorem lines_flatten (text : Text) : (lines text).flatten = text := by
  induction text with
  | nil => rfl
  | cons c text ih =>
    unfold lines
    split
    · simp [ih]
    · split <;> simp_all

def splitOnce? (separator : Char) : Text → Option (Text × Text)
  | [] => none
  | c :: text =>
      if c = separator then some ([], text)
      else (splitOnce? separator text).map fun (front, back) => (c :: front, back)

def strip? : Text → Text → Option Text
  | [], text => some text
  | _ :: _, [] => none
  | w :: word, c :: text => if w = c then strip? word text else none

end Text

end ScoreLexer
