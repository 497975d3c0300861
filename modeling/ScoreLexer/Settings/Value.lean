import ScoreLexer.Decimal.Basic
import ScoreLexer.Decimal.Shortest
import ScoreLexer.Text.Lowercase

namespace ScoreLexer

inductive Setting where
  | nothing
  | boolean (value : Bool)
  | integer (value : Int)
  | float (value : Float)
  | text (value : Text)
  | list (items : List Setting)
  | table (entries : List (Text × Setting))

namespace Setting

def find? (key : Text) (entries : List (Text × Setting)) : Option Setting := entries.lookup key

def insert (key : Text) (value : Setting) : List (Text × Setting) → List (Text × Setting)
  | [] => [(key, value)]
  | entry :: entries =>
      if entry.1 = key then (key, value) :: entries else entry :: insert key value entries

-- The value as a word. Numbers and truth values are written out.
def word? : Setting → Option Text
  | .text value => some value
  | .boolean value => some (if value then "true".toList else "false".toList)
  | .integer value => some (toString value).toList
  | .float value => some (Decimal.writeFloat value)
  | .nothing | .list _ | .table _ => none

def byte? (n : Nat) : Option UInt8 := if n < 256 then some (UInt8.ofNat n) else none

-- The number that a text gives: a truth value in words, or digits after an optional plus sign.
def numeral? (text : Text) : Option Nat :=
  let lowered := String.ofList (Text.lower text)
  if ["true", "on", "yes"].contains lowered then some 1
  else if ["false", "off", "no"].contains lowered then some 0
  else
    let digits := match text with
      | '+' :: digits => digits
      | digits => digits
    if !digits.isEmpty && digits.all Text.isAsciiDigit then some (Decimal.ofDigits digits) else none

-- The value as a number of arguments. Fractions are rounded, a half away from zero.
def arity? : Setting → Option UInt8
  | .integer (.ofNat n) => byte? n
  | .integer (.negSucc _) => none
  | .boolean value => some (if value then 1 else 0)
  | .float value => byte? value.round.toUInt64.toNat
  | .text value => (numeral? value).bind byte?
  | .nothing | .list _ | .table _ => none

end Setting

end ScoreLexer
