import ScoreLexer.Json.Basic
import ScoreLexer.Settings.Value

namespace ScoreLexer.Toml

-- Digits with single underscores between them, without the underscores.
def grouped? (isDigit : Char → Bool) : Text → Option Text
  | [] => none
  | [c] => if isDigit c then some [c] else none
  | c :: '_' :: rest => if isDigit c then (grouped? isDigit rest).map (c :: ·) else none
  | c :: rest => if isDigit c then (grouped? isDigit rest).map (c :: ·) else none

-- Digits of a whole number: no zero in front of other digits.
def decimalDigits? (text : Text) : Option Text :=
  match grouped? Text.isAsciiDigit text with
  | some ('0' :: _ :: _) => none
  | found => found

def signed : Text → Bool × Text
  | '-' :: rest => (true, rest)
  | '+' :: rest => (false, rest)
  | rest => (false, rest)

def bounded? (n : Int) : Option Setting :=
  if -0x8000000000000000 ≤ n && n < 0x8000000000000000 then some (.integer n) else none

def based? (base : Nat) (digits : Text) : Option Setting := do
  let isDigit (c : Char) : Bool := (Json.hexValue? c).any (· < base)
  let digits ← grouped? isDigit digits
  let values ← digits.mapM Json.hexValue?
  bounded? (values.foldl (fun n d => base * n + d) 0 : Nat)

def integer? (text : Text) : Option Setting :=
  match text with
  | '0' :: 'x' :: digits => based? 16 digits
  | '0' :: 'o' :: digits => based? 8 digits
  | '0' :: 'b' :: digits => based? 2 digits
  | _ =>
      let (negative, digits) := signed text
      (decimalDigits? digits).bind fun digits =>
        let n : Int := Decimal.ofDigits digits
        bounded? (if negative then -n else n)

def power? (text : Text) : Option Int :=
  let (negative, digits) := signed text
  (grouped? Text.isAsciiDigit digits).map fun digits =>
    let n : Int := Decimal.ofDigits digits
    if negative then -n else n

-- A number with places, a power of ten or both. It must not be too great.
def float? (text : Text) : Option Setting := do
  let (negative, body) := signed text
  if body == "inf".toList then
    return .float (if negative then -(1.0 / 0.0) else 1.0 / 0.0)
  if body == "nan".toList then return .float (0.0 / 0.0)
  let isMark (c : Char) : Bool := c == 'e' || c == 'E'
  let mantissa := body.takeWhile fun c => !isMark c
  let power ← match body.dropWhile fun c => !isMark c with
    | [] => some 0
    | _ :: power => power? power
  let (whole, places) ← match Text.splitOnce? '.' mantissa with
    | none => if mantissa.length = body.length then none else some (mantissa, [])
    | some (whole, places) => (grouped? Text.isAsciiDigit places).map (whole, ·)
  let whole ← decimalDigits? whole
  let x := Decimal.toFloat ⟨negative, Decimal.ofDigits (whole ++ places), power - places.length⟩
  if x == 1.0 / 0.0 then none else some (.float x)

end ScoreLexer.Toml
