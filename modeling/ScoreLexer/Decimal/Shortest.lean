import ScoreLexer.Text.Basic

namespace ScoreLexer.Decimal

-- A positive number m · 2^q, and whether the number below it is only half a step away.
structure Binary where
  significand : Nat
  exponent : Int
  nearBelow : Bool

def Binary.ofBits (bits : Nat) : Binary :=
  let field : Nat := bits / Nat.pow 2 52 % Nat.pow 2 11
  let low : Nat := bits % Nat.pow 2 52
  if field = 0 then ⟨low, -1074, false⟩
  else ⟨Nat.pow 2 52 + low, (field : Int) - 1075, low = 0 && 1 < field⟩

-- The part of 2^p · 10^k with positive exponents.
def scale (p k : Int) : Nat := Nat.pow 2 p.toNat * Nat.pow 10 k.toNat

def atMost (a : Nat) (p : Int) (d : Nat) (k : Int) : Bool :=
  a * scale p (-k) ≤ d * scale (-p) k

def atLeast (a : Nat) (p : Int) (d : Nat) (k : Int) : Bool :=
  d * scale (-p) k ≤ a * scale p (-k)

-- Whether d · 10^k reads back as the number: it lies within half a step of it, the ends of that
-- interval included when m is even.
def readsBack (x : Binary) (d : Nat) (k : Int) : Bool :=
  let low := 4 * x.significand - if x.nearBelow then 1 else 2
  let high := 4 * x.significand + 2
  let p := x.exponent - 2
  if x.significand % 2 = 0 then atMost low p d k && atLeast high p d k
  else !atLeast low p d k && !atMost high p d k

def inUnits (x : Binary) (k : Int) : Nat :=
  x.significand * scale x.exponent (-k) / scale (-x.exponent) k

-- The multiple of 10^k next to the number that reads back as it. Of two the nearer is taken, and
-- the greater one when the number lies halfway.
def onGrid? (x : Binary) (k : Int) : Option (Nat × Int) :=
  let d := inUnits x k
  match readsBack x d k && 0 < d, readsBack x (d + 1) k with
  | true, true =>
      if atLeast (2 * x.significand) x.exponent (2 * d + 1) k then some (d + 1, k) else some (d, k)
  | true, false => some (d, k)
  | false, true => some (d + 1, k)
  | false, false => none

-- The digits and the exponent of the shortest decimal of a positive number. Grids are tried from
-- the coarsest to the finest that a number can need.
def shortest (x : Binary) : Nat × Int :=
  let grids := (List.range 640).map fun (i : Nat) => (309 : Int) - i
  (grids.findSome? (onGrid? x)).getD (x.significand, 0)

def positional (digits : Text) (k : Int) : Text :=
  match k with
  | .ofNat zeros => digits ++ List.replicate zeros '0'
  | .negSucc n =>
      let places := n + 1
      if places < digits.length then
        digits.take (digits.length - places) ++ '.' :: digits.drop (digits.length - places)
      else '0' :: '.' :: List.replicate (places - digits.length) '0' ++ digits

def writeFloat (x : Float) : Text :=
  if x.isNaN then "NaN".toList
  else
    let bits := x.toBits.toNat
    let sign : Text := if Nat.pow 2 63 ≤ bits then ['-'] else []
    let magnitude : Text :=
      if x.isInf then "inf".toList
      else
        let binary := Binary.ofBits (bits % Nat.pow 2 63)
        if binary.significand = 0 then ['0']
        else
          let (digits, k) := shortest binary
          positional (Nat.toDigits 10 digits) k
    sign ++ magnitude

end ScoreLexer.Decimal
