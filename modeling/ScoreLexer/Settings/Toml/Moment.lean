import ScoreLexer.Decimal.Basic

namespace ScoreLexer.Toml

structure Date where
  year : Nat
  month : Nat
  day : Nat
deriving DecidableEq, Repr

-- A time of day. The places after the seconds have no zeros at their end.
structure Clock where
  hour : Nat
  minute : Nat
  second : Nat
  places : Text
deriving DecidableEq, Repr

inductive Offset where
  | zulu
  | shifted (behind : Bool) (minutes : Nat)
deriving DecidableEq, Repr

structure Moment where
  date : Option Date
  clock : Option Clock
  offset : Option Offset
deriving DecidableEq, Repr

def daysIn (year month : Nat) : Nat :=
  if month = 2 then
    if year % 4 = 0 && (year % 100 != 0 || year % 400 = 0) then 29 else 28
  else if [4, 6, 9, 11].contains month then 30 else 31

def fixedDigits? (width : Nat) (text : Text) : Option (Nat × Text) :=
  let digits := text.take width
  if digits.length = width && digits.all Text.isAsciiDigit then
    some (Decimal.ofDigits digits, text.drop width)
  else none

def Date.read? (text : Text) : Option (Date × Text) := do
  let (year, rest) ← fixedDigits? 4 text
  let (month, rest) ← fixedDigits? 2 (← Text.strip? ['-'] rest)
  let (day, rest) ← fixedDigits? 2 (← Text.strip? ['-'] rest)
  if 1 ≤ month && month ≤ 12 && 1 ≤ day && day ≤ daysIn year month then
    some (⟨year, month, day⟩, rest)
  else none

-- Places after the seconds at the front of a text, to nine of them. Zeros at the end are dropped.
def places? : Text → Option (Text × Text)
  | '.' :: rest =>
      match rest.takeWhile Text.isAsciiDigit with
      | [] => none
      | digits =>
          some (((digits.take 9).reverse.dropWhile (· == '0')).reverse,
            rest.dropWhile Text.isAsciiDigit)
  | rest => some ([], rest)

-- A time of day at the front of a text. A day ends before 24:00, a minute may have a leap second.
def Clock.read? (text : Text) : Option (Clock × Text) := do
  let (hour, rest) ← fixedDigits? 2 text
  let (minute, rest) ← fixedDigits? 2 (← Text.strip? [':'] rest)
  let (second, rest) ← fixedDigits? 2 (← Text.strip? [':'] rest)
  let (places, rest) ← places? rest
  if hour ≤ 23 && minute ≤ 59 && second ≤ 60 then
    some (⟨hour, minute, second, places⟩, rest)
  else none

def Offset.read? : Text → Option (Option Offset)
  | [] => some none
  | sign :: rest =>
      if sign = 'Z' || sign = 'z' then if rest.isEmpty then some (some .zulu) else none
      else if sign = '+' || sign = '-' then do
        let (hours, rest) ← fixedDigits? 2 rest
        let (minutes, rest) ← fixedDigits? 2 (← Text.strip? [':'] rest)
        if hours ≤ 23 && minutes ≤ 59 && rest.isEmpty then
          some (some (.shifted (sign = '-') (60 * hours + minutes)))
        else none
      else none

-- The moment that a whole text describes. Only a time with a date has an offset.
def Moment.read? (text : Text) : Option Moment :=
  match Date.read? text with
  | some (date, []) => some ⟨some date, none, none⟩
  | some (date, mark :: rest) =>
      if mark = 'T' || mark = 't' || mark = ' ' then do
        let (clock, rest) ← Clock.read? rest
        let offset ← Offset.read? rest
        some ⟨some date, some clock, offset⟩
      else none
  | none =>
      match Clock.read? text with
      | some (clock, []) => some ⟨none, some clock, none⟩
      | _ => none

def padded (width n : Nat) : Text :=
  let digits := Nat.toDigits 10 n
  List.replicate (width - digits.length) '0' ++ digits

def Date.render (date : Date) : Text :=
  padded 4 date.year ++ '-' :: padded 2 date.month ++ '-' :: padded 2 date.day

def Clock.render (clock : Clock) : Text :=
  padded 2 clock.hour ++ ':' :: padded 2 clock.minute ++ ':' :: padded 2 clock.second ++
    if clock.places.isEmpty then [] else '.' :: clock.places

-- An offset of nothing is not behind.
def Offset.render : Offset → Text
  | .zulu => ['Z']
  | .shifted behind minutes =>
      (if behind && minutes != 0 then '-' else '+') ::
        padded 2 (minutes / 60) ++ ':' :: padded 2 (minutes % 60)

def Moment.render (moment : Moment) : Text :=
  let date := (moment.date.map Date.render).getD []
  let clock := (moment.clock.map Clock.render).getD []
  let offset := (moment.offset.map Offset.render).getD []
  let mark := if moment.date.isSome && moment.clock.isSome then ['T'] else []
  date ++ mark ++ clock ++ offset

end ScoreLexer.Toml
