import ScoreLexer.Json.Basic

namespace ScoreLexer.Json

def skipBlank (text : Text) : Text :=
  text.dropWhile fun c => c == ' ' || c == '\n' || c == '\t' || c == '\r'

-- The written form of a string, up to its closing quote. Like every reader here it takes one piece
-- off the front of a text and gives the rest back, and does not look at what the piece says.
def string? : Text → Option (Text × Text)
  | [] => none
  | '"' :: rest => some ([], rest)
  | '\\' :: 'u' :: a :: b :: c :: d :: rest =>
      if (codeUnit? a b c d).isSome then
        (string? rest).map fun (written, rest) => ('\\' :: 'u' :: a :: b :: c :: d :: written, rest)
      else none
  | '\\' :: c :: rest =>
      if (escape? c).isSome then
        (string? rest).map fun (written, rest) => ('\\' :: c :: written, rest)
      else none
  | c :: rest =>
      if c = '\\' || c.toNat < 0x20 then none
      else (string? rest).map fun (written, rest) => (c :: written, rest)

def digits? (text : Text) : Option (Text × Text) :=
  match text.takeWhile Text.isAsciiDigit with
  | [] => none
  | digits => some (digits, text.dropWhile Text.isAsciiDigit)

-- The whole part of a number: digits without a leading zero.
def whole? (text : Text) : Option (Text × Text) :=
  match digits? text with
  | some (['0'], rest) => some (['0'], rest)
  | some ('0' :: _, _) => none
  | found => found

def places? : Text → Option (Text × Text)
  | '.' :: rest => (digits? rest).map fun (digits, rest) => ('.' :: digits, rest)
  | rest => some ([], rest)

def power? : Text → Option (Text × Text)
  | c :: rest =>
      if c == 'e' || c == 'E' then
        let (sign, rest) := match rest with
          | '+' :: rest => (['+'], rest)
          | '-' :: rest => (['-'], rest)
          | rest => ([], rest)
        (digits? rest).map fun (digits, rest) => (c :: sign ++ digits, rest)
      else some ([], c :: rest)
  | [] => some ([], [])

def number? (text : Text) : Option (Text × Text) := do
  let (sign, rest) := match text with
    | '-' :: rest => (['-'], rest)
    | rest => ([], rest)
  let (whole, rest) ← whole? rest
  let (places, rest) ← places? rest
  let (power, rest) ← power? rest
  return (sign ++ whole ++ places ++ power, rest)

mutual

-- A document at the front of a text. The fuel bounds how deep and how long it can be.
def value? : Nat → Text → Option (Json × Text)
  | 0, _ => none
  | fuel + 1, text =>
      match skipBlank text with
      | [] => none
      | '\x7b' :: rest =>
          match skipBlank rest with
          | '\x7d' :: rest => some (.object [], rest)
          | rest => (members? fuel rest).map fun (members, rest) => (.object members, rest)
      | '[' :: rest =>
          match skipBlank rest with
          | ']' :: rest => some (.array [], rest)
          | rest => (items? fuel rest).map fun (items, rest) => (.array items, rest)
      | '"' :: rest => (string? rest).map fun (written, rest) => (.string written, rest)
      | 'n' :: 'u' :: 'l' :: 'l' :: rest => some (.null, rest)
      | 't' :: 'r' :: 'u' :: 'e' :: rest => some (.bool true, rest)
      | 'f' :: 'a' :: 'l' :: 's' :: 'e' :: rest => some (.bool false, rest)
      | rest => (number? rest).map fun (written, rest) => (.number written, rest)

-- The items of an array, of which there is at least one, up to its closing bracket.
def items? : Nat → Text → Option (List Json × Text)
  | 0, _ => none
  | fuel + 1, text =>
      match value? fuel text with
      | none => none
      | some (item, rest) =>
          match skipBlank rest with
          | ']' :: rest => some ([item], rest)
          | ',' :: rest => (items? fuel rest).map fun (items, rest) => (item :: items, rest)
          | _ => none

def members? : Nat → Text → Option (List (Text × Json) × Text)
  | 0, _ => none
  | fuel + 1, text =>
      match skipBlank text with
      | '"' :: rest =>
          match string? rest with
          | none => none
          | some (key, rest) =>
              match skipBlank rest with
              | ':' :: rest =>
                  match value? fuel rest with
                  | none => none
                  | some (value, rest) =>
                      match skipBlank rest with
                      | '\x7d' :: rest => some ([(key, value)], rest)
                      | ',' :: rest =>
                          (members? fuel rest).map fun (members, rest) =>
                            ((key, value) :: members, rest)
                      | _ => none
              | _ => none
      | _ => none

end

def read? (text : Text) : Option (Json × Text) := value? (2 * text.length + 2) text

end ScoreLexer.Json
