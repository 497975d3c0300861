import ScoreLexer.Text.Basic
import ScoreLexer.Text.WordChar

namespace ScoreLexer

-- Numbers and strings keep their written form.
inductive Json where
  | null
  | bool (value : Bool)
  | number (written : Text)
  | string (written : Text)
  | array (items : List Json)
  | object (members : List (Text × Json))

namespace Json

def hexDigit (n : Nat) : Char := (Nat.toDigits 16 n).headD '0'

def encodeChar (c : Char) : Text :=
  match c with
  | '"' => ['\\', '"']
  | '\\' => ['\\', '\\']
  | '\n' => ['\\', 'n']
  | '\r' => ['\\', 'r']
  | '\t' => ['\\', 't']
  | '\x08' => ['\\', 'b']
  | '\x0c' => ['\\', 'f']
  | c =>
      if c.toNat < 0x20 then
        ['\\', 'u', '0', '0', hexDigit (c.toNat / 16), hexDigit (c.toNat % 16)]
      else [c]

def encodeString (text : Text) : Text := text.flatMap encodeChar

def hexValue? (c : Char) : Option Nat :=
  if Text.isAsciiDigit c then some (c.toNat - '0'.toNat)
  else if 'a' ≤ c && c ≤ 'f' then some (c.toNat - 'a'.toNat + 10)
  else if 'A' ≤ c && c ≤ 'F' then some (c.toNat - 'A'.toNat + 10)
  else none

def codeUnit? (a b c d : Char) : Option Nat :=
  match hexValue? a, hexValue? b, hexValue? c, hexValue? d with
  | some a, some b, some c, some d => some (((a * 16 + b) * 16 + c) * 16 + d)
  | _, _, _, _ => none

def escape? : Char → Option Char
  | '"' => some '"'
  | '\\' => some '\\'
  | '/' => some '/'
  | 'b' => some '\x08'
  | 'f' => some '\x0c'
  | 'n' => some '\n'
  | 'r' => some '\r'
  | 't' => some '\t'
  | _ => none

def isHighSurrogate (n : Nat) : Bool := 0xD800 ≤ n && n ≤ 0xDBFF

def isLowSurrogate (n : Nat) : Bool := 0xDC00 ≤ n && n ≤ 0xDFFF

def pairedChar (high low : Nat) : Char :=
  Char.ofNat (0x10000 + (high - 0xD800) * 0x400 + (low - 0xDC00))

-- The text that a written string stands for. Surrogates count only in pairs.
def decodeString? : Text → Option Text
  | [] => some []
  | '\\' :: 'u' :: a :: b :: c :: d :: '\\' :: 'u' :: e :: f :: g :: h :: rest =>
      match codeUnit? a b c d with
      | none => none
      | some n =>
          if isHighSurrogate n then
            match codeUnit? e f g h with
            | none => none
            | some low =>
                if isLowSurrogate low then (decodeString? rest).map (pairedChar n low :: ·)
                else none
          else if isLowSurrogate n then none
          else
            (decodeString? ('\\' :: 'u' :: e :: f :: g :: h :: rest)).map (Char.ofNat n :: ·)
  | '\\' :: 'u' :: a :: b :: c :: d :: rest =>
      match codeUnit? a b c d with
      | none => none
      | some n =>
          if isHighSurrogate n || isLowSurrogate n then none
          else (decodeString? rest).map (Char.ofNat n :: ·)
  | '\\' :: c :: rest =>
      match escape? c with
      | none => none
      | some meant => (decodeString? rest).map (meant :: ·)
  | c :: rest => if c = '\\' then none else (decodeString? rest).map (c :: ·)

def ofText (text : Text) : Json := .string (encodeString text)

def ofNat (n : Nat) : Json := .number (Nat.toDigits 10 n)

def member (key : String) (value : Json) : Text × Json := (encodeString key.toList, value)

def quote (written : Text) : Text := '"' :: written ++ ['"']

def separate (separator : Text) (parts : List Text) : Text := separator.intercalate parts

mutual

def compact : Json → Text
  | .null => "null".toList
  | .bool value => if value then "true".toList else "false".toList
  | .number written => written
  | .string written => quote written
  | .array items => '[' :: separate [','] (compactItems items) ++ [']']
  | .object members => '\x7b' :: separate [','] (compactMembers members) ++ ['\x7d']

def compactItems : List Json → List Text
  | [] => []
  | item :: items => item.compact :: compactItems items

def compactMembers : List (Text × Json) → List Text
  | [] => []
  | (key, value) :: members => (quote key ++ ':' :: value.compact) :: compactMembers members

end

-- Items between brackets, one a line and two blanks further in, or the bare brackets.
def block (indent : Nat) (left right : Char) (parts : List Text) : Text :=
  if parts.isEmpty then [left, right]
  else
    let inner := '\n' :: List.replicate (indent + 2) ' '
    left :: inner ++ separate (',' :: inner) parts ++ '\n' :: List.replicate indent ' ' ++ [right]

mutual

def pretty (indent : Nat) : Json → Text
  | .array items => block indent '[' ']' (prettyItems (indent + 2) items)
  | .object members => block indent '\x7b' '\x7d' (prettyMembers (indent + 2) members)
  | .null => "null".toList
  | .bool value => if value then "true".toList else "false".toList
  | .number written => written
  | .string written => quote written

def prettyItems (indent : Nat) : List Json → List Text
  | [] => []
  | item :: items => item.pretty indent :: prettyItems indent items

def prettyMembers (indent : Nat) : List (Text × Json) → List Text
  | [] => []
  | (key, value) :: members =>
      (quote key ++ ':' :: ' ' :: value.pretty indent) :: prettyMembers indent members

end

end Json

end ScoreLexer
