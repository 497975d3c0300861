import ScoreLexer.Json.Basic
import ScoreLexer.Settings.Toml.Spacing

namespace ScoreLexer.Toml

-- The character of a code point. Surrogates are no characters.
def codePoint? (digits : List Char) : Option Char := do
  let values ← digits.mapM Json.hexValue?
  let n := values.foldl (fun n d => 16 * n + d) 0
  if n < 0xD800 || (0xDFFF < n && n < 0x110000) then some (Char.ofNat n) else none

def escape? : Char → Option Char
  | 'b' => some '\x08'
  | 't' => some '\t'
  | 'n' => some '\n'
  | 'f' => some '\x0c'
  | 'r' => some '\r'
  | '"' => some '"'
  | '\\' => some '\\'
  | _ => none

def escaped? : Text → Option (Char × Text)
  | 'u' :: a :: b :: c :: d :: rest => (codePoint? [a, b, c, d]).map (·, rest)
  | 'U' :: a :: b :: c :: d :: e :: f :: g :: h :: rest =>
      (codePoint? [a, b, c, d, e, f, g, h]).map (·, rest)
  | c :: rest => (escape? c).map (·, rest)
  | [] => none

def before (c : Char) (read : Option (Text × Text)) : Option (Text × Text) :=
  read.map fun (value, rest) => (c :: value, rest)

def basic? : Nat → Text → Option (Text × Text)
  | 0, _ => none
  | _ + 1, [] => none
  | fuel + 1, c :: rest =>
      if c = '"' then some ([], rest)
      else if c = '\\' then
        match escaped? rest with
        | none => none
        | some (meant, rest) => before meant (basic? fuel rest)
      else if isPlain c then before c (basic? fuel rest)
      else none

def literal? : Text → Option (Text × Text)
  | [] => none
  | c :: rest =>
      if c = '\'' then some ([], rest)
      else if isPlain c then before c (literal? rest)
      else none

-- Three quotes that end a string over several lines. Up to two more may stand before them.
def closing? (quote : Char) : Text → Option (Text × Text)
  | a :: b :: c :: rest =>
      if a = quote && b = quote && c = quote then
        match rest with
        | d :: e :: rest =>
            if d = quote && e = quote then some ([quote, quote], rest)
            else if d = quote then some ([quote], e :: rest)
            else some ([], d :: e :: rest)
        | [d] => if d = quote then some ([quote], []) else some ([], [d])
        | [] => some ([], [])
      else none
  | _ => none

-- A string over several lines, after its first three quotes. With escapes, a backslash at the
-- end of a line swallows all blanks and line ends that follow. Line ends count as one newline.
def multiline? (quote : Char) (escapes : Bool) : Nat → Text → Option (Text × Text)
  | 0, _ => none
  | _ + 1, [] => none
  | fuel + 1, c :: rest =>
      match closing? quote (c :: rest) with
      | some found => some found
      | none =>
          match afterLineEnd? (c :: rest) with
          | some rest => before '\n' (multiline? quote escapes fuel rest)
          | none =>
              if escapes && c = '\\' then
                match afterLineEnd? (skipBlank rest) with
                | some rest => multiline? quote escapes fuel (skipBlankLines rest)
                | none =>
                    match escaped? rest with
                    | none => none
                    | some (meant, rest) => before meant (multiline? quote escapes fuel rest)
              else if isPlain c then before c (multiline? quote escapes fuel rest)
              else none

def opened (text : Text) : Text := (afterLineEnd? text).getD text

def string? (text : Text) : Option (Text × Text) :=
  match text with
  | '"' :: '"' :: '"' :: rest => multiline? '"' true (rest.length + 1) (opened rest)
  | '\'' :: '\'' :: '\'' :: rest => multiline? '\'' false (rest.length + 1) (opened rest)
  | '"' :: rest => basic? (rest.length + 1) rest
  | '\'' :: rest => literal? rest
  | _ => none

end ScoreLexer.Toml
