import ScoreLexer.Listing.Record

namespace ScoreLexer.Yaml

def isBreak (c : Char) : Bool := [0x0A, 0x0D, 0x85, 0x2028, 0x2029].contains c.toNat

def blankNext (next : Option Char) : Bool :=
  next.all fun c => c == ' ' || c == '\t' || isBreak c

def isPrintable (c : Char) : Bool :=
  let n := c.toNat
  n == 0x0A || (0x20 ≤ n && n ≤ 0x7E) || (0xA0 ≤ n && n ≤ 0xFFFD && n != 0xFEFF) || 0x10000 ≤ n

-- Digits after a zero, which are no number.
def isPaddedNumber (text : Text) : Bool :=
  let digits := match text with
    | '-' :: digits => digits
    | '+' :: digits => digits
    | digits => digits
  match digits with
  | '0' :: c :: more => (c :: more).all Text.isAsciiDigit
  | _ => false

def based? (base : Nat) (digits : Text) : Option Nat :=
  if digits.isEmpty then none
  else (digits.mapM fun c => (Json.hexValue? c).filter (· < base)).map fun values =>
    values.foldl (fun n d => base * n + d) 0

def isWhole (limit : Nat) (text : Text) : Bool :=
  let value := match text with
    | '0' :: 'x' :: digits => based? 16 digits
    | '0' :: 'o' :: digits => based? 8 digits
    | '0' :: 'b' :: digits => based? 2 digits
    | digits => if isPaddedNumber digits then none else based? 10 digits
  value.any (· ≤ limit)

def isInteger : Text → Bool
  | '-' :: digits => isWhole (Nat.pow 2 127) digits
  | '+' :: digits => isWhole (Nat.pow 2 128 - 1) digits
  | digits => isWhole (Nat.pow 2 128 - 1) digits

def isFloat (text : Text) : Bool :=
  let body := match text with
    | '+' :: body => body
    | body => body
  let plusOnly := text.head? == some '+' && (body.head? == some '+' || body.head? == some '-')
  let named := [".inf", ".Inf", ".INF"].contains (String.ofList body) ||
    ["-.inf", "-.Inf", "-.INF", ".nan", ".NaN", ".NAN"].contains (String.ofList text)
  !plusOnly && (named || (readFloat? body).any Float.isFinite)

-- Whether the text, written plainly, would be read as something else.
def isAmbiguous (text : Text) : Bool :=
  let words :=
    ["", "null", "Null", "NULL", "~", "true", "True", "TRUE", "false", "False", "FALSE"]
  words.contains (String.ofList text) || isInteger text || isPaddedNumber text || isFloat text

-- Whether a mark inside a text stands where it would be read as punctuation.
def hasInnerMark (previous : Char) : Text → Bool
  | [] => false
  | c :: rest =>
      (c == ':' && blankNext rest.head?) || (c == '#' && blankNext (some previous)) ||
        hasInnerMark c rest

def hasMark : Text → Bool
  | [] => false
  | c :: rest =>
      ['#', ',', '[', ']', '\x7b', '\x7d', '&', '*', '!', '|', '>', '\'', '"', '%', '@',
          Text.backquote].contains c ||
        (['?', ':', '-'].contains c && blankNext rest.head?) ||
        ["---".toList, "...".toList].contains ((c :: rest).take 3) ||
        hasInnerMark c rest

def hasPair (first second : Char → Bool) : Text → Bool
  | a :: b :: rest => (first a && second b) || hasPair first second (b :: rest)
  | _ => false

inductive Style where
  | plain | singleQuoted | doubleQuoted | block
deriving DecidableEq, Repr

-- A text is written plainly when it would be read back as the same text, and not as a number, a
-- truth value or nothing. Characters that cannot be shown need double quotes and escapes, and a
-- text with a newline is a block of lines when nothing in it would get lost there.
def style (text : Text) : Style :=
  let isSpace (c : Char) : Bool := c == ' '
  let lost := hasPair isSpace isBreak text || !text.all isPrintable
  let edgeBlank (c : Option Char) : Bool := c.any fun c => isSpace c || isBreak c
  if text.contains '\n' then
    if lost || text.getLast? == some ' ' then .doubleQuoted else .block
  else if lost || hasPair isBreak isSpace text then .doubleQuoted
  else if isAmbiguous text || edgeBlank text.head? || edgeBlank text.getLast? ||
      text.any isBreak || hasMark text then .singleQuoted
  else .plain

def hex (width n : Nat) : Text :=
  let digits := (Nat.toDigits 16 n).map Char.toUpper
  List.replicate (width - digits.length) '0' ++ digits

def escapeChar (c : Char) : Text :=
  let n := c.toNat
  if c = '"' || c = '\\' then ['\\', c]
  else if isPrintable c && !isBreak c then [c]
  else match n with
    | 0x00 => ['\\', '0']
    | 0x07 => ['\\', 'a']
    | 0x08 => ['\\', 'b']
    | 0x09 => ['\\', 't']
    | 0x0A => ['\\', 'n']
    | 0x0B => ['\\', 'v']
    | 0x0C => ['\\', 'f']
    | 0x0D => ['\\', 'r']
    | 0x1B => ['\\', 'e']
    | 0x85 => ['\\', 'N']
    | 0x2028 => ['\\', 'L']
    | 0x2029 => ['\\', 'P']
    | _ =>
        if n ≤ 0xFF then ['\\', 'x'] ++ hex 2 n
        else if n ≤ 0xFFFF then ['\\', 'u'] ++ hex 4 n
        else ['\\', 'U'] ++ hex 8 n

-- The mark in front of a block: whether it starts with a blank, and what becomes of the line ends
-- at its end.
def blockMark (text : Text) : Text :=
  let lead := if text.head?.any fun c => c == ' ' || isBreak c then ['2'] else []
  let keep := match text.reverse with
    | [] => ['-']
    | [last] => if isBreak last then ['+'] else ['-']
    | last :: previous :: _ =>
        if !isBreak last then ['-'] else if isBreak previous then ['+'] else []
  '|' :: lead ++ keep

-- The characters of a text with every line indented that is not empty. Line ends stay as they are.
def indented (indent : Nat) (write : Char → Text) (atStart : Bool) : Text → Text
  | [] => []
  | c :: rest =>
      if isBreak c then c :: indented indent write true rest
      else (if atStart then List.replicate indent ' ' else []) ++ write c ++
        indented indent write false rest

def blockLines (indent : Nat) (text : Text) : Text :=
  let closing := if text.getLast?.any isBreak then [] else ['\n']
  indented indent (fun c => [c]) true text ++ closing

-- A text between single quotes, in which they are doubled.
def singleQuoted (indent : Nat) (text : Text) : Text :=
  let double (c : Char) : Text := if c = '\'' then ['\'', '\''] else [c]
  let closing := if text.getLast?.any isBreak then List.replicate indent ' ' else []
  '\'' :: indented indent double false text ++ closing ++ ['\'']

-- A text at the end of a line, with the line end. Further lines are indented as given.
def scalar (indent : Nat) (text : Text) : Text :=
  match style text with
  | .plain => text ++ ['\n']
  | .singleQuoted => singleQuoted indent text ++ ['\n']
  | .doubleQuoted => '"' :: text.flatMap escapeChar ++ ['"', '\n']
  | .block => blockMark text ++ '\n' :: blockLines indent text

def record (record : Record) : String :=
  let token := record.token
  let names := token.kind.capabilities.names
  let capabilities :=
    if names.isEmpty then ""
    else "  capabilities:\n" ++ String.join (names.map fun name => s!"  - {name}\n")
  s!"- line: {record.line}\n  column: {record.column}\n  kind: {token.kind.name}\n  text: " ++
    String.ofList (scalar 4 token.text) ++ capabilities

end ScoreLexer.Yaml

def ScoreLexer.Record.listYaml (records : List ScoreLexer.Record) : String :=
  if records.isEmpty then "[]\n" else String.join (records.map ScoreLexer.Yaml.record)
