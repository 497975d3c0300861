import ScoreLexer.Settings.Toml.Quoted

namespace ScoreLexer.Toml

-- The bound on nesting: the keys of a path and the values inside each other are fewer.
def nestingBound : Nat := 80

def isBareKeyChar (c : Char) : Bool :=
  Text.isAsciiLetter c || Text.isAsciiDigit c || c == '_' || c == '-'

-- A key: a bare one, or a string on one line.
def key? (text : Text) : Option (Text × Text) :=
  match text with
  | '"' :: rest => basic? (rest.length + 1) rest
  | '\'' :: rest => literal? rest
  | _ =>
      match text.takeWhile isBareKeyChar with
      | [] => none
      | key => some (key, text.dropWhile isBareKeyChar)

def keys? : Nat → Text → Option (List Text × Text)
  | 0, _ => none
  | room + 1, text =>
      match key? (skipBlank text) with
      | none => none
      | some (key, rest) =>
          match skipBlank rest with
          | '.' :: rest => (keys? room rest).map fun (keys, rest) => (key :: keys, rest)
          | rest => some ([key], rest)

def path? (text : Text) : Option (List Text × Text) := keys? (nestingBound - 1) text

end ScoreLexer.Toml
