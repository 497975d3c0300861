import ScoreLexer.Settings.Toml.Key
import ScoreLexer.Settings.Toml.Node
import ScoreLexer.Settings.Toml.Number

namespace ScoreLexer.Toml

def isScalarChar (c : Char) : Bool :=
  isBareKeyChar c || c == '+' || c == '.' || c == ':'

def scalar? (text : Text) : Option Node :=
  if text == "true".toList then some (.scalar (.boolean true))
  else if text == "false".toList then some (.scalar (.boolean false))
  else match Moment.read? text with
    | some moment => some (.moment moment)
    | none =>
        match integer? text with
        | some value => some (.scalar value)
        | none => (float? text).map .scalar

-- A word without quotes at the front of a text. A blank may stand between a date and a time.
def word? (text : Text) : Option (Node × Text) :=
  let word := text.takeWhile isScalarChar
  let rest := text.dropWhile isScalarChar
  match Date.read? word, rest with
  | some (_, []), ' ' :: more =>
      let time := more.takeWhile isScalarChar
      match Moment.read? (word ++ ' ' :: time) with
      | some moment => some (.moment moment, more.dropWhile isScalarChar)
      | none => (scalar? word).map (·, rest)
  | _, _ => (scalar? word).map (·, rest)

mutual

-- A value at the front of a text, inside so many others. The fuel bounds its length.
def value? (depth : Nat) : Nat → Text → Option (Node × Text)
  | 0, _ => none
  | fuel + 1, text =>
      match text with
      | '[' :: rest =>
          if nestingBound ≤ depth + 1 then none
          else match skipSpacing false rest with
            | none => none
            | some (']' :: rest) => some (.list [], rest)
            | some rest =>
                (items? (depth + 1) fuel rest).map fun (items, rest) => (.list items, rest)
      | '\x7b' :: rest =>
          if nestingBound ≤ depth + 1 then none
          else match skipBlank rest with
            | '\x7d' :: rest => some (.closed [], rest)
            | rest => pairs? (depth + 1) fuel [] rest
      | _ =>
          match string? text with
          | some (value, rest) => some (.scalar (.text value), rest)
          | none => word? text

-- The items of a list up to its closing bracket. A comma may follow the last one.
def items? (depth : Nat) : Nat → Text → Option (List Node × Text)
  | 0, _ => none
  | fuel + 1, text =>
      match value? depth fuel text with
      | none => none
      | some (item, rest) =>
          match skipSpacing false rest with
          | some (']' :: rest) => some ([item], rest)
          | some (',' :: rest) =>
              match skipSpacing false rest with
              | none => none
              | some (']' :: rest) => some ([item], rest)
              | some rest =>
                  (items? depth fuel rest).map fun (items, rest) => (item :: items, rest)
          | _ => none

def pairs? (depth : Nat) : Nat → Nodes → Text → Option (Node × Text)
  | 0, _, _ => none
  | fuel + 1, nodes, text =>
      match path? text with
      | some (path, '=' :: rest) =>
          match value? depth fuel (skipBlank rest) with
          | none => none
          | some (value, rest) =>
              match nodes.assignWithin path value [] with
              | none => none
              | some nodes =>
                  match skipBlank rest with
                  | '\x7d' :: rest => some (.closed nodes, rest)
                  | ',' :: rest => pairs? depth fuel nodes rest
                  | _ => none
      | _ => none

end

structure Progress where
  nodes : Nodes := []
  location : List Text := []

def lines? : Nat → Progress → Text → Option Nodes
  | 0, _, _ => none
  | fuel + 1, progress, text =>
      match skipSpacing false text with
      | none => none
      | some [] => some progress.nodes
      | some ('[' :: '[' :: rest) =>
          match path? rest with
          | some (path, ']' :: ']' :: rest) =>
              match progress.nodes.openItem path, lineEnd? false rest with
              | some nodes, some rest => lines? fuel ⟨nodes, path⟩ rest
              | _, _ => none
          | _ => none
      | some ('[' :: rest) =>
          match path? rest with
          | some (path, ']' :: rest) =>
              match progress.nodes.openTable path, lineEnd? false rest with
              | some nodes, some rest => lines? fuel ⟨nodes, path⟩ rest
              | _, _ => none
          | _ => none
      | some rest =>
          match path? rest with
          | some (path, '=' :: rest) =>
              match value? 0 (2 * rest.length + 2) (skipBlank rest) with
              | none => none
              | some (value, rest) =>
                  match progress.nodes.assignWithin path value progress.location,
                      lineEnd? false rest with
                  | some nodes, some rest => lines? fuel { progress with nodes } rest
                  | _, _ => none
          | _ => none

def orderMark : Char := Char.ofNat 0xFEFF

def dropOrderMark : Text → Text
  | [] => []
  | c :: text => if c = orderMark then text else c :: text

def read? (text : Text) : Option (List (Text × Setting)) := do
  let body := dropOrderMark text
  match ← tableOf? (← lines? (body.length + 1) {} body) with
  | .table entries => some entries
  | _ => none

end ScoreLexer.Toml
