import ScoreLexer.Settings.Value

namespace ScoreLexer

inductive PathPart where
  | key (name : Text)
  -- a place in a list, counted from the end when negative
  | index (place : Int)
deriving DecidableEq, Repr

namespace PathPart

def isKeyChar (c : Char) : Bool :=
  Text.isAsciiLetter c || Text.isAsciiDigit c || c == '_' || c == '-' || c == ' '

def isBlank (c : Char) : Bool := c == ' ' || c == '\t'

def bounded? (n : Int) : Option Int :=
  if -0x8000000000000000 ≤ n && n < 0x8000000000000000 then some n else none

-- The number between brackets: digits with an optional minus sign, blanks around them.
def index? (text : Text) : Option Int :=
  let (negative, unsigned) := match text.dropWhile isBlank with
    | '-' :: rest => (true, rest)
    | rest => (false, rest)
  let digits := unsigned.takeWhile Text.isAsciiDigit
  let behind := unsigned.dropWhile Text.isAsciiDigit
  if !digits.isEmpty && behind.all isBlank then
    let n : Int := Decimal.ofDigits digits
    bounded? (if negative then -n else n)
  else none

def key? (text : Text) : Option (PathPart × Text) :=
  match text.takeWhile isKeyChar with
  | [] => none
  | name => some (.key name, text.dropWhile isKeyChar)

def more? : Nat → Text → Option (List PathPart)
  | _, [] => some []
  | 0, _ => none
  | fuel + 1, '.' :: rest =>
      match key? rest with
      | none => none
      | some (part, rest) => (more? fuel rest).map (part :: ·)
  | fuel + 1, '[' :: rest =>
      match Text.splitOnce? ']' rest with
      | none => none
      | some (digits, rest) =>
          match index? digits with
          | none => none
          | some place => (more? fuel rest).map (.index place :: ·)
  | _, _ => none

def parse? (text : Text) : Option (List PathPart) :=
  match key? text with
  | none => none
  | some (part, rest) => (more? rest.length rest).map (part :: ·)

end PathPart

namespace Setting

def entries : Setting → List (Text × Setting)
  | .table entries => entries
  | _ => []

def items : Setting → List Setting
  | .list items => items
  | _ => []

mutual

-- Tables are merged key by key, and everything else is replaced. Keys are kept in lower case.
def mergeKey (table : List (Text × Setting)) (key : Text) : Setting → List (Text × Setting)
  | .table [] =>
      let key := Text.lower key
      insert key ((find? key table).getD (.table [])) table
  | .table (entry :: incoming) =>
      let key := Text.lower key
      let present := ((find? key table).getD Setting.nothing).entries
      insert key (.table (mergeAll present (entry :: incoming))) table
  | value => insert (Text.lower key) value table

def mergeAll (table : List (Text × Setting)) : List (Text × Setting) → List (Text × Setting)
  | [] => table
  | (key, value) :: incoming => mergeAll (mergeKey table key value) incoming

end

-- The items of a list with one of them set. Places before it that the list lacks are empty.
def setItem (items : List Setting) (place : Nat) (value : Setting) : List Setting :=
  let padding := List.replicate (place + 1 - items.length) Setting.nothing
  (items ++ padding).set place value

def placeIn (items : List Setting) : Int → Nat
  | .ofNat place => place
  | .negSucc n => items.length - (n + 1)

-- Put a value at a path. What stands in the way is replaced.
def putAt (value : Setting) : List PathPart → Setting → Setting
  | [], _ => value
  | [.key name], root => .table (mergeKey root.entries name value)
  | .key name :: path, root =>
      let key := Text.lower name
      let inner := (find? key root.entries).getD .nothing
      .table (insert key (putAt value path inner) root.entries)
  | .index place :: path, root =>
      let place := placeIn root.items place
      let inner := (root.items[place]?).getD .nothing
      .list (setItem root.items place (putAt value path inner))

-- A layer on top of what is there. The outermost keys of a layer may be paths.
def addLayer (root : Setting) (layer : List (Text × Setting)) : Setting :=
  layer.foldl (fun root (key, value) =>
    putAt value ((PathPart.parse? key).getD [.key key]) root) root

end Setting

end ScoreLexer
