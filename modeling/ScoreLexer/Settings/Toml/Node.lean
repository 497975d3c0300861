import ScoreLexer.Settings.Toml.Moment
import ScoreLexer.Settings.Value

namespace ScoreLexer.Toml

-- How a table came into being. Each table is opened once, a table made by a path is never opened,
-- and a path never goes into a table that was opened.
inductive Origin where
  | opened | passed | made
deriving DecidableEq, Repr

inductive Node where
  | scalar (value : Setting)
  | moment (moment : Moment)
  | list (items : List Node)
  -- a table between braces, to which nothing is added
  | closed (entries : List (Text × Node))
  | table (origin : Origin) (entries : List (Text × Node))
  -- a list of tables, of which the last is open
  | tables (front : List (List (Text × Node))) (last : List (Text × Node))

abbrev Nodes := List (Text × Node)

namespace Nodes

def put (key : Text) (node : Node) : Nodes → Nodes
  | [] => [(key, node)]
  | entry :: nodes => if entry.1 = key then (key, node) :: nodes else entry :: put key node nodes

def putLast (key : Text) (node : Node) (nodes : Nodes) : Nodes :=
  (nodes.filter fun entry => entry.1 ≠ key) ++ [(key, node)]

-- Open the table at a path. A table that was passed through takes its place where it is opened.
def openTable : List Text → Nodes → Option Nodes
  | [], _ => none
  | [key], nodes =>
      match nodes.lookup key with
      | none => some (put key (.table .opened []) nodes)
      | some (.table .passed inner) => some (putLast key (.table .opened inner) nodes)
      | some _ => none
  | key :: path, nodes =>
      match nodes.lookup key with
      | none => (openTable path []).map fun inner => put key (.table .passed inner) nodes
      | some (.table origin inner) =>
          (openTable path inner).map fun inner => put key (.table origin inner) nodes
      | some (.tables front last) =>
          (openTable path last).map fun last => put key (.tables front last) nodes
      | some _ => none

def openItem : List Text → Nodes → Option Nodes
  | [], _ => none
  | [key], nodes =>
      match nodes.lookup key with
      | none => some (put key (.tables [] []) nodes)
      | some (.tables front last) => some (put key (.tables (front ++ [last]) []) nodes)
      | some _ => none
  | key :: path, nodes =>
      match nodes.lookup key with
      | none => (openItem path []).map fun inner => put key (.table .passed inner) nodes
      | some (.table origin inner) =>
          (openItem path inner).map fun inner => put key (.table origin inner) nodes
      | some (.tables front last) =>
          (openItem path last).map fun last => put key (.tables front last) nodes
      | some _ => none

-- Set a key in a table, by way of a path. A path ends in a table made by paths.
def assign (viaPath made : Bool) (key : Text) (node : Node) : List Text → Nodes → Option Nodes
  | [], nodes =>
      if viaPath = made && (nodes.lookup key).isNone then some (put key node nodes) else none
  | next :: path, nodes =>
      match nodes.lookup next with
      | none =>
          (assign viaPath true key node path []).map fun inner =>
            put next (.table .made inner) nodes
      | some (.table .opened _) => none
      | some (.table origin inner) =>
          (assign viaPath (origin = .made) key node path inner).map fun inner =>
            put next (.table origin inner) nodes
      | some (.tables front last) =>
          (assign viaPath false key node path last).map fun last =>
            put next (.tables front last) nodes
      | some _ => none

def assignWithin (path : List Text) (node : Node) : List Text → Nodes → Option Nodes
  | [], nodes =>
      match path.reverse with
      | [] => none
      | key :: front => assign (!front.isEmpty) false key node front.reverse nodes
  | next :: location, nodes =>
      match nodes.lookup next with
      | some (.table origin inner) =>
          (assignWithin path node location inner).map fun inner =>
            put next (.table origin inner) nodes
      | some (.tables front last) =>
          (assignWithin path node location last).map fun last =>
            put next (.tables front last) nodes
      | _ => none

end Nodes

-- The key that marks a table as standing for the moment in its value.
def momentKey : Text := "$__toml_private_datetime".toList

def markedMoment? : Node → Option Moment
  | .scalar (.text text) => Moment.read? text
  | _ => none

mutual

def Node.toSetting? : Node → Option Setting
  | .scalar value => some value
  | .moment moment => some (.text moment.render)
  | .list items => (itemsOf? items).map .list
  | .closed entries => tableOf? entries
  | .table _ entries => tableOf? entries
  | .tables front last => do
      let front ← tablesOf? front
      let last ← tableOf? last
      some (.list (front ++ [last]))

-- The setting that the entries of a table amount to: a table, or a moment when the first key
-- marks it as one.
def tableOf? : List (Text × Node) → Option Setting
  | [] => some (.table [])
  | (key, node) :: nodes =>
      if key = momentKey then (markedMoment? node).map fun moment => .text moment.render
      else do
        let value ← node.toSetting?
        let entries ← entriesOf? nodes
        some (.table ((key, value) :: entries))

def entriesOf? : List (Text × Node) → Option (List (Text × Setting))
  | [] => some []
  | (key, node) :: nodes => do
      let value ← node.toSetting?
      let entries ← entriesOf? nodes
      some ((key, value) :: entries)

def itemsOf? : List Node → Option (List Setting)
  | [] => some []
  | node :: nodes => do
      let item ← node.toSetting?
      let items ← itemsOf? nodes
      some (item :: items)

def tablesOf? : List (List (Text × Node)) → Option (List Setting)
  | [] => some []
  | entries :: more => do
      let table ← tableOf? entries
      let tables ← tablesOf? more
      some (table :: tables)

end

end ScoreLexer.Toml
