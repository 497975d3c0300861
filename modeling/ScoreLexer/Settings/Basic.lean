import ScoreLexer.Lexicon.Extension
import ScoreLexer.Listing.Format
import ScoreLexer.Settings.Layer
import ScoreLexer.Settings.Toml.Reader

namespace ScoreLexer

-- Keys are in increasing order.
structure Settings where
  format : OutputFormat
  extraWords : List (String × List String)
  markupArity : List (String × UInt8)
deriving DecidableEq, Repr

namespace Settings

def defaults : Setting :=
  .table
    [("lexicon".toList, .table []),
     ("output".toList, .table [("format".toList, .text "text".toList)])]

def sortByKey {α : Type} (entries : List (String × α)) : List (String × α) :=
  entries.mergeSort fun a b => a.1 ≤ b.1

def tableOf? {α : Type} (read : Setting → Option α) : Setting → Option (List (String × α))
  | .table entries => do
      let entries ← entries.mapM fun (key, value) => (read value).map (String.ofList key, ·)
      return sortByKey entries
  | _ => none

def words? : Setting → Option (List String)
  | .list items => (items.mapM Setting.word?).map fun words => words.map String.ofList
  | _ => none

-- A field read by the given function, or what holds when it is missing. A record is a table with
-- the field under its key, or a list with the field at its place.
def fieldOr? {α : Type} (missing : Option α) (key : String) (place : Nat)
    (read : Setting → Option α) (record : Setting) : Option α := do
  let value? ← match record with
    | .table entries => some (Setting.find? key.toList entries)
    | .list items => some items[place]?
    | _ => none
  match value? with
  | some value => read value
  | none => missing

def formatNamed? (name : Text) : Option OutputFormat :=
  OutputFormat.ofName? (String.ofList (Text.lower name))

-- A format: a name, or a table whose only key is a name.
def format? : Setting → Option OutputFormat
  | .text name => formatNamed? name
  | .table [(name, _)] => formatNamed? name
  | _ => none

def additions? (record : Setting) :
    Option (List (String × List String) × List (String × UInt8)) := do
  let words ← fieldOr? (some []) "extra_words" 0 (tableOf? words?) record
  let arities ← fieldOr? (some []) "markup_arity" 1 (tableOf? Setting.arity?) record
  return (words, arities)

-- The settings that a table describes. What is not known is ignored.
def ofSetting? (root : Setting) : Option Settings := do
  let (words, arities) ← fieldOr? (some ([], [])) "lexicon" 0 additions? root
  let format ← fieldOr? none "output" 1 (fieldOr? none "format" 0 format?) root
  return ⟨format, words, arities⟩

-- The settings of some files over the defaults, with single overrides on top. There are none
-- when a file or a path is malformed or a value is of the wrong sort.
def load? (files : List Text) (overrides : List (Text × Text)) : Option Settings := do
  let layers ← files.mapM Toml.read?
  let overrides ← overrides.mapM fun (path, value) => (PathPart.parse? path).map (·, value)
  let layered := layers.foldl Setting.addLayer defaults
  let root := overrides.foldl (fun root (path, value) => Setting.putAt (.text value) path root)
    layered
  ofSetting? root

def isPlain (settings : Settings) : Bool :=
  settings.extraWords.isEmpty && settings.markupArity.isEmpty

-- The extension of the lexicon: words first, category by category, then numbers of arguments.
def extension (settings : Settings) : Except ExtensionError Extension := do
  let worded ← settings.extraWords.foldlM (fun extension (category, words) =>
    extension.addWords? category words) ({} : Extension)
  settings.markupArity.foldlM (fun extension (command, arity) =>
    extension.declareArity command arity) worded

def lexicon (settings : Settings) : Except ExtensionError Lexicon :=
  settings.extension.map Lexicon.builtin.extend

end Settings

end ScoreLexer
