namespace ScoreLexer

inductive OutputFormat where
  | text | json | yaml
deriving DecidableEq, Repr

namespace OutputFormat

def all : List OutputFormat := [.text, .json, .yaml]

def name : OutputFormat → String
  | .text => "text"
  | .json => "json"
  | .yaml => "yaml"

def ofName? (name : String) : Option OutputFormat := all.find? fun format => format.name == name

def unknownMessage (name : String) : String := s!"unknown output format `{name}`"

end OutputFormat

end ScoreLexer
