namespace ScoreLexer

inductive Category where
  | keywords | musicCommands
  -- the six sorts of script
  | articulations | ornaments | fermatas | instrumentScripts | repeatScripts | ancientScripts
  | repeatTypes | clefs | contexts | grobs | contextProperties
  | paperVariables | headerVariables | layoutVariables
  -- markup commands by their number of arguments
  | markupCommands0 | markupCommands1 | markupCommands2 | markupCommands3 | markupCommands4
deriving DecidableEq, Repr

namespace Category

def all : List Category :=
  [.keywords, .musicCommands, .articulations, .ornaments, .fermatas, .instrumentScripts,
   .repeatScripts, .ancientScripts, .repeatTypes, .clefs, .contexts, .grobs, .contextProperties,
   .paperVariables, .headerVariables, .layoutVariables, .markupCommands0, .markupCommands1,
   .markupCommands2, .markupCommands3, .markupCommands4]

theorem mem_all (category : Category) : category ∈ all := by
  cases category <;> decide

def name : Category → String
  | .keywords => "keywords"
  | .musicCommands => "music-commands"
  | .articulations => "articulations"
  | .ornaments => "ornaments"
  | .fermatas => "fermatas"
  | .instrumentScripts => "instrument-scripts"
  | .repeatScripts => "repeat-scripts"
  | .ancientScripts => "ancient-scripts"
  | .repeatTypes => "repeat-types"
  | .clefs => "clefs"
  | .contexts => "contexts"
  | .grobs => "grobs"
  | .contextProperties => "context-properties"
  | .paperVariables => "paper-variables"
  | .headerVariables => "header-variables"
  | .layoutVariables => "layout-variables"
  | .markupCommands0 => "markup-commands-0"
  | .markupCommands1 => "markup-commands-1"
  | .markupCommands2 => "markup-commands-2"
  | .markupCommands3 => "markup-commands-3"
  | .markupCommands4 => "markup-commands-4"

def ofName? (name : String) : Option Category :=
  all.find? fun category => category.name == name

-- The categories of markup commands with their numbers of arguments, fewest first.
def markupArities : List (UInt8 × Category) :=
  [(0, .markupCommands0), (1, .markupCommands1), (2, .markupCommands2), (3, .markupCommands3),
   (4, .markupCommands4)]

end Category

end ScoreLexer
