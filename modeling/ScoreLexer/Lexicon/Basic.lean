import ScoreLexer.Lexicon.Builtin

namespace ScoreLexer

def maxMarkupArity : UInt8 := 4

def defaultMarkupArity : UInt8 := 1

structure Lexicon where
  -- all words of a category, without backslashes
  words : Category → List String
  -- the number of arguments of a markup command, named without its backslash
  markupArity : String → UInt8

namespace Lexicon

-- The number of arguments by search: the lowest number whose list has the command, the list of the
-- default number being passed over.
def searchedArity (words : Category → List String) (command : String) : UInt8 :=
  let others := Category.markupArities.filter fun (arity, _) => arity != defaultMarkupArity
  match others.find? fun (_, category) => (words category).contains command with
  | some (arity, _) => arity
  | none => defaultMarkupArity

-- The table of numbers of arguments, later entries in front. It is filled from the highest
-- number to the lowest, so that the lowest comes to stand first.
def arityTable (words : Category → List String) : List (String × UInt8) :=
  Category.markupArities.reverse.foldl (fun table (arity, category) =>
    (words category).foldl (fun table word => (word, arity) :: table) table) []

def tabledArity (table : List (String × UInt8)) (command : String) : UInt8 :=
  (table.lookup command).getD defaultMarkupArity

def ofWords (words : Category → List String) : Lexicon :=
  { words := words, markupArity := searchedArity words }

def builtinArities : List (String × UInt8) := arityTable Builtin.words

def builtin : Lexicon :=
  { words := Builtin.words, markupArity := tabledArity builtinArities }

def collect (entries : List (Category × List String)) (category : Category) : List String :=
  (entries.filter fun entry => entry.1 == category).flatMap Prod.snd

end Lexicon

end ScoreLexer
