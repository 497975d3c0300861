import ScoreLexer.Lexicon.Basic

namespace ScoreLexer

inductive ExtensionError where
  | unknownCategory (name : String)
  | invalidArity (command : String) (arity : UInt8)
deriving DecidableEq, Repr

def ExtensionError.message : ExtensionError → String
  | .unknownCategory name => s!"unknown lexicon category `{name}`"
  | .invalidArity command arity =>
      s!"markup command `{command}` declares {arity} arguments, at most 4 are supported"

-- What is added to a lexicon. Of two declarations for one command the later one, which stands
-- in front, counts.
structure Extension where
  words : List (Category × List String) := []
  arities : List (String × UInt8) := []

namespace Extension

def addWords (category : Category) (words : List String) (extension : Extension) : Extension :=
  { extension with words := extension.words ++ [(category, words)] }

def addWords? (category : String) (words : List String) (extension : Extension) :
    Except ExtensionError Extension :=
  match Category.ofName? category with
  | some found => .ok (extension.addWords found words)
  | none => .error (.unknownCategory category)

def declareArity (command : String) (arity : UInt8) (extension : Extension) :
    Except ExtensionError Extension :=
  if maxMarkupArity < arity then .error (.invalidArity command arity)
  else .ok { extension with arities := (command, arity) :: extension.arities }

def listedArity? (extension : Extension) (command : String) : Option UInt8 :=
  (Category.markupArities.find? fun (_, category) =>
    (Lexicon.collect extension.words category).contains command).map Prod.fst

end Extension

-- The lexicon with an extension on top. A declared number of arguments counts first, then the
-- added lists, then the lexicon below.
def Lexicon.extend (base : Lexicon) (extension : Extension) : Lexicon :=
  { words := fun category => base.words category ++ collect extension.words category
    markupArity := fun command =>
      match extension.arities.lookup command with
      | some arity => arity
      | none => (extension.listedArity? command).getD (base.markupArity command) }

end ScoreLexer
