import ScoreLexer.Lexicon.Vocabulary
import ScoreLexer.Text.Blank
import ScoreLexer.Token.Kind

namespace ScoreLexer

namespace Pattern

def oneOf (chars : List Char) : Pattern := one chars.contains

def runWithout (chars : List Char) : Pattern :=
  run fun c => !Text.isBlank c && !chars.contains c

def digits : Pattern := run Text.isAsciiDigit

def letters : Pattern := run Text.isAsciiLetter

-- A backslash and one of the names, up to the edge of a word.
def anyCommand (names : List String) : Pattern :=
  seq (word "\\") (seq (words (names.map String.toList)) edge)

def dynamic : Pattern :=
  alt
    (anyCommand ["fffff", "ffff", "fff", "ff", "f", "ppppp", "pppp", "ppp", "pp", "p", "mf", "mp",
      "fp", "spp", "sp", "sff", "sf", "sfz", "rfz"])
    (seq (word "\\") (oneOf ['<', '!', '>']))

-- The length of a note: a named one, or a power of two. A number comes before every number that
-- begins it.
def duration : Pattern :=
  alt
    (anyCommand ["maxima", "longa", "breve"])
    (words (["1024", "2048", "128", "256", "512", "16", "32", "64", "1", "2", "4", "8"].map
      String.toList))

-- What must not stand between the angle brackets of a chord.
def errorInChord : Pattern :=
  alt
    (seq (oneOf ['-', '_', '^']) (oneOf ['_', '.', '>', '|', '+', '^', '-']))
    (alt (words ["<<".toList, ">>".toList])
      (seq (word "\\") (oneOf ['\\', ']', '[', '(', ')'])))

-- A number in Scheme: an integer, a decimal number or a fraction, up to the edge of a word.
def schemeNumber : Pattern :=
  seq (optional (word "-"))
    (seq digits
      (seq (optional (alt (seq (word ".") digits) (seq (word "/") digits))) edge))

end Pattern

namespace Recognizer

open Pattern

def plain (pattern : Pattern) : Recognizer := { pattern }

def symbol (text : String) : Recognizer := plain (.word text)

def named (names : List String) : Recognizer := plain (anyCommand names)

def unextended (text : String) : Recognizer := { pattern := .word text, guard := .notLetter }

def commands (list : List Text) : Recognizer :=
  { pattern := seq (.word "\\") (.words list), guard := .notLetter }

def bareWords (list : List Text) : Recognizer :=
  { pattern := seq (.words list) edge, fromWordStart := true }

end Recognizer

open Pattern Recognizer

-- Four kinds have no recogniser and are only given to text that nothing else claims.
def Kind.recognizer? (vocabulary : Vocabulary) : Kind → Option Recognizer
  | .unparsed | .error | .comment | .string => none
  | .space | .blockCommentSpace => plain (run Text.isBlank)
  | .lineComment => plain (seq (word "%") (.optional (run (· != '\n'))))
  | .blockCommentStart => symbol "%\x7b"
  | .blockCommentEnd => symbol "%\x7d"
  | .stringQuotedStart | .stringQuotedEnd => symbol "\""
  | .stringQuoteEscape => plain (seq (word "\\") (oneOf ['\\', '"']))
  | .decimalValue =>
      plain (seq (.optional (word "-")) (seq digits (.optional (seq (word ".") digits))))
  | .fraction => plain (seq digits (seq (word "/") digits))
  | .skip => some { pattern := words ["\\skip".toList, "s".toList], guard := .notLetter }
  | .rest => some { pattern := oneOf ['R', 'r'], guard := .notLetter }
  | .note => some { pattern := run Char.isLower, guard := .notLetter }
  | .octave => plain (run fun c => c == '\'' || c == ',')
  | .duration => some { pattern := Pattern.duration, guard := .notDigit }
  | .dot | .dotSetOverride => symbol "."
  | .scaling =>
      plain (seq (word "*") (seq (.optional (run fun c => c == '\t' || c == ' '))
        (seq digits (.optional (seq (word "/") digits)))))
  | .openBracket | .sequentialStart | .openBracketMarkup => symbol "\x7b"
  | .closeBracket | .sequentialEnd | .closeBracketMarkup => symbol "\x7d"
  | .openSimultaneous | .simultaneousStart => symbol "<<"
  | .closeSimultaneous | .simultaneousEnd => symbol ">>"
  | .chordStart => symbol "<"
  | .chordEnd => symbol ">"
  | .errorInChord => plain Pattern.errorInChord
  | .voiceSeparator => symbol "\\\\"
  | .barCheck => symbol "|"
  | .dynamic => plain Pattern.dynamic
  | .articulation => commands vocabulary.scripts
  | .direction => plain (oneOf ['-', '_', '^'])
  | .scriptAbbreviation => plain (oneOf ['+', '|', '>', '.', '_', '^', '-'])
  | .slurStart | .schemeOpenParen => symbol "("
  | .slurEnd | .schemeCloseParen => symbol ")"
  | .phrasingSlurStart => symbol "\\("
  | .phrasingSlurEnd => symbol "\\)"
  | .tie | .lyricTie => symbol "~"
  | .beamStart => symbol "["
  | .beamEnd => symbol "]"
  | .ligatureStart => symbol "\\["
  | .ligatureEnd => symbol "\\]"
  | .keyword => commands vocabulary.keywords
  | .command => commands vocabulary.musicCommands
  | .userCommand => some { pattern := seq (word "\\") letters, guard := .notLetter }
  | .unit => named ["mm", "cm", "in", "pt"]
  | .book => named ["book"]
  | .bookPart => named ["bookpart"]
  | .score | .markupScore => named ["score"]
  | .paper => named ["paper"]
  | .header => named ["header"]
  | .layout => named ["layout"]
  | .midi => named ["midi"]
  | .withCommand => named ["with"]
  | .layoutContext | .contextCommand => named ["context"]
  | .markup => unextended "\\markup"
  | .markupLines => unextended "\\markuplines"
  | .markupCommand =>
      some { pattern := seq (word "\\") (seq letters (many (seq (word "-") letters)))
             guard := .notLetter }
  | .markupWord => plain (runWithout ['\x7b', '\x7d', '"', '\\', '#', '%'])
  | .repeatCommand => unextended "\\repeat"
  | .repeatSpecifier =>
      some { pattern := words vocabulary.repeatTypes, fromWordStart := true, guard := .notLetter }
  | .repeatStringSpecifier =>
      plain (seq (word "\"") (seq (words vocabulary.repeatTypes) (word "\"")))
  | .repeatCount => plain digits
  | .overrideCommand => named ["override"]
  | .setCommand => named ["set"]
  | .revertCommand => named ["revert"]
  | .unsetCommand => named ["unset"]
  | .equalSignSetOverride | .equalSign => symbol "="
  | .newCommand => named ["new"]
  | .changeCommand => named ["change"]
  | .contextName => bareWords vocabulary.contexts
  | .backSlashedContextName => plain (seq (word "\\") (seq (words vocabulary.contexts) edge))
  | .grobName => bareWords vocabulary.grobs
  | .contextProperty => bareWords vocabulary.contextProperties
  | .clefCommand => unextended "\\clef"
  | .clefSpecifier => bareWords vocabulary.clefs
  | .paperVariable => bareWords vocabulary.paperVariables
  | .headerVariable => bareWords vocabulary.headerVariables
  | .layoutVariable => bareWords vocabulary.layoutVariables
  | .lyricMode => named ["lyricmode", "oldaddlyrics", "addlyrics", "lyrics", "lyricsto"]
  | .noteMode => named ["notes", "notemode"]
  | .chordMode => named ["chords", "chordmode"]
  | .drumMode => named ["drums", "drummode"]
  | .figureMode => named ["figures", "figuremode"]
  | .lyricText =>
      plain (run fun c =>
        !(Text.isBlank c || Text.isAsciiDigit c || ['\\', '~', '"'].contains c))
  | .lyricHyphen => symbol "--"
  | .lyricExtender => symbol "__"
  | .lyricSkip => symbol "_"
  | .identifier => some { pattern := letters, guard := .notLetter }
  | .schemeStart => plain (oneOf ['#', '$'])
  | .schemeQuote => plain (seq (oneOf ['\'', ',', Text.backquote]) (.optional (word "@")))
  | .schemeBool =>
      plain (seq (word "#")
        (seq (words ["true".toList, "false".toList, "t".toList, "f".toList]) edge))
  | .schemeChar =>
      plain (seq (word "#\\") (alt letters (one fun c => !Text.isBlank c)))
  | .schemeNumber => plain Pattern.schemeNumber
  | .schemeWord => plain (runWithout ['(', ')', '\'', '"', Text.backquote, ',', ';'])
  | .schemeComment => plain (seq (word ";") (.optional (run (· != '\n'))))
  | .schemeLilyPondStart => plain (seq (.optional (word "#")) (word "\x7b"))
  | .schemeLilyPondEnd => symbol "#\x7d"

end ScoreLexer
