namespace ScoreLexer

inductive Kind where
  -- text of no particular sort
  | space | unparsed | error
  -- comments
  | comment | lineComment | blockCommentStart | blockCommentEnd | blockCommentSpace
  -- quoted strings
  | string | stringQuotedStart | stringQuotedEnd | stringQuoteEscape
  -- numbers
  | decimalValue | fraction
  -- notes and durations
  | skip | rest | note | octave | duration | dot | scaling
  -- delimiters
  | openBracket | closeBracket | openSimultaneous | closeSimultaneous | sequentialStart
  | sequentialEnd | simultaneousStart | simultaneousEnd | chordStart | chordEnd | errorInChord
  | voiceSeparator | barCheck
  -- articulations
  | dynamic | articulation | direction | scriptAbbreviation
  -- slurs, ties, beams and ligatures
  | slurStart | slurEnd | phrasingSlurStart | phrasingSlurEnd | tie | beamStart | beamEnd
  | ligatureStart | ligatureEnd
  -- commands
  | keyword | command | userCommand | unit
  -- commands that open a block
  | book | bookPart | score | paper | header | layout | midi | withCommand | layoutContext
  -- markup
  | markup | markupLines | markupCommand | markupScore | markupWord | openBracketMarkup
  | closeBracketMarkup
  -- repeats
  | repeatCommand | repeatSpecifier | repeatStringSpecifier | repeatCount
  -- overrides and properties
  | overrideCommand | setCommand | revertCommand | unsetCommand | dotSetOverride
  | equalSignSetOverride
  -- contexts
  | newCommand | contextCommand | changeCommand | contextName | backSlashedContextName | grobName
  | contextProperty
  -- clefs and the variables of blocks
  | clefCommand | clefSpecifier | paperVariable | headerVariable | layoutVariable
  -- commands that open an input mode
  | lyricMode | noteMode | chordMode | drumMode | figureMode
  -- lyrics
  | lyricText | lyricHyphen | lyricExtender | lyricSkip | lyricTie
  -- assignments
  | identifier | equalSign
  -- Scheme
  | schemeStart | schemeOpenParen | schemeCloseParen | schemeQuote | schemeBool | schemeChar
  | schemeNumber | schemeWord | schemeComment | schemeLilyPondStart | schemeLilyPondEnd
deriving DecidableEq, Repr

namespace Kind

def all : List Kind :=
  [.space, .unparsed, .error, .comment, .lineComment, .blockCommentStart, .blockCommentEnd,
   .blockCommentSpace, .string, .stringQuotedStart, .stringQuotedEnd, .stringQuoteEscape,
   .decimalValue, .fraction, .skip, .rest, .note, .octave, .duration, .dot, .scaling,
   .openBracket, .closeBracket, .openSimultaneous, .closeSimultaneous, .sequentialStart,
   .sequentialEnd, .simultaneousStart, .simultaneousEnd, .chordStart, .chordEnd, .errorInChord,
   .voiceSeparator, .barCheck, .dynamic, .articulation, .direction, .scriptAbbreviation,
   .slurStart, .slurEnd, .phrasingSlurStart, .phrasingSlurEnd, .tie, .beamStart, .beamEnd,
   .ligatureStart, .ligatureEnd, .keyword, .command, .userCommand, .unit, .book, .bookPart,
   .score, .paper, .header, .layout, .midi, .withCommand, .layoutContext, .markup, .markupLines,
   .markupCommand, .markupScore, .markupWord, .openBracketMarkup, .closeBracketMarkup,
   .repeatCommand, .repeatSpecifier, .repeatStringSpecifier, .repeatCount, .overrideCommand,
   .setCommand, .revertCommand, .unsetCommand, .dotSetOverride, .equalSignSetOverride,
   .newCommand, .contextCommand, .changeCommand, .contextName, .backSlashedContextName,
   .grobName, .contextProperty, .clefCommand, .clefSpecifier, .paperVariable, .headerVariable,
   .layoutVariable, .lyricMode, .noteMode, .chordMode, .drumMode, .figureMode, .lyricText,
   .lyricHyphen, .lyricExtender, .lyricSkip, .lyricTie, .identifier, .equalSign, .schemeStart,
   .schemeOpenParen, .schemeCloseParen, .schemeQuote, .schemeBool, .schemeChar, .schemeNumber,
   .schemeWord, .schemeComment, .schemeLilyPondStart, .schemeLilyPondEnd]

theorem mem_all (kind : Kind) : kind ∈ all := by
  cases kind <;> decide

def index (kind : Kind) : Nat := all.idxOf kind

def name : Kind → String
  | .space => "Space"
  | .unparsed => "Unparsed"
  | .error => "Error"
  | .comment => "Comment"
  | .lineComment => "LineComment"
  | .blockCommentStart => "BlockCommentStart"
  | .blockCommentEnd => "BlockCommentEnd"
  | .blockCommentSpace => "BlockCommentSpace"
  | .string => "String"
  | .stringQuotedStart => "StringQuotedStart"
  | .stringQuotedEnd => "StringQuotedEnd"
  | .stringQuoteEscape => "StringQuoteEscape"
  | .decimalValue => "DecimalValue"
  | .fraction => "Fraction"
  | .skip => "Skip"
  | .rest => "Rest"
  | .note => "Note"
  | .octave => "Octave"
  | .duration => "Duration"
  | .dot => "Dot"
  | .scaling => "Scaling"
  | .openBracket => "OpenBracket"
  | .closeBracket => "CloseBracket"
  | .openSimultaneous => "OpenSimultaneous"
  | .closeSimultaneous => "CloseSimultaneous"
  | .sequentialStart => "SequentialStart"
  | .sequentialEnd => "SequentialEnd"
  | .simultaneousStart => "SimultaneousStart"
  | .simultaneousEnd => "SimultaneousEnd"
  | .chordStart => "ChordStart"
  | .chordEnd => "ChordEnd"
  | .errorInChord => "ErrorInChord"
  | .voiceSeparator => "VoiceSeparator"
  | .barCheck => "BarCheck"
  | .dynamic => "Dynamic"
  | .articulation => "Articulation"
  | .direction => "Direction"
  | .scriptAbbreviation => "ScriptAbbreviation"
  | .slurStart => "SlurStart"
  | .slurEnd => "SlurEnd"
  | .phrasingSlurStart => "PhrasingSlurStart"
  | .phrasingSlurEnd => "PhrasingSlurEnd"
  | .tie => "Tie"
  | .beamStart => "BeamStart"
  | .beamEnd => "BeamEnd"
  | .ligatureStart => "LigatureStart"
  | .ligatureEnd => "LigatureEnd"
  | .keyword => "Keyword"
  | .command => "Command"
  | .userCommand => "UserCommand"
  | .unit => "Unit"
  | .book => "Book"
  | .bookPart => "BookPart"
  | .score => "Score"
  | .paper => "Paper"
  | .header => "Header"
  | .layout => "Layout"
  | .midi => "Midi"
  | .withCommand => "With"
  | .layoutContext => "LayoutContext"
  | .markup => "Markup"
  | .markupLines => "MarkupLines"
  | .markupCommand => "MarkupCommand"
  | .markupScore => "MarkupScore"
  | .markupWord => "MarkupWord"
  | .openBracketMarkup => "OpenBracketMarkup"
  | .closeBracketMarkup => "CloseBracketMarkup"
  | .repeatCommand => "Repeat"
  | .repeatSpecifier => "RepeatSpecifier"
  | .repeatStringSpecifier => "RepeatStringSpecifier"
  | .repeatCount => "RepeatCount"
  | .overrideCommand => "Override"
  | .setCommand => "Set"
  | .revertCommand => "Revert"
  | .unsetCommand => "Unset"
  | .dotSetOverride => "DotSetOverride"
  | .equalSignSetOverride => "EqualSignSetOverride"
  | .newCommand => "New"
  | .contextCommand => "Context"
  | .changeCommand => "Change"
  | .contextName => "ContextName"
  | .backSlashedContextName => "BackSlashedContextName"
  | .grobName => "GrobName"
  | .contextProperty => "ContextProperty"
  | .clefCommand => "Clef"
  | .clefSpecifier => "ClefSpecifier"
  | .paperVariable => "PaperVariable"
  | .headerVariable => "HeaderVariable"
  | .layoutVariable => "LayoutVariable"
  | .lyricMode => "LyricMode"
  | .noteMode => "NoteMode"
  | .chordMode => "ChordMode"
  | .drumMode => "DrumMode"
  | .figureMode => "FigureMode"
  | .lyricText => "LyricText"
  | .lyricHyphen => "LyricHyphen"
  | .lyricExtender => "LyricExtender"
  | .lyricSkip => "LyricSkip"
  | .lyricTie => "LyricTie"
  | .identifier => "Name"
  | .equalSign => "EqualSign"
  | .schemeStart => "SchemeStart"
  | .schemeOpenParen => "SchemeOpenParen"
  | .schemeCloseParen => "SchemeCloseParen"
  | .schemeQuote => "SchemeQuote"
  | .schemeBool => "SchemeBool"
  | .schemeChar => "SchemeChar"
  | .schemeNumber => "SchemeNumber"
  | .schemeWord => "SchemeWord"
  | .schemeComment => "SchemeComment"
  | .schemeLilyPondStart => "SchemeLilyPondStart"
  | .schemeLilyPondEnd => "SchemeLilyPondEnd"

def ofName? (name : String) : Option Kind := all.find? fun kind => kind.name == name

end Kind

end ScoreLexer
