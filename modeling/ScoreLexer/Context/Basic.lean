import ScoreLexer.Token.Kind

namespace ScoreLexer

inductive Context where
  | toplevel
  -- blocks, each after the context that waits for its opening brace
  | expectBook | book | expectBookPart | bookPart | expectScore | score | expectPaper | paper
  | expectHeader | header | expectLayout | layout | expectMidi | midi | expectWith | withBlock
  | expectContext | layoutContext
  -- music and what stands inside it
  | music | chord | string | blockComment | markup | repetition | duration | durationScaling
  -- commands that take a property or a name
  | overriding | reverting | setting | unsetting | newContext | clef | scriptAbbreviation
  -- input modes, each after the context that waits for it
  | expectLyricMode | lyricMode | expectChordMode | chordMode | expectNoteMode | noteMode
  | expectDrumMode | drumMode | expectFigureMode | figureMode
  -- Scheme, and music inside it
  | scheme | schemeList | schemeLilyPond
deriving DecidableEq, Repr

namespace Context

def all : List Context :=
  [.toplevel, .expectBook, .book, .expectBookPart, .bookPart, .expectScore, .score, .expectPaper,
   .paper, .expectHeader, .header, .expectLayout, .layout, .expectMidi, .midi, .expectWith,
   .withBlock, .expectContext, .layoutContext, .music, .chord, .string, .blockComment, .markup,
   .repetition, .duration, .durationScaling, .overriding, .reverting, .setting, .unsetting,
   .newContext, .clef, .scriptAbbreviation, .expectLyricMode, .lyricMode, .expectChordMode,
   .chordMode, .expectNoteMode, .noteMode, .expectDrumMode, .drumMode, .expectFigureMode,
   .figureMode, .scheme, .schemeList, .schemeLilyPond]

theorem mem_all (context : Context) : context ∈ all := by
  cases context <;> decide

def index (context : Context) : Nat := all.idxOf context

def name : Context → String
  | .toplevel => "Toplevel"
  | .expectBook => "ExpectBook"
  | .book => "Book"
  | .expectBookPart => "ExpectBookPart"
  | .bookPart => "BookPart"
  | .expectScore => "ExpectScore"
  | .score => "Score"
  | .expectPaper => "ExpectPaper"
  | .paper => "Paper"
  | .expectHeader => "ExpectHeader"
  | .header => "Header"
  | .expectLayout => "ExpectLayout"
  | .layout => "Layout"
  | .expectMidi => "ExpectMidi"
  | .midi => "Midi"
  | .expectWith => "ExpectWith"
  | .withBlock => "With"
  | .expectContext => "ExpectContext"
  | .layoutContext => "LayoutContext"
  | .music => "Music"
  | .chord => "Chord"
  | .string => "String"
  | .blockComment => "BlockComment"
  | .markup => "Markup"
  | .repetition => "Repeat"
  | .duration => "Duration"
  | .durationScaling => "DurationScaling"
  | .overriding => "Override"
  | .reverting => "Revert"
  | .setting => "Set"
  | .unsetting => "Unset"
  | .newContext => "NewContext"
  | .clef => "Clef"
  | .scriptAbbreviation => "ScriptAbbreviation"
  | .expectLyricMode => "ExpectLyricMode"
  | .lyricMode => "LyricMode"
  | .expectChordMode => "ExpectChordMode"
  | .chordMode => "ChordMode"
  | .expectNoteMode => "ExpectNoteMode"
  | .noteMode => "NoteMode"
  | .expectDrumMode => "ExpectDrumMode"
  | .drumMode => "DrumMode"
  | .expectFigureMode => "ExpectFigureMode"
  | .figureMode => "FigureMode"
  | .scheme => "Scheme"
  | .schemeList => "SchemeList"
  | .schemeLilyPond => "SchemeLilyPond"

def ofName? (name : String) : Option Context := all.find? fun context => context.name == name

end Context

end ScoreLexer
