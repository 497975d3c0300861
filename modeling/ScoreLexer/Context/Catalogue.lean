import ScoreLexer.Context.Basic

namespace ScoreLexer

-- What a context does when none of its kinds matches.
inductive Fallthrough where
  | leave
  | replace (next : Context)
deriving DecidableEq, Repr

-- What a plain opening delimiter does in a context.
inductive Opening where
  | replace (body : Context)
  | enter (body : Context)
deriving DecidableEq, Repr

namespace Context

def spaceItems : List Kind := [.space, .blockCommentStart, .lineComment]

def baseItems : List Kind := spaceItems ++ [.schemeStart, .stringQuotedStart]

def commandItems : List Kind :=
  [.repeatCommand, .overrideCommand, .revertCommand, .setCommand, .unsetCommand, .newCommand,
   .contextCommand, .changeCommand, .withCommand, .clefCommand, .chordMode, .drumMode,
   .figureMode, .lyricMode, .noteMode, .markupLines, .markup, .keyword, .command, .userCommand]

def toplevelItems : List Kind :=
  baseItems ++ [.fraction, .sequentialStart, .simultaneousStart] ++ commandItems

def musicItems : List Kind :=
  baseItems ++
    [.dynamic, .skip, .rest, .note, .octave, .fraction, .duration, .voiceSeparator, .barCheck,
     .sequentialStart, .sequentialEnd, .simultaneousStart, .simultaneousEnd, .chordStart,
     .contextName, .grobName, .slurStart, .slurEnd, .phrasingSlurStart, .phrasingSlurEnd, .tie,
     .beamStart, .beamEnd, .ligatureStart, .ligatureEnd, .direction, .articulation] ++
    commandItems

def schemeItems : List Kind :=
  [.space, .schemeComment, .schemeLilyPondStart, .schemeBool, .schemeChar, .schemeOpenParen,
   .schemeQuote, .schemeNumber, .stringQuotedStart, .schemeWord]

-- The kinds a context admits, the most important first.
def candidates : Context → List Kind
  | .toplevel =>
      [.book, .bookPart, .score, .markup, .markupLines, .paper, .header, .layout] ++
        toplevelItems ++ [.identifier, .equalSign]
  | .expectBook | .expectBookPart | .expectScore | .expectPaper | .expectHeader | .expectLayout
  | .expectMidi | .expectWith | .expectContext => spaceItems ++ [.openBracket]
  | .book =>
      [.closeBracket, .markup, .markupLines, .bookPart, .score, .paper, .header, .layout] ++
        toplevelItems
  | .bookPart =>
      [.closeBracket, .markup, .markupLines, .score, .paper, .header, .layout] ++ toplevelItems
  | .score => [.closeBracket, .header, .layout, .midi, .withCommand] ++ toplevelItems
  | .paper =>
      baseItems ++
        [.closeBracket, .markup, .markupLines, .paperVariable, .equalSign, .decimalValue, .unit]
  | .header =>
      [.closeBracket, .markup, .markupLines, .headerVariable, .equalSign] ++ toplevelItems
  | .layout | .midi =>
      baseItems ++
        [.closeBracket, .layoutContext, .layoutVariable, .equalSign, .decimalValue, .unit]
  | .withBlock => [.closeBracket, .contextProperty, .equalSign] ++ toplevelItems
  | .layoutContext =>
      [.closeBracket, .backSlashedContextName, .contextProperty, .equalSign] ++ toplevelItems
  | .music | .chordMode | .noteMode | .drumMode | .figureMode => musicItems
  | .chord => [.errorInChord, .chordEnd] ++ musicItems
  | .string => [.stringQuotedEnd, .stringQuoteEscape]
  | .blockComment => [.blockCommentSpace, .blockCommentEnd]
  | .markup =>
      [.markupScore, .markupCommand, .openBracketMarkup, .closeBracketMarkup, .markupWord] ++
        baseItems
  | .repetition => spaceItems ++ [.repeatSpecifier, .repeatStringSpecifier, .repeatCount]
  | .duration => spaceItems ++ [.dot]
  | .durationScaling => spaceItems ++ [.scaling]
  | .overriding =>
      [.contextName, .dotSetOverride, .grobName, .equalSignSetOverride, .identifier, .markup,
       .markupLines] ++ baseItems
  | .reverting =>
      spaceItems ++ [.contextName, .dotSetOverride, .grobName, .identifier, .schemeStart]
  | .setting =>
      [.contextName, .dotSetOverride, .contextProperty, .equalSignSetOverride, .identifier,
       .markup, .markupLines] ++ baseItems
  | .unsetting => spaceItems ++ [.contextName, .dotSetOverride, .contextProperty, .identifier]
  | .newContext => spaceItems ++ [.contextName, .identifier, .equalSign, .stringQuotedStart]
  | .clef => spaceItems ++ [.clefSpecifier, .stringQuotedStart]
  | .scriptAbbreviation => spaceItems ++ [.scriptAbbreviation]
  | .expectLyricMode =>
      spaceItems ++ [.openBracket, .openSimultaneous, .schemeStart, .stringQuotedStart, .identifier]
  | .lyricMode =>
      baseItems ++
        [.closeBracket, .closeSimultaneous, .openBracket, .openSimultaneous, .lyricHyphen,
         .lyricExtender, .lyricSkip, .lyricTie, .lyricText, .dynamic, .skip, .duration, .markup,
         .markupLines] ++
        commandItems
  | .expectChordMode | .expectNoteMode | .expectDrumMode | .expectFigureMode =>
      spaceItems ++ [.openBracket, .openSimultaneous]
  | .scheme => schemeItems
  | .schemeList => .schemeCloseParen :: schemeItems
  | .schemeLilyPond => .schemeLilyPondEnd :: musicItems

-- The kind of text that none of the admitted kinds claims.
def defaultKind : Context → Kind
  | .string => .string
  | .blockComment => .comment
  | .expectBook | .expectBookPart | .expectScore | .expectPaper | .expectHeader | .expectLayout
  | .expectMidi | .expectWith | .expectContext | .scheme | .schemeList => .error
  | _ => .unparsed

def freshArguments : Context → Nat
  | .clef | .scriptAbbreviation | .scheme => 1
  | _ => 0

-- What happens when nothing matches, if not a token of the default kind. Contexts that wait for the
-- brace of a block do not give way: anything but blanks and comments before it is an error.
def fallthrough? : Context → Option Fallthrough
  | .duration => some (.replace .durationScaling)
  | .repetition | .durationScaling | .reverting | .unsetting | .newContext | .clef
  | .scriptAbbreviation | .expectLyricMode | .expectChordMode | .expectNoteMode | .expectDrumMode
  | .expectFigureMode => some .leave
  | _ => none

def opening? : Context → Option Opening
  | .expectBook => some (.replace .book)
  | .expectBookPart => some (.replace .bookPart)
  | .expectScore => some (.replace .score)
  | .expectPaper => some (.replace .paper)
  | .expectHeader => some (.replace .header)
  | .expectLayout => some (.replace .layout)
  | .expectMidi => some (.replace .midi)
  | .expectWith => some (.replace .withBlock)
  | .expectContext => some (.replace .layoutContext)
  | .expectLyricMode | .lyricMode => some (.enter .lyricMode)
  | .expectChordMode => some (.enter .chordMode)
  | .expectNoteMode => some (.enter .noteMode)
  | .expectDrumMode => some (.enter .drumMode)
  | .expectFigureMode => some (.enter .figureMode)
  | _ => none

def waitsForBlock (context : Context) : Bool :=
  match context.opening? with
  | some (.replace _) => true
  | _ => false

-- Whether a stack may rest on the context. The bottom of a stack is never unwound, so it must
-- be a context that never gives way and is never replaced.
def canBeRoot (context : Context) : Bool :=
  context.fallthrough?.isNone && !context.waitsForBlock

theorem fallthrough?_of_replace {context next : Context}
    (h : context.fallthrough? = some (.replace next)) : next.fallthrough? = some .leave := by
  cases context <;> simp [fallthrough?] at h
  subst h
  rfl

end Context

end ScoreLexer
