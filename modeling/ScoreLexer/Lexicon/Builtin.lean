import ScoreLexer.Lexicon.Category

namespace ScoreLexer.Builtin

def keywords : List String :=
  ["accepts", "alias", "consists", "defaultchild", "denies", "grobdescriptions", "include",
   "language", "name", "once", "remove", "sequential", "simultaneous", "type", "version", "score",
   "book", "bookpart", "header", "paper", "midi", "layout", "with", "context"]

def musicCommands : List String :=
  ["acciaccatura", "addQuote", "afterGrace", "aikenHeads", "allowPageTurn", "alternative",
   "appoggiatura", "arpeggio", "arpeggioArrowDown", "arpeggioArrowUp", "arpeggioBracket",
   "arpeggioNormal", "arpeggioParenthesis", "ascendens", "auctum", "augmentum", "autoBeamOff",
   "autoBeamOn", "balloonGrobText", "balloonText", "bar", "barNumberCheck", "bendAfter", "breathe",
   "break", "cadenzaOff", "cadenzaOn", "caesura", "cavum", "compressFullBarRests", "cresc",
   "crescHairpin", "crescTextCresc", "cueDuring", "default", "defaultTimeSignature", "deminutum",
   "descendens", "dim", "dimHairpin", "dimTextDecr", "dimTextDecresc", "dimTextDim",
   "displayLilyMusic", "displayMusic", "divisioMaior", "divisioMaxima", "divisioMinima",
   "dotsDown", "dotsNeutral", "dotsUp", "dynamicDown", "dynamicNeutral", "dynamicUp",
   "easyHeadsOff", "easyHeadsOn", "endcresc", "endcr", "enddecr", "enddim", "endincipit",
   "endSpanners", "expandFullBarRests", "featherDurations", "finalis", "flexa", "frenchChords",
   "germanChords", "glissando", "grace", "harmonic", "hideNotes", "hideStaffSwitch",
   "improvisationOff", "improvisationOn", "inclinatum", "instrumentSwitch", "italianChords",
   "keepWithTag", "key", "killCues", "label", "laissezVibrer", "linea", "makeClusters", "mark",
   "melisma", "melismaEnd", "mergeDifferentlyDottedOff", "mergeDifferentlyDottedOn",
   "mergeDifferentlyHeadedOff", "mergeDifferentlyHeadedOn", "newSpacingSection", "noBeam",
   "noBreak", "noPageBreak", "noPageTurn", "normalsize", "numericTimeSignature", "octaveCheck",
   "oneVoice", "oriscus", "ottava", "pageBreak", "pageTurn", "parallelMusic", "parenthesize",
   "partcombine", "partial", "pes", "phrasingSlurDashed", "phrasingSlurDotted", "phrasingSlurDown",
   "phrasingSlurNeutral", "phrasingSlurSolid", "phrasingSlurUp", "pitchedTrill",
   "pointAndClickOff", "pointAndClickOn", "quilisma", "quoteDuring", "relative", "removeWithTag",
   "repeatTie", "resetRelativeOctave", "rightHandFinger", "sacredHarpHeads", "scaleDurations",
   "setTextCresc", "setTextDecresc", "setTextDim", "shiftOff", "shiftOn", "shiftOnn", "shiftOnnn",
   "showStaffSwitch", "skip", "slurDashed", "slurDotted", "slurDown", "slurNeutral", "slurSolid",
   "slurUp", "small", "sostenutoOff", "sostenutoOn", "southernHarmonyHeads", "spacingTweaks",
   "startGroup", "startStaff", "startTextSpan", "startTrillSpan", "stemDown", "stemNeutral",
   "stemUp", "stopGroup", "stopStaff", "stopTextSpan", "stopTrillSpan", "stropha", "sustainOff",
   "sustainOn", "tag", "teeny", "tempo", "textLengthOff", "textLengthOn", "textSpannerDown",
   "textSpannerNeutral", "textSpannerUp", "tieDashed", "tieDotted", "tieDown", "tieNeutral",
   "tieSolid", "tieUp", "time", "times", "tiny", "transpose", "transposedCueDuring",
   "transposition", "tupletDown", "tupletNeutral", "tupletUp", "unaCorda", "unfoldRepeats",
   "virga", "virgula", "voiceFour", "voiceFourStyle", "voiceNeutralStyle", "voiceOne",
   "voiceOneStyle", "voiceThree", "voiceThreeStyle", "voiceTwo", "voiceTwoStyle", "walkerHeads",
   "walkerHeadsMinor", "xNotesOff", "xNotesOn"]

def articulations : List String :=
  ["accent", "espressivo", "marcato", "portato", "staccatissimo", "staccato", "tenuto"]

def ornaments : List String :=
  ["prall", "mordent", "prallmordent", "turn", "upprall", "downprall", "upmordent", "downmordent",
   "lineprall", "prallprall", "pralldown", "prallup", "reverseturn", "trill"]

def fermatas : List String :=
  ["shortfermata", "fermata", "longfermata", "verylongfermata"]

def instrumentScripts : List String :=
  ["upbow", "downbow", "flageolet", "thumb", "snappizzicato", "open", "halfopen", "stopped",
   "lheel", "rheel", "ltoe", "rtoe"]

def repeatScripts : List String :=
  ["segno", "coda", "varcoda"]

def ancientScripts : List String :=
  ["ictus", "accentus", "circulus", "semicirculus", "signumcongruentiae"]

def repeatTypes : List String :=
  ["unfold", "percent", "volta", "tremolo"]

def clefs : List String :=
  ["alto", "baritone", "bass", "C", "F", "french", "G", "GG", "mezzosoprano", "percussion",
   "soprano", "subbass", "tab", "tenor", "tenorG", "treble", "varbaritone", "violin"]

def contexts : List String :=
  ["ChoirStaff", "ChordNames", "CueVoice", "Devnull", "DrumStaff", "DrumVoice", "Dynamics",
   "FiguredBass", "FretBoards", "Global", "GrandStaff", "GregorianTranscriptionStaff",
   "GregorianTranscriptionVoice", "Lyrics", "MensuralStaff", "MensuralVoice", "NoteNames",
   "PianoStaff", "RhythmicStaff", "Score", "Staff", "StaffGroup", "TabStaff", "TabVoice", "Timing",
   "VaticanaStaff", "VaticanaVoice", "Voice"]

def grobs : List String :=
  ["Accidental", "AccidentalCautionary", "AccidentalPlacement", "AccidentalSuggestion", "Ambitus",
   "AmbitusAccidental", "AmbitusLine", "AmbitusNoteHead", "Arpeggio", "BalloonTextItem", "BarLine",
   "BarNumber", "BassFigure", "BassFigureAlignment", "BassFigureAlignmentPositioning",
   "BassFigureBracket", "BassFigureContinuation", "BassFigureLine", "Beam", "BendAfter",
   "BreakAlignGroup", "BreakAlignment", "BreathingSign", "ChordName", "Clef", "ClusterSpanner",
   "ClusterSpannerBeacon", "CombineTextScript", "Custos", "DotColumn", "Dots",
   "DoublePercentRepeat", "DoublePercentRepeatCounter", "DynamicLineSpanner", "DynamicText",
   "DynamicTextSpanner", "Episema", "Fingering", "FretBoard", "Glissando", "GraceSpacing",
   "GridLine", "GridPoint", "Hairpin", "HarmonicParenthesesItem", "HorizontalBracket",
   "InstrumentName", "InstrumentSwitch", "KeyCancellation", "KeySignature", "LaissezVibrerTie",
   "LaissezVibrerTieColumn", "LedgerLineSpanner", "LeftEdge", "LigatureBracket", "LyricExtender",
   "LyricHyphen", "LyricSpace", "LyricText", "MeasureGrouping", "MelodyItem", "MensuralLigature",
   "MetronomeMark", "MultiMeasureRest", "MultiMeasureRestNumber", "MultiMeasureRestText",
   "NonMusicalPaperColumn", "NoteCollision", "NoteColumn", "NoteHead", "NoteName", "NoteSpacing",
   "OctavateEight", "OttavaBracket", "PaperColumn", "ParenthesesItem", "PercentRepeat",
   "PercentRepeatCounter", "PhrasingSlur", "PianoPedalBracket", "RehearsalMark", "RepeatSlash",
   "RepeatTie", "RepeatTieColumn", "Rest", "RestCollision", "Script", "ScriptColumn", "ScriptRow",
   "SeparationItem", "Slur", "SostenutoPedal", "SostenutoPedalLineSpanner", "SpacingSpanner",
   "SpanBar", "StaffGrouper", "StaffSpacing", "StaffSymbol", "StanzaNumber", "Stem", "StemTremolo",
   "StringNumber", "StrokeFinger", "SustainPedal", "SustainPedalLineSpanner", "System",
   "SystemStartBar", "SystemStartBrace", "SystemStartBracket", "SystemStartSquare", "TabNoteHead",
   "TextScript", "TextSpanner", "Tie", "TieColumn", "TimeSignature", "TrillPitchAccidental",
   "TrillPitchGroup", "TrillPitchHead", "TrillSpanner", "TupletBracket", "TupletNumber",
   "UnaCordaPedal", "UnaCordaPedalLineSpanner", "VaticanaLigature", "VerticalAlignment",
   "VerticalAxisGroup", "VoiceFollower", "VoltaBracket", "VoltaBracketSpanner"]

def contextProperties : List String :=
  ["aDueText", "alignAboveContext", "alignBelowContext", "alternativeNumberingStyle",
   "associatedVoice", "autoAccidentals", "autoBeamCheck", "autoBeaming", "autoCautionaries",
   "barAlways", "barCheckSynchronize", "barNumberVisibility", "baseMoment", "bassStaffProperties",
   "beamExceptions", "beatStructure", "chordChanges", "chordNameExceptions", "chordNameFunction",
   "chordNameSeparator", "chordNoteNamer", "chordRootNamer", "clefGlyph", "clefOctavation",
   "clefPosition", "completionBusy", "connectArpeggios", "countPercentRepeats",
   "createKeyOnClefChange", "createSpacing", "crescendoSpanner", "crescendoText",
   "currentBarNumber", "decrescendoSpanner", "decrescendoText", "defaultBarType",
   "doubleRepeatType", "doubleSlurs", "drumPitchTable", "drumStyleTable", "explicitClefVisibility",
   "explicitKeySignatureVisibility", "extendersOverRests", "extraNatural",
   "figuredBassAlterationDirection", "figuredBassFormatter", "followVoice", "fontSize",
   "forbidBreak", "forceClef", "gridInterval", "harmonicAccidentals", "harmonicDots",
   "highStringOne", "ignoreBarChecks", "ignoreFiguredBassRest", "ignoreMelismata",
   "implicitBassFigures", "includeGraceNotes", "instrumentCueName", "instrumentEqualizer",
   "instrumentName", "instrumentTransposition", "keepAliveInterfaces", "keyAlterationOrder",
   "keySignature", "lyricMelismaAlignment", "majorSevenSymbol", "measureLength", "measurePosition",
   "melismaBusyProperties", "metronomeMarkFormatter", "middleCClefPosition", "middleCOffset",
   "middleCPosition", "midiInstrument", "midiMaximumVolume", "midiMinimumVolume", "minimumFret",
   "minimumPageTurnLength", "minimumRepeatLengthForPageTurn", "noChordSymbol",
   "noteToFretFunction", "ottavation", "output", "pedalSostenutoStrings", "pedalSostenutoStyle",
   "pedalSustainStrings", "pedalSustainStyle", "pedalUnaCordaStrings", "pedalUnaCordaStyle",
   "predefinedDiagramTable", "printKeyCancellation", "printOctaveNames", "printPartCombineTexts",
   "proportionalNotationDuration", "rehearsalMark", "repeatCommands", "restNumberThreshold",
   "shapeNoteStyles", "shortInstrumentName", "shortVocalName", "skipBars", "skipTypesetting",
   "soloIIText", "soloText", "squashedPosition", "staffLineLayoutFunction", "stanza",
   "stemLeftBeamCount", "stemRightBeamCount", "stringNumberOrientations", "stringOneTopmost",
   "stringTunings", "strokeFingerOrientations", "subdivideBeams", "suggestAccidentals",
   "systemStartDelimiter", "systemStartDelimiterHierarchy", "tablatureFormat", "tempoHideNote",
   "tempoWholesPerMinute", "tieWaitForNote", "timeSignatureFraction", "timing", "tonic",
   "topLevelAlignment", "trebleStaffProperties", "tremoloFlags", "tupletFullLength",
   "tupletFullLengthNote", "tupletSpannerDuration", "useBassFigureExtenders", "vocalName",
   "voltaSpannerDuration", "whichBar"]

def paperVariables : List String :=
  ["annotate-spacing", "between-system-padding", "between-system-space", "binding-offset",
   "blank-after-score-page-force", "blank-last-page-force", "blank-page-force", "bookTitleMarkup",
   "bottom-margin", "evenFooterMarkup", "evenHeaderMarkup", "first-page-number",
   "horizontal-shift", "indent", "inner-margin", "left-margin", "line-width", "oddFooterMarkup",
   "oddHeaderMarkup", "outer-margin", "page-count", "page-limit-inter-system-space",
   "page-spacing-weight", "paper-height", "paper-width", "print-all-headers",
   "print-first-page-number", "print-page-number", "ragged-bottom", "ragged-last",
   "ragged-last-bottom", "ragged-right", "right-margin", "scoreTitleMarkup", "short-indent",
   "system-count", "system-separator-markup", "systems-per-page", "top-margin", "two-sided"]

def headerVariables : List String :=
  ["dedication", "title", "subtitle", "subsubtitle", "poet", "composer", "meter", "opus",
   "arranger", "instrument", "piece", "breakbefore", "copyright", "tagline", "mutopiatitle",
   "mutopiacomposer", "mutopiapoet", "mutopiaopus", "mutopiainstrument", "date", "enteredby",
   "source", "style", "maintainer", "maintainerEmail", "maintainerWeb", "moreInfo", "lastupdated",
   "texidoc", "footer"]

def layoutVariables : List String :=
  ["indent", "short-indent", "line-width", "ragged-right", "ragged-last", "system-count",
   "between-system-space", "between-system-padding", "page-top-space", "packed"]

def markupCommands0 : List String :=
  ["doubleflat", "doublesharp", "eyeglasses", "flat", "natural", "null", "semiflat", "semisharp",
   "sesquiflat", "sesquisharp", "sharp", "strut"]

def markupCommands1 : List String :=
  ["bold", "box", "bracket", "caps", "center-align", "center-column", "char", "circle", "column",
   "concat", "dir-column", "draw-line", "dynamic", "fill-line", "finger", "fontCaps",
   "fret-diagram", "fret-diagram-terse", "fret-diagram-verbose", "fromproperty", "hbracket",
   "hspace", "huge", "italic", "justify", "justify-field", "justify-string", "large", "larger",
   "left-align", "left-column", "line", "lookup", "markalphabet", "markletter", "medium",
   "musicglyph", "normal-size-sub", "normal-size-super", "normal-text", "normalsize", "number",
   "roman", "right-align", "right-column", "sans", "simple", "slashed-digit", "small", "smallCaps",
   "smaller", "stencil", "sub", "super", "teeny", "text", "tied-lyric", "tiny", "transparent",
   "triangle", "typewriter", "underline", "upright", "vcenter", "verbatim-file", "vspace",
   "whiteout", "wordwrap", "wordwrap-field", "wordwrap-string"]

def markupCommands2 : List String :=
  ["abs-fontsize", "combine", "fontsize", "halign", "hcenter-in", "lower", "magnify", "note",
   "on-the-fly", "override", "pad-around", "pad-markup", "pad-x", "raise", "rotate", "scale",
   "translate", "translate-scaled", "with-color", "with-link", "with-url"]

def markupCommands3 : List String :=
  ["beam", "draw-circle", "epsfile", "filled-box", "general-align", "note-by-number", "pad-to-box",
   "page-ref", "put-adjacent", "with-dimensions"]

def markupCommands4 : List String :=
  ["pattern"]

def words : Category → List String
  | .keywords => keywords
  | .musicCommands => musicCommands
  | .articulations => articulations
  | .ornaments => ornaments
  | .fermatas => fermatas
  | .instrumentScripts => instrumentScripts
  | .repeatScripts => repeatScripts
  | .ancientScripts => ancientScripts
  | .repeatTypes => repeatTypes
  | .clefs => clefs
  | .contexts => contexts
  | .grobs => grobs
  | .contextProperties => contextProperties
  | .paperVariables => paperVariables
  | .headerVariables => headerVariables
  | .layoutVariables => layoutVariables
  | .markupCommands0 => markupCommands0
  | .markupCommands1 => markupCommands1
  | .markupCommands2 => markupCommands2
  | .markupCommands3 => markupCommands3
  | .markupCommands4 => markupCommands4

end ScoreLexer.Builtin
