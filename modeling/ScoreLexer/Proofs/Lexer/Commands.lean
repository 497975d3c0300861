import ScoreLexer.Proofs.Lexer.Priority
import ScoreLexer.Proofs.Lexer.Reading
import ScoreLexer.Proofs.Pattern.Naming

namespace ScoreLexer

def Category.besideCommands : List Category :=
  [.keywords, .musicCommands] ++ Vocabulary.scriptCategories ++
    [.contexts, .grobs, .contextProperties, .headerVariables]

-- The words that are tried where commands are have no characters but letters.
def Lexicon.HasLetterWords (lexicon : Lexicon) : Prop :=
  ∀ category ∈ Category.besideCommands, ∀ word ∈ lexicon.words category,
    word.toList.all Text.isAsciiLetter = true

theorem Lexicon.hasLetterWords_builtin : builtin.HasLetterWords := by
  have hbytes : ∀ category ∈ Category.besideCommands, ∀ word ∈ Builtin.words category,
      word.toByteArray.data.toList.all Text.isLetterByte = true := by decide +kernel
  exact fun category hcategory word hword =>
    Text.all_isAsciiLetter_of_bytes (hbytes category hcategory word hword)

namespace Vocabulary

structure HasNames (vocabulary : Vocabulary) : Prop where
  keywords : ∀ word ∈ vocabulary.keywords, IsName word
  musicCommands : ∀ word ∈ vocabulary.musicCommands, IsName word
  scripts : ∀ word ∈ vocabulary.scripts, IsName word
  contexts : ∀ word ∈ vocabulary.contexts, IsName word
  grobs : ∀ word ∈ vocabulary.grobs, IsName word
  contextProperties : ∀ word ∈ vocabulary.contextProperties, IsName word
  headerVariables : ∀ word ∈ vocabulary.headerVariables, IsName word

theorem isName_of_mem_wordsOf {lexicon : Lexicon} (h : lexicon.HasLetterWords)
    {categories : List Category} (hcategories : categories ⊆ Category.besideCommands) :
    ∀ word ∈ wordsOf lexicon categories, IsName word := by
  intro text htext
  obtain ⟨hne, category, hcategory, word, hword, rfl⟩ := exists_of_mem_wordsOf htext
  exact ⟨hne, h category (hcategories hcategory) word hword⟩

theorem hasNames_ofLexicon {lexicon : Lexicon} (h : lexicon.HasLetterWords) :
    (ofLexicon lexicon).HasNames where
  keywords := isName_of_mem_wordsOf h (by decide)
  musicCommands := isName_of_mem_wordsOf h (by decide)
  scripts := isName_of_mem_wordsOf h (by decide)
  contexts := isName_of_mem_wordsOf h (by decide)
  grobs := isName_of_mem_wordsOf h (by decide)
  contextProperties := isName_of_mem_wordsOf h (by decide)
  headerVariables := isName_of_mem_wordsOf h (by decide)

end Vocabulary

namespace Kind

open Pattern

-- The kinds that may take part of a name, or go on behind it, and the kinds whose words are free.
def cutsNames : Kind → Bool
  | .markupCommand | .schemeWord | .repeatSpecifier | .clefSpecifier | .paperVariable
  | .layoutVariable => true
  | _ => false

theorem keepsNames {vocabulary : Vocabulary} (h : vocabulary.HasNames) {kind : Kind}
    (hkind : kind.cutsNames = false) {recognizer : Recognizer}
    (hrecognizer : kind.recognizer? vocabulary = some recognizer) :
    recognizer.pattern.KeepsNames recognizer.guard := by
  suffices (kind.recognizer? vocabulary).elim True
      fun found => found.pattern.KeepsNames found.guard by
    simpa [hrecognizer] using this
  cases kind with
  | markupCommand | schemeWord | repeatSpecifier | clefSpecifier | paperVariable
  | layoutVariable => exact absurd hkind.symm Bool.false_ne_true
  | unparsed | error | comment | string => trivial
  | unit | book | bookPart | score | markupScore | paper | header | layout | midi | withCommand
  | layoutContext | contextCommand | overrideCommand | setCommand | revertCommand | unsetCommand
  | newCommand | changeCommand | lyricMode | noteMode | chordMode | drumMode | figureMode =>
    exact keepsNames_anyCommand (by decide) _
  | markup | markupLines | repeatCommand | clefCommand | skip | voiceSeparator
  | phrasingSlurStart | phrasingSlurEnd | ligatureStart | ligatureEnd =>
    exact keepsNames_words (by decide)
  | keyword => exact (endsNames_words h.keywords).keepsNames
  | command => exact (endsNames_words h.musicCommands).keepsNames
  | articulation => exact (endsNames_words h.scripts).keepsNames
  | userCommand => exact endsNames_letters.keepsNames
  | backSlashedContextName => exact (endsNames_words_edge h.contexts _).keepsNames
  | stringQuoteEscape => exact (endsNames_oneOf (by decide) _).keepsNames
  | dynamic =>
    exact (keepsNames_anyCommand (by decide) _).alt (endsNames_oneOf (by decide) _).keepsNames
  | duration =>
    exact (keepsNames_anyCommand (by decide) _).alt (keepsNames_of_not_opens (by decide) _)
  | errorInChord =>
    exact (keepsNames_of_not_opens (by decide) _).alt
      ((keepsNames_of_not_opens (by decide) _).alt (endsNames_oneOf (by decide) _).keepsNames)
  | contextName => exact keepsNames_bareWords h.contexts _
  | grobName => exact keepsNames_bareWords h.grobs _
  | contextProperty => exact keepsNames_bareWords h.contextProperties _
  | headerVariable => exact keepsNames_bareWords h.headerVariables _
  | _ => exact keepsNames_of_not_opens rfl _

theorem cutsNames_of_mem_candidates {context : Context} (h : .userCommand ∈ context.candidates)
    {kind : Kind} (hkind : kind ∈ context.candidates) : kind.cutsNames = false := by
  have hnone : context.candidates.all fun kind => !kind.cutsNames := by
    cases context <;> first | rfl | exact absurd h (by decide)
  simpa using List.all_eq_true.mp hnone kind hkind

end Kind

namespace Lexer

variable {lexer : Lexer} {name rest : Text}

theorem match?_userCommand (hname : LongestName name rest) (before : Option Char) :
    lexer.match? .userCommand ⟨before, '\\' :: (name ++ rest)⟩ = some (name.length + 1) := by
  have htakes : (Pattern.seq (.word "\\") .letters).Takes before ('\\' :: name) rest :=
    .seq (.word "\\") (.run hname.ne_nil hname.isLetters hname.stops)
  rw [match?_eq rfl]
  exact Recognizer.match?_of_takes rfl (List.cons_ne_nil _ _) htakes
    (Guard.allows_notLetter_iff.mpr hname.stops)

-- Some kind matches, because the commands of the user do, and whichever is the first ends with the
-- name.
theorem first?_of_longestName (h : lexer.vocabulary.HasNames) {context : Context}
    (hcontext : .userCommand ∈ context.candidates) (hname : LongestName name rest)
    (before : Option Char) :
    ∃ kind, lexer.first? context ⟨before, '\\' :: (name ++ rest)⟩ =
      some (kind, name.length + 1) := by
  cases hfirst : lexer.first? context ⟨before, '\\' :: (name ++ rest)⟩ with
  | none =>
    have hnone := List.findSome?_eq_none_iff.mp hfirst .userCommand hcontext
    simp [match?_userCommand hname] at hnone
  | some found =>
    obtain ⟨kind, count⟩ := found
    obtain ⟨earlier, later, hlist, hmatch, -⟩ := first?_eq_some_iff.mp hfirst
    have hkind : kind ∈ context.candidates := by simp [hlist]
    unfold match? at hmatch
    split at hmatch
    · simp at hmatch
    · next recognizer hrecognizer =>
      have hkeeps := Kind.keepsNames h (Kind.cutsNames_of_mem_candidates hcontext hkind) hrecognizer
      rw [Recognizer.match?_of_keepsNames hkeeps hname hmatch]
      exact ⟨kind, rfl⟩

end Lexer

-- Where music or the commands of a document can stand, the first kind that matches at a command
-- takes the backslash and all letters after it, whatever comes before and after them. The words
-- it may know the command by need only be made of letters, as those of the built-in lexicon are.
theorem first?_at_command :
    Lexicon.builtin.HasLetterWords ∧
    (∀ context : Context, .userCommand ∈ context.candidates ↔
      context ∈ [.toplevel, .book, .bookPart, .score, .header, .withBlock, .layoutContext, .music,
        .chord, .lyricMode, .chordMode, .noteMode, .drumMode, .figureMode, .schemeLilyPond]) ∧
    ∀ lexicon : Lexicon, lexicon.HasLetterWords →
      ∀ context : Context, .userCommand ∈ context.candidates →
        ∀ front back : Text, back.head?.any Text.isAsciiLetter = true →
          ∃ kind, lexicon.lexer.first? context (Cursor.between front ('\\' :: back)) =
            some (kind, 1 + (back.takeWhile Text.isAsciiLetter).length) := by
  refine ⟨Lexicon.hasLetterWords_builtin, fun context => ?_, ?_⟩
  · cases context <;> decide
  · intro lexicon hwords context hcontext front back hback
    have hnames : lexicon.lexer.vocabulary.HasNames := Vocabulary.hasNames_ofLexicon hwords
    have hfirst := Lexer.first?_of_longestName hnames hcontext (.takeWhile back hback)
      front.getLast?
    rwa [List.takeWhile_append_dropWhile, Nat.add_comm] at hfirst

-- A dynamic sign does not end before an underscore, so the command is one of the user's.
theorem first?_at_command_before_underscore :
    Lexicon.builtin.HasLetterWords ∧ .userCommand ∈ Context.music.candidates ∧
      "ff_x".toList.head?.any Text.isAsciiLetter = true ∧
      ∃ kind, Lexer.builtin.first? .music (Cursor.between "c4".toList ('\\' :: "ff_x".toList)) =
        some (kind, 3) :=
  ⟨first?_at_command.1, by decide, rfl,
    first?_at_command.2.2 Lexicon.builtin first?_at_command.1 .music (by decide) _ _ rfl⟩

end ScoreLexer
