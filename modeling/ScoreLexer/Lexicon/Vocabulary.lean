import ScoreLexer.Lexicon.Basic
import ScoreLexer.Pattern.Basic

namespace ScoreLexer

structure Vocabulary where
  keywords : List Text
  musicCommands : List Text
  scripts : List Text
  repeatTypes : List Text
  clefs : List Text
  contexts : List Text
  grobs : List Text
  contextProperties : List Text
  paperVariables : List Text
  headerVariables : List Text
  layoutVariables : List Text

namespace Vocabulary

-- Words are tried one after the other, so of two words where one begins the other the longer comes
-- first. Among words that begin one text, more characters are more bytes, and no two words have one
-- length. So the first of them stays the same when lengths are counted in bytes, when words of one
-- length are ordered in some way and when repeated words are dropped.
def longestFirst (words : List Text) : List Text :=
  (words.filter fun word => !word.isEmpty).mergeSort fun a b => b.length ≤ a.length

theorem mem_longestFirst {word : Text} {words : List Text} :
    word ∈ longestFirst words ↔ word ∈ words ∧ word ≠ [] := by
  simp [longestFirst, List.mem_mergeSort]

def scriptCategories : List Category :=
  [.articulations, .ornaments, .fermatas, .instrumentScripts, .repeatScripts, .ancientScripts]

def wordsOf (lexicon : Lexicon) (categories : List Category) : List Text :=
  longestFirst ((categories.flatMap lexicon.words).map String.toList)

theorem exists_of_mem_wordsOf {lexicon : Lexicon} {categories : List Category} {text : Text}
    (h : text ∈ wordsOf lexicon categories) :
    text ≠ [] ∧ ∃ category ∈ categories, ∃ word ∈ lexicon.words category, word.toList = text := by
  obtain ⟨htext, hne⟩ := mem_longestFirst.mp h
  obtain ⟨word, hword, rfl⟩ := List.mem_map.mp htext
  obtain ⟨category, hcategory, hword⟩ := List.mem_flatMap.mp hword
  exact ⟨hne, category, hcategory, word, hword, rfl⟩

def ofLexicon (lexicon : Lexicon) : Vocabulary :=
  { keywords := wordsOf lexicon [.keywords]
    musicCommands := wordsOf lexicon [.musicCommands]
    scripts := wordsOf lexicon scriptCategories
    repeatTypes := wordsOf lexicon [.repeatTypes]
    clefs := wordsOf lexicon [.clefs]
    contexts := wordsOf lexicon [.contexts]
    grobs := wordsOf lexicon [.grobs]
    contextProperties := wordsOf lexicon [.contextProperties]
    paperVariables := wordsOf lexicon [.paperVariables]
    headerVariables := wordsOf lexicon [.headerVariables]
    layoutVariables := wordsOf lexicon [.layoutVariables] }

end Vocabulary

end ScoreLexer
