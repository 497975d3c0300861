import ScoreLexer.Proofs.Pattern.Locality
import ScoreLexer.Token.Recognition

namespace ScoreLexer

open Pattern Recognizer

namespace Vocabulary

def lists (vocabulary : Vocabulary) : List (List Text) :=
  [vocabulary.keywords, vocabulary.musicCommands, vocabulary.scripts, vocabulary.repeatTypes,
   vocabulary.clefs, vocabulary.contexts, vocabulary.grobs, vocabulary.contextProperties,
   vocabulary.paperVariables, vocabulary.headerVariables, vocabulary.layoutVariables]

def StaysInLine (vocabulary : Vocabulary) : Prop :=
  ∀ list ∈ vocabulary.lists, (Pattern.words list).staysInLine = true

theorem forall_mem_lists_ofLexicon {lexicon : Lexicon} {property : Text → Prop}
    (h : ∀ category, ∀ word ∈ lexicon.words category, property word.toList) :
    ∀ list ∈ (ofLexicon lexicon).lists, ∀ word ∈ list, property word := by
  have hwords : ∀ categories, ∀ word ∈ wordsOf lexicon categories, property word := by
    intro categories text htext
    obtain ⟨-, category, -, word, hword, rfl⟩ := exists_of_mem_wordsOf htext
    exact h category word hword
  intro list hlist
  simp only [lists, ofLexicon, List.mem_cons, List.not_mem_nil, or_false] at hlist
  rcases hlist with rfl | rfl | rfl | rfl | rfl | rfl | rfl | rfl | rfl | rfl | rfl <;>
    exact hwords _

theorem staysInLine_ofLexicon {lexicon : Lexicon}
    (h : ∀ category, ∀ word ∈ lexicon.words category, '\n' ∉ word.toList) :
    (ofLexicon lexicon).StaysInLine := by
  have hlists : ∀ list ∈ (ofLexicon lexicon).lists, ∀ word ∈ list, '\n' ∉ word :=
    forall_mem_lists_ofLexicon h
  intro list hlist
  simp only [staysInLine, List.all_eq_true]
  intro word hword
  simpa using hlists list hlist word hword

end Vocabulary

namespace Kind

def isBlankRun : Kind → Bool
  | .space | .blockCommentSpace => true
  | _ => false

theorem recognizer?_of_isBlankRun {kind : Kind} (h : kind.isBlankRun = true)
    (vocabulary : Vocabulary) :
    kind.recognizer? vocabulary = some (plain (run Text.isBlank)) := by
  cases kind with
  | space | blockCommentSpace => rfl
  | _ => exact absurd h Bool.false_ne_true

theorem staysInLine_recognizer? {vocabulary : Vocabulary} (hwords : vocabulary.StaysInLine)
    {kind : Kind} (hkind : kind.isBlankRun = false) {recognizer : Recognizer}
    (h : kind.recognizer? vocabulary = some recognizer) :
    recognizer.pattern.staysInLine = true := by
  suffices (kind.recognizer? vocabulary).all fun found => found.pattern.staysInLine by
    simpa [h] using this
  simp only [Vocabulary.StaysInLine, Vocabulary.lists, List.forall_mem_cons] at hwords
  cases kind with
  | space | blockCommentSpace => exact absurd hkind.symm Bool.false_ne_true
  -- the kinds whose tokens are words of the vocabulary
  | keyword | command | articulation | repeatSpecifier | repeatStringSpecifier | contextName
  | backSlashedContextName | grobName | contextProperty | clefSpecifier | paperVariable
  | headerVariable | layoutVariable =>
    simp [recognizer?, commands, bareWords, plain, hwords]
  | _ => rfl

end Kind

end ScoreLexer
