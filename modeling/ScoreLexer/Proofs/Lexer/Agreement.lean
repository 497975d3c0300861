import Mathlib.Data.Option.Basic
import ScoreLexer.Proofs.Lexer.Run
import ScoreLexer.Proofs.Pattern.Agreement

namespace ScoreLexer

structure Recognizer.Agree (first second : Recognizer) : Prop where
  pattern : first.pattern.Agree second.pattern
  fromWordStart : first.fromWordStart = second.fromWordStart
  guard : first.guard = second.guard

theorem Recognizer.Agree.match?_eq {first second : Recognizer} (h : first.Agree second)
    (cursor : Cursor) : first.match? cursor = second.match? cursor := by
  have hhead : (first.pattern.ends cursor).head? = (second.pattern.ends cursor).head? := by
    simpa only [← List.head?_filterMap, List.filterMap_some] using h.pattern cursor some
  unfold match?
  rw [hhead, h.fromWordStart, h.guard]

namespace Vocabulary

structure Agree (first second : Vocabulary) : Prop where
  keywords : (Pattern.words first.keywords).Agree (.words second.keywords)
  musicCommands : (Pattern.words first.musicCommands).Agree (.words second.musicCommands)
  scripts : (Pattern.words first.scripts).Agree (.words second.scripts)
  repeatTypes : (Pattern.words first.repeatTypes).Agree (.words second.repeatTypes)
  clefs : (Pattern.words first.clefs).Agree (.words second.clefs)
  contexts : (Pattern.words first.contexts).Agree (.words second.contexts)
  grobs : (Pattern.words first.grobs).Agree (.words second.grobs)
  contextProperties :
    (Pattern.words first.contextProperties).Agree (.words second.contextProperties)
  paperVariables : (Pattern.words first.paperVariables).Agree (.words second.paperVariables)
  headerVariables : (Pattern.words first.headerVariables).Agree (.words second.headerVariables)
  layoutVariables : (Pattern.words first.layoutVariables).Agree (.words second.layoutVariables)

end Vocabulary

namespace Recognizer

theorem agree_commands {first second : List Text}
    (h : (Pattern.words first).Agree (.words second)) : (commands first).Agree (commands second) :=
  ⟨(Pattern.Agree.refl _).seq h, rfl, rfl⟩

theorem agree_bareWords {first second : List Text}
    (h : (Pattern.words first).Agree (.words second)) :
    (bareWords first).Agree (bareWords second) :=
  ⟨h.seq (.refl _), rfl, rfl⟩

theorem rel_agree_of_eq {first second : Option Recognizer} (h : first = second) :
    Option.Rel Agree first second := by
  subst h
  cases first with
  | none => exact .none
  | some recognizer => exact .some ⟨.refl _, rfl, rfl⟩

end Recognizer

open Recognizer in
theorem Vocabulary.Agree.recognizer? {first second : Vocabulary} (h : first.Agree second)
    (kind : Kind) :
    Option.Rel Recognizer.Agree (kind.recognizer? first) (kind.recognizer? second) := by
  cases kind with
  | keyword => exact .some (agree_commands h.keywords)
  | command => exact .some (agree_commands h.musicCommands)
  | articulation => exact .some (agree_commands h.scripts)
  | repeatSpecifier => exact .some ⟨h.repeatTypes, rfl, rfl⟩
  | repeatStringSpecifier =>
    exact .some ⟨(Pattern.Agree.refl _).seq (h.repeatTypes.seq (.refl _)), rfl, rfl⟩
  | clefSpecifier => exact .some (agree_bareWords h.clefs)
  | contextName => exact .some (agree_bareWords h.contexts)
  | backSlashedContextName =>
    exact .some ⟨(Pattern.Agree.refl _).seq (h.contexts.seq (.refl _)), rfl, rfl⟩
  | grobName => exact .some (agree_bareWords h.grobs)
  | contextProperty => exact .some (agree_bareWords h.contextProperties)
  | paperVariable => exact .some (agree_bareWords h.paperVariables)
  | headerVariable => exact .some (agree_bareWords h.headerVariables)
  | layoutVariable => exact .some (agree_bareWords h.layoutVariables)
  | _ => exact rel_agree_of_eq rfl

namespace Lexer

section

variable {first second : Lexer} (h : first.vocabulary.Agree second.vocabulary)

include h

theorem match?_eq_of_agree (kind : Kind) (cursor : Cursor) :
    first.match? kind cursor = second.match? kind cursor := by
  have hrecognizer := h.recognizer? kind
  unfold match?
  generalize kind.recognizer? first.vocabulary = one, kind.recognizer? second.vocabulary = other
    at hrecognizer
  cases hrecognizer with
  | none => rfl
  | some hagree => exact hagree.match?_eq cursor

theorem first?_eq_of_agree (context : Context) (cursor : Cursor) :
    first.first? context cursor = second.first? context cursor := by
  simp only [first?, firstOf?, match?_eq_of_agree h]

theorem unclaimed_eq_of_agree (context : Context) (before : Option Char) (rest : Text) :
    first.unclaimed context before rest = second.unclaimed context before rest := by
  induction rest generalizing before with
  | nil => rfl
  | cons c rest ih => simp only [unclaimed, first?_eq_of_agree h, ih]

theorem next_eq_of_agree (cursor : Cursor) (stack : Stack) :
    first.next cursor stack = second.next cursor stack := by
  fun_induction next first cursor stack with
  | case1 stack kind count hfirst =>
    rw [next_of_claimed (first?_eq_of_agree h _ _ ▸ hfirst)]
  | case2 stack hfirst lower hlower ih =>
    rw [next_of_gaveWay (first?_eq_of_agree h _ _ ▸ hfirst) hlower, ih]
  | case3 stack hfirst hstays hrest =>
    rw [next_of_nil (first?_eq_of_agree h _ _ ▸ hfirst) hstays hrest]
  | case4 stack hfirst hstays c rest hrest =>
    rw [next_of_unclaimed (first?_eq_of_agree h _ _ ▸ hfirst) hstays hrest,
      unclaimed_eq_of_agree h]

theorem runFrom_eq_of_agree (harity : first.markupArity = second.markupArity) (position : Nat)
    (cursor : Cursor) (stack : Stack) :
    first.runFrom position cursor stack = second.runFrom position cursor stack := by
  fun_induction runFrom first position cursor stack with
  | case1 position cursor stack gaveWay final hnext =>
    rw [runFrom_of_stopped (next_eq_of_agree h _ _ ▸ hnext)]
  | case2 position cursor stack gaveWay last kind count hnext text after later ih =>
    rw [runFrom_of_emitted (next_eq_of_agree h _ _ ▸ hnext), ← harity, ← ih]
    rfl

theorem lex_eq_of_agree (harity : first.markupArity = second.markupArity) (stack : Stack)
    (text : Text) : first.lex stack text = second.lex stack text :=
  runFrom_eq_of_agree h harity 0 (Cursor.start text) stack

end

end Lexer

-- The categories whose words are recognised by themselves. Those of scripts are taken together.
def Vocabulary.separateCategories : List Category :=
  [.keywords, .musicCommands, .repeatTypes, .clefs, .contexts, .grobs, .contextProperties,
   .paperVariables, .headerVariables, .layoutVariables]

namespace Lexicon

-- The given categories together have the same words in both lexicons, empty ones aside.
def SameWords (first second : Lexicon) (categories : List Category) : Prop :=
  ∀ word ≠ "", word ∈ categories.flatMap first.words ↔ word ∈ categories.flatMap second.words

structure SameVocabulary (first second : Lexicon) : Prop where
  arity : ∀ command, first.markupArity command = second.markupArity command
  separate : ∀ category ∈ Vocabulary.separateCategories, first.SameWords second [category]
  scripts : first.SameWords second Vocabulary.scriptCategories

theorem mem_wordsOf {lexicon : Lexicon} {categories : List Category} {text : Text} :
    text ∈ Vocabulary.wordsOf lexicon categories ↔
      String.ofList text ∈ categories.flatMap lexicon.words ∧ String.ofList text ≠ "" := by
  have hmap : text ∈ (categories.flatMap lexicon.words).map String.toList ↔
      String.ofList text ∈ categories.flatMap lexicon.words := by
    rw [List.mem_map]
    constructor
    · rintro ⟨word, hword, rfl⟩
      rwa [String.ofList_toList]
    · intro hword
      exact ⟨String.ofList text, hword, String.toList_ofList⟩
  have hempty : text ≠ [] ↔ String.ofList text ≠ "" := by
    rw [not_iff_not, ← String.toList_inj, String.toList_ofList, String.toList_empty]
  rw [Vocabulary.wordsOf, Vocabulary.mem_longestFirst, hmap, hempty]

theorem SameWords.agree {first second : Lexicon} {categories : List Category}
    (h : first.SameWords second categories) :
    (Pattern.words (Vocabulary.wordsOf first categories)).Agree
      (.words (Vocabulary.wordsOf second categories)) := by
  refine Pattern.agree_words (descending_longestFirst _) (descending_longestFirst _) ?_
  intro text
  rw [mem_wordsOf, mem_wordsOf]
  exact and_congr_left fun hne => h (String.ofList text) hne

theorem SameVocabulary.agree {first second : Lexicon} (h : first.SameVocabulary second) :
    first.lexer.vocabulary.Agree second.lexer.vocabulary where
  keywords := (h.separate .keywords (by decide)).agree
  musicCommands := (h.separate .musicCommands (by decide)).agree
  scripts := h.scripts.agree
  repeatTypes := (h.separate .repeatTypes (by decide)).agree
  clefs := (h.separate .clefs (by decide)).agree
  contexts := (h.separate .contexts (by decide)).agree
  grobs := (h.separate .grobs (by decide)).agree
  contextProperties := (h.separate .contextProperties (by decide)).agree
  paperVariables := (h.separate .paperVariables (by decide)).agree
  headerVariables := (h.separate .headerVariables (by decide)).agree
  layoutVariables := (h.separate .layoutVariables (by decide)).agree

theorem SameVocabulary.lex_eq {first second : Lexicon} (h : first.SameVocabulary second)
    (stack : Stack) (text : Text) : first.lexer.lex stack text = second.lexer.lex stack text :=
  Lexer.lex_eq_of_agree h.agree (funext h.arity) stack text

end Lexicon

end ScoreLexer
