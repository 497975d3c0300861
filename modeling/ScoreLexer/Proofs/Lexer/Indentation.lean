import ScoreLexer.Document.Indent
import ScoreLexer.Proofs.Lexer.Argument
import ScoreLexer.Proofs.Lexer.LineBoundary
import ScoreLexer.Proofs.Lexer.Moments
import ScoreLexer.Proofs.Pattern.Taking
import ScoreLexer.Proofs.Text.Blank
import ScoreLexer.Proofs.Token.Recognition

namespace ScoreLexer

namespace Vocabulary

def HasNoBlanks (vocabulary : Vocabulary) : Prop :=
  ∀ list ∈ vocabulary.lists, ∀ word ∈ list, ∀ c ∈ word, Text.isBlank c = false

theorem hasNoBlanks_ofLexicon {lexicon : Lexicon}
    (h : ∀ category, ∀ word ∈ lexicon.words category, ∀ c ∈ word.toList, Text.isBlank c = false) :
    (ofLexicon lexicon).HasNoBlanks := forall_mem_lists_ofLexicon h

end Vocabulary

namespace Kind

open Recognizer

theorem opens_of_isBlank {vocabulary : Vocabulary} (hwords : vocabulary.HasNoBlanks) {kind : Kind}
    (hkind : kind.isBlankRun = false) {c : Char} (hc : Text.isBlank c = true) :
    kind.opens vocabulary c = false := by
  have hlists : ∀ list ∈ vocabulary.lists, (Pattern.words list).opens c = false := by
    intro list hlist
    refine List.any_eq_false.mpr fun word hword hhead => ?_
    have hmem : c ∈ word := List.mem_of_mem_head? (by simpa using hhead)
    simp [hwords list hlist word hword c hmem] at hc
  have hfixed (h : Text.blanks.all (fun c => !kind.opens vocabulary c) = true) :
      kind.opens vocabulary c = false := by
    simpa using List.all_eq_true.mp h c (Text.mem_blanks hc)
  have hbackslash : '\\' ≠ c := by
    rintro rfl
    exact absurd hc (by decide)
  have hquote : '"' ≠ c := by
    rintro rfl
    exact absurd hc (by decide)
  simp only [Vocabulary.lists, List.forall_mem_cons] at hlists
  cases kind with
  | space | blockCommentSpace => exact absurd hkind.symm Bool.false_ne_true
  -- the kinds whose tokens are words of the vocabulary
  | keyword | command | articulation | repeatSpecifier | repeatStringSpecifier | contextName
  | backSlashedContextName | grobName | contextProperty | clefSpecifier | paperVariable
  | headerVariable | layoutVariable =>
    simp only [Pattern.opens] at hlists
    simp [Kind.opens, recognizer?, commands, bareWords, plain, Pattern.word, Pattern.opens,
      Pattern.consumes, hbackslash, hquote, hlists]
  | _ => exact hfixed rfl

theorem transition_of_isBlankRun {kind : Kind} (h : kind.isBlankRun = true)
    (markupArity : String → UInt8) (text : Text) (stack : Stack) :
    kind.transition markupArity text stack = stack := by
  cases kind with
  | space | blockCommentSpace => rfl
  | _ => exact absurd h Bool.false_ne_true

theorem isSpace_of_isBlankRun {kind : Kind} (h : kind.isBlankRun = true) : kind.isSpace = true := by
  cases kind with
  | space | blockCommentSpace => rfl
  | _ => exact absurd h Bool.false_ne_true

def isContent (kind : Kind) : Bool := !kind.isSpace && kind != .string

end Kind

def contentOf (tokens : List Token) : List (Kind × Text) :=
  (tokens.filter fun token => token.kind.isContent).map fun token => (token.kind, token.text)

structure Run.SameContent (first second : Run) : Prop where
  content : contentOf first.tokens = contentOf second.tokens
  closers : leadingClosers (first.tokens.map Token.kind) =
    leadingClosers (second.tokens.map Token.kind)
  final : first.final = second.final

namespace Run.SameContent

theorem symm {first second : Run} (h : first.SameContent second) : second.SameContent first :=
  ⟨h.content.symm, h.closers.symm, h.final.symm⟩

theorem trans {first second third : Run} (h : first.SameContent second)
    (h' : second.SameContent third) : first.SameContent third :=
  ⟨h.content.trans h'.content, h.closers.trans h'.closers, h.final.trans h'.final⟩

end Run.SameContent

theorem contentOf_precededBy_shift {emission : Emission}
    (h : emission.token.kind.isContent = false) (run : Run) (offset : Nat) :
    contentOf ((run.shift offset).precededBy [emission]).tokens = contentOf run.tokens := by
  rw [Run.tokens_precededBy, Run.tokens_shift, List.map_singleton, List.singleton_append]
  simp only [contentOf, List.filter_cons, h, Bool.false_eq_true, if_false, List.filter_map,
    List.map_map]
  rfl

namespace Context

theorem exists_isBlankRun {context : Context} (h : context ≠ .string) :
    ∃ kind former latter, kind.isBlankRun = true ∧ context.candidates = former ++ kind :: latter ∧
      ∀ other ∈ former, other.isBlankRun = false := by
  have hsome : (context.candidates.find? Kind.isBlankRun).isSome = true := by
    cases context with
    | string => exact absurd rfl h
    | _ => rfl
  obtain ⟨kind, hkind⟩ := Option.isSome_iff_exists.mp hsome
  obtain ⟨hblank, former, latter, hcandidates, hformer⟩ :=
    List.find?_eq_some_iff_append.mp hkind
  exact ⟨kind, former, latter, hblank, hcandidates, by simpa using hformer⟩

end Context

namespace Lexer

variable {lexer : Lexer}

theorem first?_blanks (hwords : lexer.vocabulary.HasNoBlanks) {context : Context}
    (hcontext : context ≠ .string) {front rest : Text} (hne : front ≠ [])
    (hfront : front.all Text.isBlank = true) (hrest : ∀ c ∈ rest.head?, Text.isBlank c = false)
    (before : Option Char) :
    ∃ kind : Kind, kind.isBlankRun = true ∧
      lexer.first? context ⟨before, front ++ rest⟩ = some (kind, front.length) := by
  obtain ⟨kind, former, latter, hkind, hcandidates, hformer⟩ := context.exists_isBlankRun hcontext
  have hrefused : lexer.firstOf? former ⟨before, front ++ rest⟩ = none := by
    obtain ⟨c, front, rfl⟩ := List.exists_cons_of_ne_nil hne
    have hc : Text.isBlank c = true := (Bool.and_eq_true_iff.mp hfront).1
    refine firstOf?_eq_none (List.all_eq_true.mpr fun other hother => ?_) before _
    rw [Kind.opens_of_isBlank hwords (hformer other hother) hc]
    rfl
  have hmatch : lexer.match? kind ⟨before, front ++ rest⟩ = some front.length := by
    rw [match?_eq (Kind.recognizer?_of_isBlankRun hkind _)]
    exact Recognizer.match?_run_append hne hfront hrest rfl before
  refine ⟨kind, hkind, ?_⟩
  rw [first?, hcandidates, firstOf?_append, hrefused, Option.none_or, firstOf?,
    List.findSome?_cons, hmatch]
  rfl

-- Blanks in front make a token, and the lexer goes on as at the start of the text after them.
theorem lex_blanks (hwords : lexer.vocabulary.HasNoBlanks) {stack : Stack}
    (hstack : stack.top.context ≠ .string) {front rest : Text} (hne : front ≠ [])
    (hfront : front.all Text.isBlank = true) (hrest : ∀ c ∈ rest.head?, Text.isBlank c = false) :
    ∃ emission : Emission, emission.token.kind.isBlankRun = true ∧
      lexer.lex stack (front ++ rest) =
        ((lexer.lex stack rest).shift front.byteSize).precededBy [emission] := by
  obtain ⟨kind, hkind, hfirst⟩ := first?_blanks hwords hstack hne hfront hrest none
  have hrun := runFrom_of_emitted (next_of_claimed hfirst) 0
  rw [Kind.transition_of_isBlankRun hkind] at hrun
  simp only [List.take_left, Cursor.advance, List.drop_left, Option.or_none] at hrun
  rw [runFrom_similar lexer _ (Cursor.similar_of_all_isBlank hfront rest), runFrom_add] at hrun
  exact ⟨_, hkind, hrun⟩

theorem sameContent_blanks_of_ne_string (hwords : lexer.vocabulary.HasNoBlanks) {stack : Stack}
    (hstack : stack.top.context ≠ .string) {front rest : Text} (hne : front ≠ [])
    (hfront : front.all Text.isBlank = true) (hrest : ∀ c ∈ rest.head?, Text.isBlank c = false) :
    (lexer.lex stack (front ++ rest)).SameContent (lexer.lex stack rest) := by
  obtain ⟨emission, hblank, hrun⟩ := lex_blanks hwords hstack hne hfront hrest
  have hspace := Kind.isSpace_of_isBlankRun hblank
  rw [hrun]
  refine ⟨contentOf_precededBy_shift (by simp [Kind.isContent, hspace]) _ _, ?_, rfl⟩
  rw [Run.tokens_precededBy, Run.tokens_shift, List.map_singleton, List.singleton_append,
    List.map_cons, List.map_map]
  simp only [leadingClosers, List.filter_cons, hspace]
  rfl

theorem first?_string_of_isBlank (lexer : Lexer) {c : Char} (hc : Text.isBlank c = true)
    (before : Option Char) (rest : Text) : lexer.first? .string ⟨before, c :: rest⟩ = none := by
  apply first?_string_plain
  all_goals
    rintro rfl
    exact absurd hc (by decide)

theorem unclaimed_blanks (lexer : Lexer) {front : Text} (hfront : front.all Text.isBlank = true)
    (before : Option Char) (rest : Text) :
    lexer.unclaimed .string before (front ++ rest) =
      front.length + lexer.unclaimed .string (front.getLast?.or before) rest := by
  induction front generalizing before with
  | nil => simp
  | cons c front ih =>
    obtain ⟨hc, hfront⟩ := Bool.and_eq_true_iff.mp hfront
    rw [List.cons_append, unclaimed, first?_string_of_isBlank lexer hc, Text.getLast?_cons_or,
      ih hfront]
    simp only [Option.isSome_none, Bool.false_eq_true, if_false, List.length_cons]
    omega

theorem unclaimed_similar (lexer : Lexer) (context : Context) {first second : Cursor}
    (h : Cursor.Similar first second) :
    lexer.unclaimed context first.before first.rest =
      lexer.unclaimed context second.before second.rest := by
  have hfirst := lexer.first?_similar context h
  obtain ⟨before, rest⟩ := first
  obtain ⟨before', rest'⟩ := second
  obtain rfl : rest = rest' := h.rest_eq
  cases rest with
  | nil => rfl
  | cons c rest => simp only [unclaimed, hfirst]

theorem giveWay?_of_string {stack : Stack} (h : stack.top.context = .string) :
    stack.giveWay? = none := Stack.giveWay?_eq_none_iff.mpr (by rw [h]; rfl)

theorem runFrom_string (lexer : Lexer) {stack : Stack} (hstack : stack.top.context = .string)
    (cursor : Cursor) :
    let later := lexer.runFrom 0
      (cursor.advance (lexer.unclaimed .string cursor.before cursor.rest)) stack
    contentOf (lexer.runFrom 0 cursor stack).tokens = contentOf later.tokens ∧
      (lexer.runFrom 0 cursor stack).final = later.final := by
  obtain ⟨before, rest⟩ := cursor
  cases hfirst : lexer.first? .string ⟨before, rest⟩ with
  | some found =>
    have hzero : lexer.unclaimed .string before rest = 0 := by
      cases rest with
      | nil => rfl
      | cons c rest => simp [unclaimed, hfirst]
    simp only [hzero]
    exact ⟨rfl, rfl⟩
  | none =>
    cases rest with
    | nil => exact ⟨rfl, rfl⟩
    | cons c rest =>
      have hnext := next_of_unclaimed (hstack ▸ hfirst) (giveWay?_of_string hstack) rfl
      rw [hstack] at hnext
      have hcount : lexer.unclaimed .string before (c :: rest) =
          lexer.unclaimed .string (some c) rest + 1 := by
        simp [unclaimed, hfirst]
      have hstring : Context.string.defaultKind.isContent = false := by decide
      have hrun := runFrom_of_emitted hnext 0
      rw [runFrom_add, Kind.transition_defaultKind] at hrun
      simp only [hcount]
      rw [hrun]
      refine ⟨contentOf_precededBy_shift ?_ _ _, rfl⟩
      exact hstring

theorem sameContent_blanks_of_string (lexer : Lexer) {stack : Stack}
    (hstack : stack.top.context = .string) {front : Text}
    (hfront : front.all Text.isBlank = true) (rest : Text) :
    contentOf (lexer.lex stack (front ++ rest)).tokens = contentOf (lexer.lex stack rest).tokens ∧
      (lexer.lex stack (front ++ rest)).final = (lexer.lex stack rest).final := by
  have hcount : lexer.unclaimed .string none (front ++ rest) =
      front.length + lexer.unclaimed .string none rest := by
    have hrest : lexer.unclaimed .string front.getLast? rest = lexer.unclaimed .string none rest :=
      lexer.unclaimed_similar .string (Cursor.similar_of_all_isBlank hfront rest)
    rw [unclaimed_blanks lexer hfront, Option.or_none, hrest]
  -- both runs come to the same place, and the character before it is a blank there if it differs
  have hlater : Cursor.Similar
      ((Cursor.start (front ++ rest)).advance (lexer.unclaimed .string none (front ++ rest)))
      ((Cursor.start rest).advance (lexer.unclaimed .string none rest)) := by
    generalize lexer.unclaimed .string none rest = count at hcount
    rw [hcount]
    simp only [Cursor.start, Cursor.advance, Option.or_none]
    rw [List.take_length_add_append, List.drop_length_add_append, List.getLast?_append]
    cases (rest.take count).getLast? with
    | none => exact Cursor.similar_of_all_isBlank hfront _
    | some c => exact Std.Refl.refl _
  obtain ⟨hlong, hlongFinal⟩ := runFrom_string lexer hstack (Cursor.start (front ++ rest))
  obtain ⟨hshort, hshortFinal⟩ := runFrom_string lexer hstack (Cursor.start rest)
  simp only [Cursor.start] at hlong hlongFinal hshort hshortFinal hlater
  rw [runFrom_similar lexer 0 hlater] at hlong hlongFinal
  exact ⟨hlong.trans hshort.symm, hlongFinal.trans hshortFinal.symm⟩

-- Nothing that can come next in a string is a closer, so a line that starts inside one begins with
-- no closers.
theorem leadingClosers_of_string (lexer : Lexer) {stack : Stack}
    (hstack : stack.top.context = .string) (text : Text) :
    leadingClosers ((lexer.lex stack text).tokens.map Token.kind) = 0 := by
  have hclosers (kind : Kind) (hkind : kind ∈ [Kind.stringQuotedEnd, .stringQuoteEscape, .string])
      (later : List Kind) : leadingClosers (kind :: later) = 0 := by
    simp only [List.mem_cons, List.not_mem_nil, or_false] at hkind
    rcases hkind with rfl | rfl | rfl <;> rfl
  have hrun (kind : Kind) (count : Nat)
      (hkind : kind ∈ [Kind.stringQuotedEnd, .stringQuoteEscape, .string])
      (hnext : lexer.next (Cursor.start text) stack = .emitted [] stack kind count) :
      leadingClosers ((lexer.lex stack text).tokens.map Token.kind) = 0 := by
    rw [lex, runFrom_of_emitted hnext 0, Run.tokens_precededBy]
    exact hclosers kind hkind _
  cases hfirst : lexer.first? .string (Cursor.start text) with
  | some found =>
    have hmem : found.1 ∈ [Kind.stringQuotedEnd, .stringQuoteEscape] :=
      mem_candidates_of_first? hfirst
    exact hrun found.1 found.2 (List.mem_append_left [Kind.string] hmem)
      (next_of_claimed (hstack ▸ hfirst))
  | none =>
    have hstays := giveWay?_of_string hstack
    cases text with
    | nil =>
      rw [lex, runFrom_of_stopped (next_of_nil (hstack ▸ hfirst) hstays rfl)]
      rfl
    | cons c rest =>
      have hnext := next_of_unclaimed (hstack ▸ hfirst) hstays rfl
      rw [hstack] at hnext
      exact hrun _ _ (by simp [Context.defaultKind]) hnext

theorem sameContent_blanks (hwords : lexer.vocabulary.HasNoBlanks) (stack : Stack)
    {front rest : Text} (hfront : front.all Text.isBlank = true)
    (hrest : ∀ c ∈ rest.head?, Text.isBlank c = false) :
    (lexer.lex stack (front ++ rest)).SameContent (lexer.lex stack rest) := by
  by_cases hstack : stack.top.context = .string
  · obtain ⟨hcontent, hfinal⟩ := lexer.sameContent_blanks_of_string hstack hfront rest
    refine ⟨hcontent, ?_, hfinal⟩
    rw [leadingClosers_of_string lexer hstack, leadingClosers_of_string lexer hstack]
  · by_cases hne : front = []
    · subst hne
      exact ⟨rfl, rfl, rfl⟩
    · exact sameContent_blanks_of_ne_string hwords hstack hne hfront hrest

theorem sameContent_of_unindented_eq (hwords : lexer.vocabulary.HasNoBlanks) (stack : Stack)
    {first second : Text} (h : first.unindented = second.unindented) :
    (lexer.lex stack first).SameContent (lexer.lex stack second) := by
  have hbare (text : Text) :
      (lexer.lex stack text).SameContent (lexer.lex stack (text.dropWhile Text.isBlank)) := by
    have hfront : (text.takeWhile Text.isBlank).all Text.isBlank = true := List.all_takeWhile
    have hsame := sameContent_blanks hwords stack hfront (Text.stops_dropWhile Text.isBlank text)
    rwa [List.takeWhile_append_dropWhile] at hsame
  have hrest : first.dropWhile Text.isBlank = second.dropWhile Text.isBlank := by
    rw [← Text.dropWhile_unindented, h, Text.dropWhile_unindented]
  exact (hbare first).trans (hrest ▸ (hbare second).symm)

end Lexer

end ScoreLexer
