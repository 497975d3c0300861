import Mathlib.Data.List.Forall2
import ScoreLexer.Proofs.Document.Editing
import ScoreLexer.Proofs.Lexer.Indentation

namespace ScoreLexer

structure Line.SameContent (first second : Line) : Prop where
  start : first.start = second.start
  final : first.final = second.final
  content : contentOf first.tokens = contentOf second.tokens
  closers : leadingClosers (first.tokens.map Token.kind) =
    leadingClosers (second.tokens.map Token.kind)

theorem deepen_of_not_isContent {kind : Kind} (h : kind.isContent = false) (depth : Nat) :
    deepen depth kind = depth := by
  have hkinds : kind.isContent = true ∨ kind.indentDelta = 0 := by
    cases kind <;> decide
  rcases hkinds with hcontent | hdelta
  · simp [h] at hcontent
  · simp [deepen, hdelta]

theorem foldl_deepen (tokens : List Token) (depth : Nat) :
    (tokens.map Token.kind).foldl deepen depth =
      (contentOf tokens).foldl (fun depth entry => deepen depth entry.1) depth := by
  induction tokens generalizing depth with
  | nil => rfl
  | cons token tokens ih =>
    rw [List.map_cons, List.foldl_cons, ih]
    cases hcontent : token.kind.isContent with
    | true => simp [contentOf, hcontent]
    | false => simp [contentOf, hcontent, deepen_of_not_isContent hcontent]

-- The line texts with the blanks in front of each of them exchanged for those of its indent.
def Text.reindent (pad : Nat → Text) (indents : List Nat) (lines : List Text) : List Text :=
  List.zipWith (fun indent line => pad indent ++ line.unindented) indents lines

namespace Document

def kindsOf (lines : List Line) : List (List Kind) :=
  lines.map fun line => line.tokens.map Token.kind

theorem sameContent_lexLines {lexer : Lexer} (hwords : lexer.vocabulary.HasNoBlanks)
    {first second : List Text}
    (h : List.Forall₂ (fun line other => line.unindented = other.unindented) first second)
    (start : Stack) :
    List.Forall₂ Line.SameContent (lexLines lexer start first) (lexLines lexer start second) := by
  induction h generalizing start with
  | nil => exact .nil
  | @cons line other first second hline _ ih =>
    have hsame := lexer.sameContent_of_unindented_eq hwords start hline
    have hfinal : (Line.lex lexer start line).final = (Line.lex lexer start other).final :=
      hsame.final
    rw [lexLines, lexLines, ← hfinal]
    exact .cons ⟨rfl, hfinal, hsame.content, hsame.closers⟩ (ih _)

theorem indentsFrom_kindsOf {first second : List Line}
    (h : List.Forall₂ Line.SameContent first second) (depth : Nat) :
    indentsFrom depth (kindsOf first) = indentsFrom depth (kindsOf second) := by
  induction h generalizing depth with
  | nil => rfl
  | @cons line other first second hline _ ih =>
    have hdepth : (line.tokens.map Token.kind).foldl deepen depth =
        (other.tokens.map Token.kind).foldl deepen depth := by
      rw [foldl_deepen, foldl_deepen, hline.content]
    simp only [kindsOf, List.map_cons, indentsFrom, hline.closers, hdepth] at ih ⊢
    rw [ih]

theorem indents_eq_of_sameContent {first second : Document}
    (h : List.Forall₂ Line.SameContent first.lines second.lines) :
    first.indents = second.indents := indentsFrom_kindsOf h 0

theorem indentsFrom_take (depth count : Nat) (lines : List (List Kind)) :
    indentsFrom depth (lines.take count) = (indentsFrom depth lines).take count := by
  induction lines generalizing depth count with
  | nil => simp [indentsFrom]
  | cons line lines ih =>
    cases count with
    | zero => rfl
    | succ count => simp only [List.take_succ_cons, indentsFrom, ih]

theorem lexLines_take (lexer : Lexer) (start : Stack) (count : Nat) (texts : List Text) :
    lexLines lexer start (texts.take count) = (lexLines lexer start texts).take count := by
  induction texts generalizing start count with
  | nil => simp [lexLines]
  | cons text texts ih =>
    cases count with
    | zero => rfl
    | succ count => simp only [List.take_succ_cons, lexLines, ih]

theorem indents_ofTexts_take (lexer : Lexer) (start : Stack) (count : Nat) (texts : List Text) :
    (ofTexts lexer start (texts.take count)).indents =
      (ofTexts lexer start texts).indents.take count := by
  simp only [indents, ofTexts, lineIndents, lexLines_take, List.map_take, indentsFrom_take]

theorem length_indents (document : Document) : document.indents.length = document.lines.length := by
  rw [indents, lineIndents, length_indentsFrom, List.length_map]

theorem length_lexLines (lexer : Lexer) (start : Stack) (texts : List Text) :
    (lexLines lexer start texts).length = texts.length := by
  have hlength := congrArg List.length (map_text_lexLines lexer start texts)
  rwa [List.length_map] at hlength

end Document

namespace Text

theorem not_mem_of_all_isIndent {front : Text} (h : front.all isIndent = true) : '\n' ∉ front := by
  intro hmem
  exact absurd (List.all_eq_true.mp h '\n' hmem) (by decide)

theorem exists_indent_append (line : Text) :
    ∃ front : Text, front.all isIndent = true ∧ line = front ++ line.unindented :=
  ⟨line.takeWhile isIndent, List.all_takeWhile, List.takeWhile_append_dropWhile.symm⟩

theorem isLine_append_iff {front : Text} (hfront : front.all isIndent = true) (rest : Text) :
    IsLine (front ++ rest) ↔ IsLine rest := by
  have hnewline := not_mem_of_all_isIndent hfront
  by_cases hrest : rest = []
  · subst hrest
    rw [List.append_nil]
    exact iff_of_true (fun hmem => hnewline (List.dropLast_subset front hmem)) List.not_mem_nil
  · simp [IsLine, List.dropLast_append_of_ne_nil hrest, hnewline]

theorem getLast?_append_eq_newline_iff {front : Text} (hfront : front.all isIndent = true)
    (rest : Text) : (front ++ rest).getLast? = some '\n' ↔ rest.getLast? = some '\n' := by
  rw [List.getLast?_append]
  cases hlast : rest.getLast? with
  | some c => rw [Option.some_or]
  | none =>
    rw [Option.none_or]
    exact iff_of_false (fun hnewline => not_mem_of_all_isIndent hfront (List.mem_of_getLast? hnewline))
      (by simp)

theorem forall₂_reindent (pad : Nat → Text) {indents : List Nat} {lines : List Text}
    (hlength : indents.length = lines.length) :
    List.Forall₂ (fun line other => ∃ indent, line = pad indent ++ other.unindented)
      (reindent pad indents lines) lines := by
  induction lines generalizing indents with
  | nil => simp [reindent]
  | cons line lines ih =>
    cases indents with
    | nil => simp at hlength
    | cons indent indents => exact .cons ⟨indent, rfl⟩ (ih (by simpa using hlength))

section

variable {pad : Nat → Text} (hpad : ∀ indent, (pad indent).all isIndent = true)

include hpad

theorem unindented_reindent {indents : List Nat} {lines : List Text}
    (hlength : indents.length = lines.length) :
    List.Forall₂ (fun line other => line.unindented = other.unindented)
      (reindent pad indents lines) lines := by
  refine (forall₂_reindent pad hlength).imp ?_
  rintro _ line ⟨indent, rfl⟩
  rw [unindented_append (hpad indent), unindented_unindented]

theorem areLines_of_forall₂ {first second : List Text}
    (h : List.Forall₂ (fun line other => ∃ indent, line = pad indent ++ other.unindented)
      first second)
    (hlines : AreLines second) : AreLines first := by
  have hline (line : Text) (indent : Nat) (hline : IsLine line) :
      IsLine (pad indent ++ line.unindented) := by
    obtain ⟨front, hfront, hsplit⟩ := line.exists_indent_append
    rw [hsplit, isLine_append_iff hfront] at hline
    exact (isLine_append_iff (hpad indent) _).mpr hline
  have hend (line : Text) (indent : Nat) (hline : line.getLast? = some '\n') :
      (pad indent ++ line.unindented).getLast? = some '\n' := by
    obtain ⟨front, hfront, hsplit⟩ := line.exists_indent_append
    rw [hsplit, getLast?_append_eq_newline_iff hfront] at hline
    exact (getLast?_append_eq_newline_iff (hpad indent) _).mpr hline
  induction h with
  | nil => trivial
  | @cons text line texts lines htext hrest ih =>
    obtain ⟨indent, rfl⟩ := htext
    cases hrest with
    | nil => exact hline line indent hlines
    | cons hnext hbelow =>
      obtain ⟨⟨hfirst, hlast⟩, hlower⟩ := hlines
      exact ⟨⟨hline line indent hfirst, hend line indent hlast⟩, ih hlower⟩

end

end Text

-- Documents whose lines differ only in the blanks in front of them, newlines aside, have the same
-- stacks between their lines, the same tokens but for blanks and the text of strings, and the same
-- indents. So a document whose lines are indented as computed has the indents it is given. Cut into
-- lines again, its text has the same lines, except that a last line of blanks alone is lost when
-- nothing is left of it.
theorem indents_reindent (lexicon : Lexicon)
    (hwords : ∀ category, ∀ word ∈ lexicon.words category, ∀ c ∈ word.toList,
      Text.isBlank c = false) (initial : Stack) :
    let lexer := lexicon.lexer
    (∀ first second : List Text,
        List.Forall₂ (fun line other => line.unindented = other.unindented) first second →
        List.Forall₂ Line.SameContent (Document.ofTexts lexer initial first).lines
            (Document.ofTexts lexer initial second).lines ∧
          (Document.ofTexts lexer initial first).indents =
            (Document.ofTexts lexer initial second).indents) ∧
      ∀ pad : Nat → Text, (∀ indent, (pad indent).all Text.isIndent = true) → ∀ text : Text,
        let document := Document.lex lexer initial text
        let texts := Text.reindent pad document.indents text.lines
        (Document.ofTexts lexer initial texts).indents = document.indents ∧
          (Document.lex lexer initial texts.flatten).indents =
            document.indents.take (Text.lines texts.flatten).length := by
  intro lexer
  have hvocabulary : lexer.vocabulary.HasNoBlanks := Vocabulary.hasNoBlanks_ofLexicon hwords
  have hsame (first second : List Text)
      (h : List.Forall₂ (fun line other => line.unindented = other.unindented) first second) :
      List.Forall₂ Line.SameContent (Document.ofTexts lexer initial first).lines
        (Document.ofTexts lexer initial second).lines :=
    Document.sameContent_lexLines hvocabulary h initial
  refine ⟨fun first second h =>
    ⟨hsame first second h, Document.indents_eq_of_sameContent (hsame first second h)⟩, ?_⟩
  intro pad hpad text document texts
  have hlength : document.indents.length = text.lines.length := by
    rw [Document.length_indents]
    exact Document.length_lexLines lexer initial text.lines
  have hindents : (Document.ofTexts lexer initial texts).indents = document.indents :=
    Document.indents_eq_of_sameContent (hsame _ _ (Text.unindented_reindent hpad hlength))
  have hlines : Text.AreLines texts :=
    Text.areLines_of_forall₂ hpad (Text.forall₂_reindent pad hlength) (Text.areLines_lines text)
  have htake := List.prefix_iff_eq_take.mp (Text.lines_flatten_prefix hlines)
  refine ⟨hindents, ?_⟩
  calc (Document.lex lexer initial texts.flatten).indents
      = (Document.ofTexts lexer initial
          (texts.take (Text.lines texts.flatten).length)).indents := by
        rw [← htake]
        rfl
    _ = document.indents.take (Text.lines texts.flatten).length := by
        rw [Document.indents_ofTexts_take, hindents]

-- A string that goes over two lines and a block comment, as they come, without any blanks in front and
-- with two blanks for every level.
theorem indents_reindent_string :
    let lexicon : Lexicon :=
      Lexicon.ofWords fun category => if category = .clefs then ["treble"] else []
    let texts : List Text := ["\x7b \"a\n".toList, "\t b\" c4\n".toList, " %\x7b x\n".toList,
      "  y\n".toList, "%\x7d \x7d".toList]
    let bare : List Text := texts.map Text.unindented
    let pad : Nat → Text := fun indent => List.replicate (2 * indent) ' '
    let document := Document.lex lexicon.lexer Stack.toplevel texts.flatten
    let neat := (Text.reindent pad document.indents (Text.lines texts.flatten)).flatten
    (∀ category, ∀ word ∈ lexicon.words category, ∀ c ∈ word.toList, Text.isBlank c = false) ∧
      (Document.ofTexts lexicon.lexer Stack.toplevel texts).indents =
        (Document.ofTexts lexicon.lexer Stack.toplevel bare).indents ∧
      document.indents = [0, 1, 1, 2, 0] ∧
      (Document.lex lexicon.lexer Stack.toplevel neat).indents = [0, 1, 1, 2, 0] := by
  intro lexicon texts bare pad document neat
  have hwords : ∀ category, ∀ word ∈ lexicon.words category, ∀ c ∈ word.toList,
      Text.isBlank c = false := by
    intro category word hword
    simp only [lexicon, Lexicon.ofWords] at hword
    split at hword
    · obtain rfl := List.mem_singleton.mp hword
      have htreble : "treble".toList.all (fun c => !Text.isBlank c) = true := by decide
      simpa using htreble
    · simp at hword
  have hbare : List.Forall₂ (fun line other => line.unindented = other.unindented) texts bare := by
    rw [List.forall₂_map_right_iff, List.forall₂_same]
    exact fun line _ => (Text.unindented_unindented line).symm
  have hindents : document.indents = [0, 1, 1, 2, 0] := by decide +kernel
  have hcount : (Text.lines neat).length = 5 := by decide +kernel
  obtain ⟨hsame, hreindented⟩ := indents_reindent lexicon hwords Stack.toplevel
  have hneat := (hreindented pad (by simp [pad, Text.isIndent, Text.isBlank]) texts.flatten).2
  refine ⟨hwords, (hsame texts bare hbare).2, hindents, ?_⟩
  exact hneat.trans (by rw [hcount, hindents]; rfl)

end ScoreLexer
