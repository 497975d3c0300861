import ScoreLexer.Proofs.Document.Editing
import ScoreLexer.Proofs.Document.WholeText
import ScoreLexer.Proofs.Lexer.Settled
import ScoreLexer.Proofs.Lexer.TrailingNewline

namespace ScoreLexer

open Text

namespace Document

theorem lexLines_concat (lexer : Lexer) (start : Stack) (earlier : List Text) (line : Text) :
    lexLines lexer start (earlier ++ [line]) = lexLines lexer start earlier ++
      [Line.lex lexer (ofTexts lexer start earlier).final line] := by
  induction earlier generalizing start with
  | nil => rfl
  | cons first below ih =>
    rw [List.cons_append, lexLines, ih, lexLines, final_ofTexts_cons]
    rfl

theorem final_ofTexts_concat (lexer : Lexer) (start : Stack) (earlier : List Text) (line : Text) :
    (ofTexts lexer start (earlier ++ [line])).final =
      (lexer.lex (ofTexts lexer start earlier).final line).final := by
  rw [Document.final, ofTexts, lexLines_concat, List.getLast?_concat]
  rfl

theorem tokensFrom_append (offset : Nat) (former latter : List Line) :
    tokensFrom offset (former ++ latter) = tokensFrom offset former ++
      tokensFrom (offset + byteSize (former.map Line.text).flatten) latter := by
  induction former generalizing offset with
  | nil => rfl
  | cons line below ih =>
    rw [List.cons_append, tokensFrom, tokensFrom, ih, List.map_cons, List.flatten_cons,
      byteSize_append, List.append_assoc, Nat.add_assoc]

theorem tokens_ofTexts_concat (lexer : Lexer) (start : Stack) (earlier : List Text)
    (line : Text) :
    (ofTexts lexer start (earlier ++ [line])).tokens = (ofTexts lexer start earlier).tokens ++
      (lexer.lex (ofTexts lexer start earlier).final line).tokens.map
        (Token.shift (byteSize earlier.flatten)) := by
  rw [tokens, ofTexts, lexLines_concat, tokensFrom_append, map_text_lexLines, Nat.zero_add]
  exact congrArg (_ ++ ·) (List.append_nil _)

def errors (document : Document) : List Token :=
  document.tokens.filter fun token => token.kind.isError

theorem errors_ofTexts_concat (lexer : Lexer) (start : Stack) (earlier : List Text)
    (line : Text) :
    (ofTexts lexer start (earlier ++ [line])).errors = (ofTexts lexer start earlier).errors ++
      ((lexer.lex (ofTexts lexer start earlier).final line).tokens.filter
        fun token => token.kind.isError).map (Token.shift (byteSize earlier.flatten)) := by
  rw [errors, tokens_ofTexts_concat, List.filter_append, List.filter_map]
  rfl

theorem giveWay?_final_ofTexts (lexer : Lexer) (start : Stack) {texts : List Text}
    (h : texts ≠ []) : (ofTexts lexer start texts).final.giveWay? = none := by
  obtain ⟨earlier, last, rfl⟩ := (List.eq_nil_or_concat texts).resolve_left h
  rw [List.concat_eq_append, final_ofTexts_concat]
  exact lexer.giveWay?_final_runFrom 0 _ _

theorem ofTexts_concat_newline {lexer : Lexer} (hwords : lexer.vocabulary.StaysInLine)
    (start : Stack) (earlier : List Text) (last : Text) :
    (ofTexts lexer start (earlier ++ [last ++ ['\n']])).final =
        (ofTexts lexer start (earlier ++ [last])).final ∧
      (ofTexts lexer start (earlier ++ [last ++ ['\n']])).errors =
        (ofTexts lexer start (earlier ++ [last])).errors := by
  obtain ⟨hfinal, htokens⟩ :=
    Lexer.lex_concat_newline hwords (ofTexts lexer start earlier).final last
  constructor
  · rw [final_ofTexts_concat, final_ofTexts_concat, hfinal]
  · rw [errors_ofTexts_concat, errors_ofTexts_concat, htokens.filter_isError]

-- A newline that is a line of its own. The document has ended where nothing gives way, so lexing
-- on changes nothing.
theorem ofTexts_newline {lexer : Lexer} (hwords : lexer.vocabulary.StaysInLine) (start : Stack)
    {texts : List Text} (h : texts ≠ []) :
    (ofTexts lexer start (texts ++ [['\n']])).final = (ofTexts lexer start texts).final ∧
      (ofTexts lexer start (texts ++ [['\n']])).errors = (ofTexts lexer start texts).errors := by
  have hsettled := Stack.giveWay?_eq_none_iff.mp (giveWay?_final_ofTexts lexer start h)
  have hend : lexer.lex (ofTexts lexer start texts).final [] =
      ⟨[], [], (ofTexts lexer start texts).final⟩ := Lexer.runFrom_nil rfl hsettled 0
  obtain ⟨hfinal, htokens⟩ :=
    Lexer.lex_concat_newline hwords (ofTexts lexer start texts).final []
  rw [hend] at hfinal htokens
  constructor
  · rw [final_ofTexts_concat]
    exact hfinal
  · have hnone : (lexer.lex (ofTexts lexer start texts).final ['\n']).tokens.filter
        (fun token => token.kind.isError) = [] := htokens.filter_isError
    rw [errors_ofTexts_concat, hnone]
    exact List.append_nil _

end Document

-- A newline at the end of a text does not change the stack that lexing ends with. It makes a token
-- of its own, or goes to the last token, which is one of blanks or the text of a string. So the
-- document of the text ends with the same stack and has the same errors, if there is any text.
theorem lex_trailing_newline (lexicon : Lexicon)
    (hwords : ∀ category, ∀ word ∈ lexicon.words category, '\n' ∉ word.toList) (start : Stack)
    (text : Text) :
    let lexer := lexicon.lexer
    let run := lexer.lex start text
    let run' := lexer.lex start (text ++ ['\n'])
    (run'.final = run.final ∧ GainsNewline text.byteSize run.tokens run'.tokens) ∧
      (text ≠ [] →
        let document := Document.lex lexer start text
        let document' := Document.lex lexer start (text ++ ['\n'])
        document'.final = document.final ∧ document'.errors = document.errors) := by
  intro lexer run run'
  have hvocabulary : lexer.vocabulary.StaysInLine := Vocabulary.staysInLine_ofLexicon hwords
  refine ⟨Lexer.lex_concat_newline hvocabulary start text, ?_⟩
  intro hne document document'
  have hlines : lines text ≠ [] := by
    intro hnil
    rw [← lines_flatten text, hnil] at hne
    exact hne rfl
  rcases lines_concat_newline text with hown | ⟨earlier, last, hshort, hlong⟩
  · have hdocument' : document' = Document.ofTexts lexer start (lines text ++ [['\n']]) :=
      congrArg (Document.ofTexts lexer start) hown
    rw [hdocument']
    exact Document.ofTexts_newline hvocabulary start hlines
  · have hdocument : document = Document.ofTexts lexer start (earlier ++ [last]) :=
      congrArg (Document.ofTexts lexer start) hshort
    have hdocument' : document' = Document.ofTexts lexer start (earlier ++ [last ++ ['\n']]) :=
      congrArg (Document.ofTexts lexer start) hlong
    rw [hdocument, hdocument']
    exact Document.ofTexts_concat_newline hvocabulary start earlier last

-- A duration takes the newline as a blank before it is left, and the stack is the same. There is
-- one error before it.
theorem lex_trailing_newline_duration :
    let lexicon := Lexicon.ofWords fun _ => []
    let text : Text := "\\score x \x7b \x7b c4".toList
    let document := Document.lex lexicon.lexer .toplevel text
    let document' := Document.lex lexicon.lexer .toplevel (text ++ ['\n'])
    (∀ category, ∀ word ∈ lexicon.words category, '\n' ∉ word.toList) ∧ text ≠ [] ∧
      document'.final = document.final ∧ document'.errors = document.errors ∧
      document.errors.map Token.text = ["x".toList] := by
  intro lexicon text document document'
  have hwords : ∀ category, ∀ word ∈ lexicon.words category, '\n' ∉ word.toList := by
    simp [lexicon, Lexicon.ofWords]
  have hne : text ≠ [] := by decide
  have herrors : document.errors.map Token.text = ["x".toList] := by decide +kernel
  obtain ⟨hfinal, hsame⟩ := (lex_trailing_newline lexicon hwords .toplevel text).2 hne
  exact ⟨hwords, hne, hfinal, hsame, herrors⟩

end ScoreLexer
