import ScoreLexer.Document.Basic
import ScoreLexer.Proofs.Text.Lines

namespace ScoreLexer

open Text

-- The first line starts from the given stack, every other line from the end of the one above it,
-- and every line holds what lexing its text from its start gives.
def Chained (lexer : Lexer) : Stack → List Line → Prop
  | _, [] => True
  | start, line :: below =>
      line.start = start ∧ line.tokens = (lexer.lex start line.text).tokens ∧
        line.final = (lexer.lex start line.text).final ∧ Chained lexer line.final below

structure Edit where
  index : Nat
  text : Text

def Edit.Admissible (edit : Edit) (count : Nat) : Prop := edit.index < count ∧ IsLine edit.text

instance (edit : Edit) (count : Nat) : Decidable (edit.Admissible count) :=
  inferInstanceAs (Decidable (edit.index < count ∧ '\n' ∉ edit.text.dropLast))

-- The line texts after an edit: a line that is not the last is given the newline it may lack.
def Edit.store (texts : List Text) (edit : Edit) : List Text :=
  if edit.Admissible texts.length then
    texts.set edit.index
      (if edit.index + 1 = texts.length then edit.text else Document.terminated edit.text)
  else texts

namespace Document

-- The document after an edit. One that is refused changes nothing.
def edit (lexer : Lexer) (document : Document) (edit : Edit) : Document :=
  match document.replaceLine lexer edit.index edit.text with
  | .ok (edited, _) => edited
  | .error _ => document

def editAll (lexer : Lexer) (document : Document) (edits : List Edit) : Document :=
  edits.foldl (edit lexer) document

theorem lex_line_of_chained {lexer : Lexer} {start : Stack} {line : Line} {below : List Line}
    (h : Chained lexer start (line :: below)) : Line.lex lexer start line.text = line := by
  obtain ⟨hstart, htokens, hfinal, -⟩ := h
  cases line
  simp_all [Line.lex]

theorem chained_lexLines (lexer : Lexer) (start : Stack) (texts : List Text) :
    Chained lexer start (lexLines lexer start texts) := by
  induction texts generalizing start with
  | nil => trivial
  | cons text texts ih => exact ⟨rfl, rfl, rfl, ih _⟩

theorem map_text_lexLines (lexer : Lexer) (start : Stack) (texts : List Text) :
    (lexLines lexer start texts).map Line.text = texts := by
  induction texts generalizing start with
  | nil => rfl
  | cons text texts ih =>
    rw [lexLines, List.map_cons, ih]
    rfl

theorem lexLines_of_chained {lexer : Lexer} {start : Stack} {lines : List Line}
    (h : Chained lexer start lines) : lexLines lexer start (lines.map Line.text) = lines := by
  induction lines generalizing start with
  | nil => rfl
  | cons line below ih =>
    have hline := lex_line_of_chained h
    rw [List.map_cons, lexLines, hline, ih h.2.2.2]

-- Lexing again as far as the stacks change gives what lexing everything again gives: the lines
-- kept start from the stack the last line lexed again ends with.
theorem relex_eq_lexLines {lexer : Lexer} {previous : Line} {below : List Line}
    (h : Chained lexer previous.final below) (start : Stack) (text : Text) :
    (relex lexer start text previous below).1 =
      lexLines lexer start (text :: below.map Line.text) := by
  induction below generalizing start text previous with
  | nil => rfl
  | cons next below ih =>
    rw [relex]
    split
    · next hsame =>
      rw [lexLines, hsame, lexLines_of_chained h]
    · have hbelow := ih h.2.2.2 (Line.lex lexer start text).final next.text
      simp only [lexLines, List.map_cons] at hbelow ⊢
      rw [hbelow]

theorem take_append_relex {lexer : Lexer} {start : Stack} {lines : List Line}
    (h : Chained lexer start lines) {index : Nat} {previous : Line} {below : List Line}
    (hdrop : lines.drop index = previous :: below) (text : Text) :
    lines.take index ++ (relex lexer previous.start text previous below).1 =
      lexLines lexer start ((lines.map Line.text).set index text) := by
  induction index generalizing start lines with
  | zero =>
    rw [List.drop_zero] at hdrop
    subst hdrop
    obtain ⟨hstart, -, -, hbelow⟩ := h
    rw [relex_eq_lexLines hbelow, hstart]
    rfl
  | succ index ih =>
    cases lines with
    | nil => simp at hdrop
    | cons line lines =>
      have hline := lex_line_of_chained h
      rw [List.take_succ_cons, List.cons_append, ih h.2.2.2 (by simpa using hdrop)]
      rw [List.map_cons, List.set_cons_succ, lexLines, hline]

theorem spansLines_eq_false_iff {text : Text} : spansLines text = false ↔ IsLine text := by
  rcases List.eq_nil_or_concat text with rfl | ⟨front, c, rfl⟩
  · simp [spansLines, IsLine]
  · rw [List.concat_eq_append, spansLines, List.reverse_append, List.reverse_singleton,
      List.singleton_append]
    by_cases hc : c = '\n'
    · subst hc
      simp [IsLine]
    · simp [IsLine, hc, Ne.symm hc]

theorem exists_error_of_not_admissible (lexer : Lexer) {document : Document} {edit : Edit}
    (h : ¬edit.Admissible document.lines.length) :
    ∃ error, document.replaceLine lexer edit.index edit.text = .error error := by
  unfold replaceLine
  split
  · exact ⟨_, rfl⟩
  · next previous below hdrop =>
    have hlt : edit.index < document.lines.length := by
      have hcount := congrArg List.length hdrop
      rw [List.length_drop, List.length_cons] at hcount
      omega
    have hspans : spansLines edit.text = true := by
      rw [← Bool.not_eq_false, spansLines_eq_false_iff]
      exact fun hline => h ⟨hlt, hline⟩
    rw [if_pos hspans]
    exact ⟨_, rfl⟩

def storedText (document : Document) (edit : Edit) : Text :=
  if edit.index + 1 = document.lines.length then edit.text else terminated edit.text

theorem replaceLine_eq_ok (lexer : Lexer) {document : Document} {edit : Edit}
    (h : edit.Admissible document.lines.length) {previous : Line} {below : List Line}
    (hdrop : document.lines.drop edit.index = previous :: below) :
    document.replaceLine lexer edit.index edit.text =
      .ok ({ document with
        lines := document.lines.take edit.index ++
          (relex lexer previous.start (document.storedText edit) previous below).1 },
        (relex lexer previous.start (document.storedText edit) previous below).2) := by
  have hlast : below.isEmpty = decide (edit.index + 1 = document.lines.length) := by
    have hlt := h.1
    have hcount := congrArg List.length hdrop
    rw [List.length_drop, List.length_cons] at hcount
    rw [Bool.eq_iff_iff, List.isEmpty_iff, ← List.length_eq_zero_iff, decide_eq_true_iff]
    omega
  rw [replaceLine, hdrop]
  simp only [spansLines_eq_false_iff.mpr h.2, hlast, decide_eq_true_eq, Bool.false_eq_true,
    if_false, storedText]

theorem replaceLine_of_admissible {lexer : Lexer} {document : Document}
    (hchained : Chained lexer document.initial document.lines) {edit : Edit}
    (h : edit.Admissible document.lines.length) :
    ∃ count, document.replaceLine lexer edit.index edit.text =
      .ok (ofTexts lexer document.initial (edit.store document.texts), count) := by
  have hdrop := List.drop_eq_getElem_cons h.1
  have hlength : document.texts.length = document.lines.length := List.length_map _
  have hreplace := replaceLine_eq_ok lexer h hdrop
  rw [take_append_relex hchained hdrop] at hreplace
  rw [hreplace, Edit.store, hlength, if_pos h]
  exact ⟨_, rfl⟩

theorem terminated_isLine {text : Text} (h : IsLine text) :
    IsLine (terminated text) ∧ (terminated text).getLast? = some '\n' := by
  unfold terminated
  split
  · next hlast => exact ⟨h, hlast⟩
  · next hlast =>
    have hnot := not_mem_of_isLine h hlast
    simp [IsLine, hnot]

theorem areLines_store {texts : List Text} (h : AreLines texts) (edit : Edit) :
    AreLines (edit.store texts) := by
  unfold Edit.store
  split
  · next hadmissible =>
    have hterminated := terminated_isLine hadmissible.2
    split
    · exact areLines_set h hadmissible.2 (by omega)
    · exact areLines_set h hterminated.1 (fun _ => hterminated.2)
  · exact h

theorem edit_ofTexts (lexer : Lexer) (initial : Stack) (texts : List Text) (edit : Edit) :
    (ofTexts lexer initial texts).edit lexer edit =
      ofTexts lexer initial (edit.store texts) := by
  have hchained : Chained lexer initial (ofTexts lexer initial texts).lines :=
    chained_lexLines lexer initial texts
  have htexts : (ofTexts lexer initial texts).texts = texts :=
    map_text_lexLines lexer initial texts
  have hlength : (ofTexts lexer initial texts).lines.length = texts.length := by
    rw [← List.length_map Line.text]
    exact congrArg List.length htexts
  rw [Document.edit]
  by_cases hadmissible : edit.Admissible (ofTexts lexer initial texts).lines.length
  · obtain ⟨count, hreplace⟩ := replaceLine_of_admissible hchained hadmissible
    rw [hreplace, htexts]
    rfl
  · obtain ⟨error, hreplace⟩ := exists_error_of_not_admissible lexer hadmissible
    rw [hreplace, Edit.store, if_neg (hlength ▸ hadmissible)]

theorem editAll_ofTexts (lexer : Lexer) (initial : Stack) (texts : List Text)
    (edits : List Edit) :
    (ofTexts lexer initial texts).editAll lexer edits =
      ofTexts lexer initial (edits.foldl Edit.store texts) := by
  induction edits generalizing texts with
  | nil => rfl
  | cons edit edits ih =>
    rw [editAll, List.foldl_cons, edit_ofTexts]
    exact ih (edit.store texts)

theorem areLines_foldl_store {texts : List Text} (h : AreLines texts) (edits : List Edit) :
    AreLines (edits.foldl Edit.store texts) := by
  induction edits generalizing texts with
  | nil => exact h
  | cons edit edits ih => exact ih (areLines_store h edit)

theorem exists_error_iff {lexer : Lexer} {document : Document}
    (h : Chained lexer document.initial document.lines) (edit : Edit) :
    (∃ error, document.replaceLine lexer edit.index edit.text = .error error) ↔
      document.lines.length ≤ edit.index ∨ '\n' ∈ edit.text.dropLast := by
  constructor
  · rintro ⟨error, herror⟩
    by_cases hlt : edit.index < document.lines.length
    · by_cases hmem : '\n' ∈ edit.text.dropLast
      · exact .inr hmem
      · obtain ⟨count, hok⟩ := replaceLine_of_admissible h ⟨hlt, hmem⟩
        rw [herror] at hok
        cases hok
    · exact .inl (by omega)
  · intro hrefused
    apply exists_error_of_not_admissible
    rintro ⟨hlt, hline⟩
    rcases hrefused with hge | hmem
    · omega
    · exact hline hmem

-- Whatever edits were made to the document of a text, accepted or refused, it is the document
-- that lexing its line texts one after the other gives, and these are the lines of the text with
-- the accepted edits stored. Unless the last line was emptied, lexing the whole text again gives
-- the same document too.
theorem editAll_lex (lexer : Lexer) (initial : Stack) (text : Text) (edits : List Edit) :
    let document := (lex lexer initial text).editAll lexer edits
    document = ofTexts lexer initial (edits.foldl Edit.store text.lines) ∧
      Chained lexer initial document.lines ∧
      document.texts = edits.foldl Edit.store text.lines ∧
      (∀ edit : Edit,
        (∃ error, document.replaceLine lexer edit.index edit.text = .error error) ↔
          document.lines.length ≤ edit.index ∨ '\n' ∈ edit.text.dropLast) ∧
      ((∀ line ∈ document.lines.getLast?, line.text ≠ []) →
        document = lex lexer initial document.text) := by
  intro document
  have hdocument : document = ofTexts lexer initial (edits.foldl Edit.store text.lines) :=
    editAll_ofTexts lexer initial text.lines edits
  have hchained : Chained lexer initial document.lines := by
    rw [hdocument]
    exact chained_lexLines lexer initial _
  have htexts : document.texts = edits.foldl Edit.store text.lines := by
    rw [hdocument]
    exact map_text_lexLines lexer initial _
  have hinitial : document.initial = initial := by rw [hdocument]; rfl
  refine ⟨hdocument, hchained, htexts, exists_error_iff (hinitial ▸ hchained), ?_⟩
  intro hlast
  have hlines : AreLines document.texts := by
    rw [htexts]
    exact areLines_foldl_store (areLines_lines text) edits
  have hnonempty : document.texts.getLast? ≠ some [] := by
    rw [texts, List.getLast?_map, Ne, Option.map_eq_some_iff]
    rintro ⟨line, hline, htext⟩
    exact hlast line hline htext
  rw [lex, Document.text, lines_flatten_of_areLines hlines hnonempty, htexts]
  exact hdocument

end Document

end ScoreLexer
