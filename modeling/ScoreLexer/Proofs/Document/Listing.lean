import Mathlib.Data.List.Forall2
import ScoreLexer.Listing.Record
import ScoreLexer.Proofs.Document.Editing
import ScoreLexer.Proofs.Lexer.Coverage

namespace ScoreLexer

open Text

namespace Partition

theorem shift {position : Nat} {text : Text} {tokens : List Token}
    (h : Partition position text tokens) (offset : Nat) :
    Partition (position + offset) text (tokens.map (Token.shift offset)) := by
  induction tokens generalizing position text with
  | nil => exact h
  | cons token more ih =>
    obtain ⟨rfl, hne, back, rfl, hmore⟩ := h
    refine ⟨rfl, hne, back, rfl, ?_⟩
    have hfinish : (token.shift offset).finish = token.finish + offset := by
      simp only [Token.shift, Token.finish]
      omega
    rw [hfinish]
    exact ih hmore

theorem append {position : Nat} {front back : Text} {former latter : List Token}
    (hformer : Partition position front former)
    (hlatter : Partition (position + front.byteSize) back latter) :
    Partition position (front ++ back) (former ++ latter) := by
  induction former generalizing position front with
  | nil =>
    obtain rfl : front = [] := hformer
    exact hlatter
  | cons token more ih =>
    obtain ⟨rfl, hne, rest, rfl, hmore⟩ := hformer
    refine ⟨rfl, hne, rest ++ back, List.append_assoc _ _ _, ih hmore ?_⟩
    rwa [byteSize_append, ← Nat.add_assoc] at hlatter

end Partition

def Line.IsPartitioned (line : Line) : Prop := Partition 0 line.text line.tokens

theorem Line.isPartitioned_lex (lexer : Lexer) (start : Stack) (text : Text) :
    (Line.lex lexer start text).IsPartitioned := lexer.partition_lex start text

namespace Document

def editEach (document : Document) (history : List (Lexer × Edit)) : Document :=
  history.foldl (fun document (lexer, edit) => document.edit lexer edit) document

theorem map_text_relex (lexer : Lexer) (start : Stack) (text : Text) (previous : Line)
    (below : List Line) :
    (relex lexer start text previous below).1.map Line.text = text :: below.map Line.text := by
  induction below generalizing start text previous with
  | nil => rfl
  | cons next below ih =>
    rw [relex]
    split
    · rfl
    · have hbelow := ih (Line.lex lexer start text).final next.text next
      simp only [List.map_cons, hbelow]
      rfl

theorem isPartitioned_relex (lexer : Lexer) (start : Stack) (text : Text) (previous : Line)
    {below : List Line} (h : ∀ line ∈ below, line.IsPartitioned) :
    ∀ line ∈ (relex lexer start text previous below).1, line.IsPartitioned := by
  induction below generalizing start text previous with
  | nil => simpa [relex] using Line.isPartitioned_lex lexer start text
  | cons next below ih =>
    have hline := Line.isPartitioned_lex lexer start text
    rw [relex]
    split
    · exact List.forall_mem_cons.mpr ⟨hline, h⟩
    · have hbelow := ih (Line.lex lexer start text).final next.text next
        (List.forall_mem_cons.mp h).2
      exact List.forall_mem_cons.mpr ⟨hline, hbelow⟩

structure WellListed (document : Document) : Prop where
  areLines : AreLines document.texts
  isPartitioned : ∀ line ∈ document.lines, line.IsPartitioned

theorem wellListed_lex (lexer : Lexer) (initial : Stack) (text : Text) :
    (lex lexer initial text).WellListed := by
  constructor
  · rw [lex, texts, ofTexts, map_text_lexLines]
    exact areLines_lines text
  · rw [lex, ofTexts]
    generalize text.lines = texts
    induction texts generalizing initial with
    | nil => simp [lexLines]
    | cons text texts ih =>
      exact List.forall_mem_cons.mpr ⟨Line.isPartitioned_lex lexer initial text, ih _⟩

theorem texts_edit (lexer : Lexer) (document : Document) (edit : Edit) :
    (document.edit lexer edit).texts = edit.store document.texts := by
  have hlength : document.texts.length = document.lines.length := List.length_map _
  rw [Document.edit, Edit.store, hlength]
  by_cases hadmissible : edit.Admissible document.lines.length
  · have hdrop := List.drop_eq_getElem_cons hadmissible.1
    have hreplace := replaceLine_eq_ok lexer hadmissible hdrop
    rw [hreplace, if_pos hadmissible]
    have hset := List.set_eq_take_append_cons_drop (l := document.texts) (i := edit.index)
      (a := document.storedText edit)
    rw [if_pos (hlength ▸ hadmissible.1)] at hset
    simp only [storedText] at hset
    rw [hset]
    simp only [texts, storedText, List.map_append, map_text_relex, List.map_take, List.map_drop]
  · obtain ⟨error, hreplace⟩ := exists_error_of_not_admissible lexer hadmissible
    rw [hreplace, if_neg hadmissible]

theorem WellListed.edit {document : Document} (h : document.WellListed) (lexer : Lexer)
    (edit : Edit) : (document.edit lexer edit).WellListed := by
  refine ⟨texts_edit lexer document edit ▸ areLines_store h.areLines edit, ?_⟩
  rw [Document.edit]
  by_cases hadmissible : edit.Admissible document.lines.length
  · have hdrop := List.drop_eq_getElem_cons hadmissible.1
    have hreplace := replaceLine_eq_ok lexer hadmissible hdrop
    rw [hreplace]
    refine List.forall_mem_append.mpr ⟨fun line hline => ?_, isPartitioned_relex _ _ _ _ ?_⟩
    · exact h.isPartitioned line (List.mem_of_mem_take hline)
    · exact fun line hline => h.isPartitioned line (List.mem_of_mem_drop hline)
  · obtain ⟨error, hreplace⟩ := exists_error_of_not_admissible lexer hadmissible
    rw [hreplace]
    exact h.isPartitioned

theorem WellListed.editEach {document : Document} (h : document.WellListed)
    (history : List (Lexer × Edit)) : (document.editEach history).WellListed := by
  induction history generalizing document with
  | nil => exact h
  | cons entry history ih => exact ih (h.edit entry.1 entry.2)

theorem partition_tokensFrom {lines : List Line} (h : ∀ line ∈ lines, line.IsPartitioned)
    (offset : Nat) :
    Partition offset (lines.map Line.text).flatten (tokensFrom offset lines) := by
  induction lines generalizing offset with
  | nil => rfl
  | cons line below ih =>
    obtain ⟨hline, hbelow⟩ := List.forall_mem_cons.mp h
    have hshifted := Partition.shift hline offset
    rw [Nat.zero_add] at hshifted
    exact hshifted.append (ih hbelow _)

end Document

namespace Record

-- Whether the first record stands before the second: in a line above, or in the same line further
-- to the left.
def Before (first second : Record) : Prop :=
  first.line < second.line ∨ first.line = second.line ∧ first.column < second.column

-- The record is about the token and says where it stands among the lines: below so many of them,
-- and in its line after so many characters. Counted in bytes, these are its offsets in the line
-- and in the whole.
structure Locates (lines : List Text) (record : Record) (token : Token) : Prop where
  kind : record.token.kind = token.kind
  text : record.token.text = token.text
  nonempty : token.text ≠ []
  place : ∃ above front back below, lines = above ++ (front ++ token.text ++ back) :: below ∧
    record.line = above.length + 1 ∧ record.column = front.length + 1 ∧
    record.token.position = byteSize front ∧
    token.position = byteSize above.flatten + byteSize front

theorem Locates.of_append {lines rest : List Text} {record : Record} {token : Token}
    (h : record.Locates (lines ++ rest) token) (hrest : ∀ line ∈ rest, line = []) :
    record.Locates lines token := by
  obtain ⟨hkind, htext, hne, above, front, back, below, hlines, hplace⟩ := h
  refine ⟨hkind, htext, hne, above, front, back, ?_⟩
  have hline : front ++ token.text ++ back ∉ rest := by
    intro hmem
    have hnil := hrest _ hmem
    simp only [List.append_eq_nil_iff] at hnil
    exact hne hnil.1.2
  rcases List.append_eq_append_iff.mp hlines with ⟨middle, -, hmiddle⟩ | ⟨middle, hmiddle, hcut⟩
  · rw [hmiddle] at hline
    simp at hline
  · cases middle with
    | nil =>
      rw [List.nil_append] at hcut
      rw [← hcut] at hline
      simp at hline
    | cons line middle =>
      rw [List.cons_append, List.cons.injEq] at hcut
      exact ⟨middle, hcut.1 ▸ hmiddle, hplace⟩

end Record

theorem columnAt_append {front : Text} {offset : Nat} (h : offset = front.byteSize) (back : Text) :
    columnAt (front ++ back) offset = front.length + 1 := by
  rw [columnAt, h, splitAtByte?_append]

theorem Token.finish_of_position {token : Token} {front : Text}
    (h : token.position = front.byteSize) : token.finish = (front ++ token.text).byteSize := by
  rw [Token.finish, h, byteSize_append]

theorem locates_rest (above : List Text) (front : Text) {rest : Text} {tokens : List Token}
    (h : Partition front.byteSize rest tokens) (below : List Text) :
    List.Forall₂ (Record.Locates (above ++ (front ++ rest) :: below))
      (tokens.map fun token =>
        ⟨above.length + 1, columnAt (front ++ rest) token.position, token⟩)
      (tokens.map (Token.shift (byteSize above.flatten))) := by
  induction tokens generalizing front rest with
  | nil => exact .nil
  | cons token more ih =>
    obtain ⟨hposition, hne, back, rfl, hmore⟩ := h
    have hcolumn := columnAt_append hposition (token.text ++ back)
    rw [Token.finish_of_position hposition] at hmore
    rw [List.map_cons, List.map_cons, hcolumn, ← List.append_assoc]
    refine .cons ⟨rfl, rfl, hne, above, front, back, below, rfl, rfl, rfl, hposition, ?_⟩ (ih _ hmore)
    rw [Token.shift, hposition, Nat.add_comm]

theorem locates_recordsFrom (above : List Text) {lines : List Line}
    (h : ∀ line ∈ lines, line.IsPartitioned) :
    List.Forall₂ (Record.Locates (above ++ lines.map Line.text))
      (recordsFrom (above.length + 1) lines)
      (Document.tokensFrom (byteSize above.flatten) lines) := by
  induction lines generalizing above with
  | nil => exact .nil
  | cons line below ih =>
    obtain ⟨hline, hbelow⟩ := List.forall_mem_cons.mp h
    have hfirst := locates_rest above [] hline (below.map Line.text)
    have hmore := ih (above ++ [line.text]) hbelow
    rw [List.length_append, List.append_assoc, List.flatten_append, byteSize_append] at hmore
    simp only [List.length_singleton, List.singleton_append, List.flatten_singleton] at hmore
    exact List.rel_append hfirst hmore

theorem before_rest (number : Nat) (front : Text) {rest : Text} {tokens : List Token}
    (h : Partition front.byteSize rest tokens) :
    let records := tokens.map fun token =>
      Record.mk number (columnAt (front ++ rest) token.position) token
    records.Pairwise Record.Before ∧ ∀ record ∈ records, front.length < record.column := by
  induction tokens generalizing front rest with
  | nil => simp
  | cons token more ih =>
    obtain ⟨hposition, hne, back, rfl, hmore⟩ := h
    have hlength := List.length_pos_iff.mpr hne
    have hcolumn := columnAt_append hposition (token.text ++ back)
    rw [Token.finish_of_position hposition] at hmore
    obtain ⟨hpairwise, hbeyond⟩ := ih (front ++ token.text) hmore
    rw [List.length_append, List.append_assoc] at hbeyond
    rw [List.append_assoc] at hpairwise
    simp only [List.map_cons, hcolumn]
    constructor
    · refine List.pairwise_cons.mpr ⟨fun record hrecord => ?_, hpairwise⟩
      obtain ⟨next, -, rfl⟩ := List.mem_map.mp hrecord
      have hlt := hbeyond _ hrecord
      exact .inr ⟨rfl, Nat.lt_of_le_of_lt (Nat.add_le_add_left hlength _) hlt⟩
    · refine List.forall_mem_cons.mpr ⟨Nat.lt_succ_self _, fun record hrecord => ?_⟩
      have hlt := hbeyond record hrecord
      omega

theorem line_of_mem_records {number : Nat} {line : Line} {record : Record}
    (h : record ∈ line.records number) : record.line = number := by
  obtain ⟨token, -, rfl⟩ := List.mem_map.mp h
  rfl

theorem before_recordsFrom (number : Nat) {lines : List Line}
    (h : ∀ line ∈ lines, line.IsPartitioned) :
    (recordsFrom number lines).Pairwise Record.Before ∧
      ∀ record ∈ recordsFrom number lines, number ≤ record.line := by
  induction lines generalizing number with
  | nil => simp [recordsFrom]
  | cons line below ih =>
    obtain ⟨hline, hbelow⟩ := List.forall_mem_cons.mp h
    have hfirst : (line.records number).Pairwise Record.Before := (before_rest number [] hline).1
    obtain ⟨hmore, hbeyond⟩ := ih (number + 1) hbelow
    rw [recordsFrom]
    constructor
    · refine List.pairwise_append.mpr ⟨hfirst, hmore, fun first hmem second hsecond => .inl ?_⟩
      have hnumber := line_of_mem_records hmem
      have hlt := hbeyond second hsecond
      omega
    · refine List.forall_mem_append.mpr ⟨fun record hmem => (line_of_mem_records hmem).ge, ?_⟩
      intro record hmem
      have hlt := hbeyond record hmem
      omega

-- The tokens of a document cut its text into consecutive pieces, and the records list them in
-- order and place each in the lines of the text. This holds after whatever edits, accepted or
-- refused.
theorem Document.records_locate_tokens (lexer : Lexer) (initial : Stack) (text : Text)
    (history : List (Lexer × Edit)) :
    let document := (Document.lex lexer initial text).editEach history
    (Document.lex lexer initial text).text = text ∧
      (∀ token ∈ document.tokens.head?, token.position = 0) ∧
      (document.tokens.IsChain fun token next => next.position = token.finish) ∧
      (∀ token ∈ document.tokens.getLast?, token.finish = document.text.byteSize) ∧
      document.tokens.flatMap Token.text = document.text ∧
      List.Forall₂ (Record.Locates document.text.lines) document.records document.tokens ∧
      document.records.Pairwise Record.Before := by
  intro document
  have hlisted : document.WellListed := (wellListed_lex lexer initial text).editEach history
  have hpartition : Partition 0 document.text document.tokens :=
    partition_tokensFrom hlisted.isPartitioned 0
  have htext : (Document.lex lexer initial text).text = text := by
    rw [Document.text, texts, Document.lex, ofTexts, map_text_lexLines, lines_flatten]
  refine ⟨htext, hpartition.position_head?, hpartition.isChain, ?_, hpartition.flatMap_text, ?_,
    (before_recordsFrom 1 hlisted.isPartitioned).1⟩
  · intro token htoken
    rw [hpartition.finish_getLast? token htoken, Nat.zero_add]
  · obtain ⟨rest, hrest, hempty⟩ := exists_eq_lines_flatten_append hlisted.areLines
    have hlocates : List.Forall₂ (Record.Locates document.texts) document.records
        document.tokens := locates_recordsFrom [] hlisted.isPartitioned
    rw [hrest] at hlocates
    exact hlocates.imp fun record token hlocated => hlocated.of_append hempty

end ScoreLexer
