import Mathlib.Data.List.Chain
import ScoreLexer.Proofs.Lexer.Turn

namespace ScoreLexer

namespace Text

theorem splitAtByte?_append (front back : Text) :
    splitAtByte? (front ++ back) front.byteSize = some (front, back) := by
  induction front with
  | nil => cases back <;> rfl
  | cons c front ih =>
    have hsize := c.utf8Size_pos
    obtain ⟨offset, hoffset⟩ : ∃ offset, c.utf8Size + byteSize front = offset + 1 :=
      ⟨c.utf8Size + byteSize front - 1, by omega⟩
    have hrest : offset + 1 - c.utf8Size = byteSize front := by omega
    rw [byteSize_cons, hoffset, List.cons_append, splitAtByte?, if_pos (by omega), hrest, ih]
    rfl

theorem byteSize_pos {text : Text} (h : text ≠ []) : 0 < text.byteSize := by
  obtain ⟨c, rest, rfl⟩ := List.exists_cons_of_ne_nil h
  have hsize := c.utf8Size_pos
  rw [byteSize_cons]
  omega

end Text

-- Tokens that cut a text into consecutive non-empty pieces, the first of which starts at the given
-- byte offset.
def Partition : Nat → Text → List Token → Prop
  | _, text, [] => text = []
  | position, text, token :: more =>
      token.position = position ∧ token.text ≠ [] ∧
        ∃ back, text = token.text ++ back ∧ Partition token.finish back more

namespace Partition

theorem position_head? {position : Nat} {text : Text} {tokens : List Token}
    (h : Partition position text tokens) : ∀ token ∈ tokens.head?, token.position = position := by
  cases tokens with
  | nil => simp
  | cons token more =>
    rintro _ ⟨⟩
    exact h.1

theorem text_ne_nil {position : Nat} {text : Text} {tokens : List Token}
    (h : Partition position text tokens) : ∀ token ∈ tokens, token.text ≠ [] := by
  induction tokens generalizing position text with
  | nil => simp
  | cons token more ih =>
    obtain ⟨-, hne, back, -, hmore⟩ := h
    exact List.forall_mem_cons.mpr ⟨hne, ih hmore⟩

theorem eq_nil {position : Nat} {tokens : List Token} (h : Partition position [] tokens) :
    tokens = [] := by
  cases tokens with
  | nil => rfl
  | cons token more =>
    obtain ⟨-, hne, back, htext, -⟩ := h
    exact absurd (List.append_eq_nil_iff.mp htext.symm).1 hne

theorem flatMap_text {position : Nat} {text : Text} {tokens : List Token}
    (h : Partition position text tokens) : tokens.flatMap Token.text = text := by
  induction tokens generalizing position text with
  | nil => exact h.symm
  | cons token more ih =>
    obtain ⟨-, -, back, rfl, hmore⟩ := h
    rw [List.flatMap_cons, ih hmore]

theorem isChain {position : Nat} {text : Text} {tokens : List Token}
    (h : Partition position text tokens) :
    tokens.IsChain fun token next => next.position = token.finish := by
  induction tokens generalizing position text with
  | nil => exact .nil
  | cons token more ih =>
    obtain ⟨-, -, back, -, hmore⟩ := h
    rw [List.isChain_cons]
    exact ⟨hmore.position_head?, ih hmore⟩

theorem finish_getLast? {position : Nat} {text : Text} {tokens : List Token}
    (h : Partition position text tokens) :
    ∀ token ∈ tokens.getLast?, token.finish = position + text.byteSize := by
  induction tokens generalizing position text with
  | nil => simp
  | cons token more ih =>
    obtain ⟨rfl, -, back, rfl, hmore⟩ := h
    cases more with
    | nil =>
      rintro _ ⟨⟩
      have hback : back = [] := hmore
      simp [hback, Token.finish]
    | cons next more =>
      intro last hlast
      rw [ih hmore last (by simpa using hlast), Text.byteSize_append, Token.finish, Nat.add_assoc]

theorem exists_slice {position : Nat} {text : Text} {tokens : List Token}
    (h : Partition position text tokens) :
    ∀ token ∈ tokens, ∃ front back, text = front ++ token.text ++ back ∧
      token.position = position + front.byteSize := by
  induction tokens generalizing position text with
  | nil => simp
  | cons token more ih =>
    obtain ⟨rfl, -, back, rfl, hmore⟩ := h
    intro found hfound
    rcases List.mem_cons.mp hfound with rfl | hfound
    · exact ⟨[], back, by simp, by simp⟩
    · obtain ⟨front, rest, rfl, hposition⟩ := ih hmore found hfound
      refine ⟨token.text ++ front, rest, by simp, ?_⟩
      rw [hposition, Text.byteSize_append, Token.finish, Nat.add_assoc]

end Partition

namespace Lexer

-- Every token takes a non-empty piece off the front of what is left.
theorem partition_runFrom (lexer : Lexer) (position : Nat) (cursor : Cursor) (stack : Stack) :
    Partition position cursor.rest (lexer.runFrom position cursor stack).tokens := by
  fun_induction runFrom lexer position cursor stack with
  | case1 position cursor stack gaveWay final hnext =>
    exact (turns_of_next_stopped hnext position).1
  | case2 position cursor stack gaveWay last kind count hnext text after later ih =>
    obtain ⟨hpos, hle⟩ := next_bounds hnext
    refine ⟨rfl, ?_, cursor.rest.drop count, (List.take_append_drop count cursor.rest).symm, ih⟩
    intro hnil
    have hlength := congrArg List.length hnil
    rw [List.length_take, List.length_nil] at hlength
    omega

theorem partition_lex (lexer : Lexer) (stack : Stack) (text : Text) :
    Partition 0 text (lexer.lex stack text).tokens :=
  lexer.partition_runFrom 0 (Cursor.start text) stack

theorem finish_le_of_mem_lex {lexer : Lexer} {stack : Stack} {text : Text} {token : Token}
    (h : token ∈ (lexer.lex stack text).tokens) : token.finish ≤ text.byteSize := by
  obtain ⟨front, back, htext, hposition⟩ := (lexer.partition_lex stack text).exists_slice token h
  have hsize := congrArg Text.byteSize htext
  rw [Text.byteSize_append, Text.byteSize_append] at hsize
  rw [Token.finish]
  omega

-- Lexing any text from any stack ends, and the tokens partition the text.
theorem tokens_partition (lexicon : Lexicon) (stack : Stack) (text : Text) :
    let lexer := lexicon.lexer
    let start : Site := ⟨0, Cursor.start text, stack⟩
    let run := lexer.lex stack text
    (∀ count site, Turns lexer count start site → count ≤ 3 * text.length + 2 * stack.depth) ∧
      (∃ count site, Turns lexer count start site ∧ AtRest lexer site ∧
        site.cursor.rest = [] ∧ site.stack = run.final) ∧
      (∀ token ∈ run.tokens, token.text ≠ []) ∧
      (∀ token ∈ run.tokens.head?, token.position = 0) ∧
      (run.tokens.IsChain fun token next => next.position = token.finish) ∧
      (∀ token ∈ run.tokens.getLast?, token.finish = text.byteSize) ∧
      (∀ token ∈ run.tokens, ∃ front back,
        text.splitAtByte? token.position = some (front, token.text ++ back) ∧
          text.splitAtByte? token.finish = some (front ++ token.text, back)) ∧
      run.tokens.flatMap Token.text = text ∧
      (run.tokens = [] ↔ text = []) := by
  intro lexer start run
  have hpartition : Partition 0 text run.tokens :=
    lexer.partition_runFrom 0 (Cursor.start text) stack
  have hflatMap := hpartition.flatMap_text
  refine ⟨?_, lexer.exists_turns_runFrom 0 (Cursor.start text) stack, hpartition.text_ne_nil,
    hpartition.position_head?, hpartition.isChain, ?_, ?_, hflatMap, ?_⟩
  · intro count site hturns
    have heffort := hturns.add_effort_le
    have hpatience := stack.patience_le_depth
    have hstart : start.effort = 3 * text.length + stack.patience := rfl
    omega
  · intro token htoken
    rw [hpartition.finish_getLast? token htoken, Nat.zero_add]
  · intro token htoken
    obtain ⟨front, back, htext, hposition⟩ := hpartition.exists_slice token htoken
    rw [Nat.zero_add] at hposition
    refine ⟨front, back, ?_, ?_⟩
    · rw [htext, hposition, List.append_assoc, Text.splitAtByte?_append]
    · rw [htext, Token.finish, hposition, ← Text.byteSize_append, Text.splitAtByte?_append]
  · constructor
    · intro hnil
      rw [← hflatMap, hnil, List.flatMap_nil]
    · intro hnil
      rw [hnil] at hpartition
      exact hpartition.eq_nil

end Lexer

end ScoreLexer
