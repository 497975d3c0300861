import Mathlib.Data.List.Infix
import ScoreLexer.Proofs.Lexer.Enclosure
import ScoreLexer.Proofs.Lexer.Reading
import ScoreLexer.Proofs.Pattern.Taking

namespace ScoreLexer

open Text

namespace Text

theorem dropInfix?_go_eq (mark text front : Text) :
    List.dropInfix?.go mark text front =
      (List.dropInfix?.go mark text []).map (prepend front.reverse) := by
  induction text generalizing front with
  | nil =>
    rw [List.dropInfix?.go, List.dropInfix?.go]
    split <;> simp [prepend]
  | cons c text ih =>
    rw [List.dropInfix?.go, List.dropInfix?.go]
    split
    · rw [ih (c :: front), ih [c], map_prepend_prepend, List.reverse_cons]
      rfl
    · simp [prepend]

theorem dropInfix?_cons {mark : Text} {c : Char} {text : Text} (h : ¬mark <+: c :: text) :
    (c :: text).dropInfix? mark = (text.dropInfix? mark).map (prepend [c]) := by
  have hnone : (c :: text).dropPrefix? mark = none := by
    rw [Option.eq_none_iff_forall_ne_some]
    intro rest hrest
    obtain ⟨front, hfront, hmark⟩ := List.dropPrefix?_eq_some_iff.mp hrest
    rw [eq_of_beq hmark] at hfront
    exact h ⟨rest, hfront.symm⟩
  rw [List.dropInfix?, List.dropInfix?.go, hnone]
  exact dropInfix?_go_eq mark text [c]

theorem dropInfix?_append_left (mark rest : Text) :
    (mark ++ rest).dropInfix? mark = some ([], rest) := by
  rw [List.dropInfix?_eq_some_iff]
  exact ⟨⟨mark, rfl, beq_self_eq_true mark⟩, fun _ _ _ _ _ => Nat.zero_le _⟩

def commentEnd : Text := ['%', '\x7d']

-- The mark does not overlap itself, so one after a text without marks is the first.
theorem dropInfix?_commentEnd {body : Text} (h : ¬commentEnd <:+: body) (rest : Text) :
    (body ++ (commentEnd ++ rest)).dropInfix? commentEnd = some (body, rest) := by
  induction body with
  | nil => exact dropInfix?_append_left commentEnd rest
  | cons c body ih =>
    have hbody : ¬commentEnd <:+: body :=
      fun hoccurs => h (hoccurs.trans (List.suffix_cons c body).isInfix)
    have hprefix : ¬commentEnd <+: c :: (body ++ (commentEnd ++ rest)) := by
      rintro ⟨later, hlater⟩
      obtain ⟨rfl, htail⟩ := List.cons.inj hlater
      cases body with
      | nil => simp [commentEnd] at htail
      | cons d body =>
        obtain ⟨rfl, -⟩ := List.cons.inj htail
        exact h ⟨[], body, rfl⟩
    rw [List.cons_append, dropInfix?_cons hprefix, ih hbody]
    rfl

theorem dropInfix?_of_all_isBlank {blanks : Text} (h : blanks.all isBlank = true) (rest : Text) :
    (blanks ++ rest).dropInfix? commentEnd =
      (rest.dropInfix? commentEnd).map (prepend blanks) := by
  induction blanks with
  | nil => exact (map_prepend_nil _).symm
  | cons c blanks ih =>
    obtain ⟨hc, hblanks⟩ := Bool.and_eq_true_iff.mp h
    have hprefix : ¬commentEnd <+: c :: (blanks ++ rest) := by
      rintro ⟨later, hlater⟩
      obtain ⟨rfl, -⟩ := List.cons.inj hlater
      exact absurd hc (by decide)
    rw [List.cons_append, dropInfix?_cons hprefix, ih hblanks, map_prepend_prepend]
    rfl

end Text

namespace Lexer

variable {lexer : Lexer}

theorem first?_commentEnd (before : Option Char) (rest : Text) :
    lexer.first? .blockComment ⟨before, commentEnd ++ rest⟩ = some (.blockCommentEnd, 2) :=
  first?_of_ends (by decide) rfl rfl rfl (by decide) rfl rfl

theorem first?_comment_blanks {blanks rest : Text} (hne : blanks ≠ [])
    (hblanks : blanks.all isBlank = true) (hrest : ∀ c ∈ rest.head?, isBlank c = false)
    (before : Option Char) :
    lexer.first? .blockComment ⟨before, blanks ++ rest⟩ =
      some (.blockCommentSpace, blanks.length) := by
  apply firstOf?_of_match? (by decide) rfl
  exact Recognizer.match?_run_append hne hblanks hrest rfl before

theorem first?_comment_text {c : Char} {rest : Text} (hc : isBlank c = false)
    (hmark : ¬commentEnd <+: c :: rest) (before : Option Char) :
    lexer.first? .blockComment ⟨before, c :: rest⟩ = none := by
  have hspace : lexer.match? .blockCommentSpace ⟨before, c :: rest⟩ = none := by
    rw [match?_eq rfl]
    apply Recognizer.match?_eq_none
    exact hc
  have hclose : lexer.match? .blockCommentEnd ⟨before, c :: rest⟩ = none := by
    apply Recognizer.match?_of_ends_nil
    refine List.filterMap_eq_nil_iff.mpr fun word hword => ?_
    obtain rfl := List.mem_singleton.mp hword
    rw [Option.eq_none_iff_forall_ne_some]
    intro last hlast
    exact hmark ⟨last.rest, (Cursor.prefix_of_past? hlast).symm⟩
  simp [first?, firstOf?, Context.candidates, hspace, hclose]

end Lexer

namespace Enclosure

def comment : Enclosure :=
  ⟨.blockComment, .blockCommentEnd, commentEnd, fun text => text.dropInfix? commentEnd⟩

theorem comment_finds (lexer : Lexer) (before : Option Char) (text : Text) :
    comment.Finds lexer before text := by
  cases text with
  | nil => exact .nothing rfl
  | cons c rest =>
    cases hc : isBlank c with
    | true =>
      have hblanks : ((c :: rest).takeWhile isBlank).all isBlank = true := List.all_takeWhile
      have hne : (c :: rest).takeWhile isBlank ≠ [] := by simp [hc]
      rw [← List.takeWhile_append_dropWhile (p := isBlank) (l := c :: rest)]
      exact .piece .blockCommentSpace _ _ (by decide) rfl
        (Lexer.first?_comment_blanks hne hblanks (stops_dropWhile isBlank _) before)
        (dropInfix?_of_all_isBlank hblanks _)
    | false =>
      by_cases hmark : commentEnd <+: c :: rest
      · obtain ⟨later, hlater⟩ := hmark
        rw [← hlater]
        exact .mark later (Lexer.first?_commentEnd before later) (dropInfix?_append_left _ _)
      · exact .unclaimed c rest (Lexer.first?_comment_text hc hmark before) (dropInfix?_cons hmark)

theorem comment_guides (lexer : Lexer) : comment.Guides lexer where
  stays := rfl
  default_mem := by decide
  apart _ := ⟨rfl, rfl, rfl⟩
  finds := comment_finds lexer

end Enclosure

theorem Partition.position_lt {position : Nat} {text : Text} {tokens : List Token}
    (h : Partition position text tokens) :
    ∀ token ∈ tokens, token.position < position + text.byteSize := by
  intro token htoken
  obtain ⟨front, back, rfl, hposition⟩ := h.exists_slice token htoken
  have hsize := byteSize_pos (h.text_ne_nil token htoken)
  rw [byteSize_append, byteSize_append]
  omega

def Run.tokensBehind (offset : Nat) (run : Run) : List Token :=
  run.tokens.filter fun token => offset ≤ token.position

theorem Lexer.lex_behind_comment (lexer : Lexer) (stack : Stack) {body : Text}
    (hbody : ¬commentEnd <:+: body) (rest : Text) :
    let run := lexer.lex (stack.enter (Frame.fresh .blockComment)) (body ++ (commentEnd ++ rest))
    let size := byteSize (body ++ commentEnd)
    run.tokensBehind size = (lexer.lex stack rest).tokens.map (Token.shift size) ∧
      run.final = (lexer.lex stack rest).final := by
  intro run size
  have hafter : Kind.blockCommentEnd.transition lexer.markupArity commentEnd
      (stack.enter (Frame.fresh .blockComment)) = stack := rfl
  obtain ⟨former, -, hrun⟩ := (Enclosure.comment_guides lexer).lex_cases
    (stack.enter (Frame.fresh .blockComment)) rfl (body ++ (commentEnd ++ rest))
  simp only [Enclosure.comment, dropInfix?_commentEnd hbody, hafter] at hrun
  obtain ⟨-, hpartition, hrun⟩ := hrun
  have hsize : size = byteSize body + 2 := byteSize_append body commentEnd
  have hformer : (former.map Emission.token).filter (fun token => size ≤ token.position) = [] := by
    rw [List.filter_eq_nil_iff]
    intro token htoken
    have hlt := hpartition.position_lt token htoken
    simp only [decide_eq_true_eq]
    omega
  have hlatter (tokens : List Token) :
      (tokens.map (Token.shift size)).filter (fun token => size ≤ token.position) =
        tokens.map (Token.shift size) := by
    rw [List.filter_eq_self, List.forall_mem_map]
    intro token _
    exact decide_eq_true (Nat.le_add_left size token.position)
  have htokens := congrArg Run.tokens hrun
  have hfinal := congrArg Run.final hrun
  rw [Run.tokens_precededBy, Run.tokens_shift, List.map_append] at htokens
  refine ⟨?_, hfinal⟩
  rw [Run.tokensBehind, htokens, List.filter_append, List.filter_append,
    hformer, hlatter, List.map_singleton, List.filter_cons_of_neg (by simp [hsize])]
  rfl

-- A block comment ends at the first closing mark. Up to it there is nothing but the text of the
-- comment and blanks, and the stack after it is the one below the comment. Without a mark the
-- comment stays open. So what stands in a comment has no influence on the tokens and the stack
-- after it.
theorem lex_blockComment (lexicon : Lexicon) (stack : Stack) :
    let inside := stack.enter (Frame.fresh .blockComment)
    (∀ text : Text,
      let run := lexicon.lexer.lex inside text
      match text.dropInfix? commentEnd with
      | some (body, rest) =>
          text = body ++ (commentEnd ++ rest) ∧
            ∃ former closing latter, run.emissions = former ++ closing :: latter ∧
              (∀ token ∈ former.map Emission.token,
                token.kind ∈ [.comment, .blockCommentSpace]) ∧
              Partition 0 body (former.map Emission.token) ∧
              closing.token = ⟨.blockCommentEnd, commentEnd, byteSize body⟩ ∧
              closing.after = stack
      | none =>
          (∀ token ∈ run.tokens, token.kind ∈ [.comment, .blockCommentSpace]) ∧
            run.final = inside) ∧
      ∀ first second rest : Text, ¬commentEnd <:+: first → ¬commentEnd <:+: second →
        let run := fun body : Text => lexicon.lexer.lex inside (body ++ (commentEnd ++ rest))
        let size := fun body : Text => byteSize (body ++ commentEnd)
        (∃ tokens : List Token,
          (run first).tokensBehind (size first) = tokens.map (Token.shift (size first)) ∧
            (run second).tokensBehind (size second) = tokens.map (Token.shift (size second))) ∧
          (run first).final = (run second).final := by
  intro inside
  refine ⟨fun text => ?_, fun first second rest hfirst hsecond => ?_⟩
  · exact (Enclosure.comment_guides lexicon.lexer).lex_emissions inside rfl text
  · obtain ⟨htokens, hfinal⟩ := lexicon.lexer.lex_behind_comment stack hfirst rest
    obtain ⟨htokens', hfinal'⟩ := lexicon.lexer.lex_behind_comment stack hsecond rest
    exact ⟨⟨_, htokens, htokens'⟩, hfinal.trans hfinal'.symm⟩

-- The opening mark and a quote inside the first comment open nothing.
theorem lex_blockComment_open_mark :
    let inside := Stack.toplevel.enter (Frame.fresh .blockComment)
    let run := fun body : Text => Lexer.builtin.lex inside (body ++ (commentEnd ++ " c4".toList))
    ¬commentEnd <:+: "%\x7b \"%".toList ∧ ¬commentEnd <:+: "a".toList ∧
      (run "%\x7b \"%".toList).final = (run "a".toList).final :=
  ⟨by decide, by decide,
    ((lex_blockComment Lexicon.builtin Stack.toplevel).2 _ _ _ (by decide) (by decide)).2⟩

end ScoreLexer
