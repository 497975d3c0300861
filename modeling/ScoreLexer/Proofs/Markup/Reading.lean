import Mathlib.Data.List.Forall2
import ScoreLexer.Proofs.Markup.Tokens

namespace ScoreLexer

def IsMarkup (lexer : Lexer) (text : Text) (kinds : List Kind) : Prop :=
  ∀ stack : Stack, stack.top.context = .markup → Argument lexer PartEnds stack text kinds

section

variable {lexer : Lexer}

theorem isMarkup_word (word : MarkupWord) : IsMarkup lexer word.text [.markupWord] := by
  intro stack htop
  constructor
  · obtain ⟨c, more, htext⟩ := List.exists_cons_of_ne_nil word.text_ne_nil
    have hc := List.all_eq_true.mp word.isMarkupChar_text c (htext ▸ List.mem_cons_self)
    rw [htext]
    exact (Bool.and_eq_true_iff.mp hc).1
  · intro rest hrest
    exact Concludes.claimed (fun before => by
      rw [htop]
      exact Lexer.first?_markupWord word hrest before) rfl

theorem isMarkup_quotation (quotation : Quotation) :
    IsMarkup lexer quotation.text quotation.kinds := by
  intro stack htop
  refine ⟨rfl, fun rest _ => concludes_quotation ?_ quotation rest⟩
  rw [htop]
  exact Lexer.first?_markup_quote

theorem isMarkup_list {texts : List Text} {kinds : List (List Kind)}
    (h : List.Forall₂ (IsMarkup lexer) texts kinds) :
    IsMarkup lexer (enclosed ' ' ['{'] texts ['}'])
      (enclosed .space [.openBracketMarkup] kinds [.closeBracketMarkup]) := by
  intro stack htop
  rw [enclosed_eq, enclosed_eq]
  refine ⟨rfl, ?_⟩
  intro rest _
  let inner := stack.enter (Frame.fresh .markup)
  have hopening : ∀ rest, Reads lexer stack (· = stack) ['{'] rest [.openBracketMarkup]
      (· = inner) := by
    intro rest
    refine Reads.claimed ?_ rfl (stack.frames_prefix_enter _)
    rw [htop]
    exact fun before => Lexer.first?_openBracketMarkup before rest
  have hitems : Reads lexer inner (· = inner) (texts.flatMap (' ' :: ·)) ([' '] ++ ['}'] ++ rest)
      (kinds.flatMap (.space :: ·)) (· = inner) :=
    reads_arguments rfl rfl (fun rest => .inr ⟨rest, rfl⟩) (h.imp fun _ _ hitem => hitem inner rfl)
      (.inr ⟨_, rfl⟩)
  have hspace : Reads lexer inner (· = inner) [' '] (['}'] ++ rest) [.space] (· = inner) :=
    reads_space_before rfl rfl
  have hclosing : Concludes lexer stack (· = inner) ['}'] rest [.closeBracketMarkup]
      stack.endArgument :=
    Concludes.claimed (fun before => Lexer.first?_closeBracketMarkup before rest) rfl
  have hinner := stack.frames_prefix_enter (Frame.fresh .markup)
  exact (hopening _).concludes ((hitems.lower hinner).concludes
    ((hspace.lower hinner).concludes hclosing))

-- A command counts its arguments down, and the last one ends the command together with an argument
-- of the frame below.
theorem concludes_arguments {texts : List Text} {kinds : List (List Kind)}
    (h : List.Forall₂ (IsMarkup lexer) texts kinds) {count : Nat}
    (hcount : texts.length = count + 1) (stack : Stack) {rest : Text} (hrest : PartEnds rest) :
    Concludes lexer stack (· = stack.enter ⟨.markup, count + 1⟩) (texts.flatMap (' ' :: ·)) rest
      (kinds.flatMap (.space :: ·)) stack.endArgument := by
  induction h generalizing count with
  | nil => simp at hcount
  | @cons text kinds texts more hmarkup htexts ih =>
    have hargument := hmarkup (stack.enter ⟨.markup, count + 1⟩) rfl
    have hbase := stack.frames_prefix_enter ⟨.markup, count + 1⟩
    have hhead : ((text ++ texts.flatMap (' ' :: ·)) ++ rest).head?.any
        (fun c => !Text.isBlank c) = true :=
      Text.head?_append_any (Text.head?_append_any hargument.head _) rest
    have hspace : Reads lexer (stack.enter ⟨.markup, count + 1⟩)
        (· = stack.enter ⟨.markup, count + 1⟩) [' ']
        ((text ++ texts.flatMap (' ' :: ·)) ++ rest) [.space]
        (· = stack.enter ⟨.markup, count + 1⟩) :=
      reads_space_before rfl hhead
    rw [List.flatMap_cons, List.flatMap_cons]
    refine (hspace.lower hbase).concludes ?_
    cases count with
    | zero =>
      -- the last argument
      obtain rfl : texts = [] := List.length_eq_zero_iff.mp (Nat.succ.inj hcount)
      obtain rfl := List.forall₂_nil_left_iff.mp htexts
      have hlast := (hargument.concludes rest hrest).lower hbase
      rw [stack.endArgument_enter_last] at hlast
      simpa using hlast
    | succ count =>
      have hlength : texts.length = count + 1 := Nat.succ.inj hcount
      have hread := (hargument.concludes _ (partEnds_append texts hrest)).lower hbase
      rw [stack.endArgument_enter_more] at hread
      exact (hread.reads (stack.frames_prefix_enter _)).concludes (ih hlength)

theorem isMarkup_command (name : CommandName) {texts : List Text} {kinds : List (List Kind)}
    (h : List.Forall₂ (IsMarkup lexer) texts kinds)
    (hlength : texts.length = (lexer.markupArity (String.ofList name.text)).toNat) :
    IsMarkup lexer (spaced ' ' (('\\' :: name.text) :: texts))
      (spaced .space ([.markupCommand] :: kinds)) := by
  intro stack htop
  rw [spaced_cons, spaced_cons]
  refine ⟨rfl, ?_⟩
  intro rest hrest
  have hfirst : ∀ rest, PartEnds rest → ∀ before,
      lexer.first? stack.top.context ⟨before, ('\\' :: name.text) ++ rest⟩ =
        some (.markupCommand, ('\\' :: name.text).length) := by
    rw [htop]
    exact fun rest hrest => Lexer.first?_markupCommand name hrest.nameEnds
  have htransition := lexer.transition_markupCommand name stack
  cases hcount : texts.length with
  | zero =>
    -- the name alone is the argument
    obtain rfl := List.length_eq_zero_iff.mp hcount
    obtain rfl := List.forall₂_nil_left_iff.mp h
    have hzero : lexer.markupArity (String.ofList name.text) = 0 :=
      UInt8.toNat_inj.mp (hlength.symm.trans hcount)
    rw [hzero] at htransition
    simpa using Concludes.claimed (hfirst rest hrest) htransition
  | succ count =>
    have hcount' : (lexer.markupArity (String.ofList name.text)).toNat = count + 1 :=
      hlength.symm.trans hcount
    have hne : (lexer.markupArity (String.ofList name.text) == 0) = false := by
      rw [beq_eq_false_iff_ne]
      intro hzero
      rw [hzero] at hcount'
      exact absurd hcount' (Nat.succ_ne_zero count).symm
    rw [hne, if_neg Bool.false_ne_true, Step.markupFrame, hcount'] at htransition
    have hname : Reads lexer stack (· = stack) ('\\' :: name.text)
        (texts.flatMap (' ' :: ·) ++ rest) [.markupCommand]
        (· = stack.enter ⟨.markup, count + 1⟩) :=
      Reads.claimed (hfirst _ (partEnds_append texts hrest)) htransition
        (stack.frames_prefix_enter _)
    exact hname.concludes (concludes_arguments h hcount stack hrest)

end

mutual

theorem isMarkup_markup (lexer : Lexer) :
    ∀ markup : Markup lexer.markupArity, IsMarkup lexer markup.text markup.kinds
  | .word word => by
      rw [Markup.text, Markup.kinds]
      exact isMarkup_word word
  | .quotation quotation => by
      rw [Markup.text, Markup.kinds]
      exact isMarkup_quotation quotation
  | .list items => by
      rw [Markup.text, Markup.kinds]
      exact isMarkup_list (isMarkup_markups lexer items)
  | .command name arguments => by
      rw [Markup.text, Markup.kinds]
      exact isMarkup_command name (isMarkup_markups lexer arguments) arguments.length_texts

theorem isMarkup_markups (lexer : Lexer) {count : Nat} :
    ∀ markups : Markups lexer.markupArity count,
      List.Forall₂ (IsMarkup lexer) markups.texts markups.kindsOf
  | .nil => by
      rw [Markups.texts, Markups.kindsOf]
      exact .nil
  | .cons first more => by
      rw [Markups.texts, Markups.kindsOf]
      exact .cons (isMarkup_markup lexer first) (isMarkup_markups lexer more)

end

theorem concludes_toplevel_markup {lexer : Lexer} {text : Text} {kinds : List Kind}
    (h : IsMarkup lexer text kinds) :
    Concludes lexer (Stack.toplevel.enter ⟨.markup, 1⟩) (· = Stack.toplevel)
      ("\\markup ".toList ++ text) [] ([.markup, .space] ++ kinds) Stack.toplevel := by
  have hargument := h (Stack.toplevel.enter ⟨.markup, 1⟩) rfl
  have hhead : (text ++ []).head?.any (fun c => !Text.isBlank c) = true :=
    Text.head?_append_any hargument.head []
  have hkeyword : Reads lexer (Stack.toplevel.enter ⟨.markup, 1⟩) (· = Stack.toplevel)
      "\\markup".toList ([' '] ++ (text ++ [])) [.markup]
      (· = Stack.toplevel.enter ⟨.markup, 1⟩) :=
    Reads.claimed (Lexer.first?_toplevel_markup _) rfl List.prefix_rfl
  have hspace : Reads lexer (Stack.toplevel.enter ⟨.markup, 1⟩)
      (· = Stack.toplevel.enter ⟨.markup, 1⟩) [' '] (text ++ []) [.space]
      (· = Stack.toplevel.enter ⟨.markup, 1⟩) :=
    reads_space_before rfl hhead
  exact (hkeyword.append hspace).concludes (hargument.concludes [] (.inl rfl))

-- A piece of markup is one argument of the markup around it. Up to its last token all frames stay
-- where they are, and its last token ends an argument. So the markup after its command leads back
-- to the toplevel with its last token, and not before.
theorem lex_markup_ends_argument (lexicon : Lexicon) (markup : Markup lexicon.markupArity) :
    (∀ stack : Stack, stack.top.context = .markup →
      let run := lexicon.lexer.lex stack markup.text
      ∃ emissions last, run.emissions = emissions ++ [last] ∧ last.after = stack.endArgument ∧
        (∀ emission ∈ emissions, stack.frames <+: emission.after.frames) ∧
        run.tokens.map Token.kind = markup.kinds) ∧
      let run := lexicon.lexer.lex Stack.toplevel ("\\markup ".toList ++ markup.text)
      run.final = Stack.toplevel ∧
        ∃ emissions last, run.emissions = emissions ++ [last] ∧ last.after = Stack.toplevel ∧
          ∀ emission ∈ emissions, emission.after ≠ Stack.toplevel := by
  have hmarkup : IsMarkup lexicon.lexer markup.text markup.kinds :=
    isMarkup_markup lexicon.lexer markup
  constructor
  · intro stack htop run
    obtain ⟨emissions, last, hemissions, hlast, hframes, hkinds, -⟩ :=
      ((hmarkup stack htop).concludes [] (.inl rfl)).lex
    exact ⟨emissions, last, hemissions, hlast, hframes, hkinds⟩
  · intro run
    obtain ⟨emissions, last, hemissions, hlast, hframes, -, hfinal⟩ :=
      (concludes_toplevel_markup hmarkup).lex
    refine ⟨hfinal rfl, emissions, last, hemissions, hlast, ?_⟩
    intro emission hemission htoplevel
    have hlength := (hframes emission hemission).length_le
    rw [htoplevel] at hlength
    exact absurd hlength (by decide)

-- A command of two arguments inside one that waits for three.
theorem lex_markup_ends_argument_with_color :
    let lexicon : Lexicon := ⟨fun _ => [], fun _ => 2⟩
    let name : CommandName := ⟨"with".toList, ["color".toList], by decide, by decide, by decide⟩
    let markup : Markup lexicon.markupArity :=
      .command name (.cons (.quotation ⟨"a b".toList, by decide⟩)
        (.cons (.list (.cons (.word ⟨"c".toList, by decide, by decide⟩) .nil)) .nil))
    let stack := Stack.toplevel.enter ⟨.markup, 3⟩
    markup.text = "\\with-color \"a b\" \x7b c \x7d".toList ∧ stack.top.context = .markup ∧
      ∃ emissions last, (lexicon.lexer.lex stack markup.text).emissions = emissions ++ [last] ∧
        last.after = Stack.toplevel.enter ⟨.markup, 2⟩ ∧
        ∀ emission ∈ emissions, stack.frames <+: emission.after.frames := by
  intro lexicon name markup stack
  obtain ⟨emissions, last, hemissions, hlast, hframes, -⟩ :=
    (lex_markup_ends_argument lexicon markup).1 stack rfl
  exact ⟨by decide, rfl, emissions, last, hemissions, hlast, hframes⟩

end ScoreLexer
