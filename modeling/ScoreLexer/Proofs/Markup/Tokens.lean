import ScoreLexer.Proofs.Markup.Grammar
import ScoreLexer.Proofs.Pattern.Naming

namespace ScoreLexer

-- The name of a command is over: neither a letter follows nor a hyphen with a letter after it.
structure NameEnds (rest : Text) : Prop where
  letter : ∀ c ∈ rest.head?, Text.isAsciiLetter c = false
  hyphen : ∀ more, rest = '-' :: more → ∀ c ∈ more.head?, Text.isAsciiLetter c = false

theorem PartEnds.nameEnds {rest : Text} (h : PartEnds rest) : NameEnds rest := by
  refine ⟨h.not_head rfl, ?_⟩
  rintro more rfl
  obtain h | ⟨more, h⟩ := h <;> simp at h

theorem NameEnds.ends_group {rest : Text} (h : NameEnds rest) (before : Option Char) :
    (Pattern.seq (.word "-") Pattern.letters).ends ⟨before, rest⟩ = [] := by
  cases rest with
  | nil => rfl
  | cons c more =>
    by_cases hc : '-' = c
    · subst hc
      have hletter := h.hyphen more rfl
      cases more with
      | nil => rfl
      | cons d more =>
        have hd : Text.isAsciiLetter d = false := hletter d rfl
        simp [Pattern.ends, Pattern.word, Pattern.letters, Cursor.past?, Pattern.runEnds, hd]
    · simp [Pattern.ends, Pattern.word, Cursor.past?, hc]

section Groups

variable {first rest : Text} {more : List Text}

theorem longestName_first (h : ∀ group ∈ first :: more, IsName group) (hrest : NameEnds rest) :
    LongestName first (more.flatMap ('-' :: ·) ++ rest) := by
  obtain ⟨hne, hletters⟩ := h first List.mem_cons_self
  refine ⟨hne, hletters, ?_⟩
  cases more with
  | nil => exact hrest.letter
  | cons group more =>
    rintro c ⟨⟩
    rfl

theorem takes_groups (h : ∀ group ∈ first :: more, IsName group) (hrest : NameEnds rest)
    (before : Option Char) :
    (Pattern.seq (.word "\\") (.seq Pattern.letters
      (.many (.seq (.word "-") Pattern.letters)))).Takes before
      ('\\' :: spaced '-' (first :: more)) rest := by
  have hgroup : ∀ piece ∈ more.map ('-' :: ·), ∀ before rest,
      (∀ c ∈ rest.head?, Text.isAsciiLetter c = false) →
      (Pattern.seq (.word "-") Pattern.letters).Takes before piece rest := by
    intro piece hpiece before rest hrest
    obtain ⟨group, hmem, rfl⟩ := List.mem_map.mp hpiece
    obtain ⟨hne, hletters⟩ := h group (List.mem_cons_of_mem _ hmem)
    exact (Pattern.Takes.word "-").seq (.run hne hletters hrest)
  have hmore : (Pattern.many (.seq (.word "-") Pattern.letters)).Takes
      (first.getLast?.or (some '\\')) (more.map ('-' :: ·)).flatten rest := by
    refine .many ?_ hgroup ?_ hrest.letter hrest.ends_group
    · rintro piece hpiece rfl
      simp at hpiece
    · intro piece hpiece rest
      obtain ⟨group, -, rfl⟩ := List.mem_map.mp hpiece
      rintro c ⟨⟩
      rfl
  have hname := longestName_first h hrest
  have hfirst : Pattern.letters.Takes (some '\\') first
      ((more.map ('-' :: ·)).flatten ++ rest) :=
    .run hname.ne_nil hname.isLetters hname.stops
  rw [spaced_cons]
  exact (Pattern.Takes.word "\\").seq (hfirst.seq hmore)

end Groups

namespace CommandName

theorem commandName_eq (name : CommandName) :
    Step.commandName ('\\' :: name.text) = String.ofList name.text := by
  obtain ⟨c, first, hfirst⟩ := List.exists_cons_of_ne_nil name.first_ne_nil
  have hc : (c == '\\') = false := by
    have hletter := name.isLetter_first c (hfirst ▸ List.mem_cons_self)
    cases heq : c == '\\' with
    | false => rfl
    | true =>
      rw [eq_of_beq heq] at hletter
      exact absurd hletter (by decide)
  rw [Step.commandName, name.text_eq, hfirst, List.dropWhile_cons_of_pos rfl, List.cons_append,
    List.dropWhile_cons_of_neg (by simp [hc])]

end CommandName

namespace Lexer

variable {lexer : Lexer} {rest : Text}

theorem first?_markupWord (word : MarkupWord) (hrest : PartEnds rest) (before : Option Char) :
    lexer.first? .markup ⟨before, word.text ++ rest⟩ = some (.markupWord, word.text.length) := by
  have hstop : ∀ c ∈ rest.head?, isMarkupChar c = false := hrest.not_head rfl
  apply firstOf?_of_match? (by decide)
  · obtain ⟨c, more, htext⟩ := List.exists_cons_of_ne_nil word.text_ne_nil
    have hc := List.all_eq_true.mp word.isMarkupChar_text c (htext ▸ List.mem_cons_self)
    simp only [isMarkupChar, List.contains_cons, List.contains_nil, Bool.or_false,
      Bool.and_eq_true, Bool.not_eq_true', Bool.or_eq_false_iff, beq_eq_false_iff_ne] at hc
    obtain ⟨-, hopen, hclose, -, hescape, -⟩ := hc
    rw [htext]
    apply firstOf?_eq_none
    simp [Context.candidates, Kind.opens, Kind.recognizer?, Recognizer.symbol, Recognizer.plain,
      Recognizer.named, Pattern.anyCommand, Pattern.opens, Pattern.word, Pattern.consumes,
      hopen.symm, hclose.symm, hescape.symm]
  · exact Recognizer.match?_run_append word.text_ne_nil word.isMarkupChar_text hstop rfl before

theorem first?_openBracketMarkup (before : Option Char) (rest : Text) :
    lexer.first? .markup ⟨before, ['{'] ++ rest⟩ = some (.openBracketMarkup, 1) :=
  first?_of_ends (by decide) rfl rfl rfl (by decide) rfl rfl

theorem first?_closeBracketMarkup (before : Option Char) (rest : Text) :
    lexer.first? .markup ⟨before, ['}'] ++ rest⟩ = some (.closeBracketMarkup, 1) :=
  first?_of_ends (by decide) rfl rfl rfl (by decide) rfl rfl

theorem first?_markup_quote (before : Option Char) (rest : Text) :
    lexer.first? .markup ⟨before, ['"'] ++ rest⟩ = some (.stringQuotedStart, 1) :=
  first?_of_ends (by decide) rfl rfl rfl (by decide) rfl rfl

-- The command for scores ends at the edge of a word, so it is not found in longer names.
theorem match?_markupScore_eq_none {name : Text} (hname : LongestName name rest)
    (hne : name ≠ "score".toList) (before : Option Char) :
    lexer.match? .markupScore ⟨before, '\\' :: (name ++ rest)⟩ = none := by
  rw [match?_eq rfl]
  apply Recognizer.match?_of_ends_nil
  exact Pattern.ends_anyCommand_eq_nil (by decide) hname (by simpa using hne) before

theorem match?_markupCommand {first : Text} {more : List Text}
    (h : ∀ group ∈ first :: more, IsName group) (hrest : NameEnds rest) (before : Option Char) :
    lexer.match? .markupCommand ⟨before, ('\\' :: spaced '-' (first :: more)) ++ rest⟩ =
      some ('\\' :: spaced '-' (first :: more)).length := by
  rw [match?_eq rfl]
  exact Recognizer.match?_of_takes rfl (List.cons_ne_nil _ _) (takes_groups h hrest before)
    (Guard.allows_notLetter_iff.mpr hrest.letter)

theorem first?_markup_of_command {cursor : Cursor} {count : Nat}
    (hscore : lexer.match? .markupScore cursor = none)
    (hmatch : lexer.match? .markupCommand cursor = some count) :
    lexer.first? .markup cursor = some (.markupCommand, count) := by
  have hbefore : Context.markup.candidates.takeWhile (· != .markupCommand) = [.markupScore] := rfl
  refine firstOf?_of_match? (by decide) ?_ hmatch
  rw [hbefore, firstOf?, List.findSome?_cons, hscore]
  rfl

theorem first?_markupCommand (name : CommandName) (hrest : NameEnds rest) (before : Option Char) :
    lexer.first? .markup ⟨before, ('\\' :: name.text) ++ rest⟩ =
      some (.markupCommand, ('\\' :: name.text).length) := by
  refine first?_markup_of_command ?_ (match?_markupCommand name.isLetters hrest before)
  have hname : LongestName name.first ((name.more.map ('-' :: ·)).flatten ++ rest) :=
    longestName_first name.isLetters hrest
  rw [name.text_eq, List.cons_append, List.append_assoc]
  exact match?_markupScore_eq_none hname name.first_ne_score before

theorem transition_markupCommand (lexer : Lexer) (name : CommandName) (stack : Stack) :
    Kind.markupCommand.transition lexer.markupArity ('\\' :: name.text) stack =
      if lexer.markupArity (String.ofList name.text) == 0 then stack.endArgument
      else stack.enter (Step.markupFrame (lexer.markupArity (String.ofList name.text))) := by
  rw [← name.commandName_eq]
  rfl

theorem first?_toplevel_markup (rest : Text) (before : Option Char) :
    lexer.first? .toplevel ⟨before, "\\markup".toList ++ (' ' :: rest)⟩ = some (.markup, 7) :=
  first?_of_ends (by decide) rfl rfl rfl (by decide) rfl rfl

end Lexer

end ScoreLexer
