import ScoreLexer.Proofs.Lexer.Run
import ScoreLexer.Proofs.Lexer.Stages
import ScoreLexer.Proofs.Stack.Bases

namespace ScoreLexer

open Stack

def Outcome.stages : Outcome → List Stack
  | .stopped gaveWay stack => gaveWay ++ [stack]
  | .emitted gaveWay stack _ _ => gaveWay ++ [stack]

@[simp] theorem Outcome.stages_precededBy (earlier : Stack) (outcome : Outcome) :
    (outcome.precededBy earlier).stages = earlier :: outcome.stages := by
  cases outcome <;> rfl

inductive Outcome.SameAbove (base other : Stack) : Outcome → Outcome → Prop where
  | stopped {gaveWay gaveWay' : List Stack} {stack stack' : Stack}
      (hstack : Stack.SameAbove base other stack stack') :
      Outcome.SameAbove base other (.stopped gaveWay stack) (.stopped gaveWay' stack')
  | emitted {gaveWay gaveWay' : List Stack} {stack stack' : Stack} {kind : Kind} {count : Nat}
      (hstack : Stack.SameAbove base other stack stack') :
      Outcome.SameAbove base other (.emitted gaveWay stack kind count)
        (.emitted gaveWay' stack' kind count)

theorem Outcome.SameAbove.precededBy {base other : Stack} {outcome outcome' : Outcome}
    (h : Outcome.SameAbove base other outcome outcome') (earlier earlier' : Stack) :
    Outcome.SameAbove base other (outcome.precededBy earlier) (outcome'.precededBy earlier') := by
  cases h with
  | stopped hstack => exact .stopped hstack
  | emitted hstack => exact .emitted hstack

namespace Lexer

theorem mem_stages_next (lexer : Lexer) (cursor : Cursor) (stack : Stack) :
    stack ∈ (lexer.next cursor stack).stages := by
  cases hfirst : lexer.first? stack.top.context cursor with
  | some found => simp [next_of_claimed hfirst, Outcome.stages]
  | none =>
    cases hlower : stack.giveWay? with
    | some lower => simp [next_of_gaveWay hfirst hlower]
    | none =>
      cases hrest : cursor.rest with
      | nil => simp [next_of_nil hfirst hlower hrest, Outcome.stages]
      | cons c rest => simp [next_of_unclaimed hfirst hlower hrest, Outcome.stages]

theorem next_sameAbove {lexer : Lexer} {base other first second : Stack} {cursor : Cursor}
    (h : Stack.SameAbove base other first second)
    (hdepth : ∀ stage ∈ (lexer.next cursor first).stages, base.depth < stage.depth) :
    Outcome.SameAbove base other (lexer.next cursor first) (lexer.next cursor second) := by
  fun_induction next lexer cursor first generalizing second with
  | case1 first kind count hfirst =>
    rw [next_of_claimed (h.top_eq ▸ hfirst)]
    exact .emitted h
  | case2 first hfirst lower hlower ih =>
    rw [Outcome.stages_precededBy] at hdepth
    have hlater := (List.forall_mem_cons.mp hdepth).2
    obtain ⟨lower', hlower', hbelow⟩ :=
      h.giveWay_some hlower (hlater lower (lexer.mem_stages_next cursor lower))
    rw [next_of_gaveWay (h.top_eq ▸ hfirst) hlower']
    exact (ih hbelow hlater).precededBy first second
  | case3 first hfirst hstays hrest =>
    rw [next_of_nil (h.top_eq ▸ hfirst) (h.giveWay_none hstays) hrest]
    exact .stopped h
  | case4 first hfirst hstays c rest hrest =>
    rw [next_of_unclaimed (h.top_eq ▸ hfirst) (h.giveWay_none hstays) hrest, h.top_eq]
    exact .emitted h

theorem runFrom_sameAbove {lexer : Lexer} {base other first second : Stack} {position : Nat}
    {cursor : Cursor} (h : Stack.SameAbove base other first second)
    (hdepth : ∀ stage ∈ (lexer.runFrom position cursor first).stages lexer.markupArity,
      base.depth < stage.depth) :
    (lexer.runFrom position cursor second).tokens =
        (lexer.runFrom position cursor first).tokens ∧
      Stack.SameAbove base other (lexer.runFrom position cursor first).final
        (lexer.runFrom position cursor second).final := by
  fun_induction runFrom lexer position cursor first generalizing second with
  | case1 position cursor first gaveWay final hnext =>
    have houtcome : ∀ stage ∈ (lexer.next cursor first).stages, base.depth < stage.depth := by
      rw [hnext]
      simpa [Run.stages, Outcome.stages] using hdepth
    have hsame := next_sameAbove h houtcome
    rw [hnext] at hsame
    generalize hsecond : lexer.next cursor second = outcome at hsame
    cases hsame with
    | stopped hfinal =>
      rw [runFrom_of_stopped hsecond]
      exact ⟨rfl, hfinal⟩
  | case2 position cursor first gaveWay settled kind count hnext text after later =>
    rename_i ih
    simp only [Run.stages, List.flatMap_cons, Emission.stages, List.append_assoc,
      List.forall_mem_append] at hdepth
    obtain ⟨hgaveWay, hsteps, hlater⟩ := hdepth
    have hsettled : base.depth < settled.depth := by
      apply hsteps
      cases kind.steps <;> simp [List.scanl_cons]
    have houtcome : ∀ stage ∈ (lexer.next cursor first).stages, base.depth < stage.depth := by
      rw [hnext]
      exact List.forall_mem_append.mpr ⟨hgaveWay, by simpa using hsettled⟩
    have hsame := next_sameAbove h houtcome
    rw [hnext] at hsame
    generalize hsecond : lexer.next cursor second = outcome at hsame
    cases hsame with
    | emitted hstack =>
      have hafter := hstack.foldl_apply lexer.markupArity text hsteps
      obtain ⟨htokens, hfinal⟩ := ih hafter
        (by simpa only [Run.stages, List.forall_mem_append] using hlater)
      rw [runFrom_of_emitted hsecond]
      exact ⟨congrArg (_ :: ·) htokens, hfinal⟩

theorem lex_sameAbove (lexer : Lexer) {base other first second : Stack} {text : Text}
    (h : Stack.SameAbove base other first second)
    (hdepth : ∀ stage ∈ (lexer.lex first text).stages lexer.markupArity,
      base.depth < stage.depth) :
    (lexer.lex second text).tokens = (lexer.lex first text).tokens ∧
      Stack.SameAbove base other (lexer.lex first text).final (lexer.lex second text).final :=
  runFrom_sameAbove h hdepth

end Lexer

-- Frames that a run never reaches have no influence on it. The stack stays higher than the base
-- after every single action of the first run, so the second run, which has the same frames above
-- another base, makes the same tokens and ends with the same frames above that base.
theorem lex_of_stays_above (lexicon : Lexicon) {base other first second : Stack}
    {frames : List Frame} (hframes : frames ≠ [])
    (hfirst : first.frames = base.frames ++ frames)
    (hsecond : second.frames = other.frames ++ frames) (text : Text)
    (hstays : ∀ stage ∈ (lexicon.lexer.lex first text).stages lexicon.markupArity,
      base.depth < stage.depth) :
    (lexicon.lexer.lex second text).tokens = (lexicon.lexer.lex first text).tokens ∧
      (∃ later, (lexicon.lexer.lex first text).final.frames = base.frames ++ later) ∧
      ∀ later, (lexicon.lexer.lex first text).final.frames = base.frames ++ later →
        (lexicon.lexer.lex second text).final.frames = other.frames ++ later := by
  obtain rfl := eq_raise_of_frames_eq hfirst
  obtain rfl := eq_raise_of_frames_eq hsecond
  have hsame : Stack.SameAbove base other (base.raise frames.reverse) (other.raise frames.reverse) :=
    .of_ne_nil (by simpa using hframes)
  obtain ⟨htokens, frame, upper, hfinal, hfinal'⟩ :=
    lexicon.lexer.lex_sameAbove hsame hstays
  rw [hfinal, hfinal', frames_raise, frames_raise]
  refine ⟨htokens, ⟨_, rfl⟩, ?_⟩
  intro later hlater
  rw [List.append_cancel_left hlater]

-- Music in braces, a duration that gives way and a markup command with its arguments come and go
-- above an open brace, whatever the brace stands in.
theorem lex_of_stays_above_open_brace :
    let lexicon : Lexicon := ⟨fun _ => [], fun _ => 2⟩
    let text : Text := "c4 \x7b d \x7d \\markup \\combine a b".toList
    let book : Stack := Stack.toplevel.enter ⟨.book, 0⟩
    let first : Stack := Stack.toplevel.enter ⟨.music, 0⟩
    let second : Stack := book.enter ⟨.music, 0⟩
    (∀ stage ∈ (lexicon.lexer.lex first text).stages lexicon.markupArity,
        Stack.toplevel.depth < stage.depth) ∧
      (lexicon.lexer.lex second text).tokens = (lexicon.lexer.lex first text).tokens ∧
      (lexicon.lexer.lex second text).final = second := by
  intro lexicon text book first second
  have hstays : ∀ stage ∈ (lexicon.lexer.lex first text).stages lexicon.markupArity,
      Stack.toplevel.depth < stage.depth := by
    decide +kernel
  have hfinal : (lexicon.lexer.lex first text).final.frames =
      Stack.toplevel.frames ++ [⟨.music, 0⟩] := by
    decide +kernel
  have hfirst : first.frames = Stack.toplevel.frames ++ [⟨.music, 0⟩] := rfl
  have hsecond : second.frames = book.frames ++ [⟨.music, 0⟩] := rfl
  obtain ⟨htokens, -, hsame⟩ :=
    lex_of_stays_above lexicon (List.cons_ne_nil _ _) hfirst hsecond text hstays
  exact ⟨hstays, htokens, eq_of_frames_eq (hsame _ hfinal)⟩

end ScoreLexer
