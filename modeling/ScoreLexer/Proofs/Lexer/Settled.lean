import ScoreLexer.Proofs.Lexer.LineBoundary
import ScoreLexer.Proofs.Lexer.Priority
import ScoreLexer.Proofs.Lexer.Stages
import ScoreLexer.Proofs.Stack.Bases
import ScoreLexer.Proofs.Stack.Frames
import ScoreLexer.Proofs.Stack.Nesting

namespace ScoreLexer

namespace Stack

theorem depth_eq_length_contexts (stack : Stack) : stack.depth = stack.contexts.length := by
  simp [depth, contexts]

theorem depth_le_of_contexts {lower stack : Stack} (h : lower.contexts <:+ stack.contexts) :
    lower.depth ≤ stack.depth := by
  rw [depth_eq_length_contexts, depth_eq_length_contexts]
  exact h.length_le

theorem root_context_endArgument (stack : Stack) :
    stack.endArgument.root.context = stack.root.context := by
  unfold endArgument
  split <;> rfl

theorem root_context_expect (count : Nat) (stack : Stack) :
    (stack.expect count).root.context = stack.root.context := by
  unfold expect
  split <;> rfl

theorem depth_expect (count : Nat) (stack : Stack) : (stack.expect count).depth = stack.depth := by
  rw [depth_eq_length_contexts, contexts_expect, depth_eq_length_contexts]

theorem depth_replace_le (frame : Frame) (stack : Stack) :
    (stack.replace frame).depth ≤ stack.depth := by
  unfold replace
  split
  · exact Nat.le_refl _
  · next hroot =>
    cases habove : stack.above with
    | nil => simp [isAtRoot, habove] at hroot
    | cons top below => simp [depth, leave, enter, habove]

theorem depth_giveWay?_le {stack lower : Stack} (h : stack.giveWay? = some lower) :
    lower.depth ≤ stack.depth := by
  obtain ⟨frame, below, habove, hplace⟩ := exists_of_giveWay? h
  have hdepth : stack.depth = below.length + 2 := by simp [depth, habove]
  obtain ⟨-, rfl⟩ | ⟨next, -, rfl⟩ := hplace
  · exact hdepth ▸ Nat.le_succ _
  · exact Nat.le_of_eq hdepth.symm

theorem GivesWay.depth_le {stack last : Stack} {gaveWay : List Stack}
    (h : stack.GivesWay gaveWay last) : last.depth ≤ stack.depth := by
  induction h with
  | refl => exact Nat.le_refl _
  | cons hlower _ ih => exact Nat.le_trans ih (depth_giveWay?_le hlower)

end Stack

namespace Step

-- The bottom frame may count down, but its context stays.
theorem root_context_apply (markupArity : String → UInt8) (text : Text) (stack : Stack)
    (step : Step) : (step.apply markupArity text stack).root.context = stack.root.context := by
  cases step with
  | enter | enterExpecting | leave | schemeExpression => rfl
  | endArgument => exact stack.root_context_endArgument
  | openBody =>
    simp only [apply]
    split
    · rw [Stack.root_replace]
    · rfl
    · rfl
  | markupArguments =>
    simp only [apply]
    split
    · exact stack.root_context_endArgument
    · rfl
  | expectArgument => exact stack.root_context_expect 1

theorem depth_apply_le (markupArity : String → UInt8) (text : Text) (stack : Stack) (step : Step) :
    (step.apply markupArity text stack).depth ≤ stack.depth + 1 := by
  cases step with
  | enter | enterExpecting | schemeExpression => exact Nat.le_refl _
  | leave => exact Nat.le_succ_of_le (Stack.depth_le_of_contexts stack.contexts_leave)
  | endArgument => exact Nat.le_succ_of_le stack.depth_endArgument_le
  | openBody =>
    simp only [apply]
    split
    · exact Nat.le_succ_of_le (stack.depth_replace_le _)
    · exact Nat.le_refl _
    · exact Nat.le_succ _
  | markupArguments =>
    simp only [apply]
    split
    · exact Nat.le_succ_of_le stack.depth_endArgument_le
    · exact Nat.le_refl _
  | expectArgument => exact Nat.le_succ_of_le (Nat.le_of_eq (stack.depth_expect 1))

end Step

-- A kind with several steps only takes frames away, so a token adds one frame at most.
theorem Kind.depth_transition_le (markupArity : String → UInt8) (kind : Kind) (text : Text)
    (stack : Stack) : (kind.transition markupArity text stack).depth ≤ stack.depth + 1 := by
  rcases kind.steps_cases with hsteps | ⟨step, hsteps⟩
  · refine Nat.le_succ_of_le ?_
    refine List.foldlRecOn (motive := fun lower : Stack => lower.depth ≤ stack.depth) kind.steps _
      (Nat.le_refl _) fun lower hlower step hstep => ?_
    have htakes := lower.contexts_of_takesAway (List.all_eq_true.mp hsteps step hstep)
      markupArity text
    exact Nat.le_trans (Stack.depth_le_of_contexts htakes) hlower
  · rw [Kind.transition, hsteps]
    exact step.depth_apply_le markupArity text stack

namespace Lexer

variable {lexer : Lexer}

theorem preservesSteps_root_context (lexer : Lexer) (context : Context) :
    lexer.PreservesSteps fun stack => stack.root.context = context where
  giveWay hstack hlower := (congrArg Frame.context (Stack.root_of_giveWay? hlower)).trans hstack
  apply text hstack _ := (Step.root_context_apply _ text _ _).trans hstack

theorem next_stopped_cases {cursor : Cursor} {stack : Stack} {gaveWay : List Stack} {final : Stack}
    (h : lexer.next cursor stack = .stopped gaveWay final) :
    stack.GivesWay gaveWay final ∧ final.giveWay? = none := by
  fun_induction next lexer cursor stack generalizing gaveWay with
  | case1 => cases h
  | case2 stack hfirst lower hlower ih =>
    obtain ⟨later, rfl, hnext⟩ := Outcome.exists_of_precededBy_stopped h
    obtain ⟨hgivesWay, hstays⟩ := ih hnext
    exact ⟨.cons hlower hgivesWay, hstays⟩
  | case3 stack hfirst hlower hrest =>
    obtain ⟨rfl, rfl⟩ := Outcome.stopped.inj h
    exact ⟨.refl _, hlower⟩
  | case4 => cases h

theorem giveWay?_final_runFrom (lexer : Lexer) (position : Nat) (cursor : Cursor) (stack : Stack) :
    (lexer.runFrom position cursor stack).final.giveWay? = none := by
  fun_induction runFrom lexer position cursor stack with
  | case1 position cursor stack gaveWay final hnext => exact (next_stopped_cases hnext).2
  | case2 position cursor stack gaveWay last kind count hnext text after later ih => exact ih

theorem depth_final_runFrom_le (lexer : Lexer) (position : Nat) (cursor : Cursor) (stack : Stack) :
    (lexer.runFrom position cursor stack).final.depth ≤
      stack.depth + (lexer.runFrom position cursor stack).tokens.length := by
  fun_induction runFrom lexer position cursor stack with
  | case1 position cursor stack gaveWay final hnext => exact (next_stopped_cases hnext).1.depth_le
  | case2 position cursor stack gaveWay last kind count hnext text after later ih =>
    have hlast := (next_emitted_cases hnext).1.depth_le
    have hafter : after.depth ≤ last.depth + 1 :=
      kind.depth_transition_le lexer.markupArity text last
    have hlater : later.final.depth ≤ after.depth + later.tokens.length := ih
    simp only [Run.tokens, List.length_map, List.length_cons] at hlater ⊢
    omega

theorem next_nil_of_stays {stack : Stack} (h : stack.giveWay? = none) (before : Option Char) :
    lexer.next ⟨before, []⟩ stack = .stopped [] stack :=
  next_of_nil (lexer.first?_eq_none_of_nil _ rfl) h rfl

end Lexer

-- However a run goes, at every stage of it the bottom frame has the context it started with, and in
-- the end there is at most one frame more for every token. When the text is over, the top context
-- does not give way. So the lexer has come to rest, and lexing on with nothing changes nothing.
theorem lex_keeps_root_and_settles (lexicon : Lexicon) (start : Stack) (text : Text) :
    let lexer := lexicon.lexer
    let run := lexer.lex start text
    (∀ stage ∈ run.stages lexer.markupArity,
        ∃ root above, stage.frames = root :: above ∧ root.context = start.root.context) ∧
      run.final.depth ≤ start.depth + run.tokens.length ∧
      run.final.top.context.fallthrough? = none ∧
      (∀ before, lexer.next ⟨before, []⟩ run.final = .stopped [] run.final) ∧
      lexer.lex run.final [] = ⟨[], [], run.final⟩ := by
  intro lexer run
  have hstays : run.final.giveWay? = none := lexer.giveWay?_final_runFrom 0 _ start
  have hsettled := Stack.giveWay?_eq_none_iff.mp hstays
  refine ⟨?_, lexer.depth_final_runFrom_le 0 _ start, hsettled, Lexer.next_nil_of_stays hstays,
    Lexer.runFrom_nil rfl hsettled 0⟩
  intro stage hstage
  have hroot := (lexer.preservesSteps_root_context start.root.context).of_mem_stages rfl text
  exact ⟨stage.root, _, rfl, hroot stage hstage⟩

end ScoreLexer
