import Mathlib.Data.List.Chain
import ScoreLexer.Proofs.Lexer.Moments
import ScoreLexer.Proofs.Stack.Signal

namespace ScoreLexer

def Step.pushed? (lower : Context) : Step → Option Context
  | .enter context => some context
  | .enterExpecting context _ => some context
  | .schemeExpression => some .scheme
  | .markupArguments => some .markup
  | .openBody =>
      match lower.opening? with
      | some (.enter body) => some body
      | _ => none
  | .leave | .endArgument | .expectArgument => none

namespace Context

def pushes (context : Context) : List Context :=
  context.candidates.flatMap fun kind => kind.steps.filterMap (Step.pushed? context)

-- The first context can come to stand in the place of the second: it is the same, or its body, or
-- what it gives way to there.
def TakesPlaceOf (later context : Context) : Prop :=
  later = context ∨ context.opening? = some (.replace later) ∨
    context.fallthrough? = some (.replace later)

def CanSitOn (upper lower : Context) : Prop :=
  ∃ pushed ∈ lower.pushes, upper.TakesPlaceOf pushed

instance : DecidableRel TakesPlaceOf := fun later context =>
  inferInstanceAs (Decidable (later = context ∨ context.opening? = some (.replace later) ∨
    context.fallthrough? = some (.replace later)))

instance : DecidableRel CanSitOn := fun upper lower =>
  inferInstanceAs (Decidable (∃ pushed ∈ lower.pushes, upper.TakesPlaceOf pushed))

-- The scaling of a duration stands where the duration stood, and a chord is only found in music.
example : CanSitOn .durationScaling .music ∧ CanSitOn .score .bookPart ∧
    ¬CanSitOn .chord .score ∧ ¬CanSitOn .music .duration := by
  decide

def takesOnlyComments (context : Context) : Bool :=
  context.waitsForBlock ||
    [.duration, .durationScaling, .repetition, .unsetting, .scriptAbbreviation].contains context

theorem canSitOn_of_pushed? {upper lower : Context} {kind : Kind} {step : Step}
    (hkind : kind ∈ lower.candidates) (hstep : step ∈ kind.steps)
    (hpushed : step.pushed? lower = some upper) : upper.CanSitOn lower := by
  have hmem : upper ∈ kind.steps.filterMap (Step.pushed? lower) :=
    List.mem_filterMap.mpr ⟨step, hstep, hpushed⟩
  exact ⟨upper, List.mem_flatMap.mpr ⟨kind, hkind, hmem⟩, .inl rfl⟩

-- A body is not replaced again, and neither is what takes the place of a duration.
theorem CanSitOn.opened {upper lower body : Context} (h : upper.CanSitOn lower)
    (hbody : upper.opening? = some (.replace body)) : body.CanSitOn lower := by
  obtain ⟨pushed, hmem, hplace⟩ := h
  refine ⟨pushed, hmem, ?_⟩
  rcases hplace with rfl | hopened | hgaveWay
  · exact .inr (.inl hbody)
  · cases pushed <;> simp [opening?] at hopened <;> simp [← hopened, opening?] at hbody
  · cases pushed <;> simp [fallthrough?] at hgaveWay
    simp [← hgaveWay, opening?] at hbody

theorem CanSitOn.gaveWay {upper lower next : Context} (h : upper.CanSitOn lower)
    (hnext : upper.fallthrough? = some (.replace next)) : next.CanSitOn lower := by
  obtain ⟨pushed, hmem, hplace⟩ := h
  refine ⟨pushed, hmem, ?_⟩
  rcases hplace with rfl | hopened | hgaveWay
  · exact .inr (.inr hnext)
  · cases pushed <;> simp [opening?] at hopened <;> simp [← hopened, fallthrough?] at hnext
  · cases pushed <;> simp [fallthrough?] at hgaveWay
    simp [← hgaveWay, fallthrough?] at hnext

theorem pushes_of_takesOnlyComments {context : Context} (h : context.takesOnlyComments = true) :
    ∀ pushed ∈ context.pushes, pushed = .blockComment := by
  revert h
  cases context <;> decide

theorem not_canSitOn_string (upper : Context) : ¬upper.CanSitOn .string := by
  rintro ⟨pushed, hmem, -⟩
  exact absurd hmem (by simp [show Context.string.pushes = [] from rfl])

theorem not_canSitOn_blockComment (upper : Context) : ¬upper.CanSitOn .blockComment := by
  rintro ⟨pushed, hmem, -⟩
  exact absurd hmem (by simp [show Context.blockComment.pushes = [] from rfl])

theorem CanSitOn.eq_blockComment {upper lower : Context} (h : upper.CanSitOn lower)
    (hlower : lower.takesOnlyComments = true) : upper = .blockComment := by
  obtain ⟨pushed, hmem, hplace⟩ := h
  obtain rfl := pushes_of_takesOnlyComments hlower pushed hmem
  simpa [TakesPlaceOf, opening?, fallthrough?] using hplace

end Context

namespace Stack

def contexts (stack : Stack) : List Context :=
  stack.above.map Frame.context ++ [stack.root.context]

theorem head?_contexts (stack : Stack) : stack.contexts.head? = some stack.top.context := by
  unfold contexts top
  cases stack.above <;> rfl

theorem contexts_leave (stack : Stack) : stack.leave.contexts <:+ stack.contexts := by
  unfold contexts leave
  cases stack.above with
  | nil => exact List.suffix_rfl
  | cons frame below => exact List.suffix_cons _ _

theorem contexts_expect (count : Nat) (stack : Stack) :
    (stack.expect count).contexts = stack.contexts := by
  unfold contexts expect
  cases stack.above <;> rfl

theorem contexts_of_signal {frames above : List Frame} (h : signal frames = some above) :
    above.map Frame.context <:+ frames.map Frame.context := by
  obtain ⟨finished, frame, below, count, rfl, -, rfl, -⟩ := exists_of_signal h
  rw [List.map_append]
  exact List.suffix_append _ _

theorem contexts_endArgument (stack : Stack) : stack.endArgument.contexts <:+ stack.contexts := by
  unfold endArgument
  split
  · next above hsignal =>
    obtain ⟨gone, hgone⟩ := contexts_of_signal hsignal
    exact ⟨gone, by rw [contexts, contexts, ← hgone, List.append_assoc]⟩
  · exact List.suffix_append _ _

def Nested (stack : Stack) : Prop := stack.contexts.IsChain Context.CanSitOn

namespace Nested

variable {stack : Stack}

theorem of_suffix (h : stack.Nested) {lower : Stack} (hsuffix : lower.contexts <:+ stack.contexts) :
    lower.Nested := List.IsChain.suffix h hsuffix

theorem enter (h : stack.Nested) {frame : Frame}
    (hframe : frame.context.CanSitOn stack.top.context) : (stack.enter frame).Nested := by
  refine List.isChain_cons.mpr ⟨?_, h⟩
  intro lower hlower
  obtain rfl := Option.some.inj (stack.head?_contexts.symm.trans hlower)
  exact hframe

theorem exchange (h : stack.Nested) {frame : Frame} {below : List Frame}
    (habove : stack.above = frame :: below) {next : Frame}
    (hnext : ∀ lower, frame.context.CanSitOn lower → next.context.CanSitOn lower) :
    (stack.leave.enter next).Nested := by
  have hcontexts : stack.contexts = frame.context :: stack.leave.contexts := by
    simp [contexts, leave, habove]
  rw [Nested, hcontexts, List.isChain_cons, head?_contexts] at h
  obtain ⟨htop, hbelow⟩ := h
  exact enter hbelow (hnext _ (htop _ rfl))

theorem replace (h : stack.Nested) {body : Context}
    (hopening : stack.top.context.opening? = some (.replace body)) :
    (stack.replace (Frame.fresh body)).Nested := by
  unfold Stack.replace isAtRoot
  cases habove : stack.above with
  | nil => exact h
  | cons frame below =>
    have htop : stack.top = frame := by simp [top, habove]
    rw [htop] at hopening
    exact h.exchange habove fun lower hframe => hframe.opened hopening

theorem giveWay (h : stack.Nested) {lower : Stack} (hlower : stack.giveWay? = some lower) :
    lower.Nested := by
  obtain ⟨frame, below, habove, ⟨-, rfl⟩ | ⟨next, hnext, rfl⟩⟩ := exists_of_giveWay? hlower
  · have hleave : stack.leave = { stack with above := below } := by simp [leave, habove]
    exact hleave ▸ h.of_suffix stack.contexts_leave
  · have hexchange : (stack.leave.enter (Frame.fresh next)).Nested :=
      h.exchange habove fun lower hframe => hframe.gaveWay hnext
    simpa [leave, habove, Stack.enter] using hexchange

theorem apply (h : stack.Nested) {kind : Kind} (hkind : kind ∈ stack.top.context.candidates)
    {step : Step} (hstep : step ∈ kind.steps) (markupArity : String → UInt8) (text : Text) :
    (step.apply markupArity text stack).Nested := by
  have hpushed : ∀ context, step.pushed? stack.top.context = some context →
      context.CanSitOn stack.top.context :=
    fun _ => Context.canSitOn_of_pushed? hkind hstep
  cases step with
  | enter context => exact h.enter (hpushed context rfl)
  | enterExpecting context count => exact h.enter (hpushed context rfl)
  | leave => exact h.of_suffix stack.contexts_leave
  | endArgument => exact h.of_suffix stack.contexts_endArgument
  | openBody =>
    simp only [Step.apply]
    split
    · next hopening => exact h.replace hopening
    · next body hopening => exact h.enter (hpushed body (by simp [Step.pushed?, hopening]))
    · exact h
  | markupArguments =>
    simp only [Step.apply]
    split
    · exact h.of_suffix stack.contexts_endArgument
    · exact h.enter (hpushed .markup rfl)
  | expectArgument => rwa [Nested, Step.apply, contexts_expect]
  | schemeExpression => exact h.enter (hpushed .scheme rfl)

end Nested

end Stack

def Step.takesAway : Step → Bool
  | .leave | .endArgument => true
  | _ => false

theorem Stack.contexts_of_takesAway (stack : Stack) {step : Step} (h : step.takesAway = true)
    (markupArity : String → UInt8) (text : Text) :
    (step.apply markupArity text stack).contexts <:+ stack.contexts := by
  cases step with
  | leave => exact stack.contexts_leave
  | endArgument => exact stack.contexts_endArgument
  | _ => exact absurd h Bool.false_ne_true

-- A kind with several steps only takes frames away.
theorem Kind.steps_cases (kind : Kind) :
    kind.steps.all Step.takesAway = true ∨ ∃ step, kind.steps = [step] := by
  cases kind <;> first | exact .inl rfl | exact .inr ⟨_, rfl⟩

theorem Lexer.preserves_nested (lexer : Lexer) : lexer.Preserves Stack.Nested := by
  refine ⟨fun h hlower => h.giveWay hlower, ?_⟩
  intro stack kind text hstack hkind
  rcases kind.steps_cases with hsteps | ⟨step, hsteps⟩
  · exact List.foldlRecOn kind.steps _ hstack fun stack hstack step hstep =>
      hstack.of_suffix (stack.contexts_of_takesAway (List.all_eq_true.mp hsteps step hstep) _ _)
  · have hstep : step ∈ kind.steps := by simp [hsteps]
    rw [Kind.transition, hsteps]
    exact hstack.apply hkind hstep lexer.markupArity text

theorem exists_of_mem_dropLast {α : Type} {R : α → α → Prop} {l : List α}
    (h : l.IsChain R) : ∀ a ∈ l.dropLast, ∃ b, R a b := by
  induction h with
  | nil | singleton => simp
  | @cons_cons a b l hab _ ih => simpa using ⟨⟨b, hab⟩, ih⟩

namespace Stack

theorem Nested.isChain_frames {stack : Stack} (h : stack.Nested) :
    stack.frames.IsChain fun lower upper => upper.context.CanSitOn lower.context := by
  have hframes : stack.frames.reverse.map Frame.context = stack.contexts := by
    simp [frames, contexts]
  rw [Nested, ← hframes, List.isChain_map, List.isChain_reverse] at h
  exact h

end Stack

-- At every moment of every session from the toplevel, every frame can sit on the one below it.
-- So strings and comments are on top of everything, and what waits for a block or belongs to a
-- duration, a repeat, an unset property or an abbreviation is covered by a comment at most.
theorem nested_of_mem_moments (lexicon : Lexicon) (texts : List Text) :
    ∀ moment ∈ lexicon.lexer.moments Stack.toplevel texts,
      (moment.frames.IsChain fun lower upper => upper.context.CanSitOn lower.context) ∧
      (∀ frame ∈ moment.frames.dropLast,
        frame.context ≠ .string ∧ frame.context ≠ .blockComment) ∧
      moment.frames.IsChain fun lower upper =>
        lower.context.takesOnlyComments = true → upper.context = .blockComment := by
  intro moment hmoment
  have htoplevel : Stack.toplevel.Nested := List.isChain_singleton _
  have hnested := lexicon.lexer.preserves_nested.of_mem_moments htoplevel texts moment hmoment
  have hchain := hnested.isChain_frames
  refine ⟨hchain, ?_, hchain.imp fun lower upper h => h.eq_blockComment⟩
  intro frame hframe
  obtain ⟨upper, hupper⟩ := exists_of_mem_dropLast hchain frame hframe
  constructor
  · intro hstring
    exact Context.not_canSitOn_string _ (hstring ▸ hupper)
  · intro hcomment
    exact Context.not_canSitOn_blockComment _ (hcomment ▸ hupper)

-- A comment that a second text goes on with covers a duration in music.
theorem nested_of_mem_moments_comment :
    let lexicon : Lexicon := ⟨fun _ => [], fun _ => 2⟩
    let texts : List Text := ["\x7b c4 %\x7b".toList, " d".toList]
    ∃ moment ∈ lexicon.lexer.moments Stack.toplevel texts,
      moment.frames.map Frame.context = [.toplevel, .music, .duration, .blockComment] ∧
        moment.frames.IsChain (fun lower upper => upper.context.CanSitOn lower.context) ∧
        ∀ frame ∈ moment.frames.dropLast, frame.context ≠ .blockComment := by
  intro lexicon texts
  have hcovered : ∃ moment ∈ lexicon.lexer.moments Stack.toplevel texts,
      moment.frames.map Frame.context = [.toplevel, .music, .duration, .blockComment] := by
    decide +kernel
  obtain ⟨moment, hmem, hframes⟩ := hcovered
  obtain ⟨hchain, hcovers, -⟩ := nested_of_mem_moments lexicon texts moment hmem
  exact ⟨moment, hmem, hframes, hchain, fun frame hframe => (hcovers frame hframe).2⟩

end ScoreLexer
