import ScoreLexer.Proofs.Stack.Nesting

namespace ScoreLexer

namespace Stack

def raise (upper : List Frame) (base : Stack) : Stack :=
  { base with above := upper ++ base.above }

theorem frames_raise (upper : List Frame) (base : Stack) :
    (base.raise upper).frames = base.frames ++ upper.reverse := by
  simp [frames, raise]

theorem depth_raise (upper : List Frame) (base : Stack) :
    (base.raise upper).depth = upper.length + base.depth := by
  simp [depth, raise, Nat.add_assoc]

theorem eq_of_frames_eq {first second : Stack} (h : first.frames = second.frames) :
    first = second := by
  obtain ⟨root, above, _⟩ := first
  obtain ⟨root', above', _⟩ := second
  obtain ⟨rfl, habove⟩ := List.cons.inj h
  obtain rfl := List.reverse_injective habove
  rfl

theorem eq_raise_of_frames_eq {base stack : Stack} {frames : List Frame}
    (h : stack.frames = base.frames ++ frames) : stack = base.raise frames.reverse := by
  apply eq_of_frames_eq
  rw [h, frames_raise, List.reverse_reverse]

theorem endArgument_raise_of_some {upper rest : List Frame} (h : signal upper = some rest)
    (base : Stack) : (base.raise upper).endArgument = base.raise rest := by
  simp only [endArgument, raise, signal_append, h]

theorem endArgument_raise_of_none {upper : List Frame} (h : signal upper = none) (base : Stack) :
    (base.raise upper).endArgument = base.endArgument := by
  simp only [endArgument, raise, signal_append, h]

-- Above a base that absorbs the signal, no signal changes the base.
theorem exists_endArgument_raise {base : Stack} (hbase : base.top.pending = 0)
    (upper : List Frame) : ∃ rest, (base.raise upper).endArgument = base.raise rest := by
  cases hsignal : signal upper with
  | some rest => exact ⟨rest, endArgument_raise_of_some hsignal base⟩
  | none =>
    exact ⟨[], (endArgument_raise_of_none hsignal base).trans (endArgument_eq_self hbase)⟩

theorem depth_endArgument_le (stack : Stack) : stack.endArgument.depth ≤ stack.depth := by
  have hlength := stack.contexts_endArgument.length_le
  simpa [contexts, depth] using hlength

-- The two stacks have the same frames above the two bases, at least one.
def SameAbove (base other first second : Stack) : Prop :=
  ∃ frame upper, first = base.raise (frame :: upper) ∧ second = other.raise (frame :: upper)

namespace SameAbove

variable {base other first second : Stack}

theorem of_ne_nil {upper : List Frame} (h : upper ≠ []) :
    SameAbove base other (base.raise upper) (other.raise upper) := by
  obtain ⟨frame, upper, rfl⟩ := List.exists_cons_of_ne_nil h
  exact ⟨frame, upper, rfl, rfl⟩

theorem of_lt_depth {upper : List Frame} (h : base.depth < (base.raise upper).depth) :
    SameAbove base other (base.raise upper) (other.raise upper) := by
  apply of_ne_nil
  rintro rfl
  rw [depth_raise, List.length_nil] at h
  omega

theorem top_eq (h : SameAbove base other first second) : first.top = second.top := by
  obtain ⟨frame, upper, rfl, rfl⟩ := h
  rfl

theorem enter (h : SameAbove base other first second) (frame : Frame) :
    SameAbove base other (first.enter frame) (second.enter frame) := by
  obtain ⟨top, upper, rfl, rfl⟩ := h
  exact ⟨frame, top :: upper, rfl, rfl⟩

theorem leave (h : SameAbove base other first second) (hdepth : base.depth < first.leave.depth) :
    SameAbove base other first.leave second.leave := by
  obtain ⟨top, upper, rfl, rfl⟩ := h
  exact of_lt_depth hdepth

theorem replace (h : SameAbove base other first second) (frame : Frame) :
    SameAbove base other (first.replace frame) (second.replace frame) := by
  obtain ⟨top, upper, rfl, rfl⟩ := h
  exact ⟨frame, upper, rfl, rfl⟩

theorem expect (h : SameAbove base other first second) (count : Nat) :
    SameAbove base other (first.expect count) (second.expect count) := by
  obtain ⟨top, upper, rfl, rfl⟩ := h
  exact ⟨{ top with pending := count }, upper, rfl, rfl⟩

theorem endArgument (h : SameAbove base other first second)
    (hdepth : base.depth < first.endArgument.depth) :
    SameAbove base other first.endArgument second.endArgument := by
  obtain ⟨top, upper, rfl, rfl⟩ := h
  cases hsignal : signal (top :: upper) with
  | some rest =>
    rw [endArgument_raise_of_some hsignal, endArgument_raise_of_some hsignal]
    exact of_ne_nil (signal_ne_nil hsignal)
  | none =>
    -- the signal would have come down to the base
    rw [endArgument_raise_of_none hsignal] at hdepth
    have hle := base.depth_endArgument_le
    omega

theorem giveWay_none (h : SameAbove base other first second) (hstays : first.giveWay? = none) :
    second.giveWay? = none := by
  obtain ⟨top, upper, rfl, rfl⟩ := h
  simp only [giveWay?, raise, List.cons_append] at hstays ⊢
  split at hstays <;> simp_all

theorem giveWay_some (h : SameAbove base other first second) {lower : Stack}
    (hlower : first.giveWay? = some lower) (hdepth : base.depth < lower.depth) :
    ∃ lower', second.giveWay? = some lower' ∧ SameAbove base other lower lower' := by
  obtain ⟨top, upper, rfl, rfl⟩ := h
  simp only [giveWay?, raise, List.cons_append] at hlower ⊢
  cases hfallthrough : top.context.fallthrough? with
  | none => simp [hfallthrough] at hlower
  | some fallthrough =>
    cases fallthrough with
    | leave =>
      simp only [hfallthrough, Option.some.injEq] at hlower
      subst hlower
      exact ⟨_, rfl, of_lt_depth hdepth⟩
    | replace next =>
      simp only [hfallthrough, Option.some.injEq] at hlower
      subst hlower
      exact ⟨_, rfl, Frame.fresh next, upper, rfl, rfl⟩

-- What a step does is seen on top, or it reaches below the frames in question.
theorem apply (h : SameAbove base other first second) (markupArity : String → UInt8)
    (text : Text) (step : Step)
    (hdepth : base.depth < (step.apply markupArity text first).depth) :
    SameAbove base other (step.apply markupArity text first)
      (step.apply markupArity text second) := by
  cases step with
  | enter context => exact h.enter _
  | enterExpecting context count => exact h.enter _
  | leave => exact h.leave hdepth
  | endArgument => exact h.endArgument hdepth
  | openBody =>
    simp only [Step.apply, ← h.top_eq]
    split
    · exact h.replace _
    · exact h.enter _
    · exact h
  | markupArguments =>
    simp only [Step.apply] at hdepth ⊢
    split
    · next harity =>
      rw [if_pos harity] at hdepth
      exact h.endArgument hdepth
    · exact h.enter _
  | expectArgument => exact h.expect 1
  | schemeExpression => exact h.enter _

theorem foldl_apply (h : SameAbove base other first second) (markupArity : String → UInt8)
    (text : Text) {steps : List Step}
    (hdepth : ∀ stage ∈ steps.scanl (Step.apply markupArity text) first,
      base.depth < stage.depth) :
    SameAbove base other (steps.foldl (Step.apply markupArity text) first)
      (steps.foldl (Step.apply markupArity text) second) := by
  induction steps generalizing first second with
  | nil => exact h
  | cons step steps ih =>
    rw [List.scanl_cons] at hdepth
    have hsteps := (List.forall_mem_cons.mp hdepth).2
    have hnext : base.depth < (step.apply markupArity text first).depth := by
      apply hsteps
      cases steps <;> simp [List.scanl_cons]
    exact ih (h.apply markupArity text step hnext) hsteps

end SameAbove

end Stack

end ScoreLexer
