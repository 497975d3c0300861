import ScoreLexer.Stack.Basic

namespace ScoreLexer

namespace Stack

-- All that the signal can do to frames that it does not get through.
theorem exists_of_signal {frames rest : List Frame} (h : signal frames = some rest) :
    ∃ finished frame below count, frames = finished ++ frame :: below ∧
      (∀ other ∈ finished, other.pending = 1) ∧
      rest = { frame with pending := count } :: below ∧
      (frame.pending = 0 ∧ count = 0 ∨ 0 < count ∧ frame.pending = count + 1) := by
  induction frames with
  | nil => simp [signal] at h
  | cons frame below ih =>
    rw [signal] at h
    split at h
    · next hpending =>
      obtain rfl := Option.some.inj h
      exact ⟨[], frame, below, 0, rfl, by simp, by rw [← hpending], .inl ⟨hpending, rfl⟩⟩
    · next hpending =>
      obtain ⟨finished, stop, lower, count, rfl, hfinished, hrest, hcount⟩ := ih h
      exact ⟨frame :: finished, stop, lower, count, rfl,
        List.forall_mem_cons.mpr ⟨hpending, hfinished⟩, hrest, hcount⟩
    · next more hpending =>
      obtain rfl := Option.some.inj h
      exact ⟨[], frame, below, more + 1, rfl, by simp, rfl, .inr ⟨Nat.succ_pos _, hpending⟩⟩

theorem signal_eq_none_iff {frames : List Frame} :
    signal frames = none ↔ ∀ frame ∈ frames, frame.pending = 1 := by
  induction frames with
  | nil => simp [signal]
  | cons frame below ih =>
    rw [signal, List.forall_mem_cons]
    split
    · next hpending => simp [hpending]
    · next hpending => simp [hpending, ih]
    · next more hpending => simp [hpending]

theorem signal_ne_nil {frames rest : List Frame} (h : signal frames = some rest) : rest ≠ [] := by
  obtain ⟨-, frame, below, count, -, -, rfl, -⟩ := exists_of_signal h
  exact List.cons_ne_nil _ _

-- The signal gets through to the frames below, or it stays above them and changes nothing there.
theorem signal_append (upper below : List Frame) :
    signal (upper ++ below) =
      match signal upper with
      | some rest => some (rest ++ below)
      | none => signal below := by
  induction upper with
  | nil => rfl
  | cons frame upper ih =>
    rw [List.cons_append, signal, signal]
    cases frame.pending with
    | zero => rfl
    | succ count =>
      cases count with
      | zero => exact ih
      | succ more => rfl

theorem signal_countDown {inner : List Frame} (h : ∀ frame ∈ inner, frame.pending = 1)
    (context : Context) (more : Nat) (outer : List Frame) :
    signal (inner ++ ⟨context, more + 2⟩ :: outer) = some (⟨context, more + 1⟩ :: outer) := by
  rw [signal_append, signal_eq_none_iff.mpr h]
  rfl

theorem endArgument_eq_self {stack : Stack} (h : stack.top.pending = 0) :
    stack.endArgument = stack := by
  obtain ⟨⟨context, pending⟩, above, hroot⟩ := stack
  cases above with
  | nil =>
    obtain rfl : pending = 0 := h
    rfl
  | cons frame below =>
    have hpending : frame.pending = 0 := h
    simp [endArgument, signal, hpending]

-- Of a whole stack the signal reaches the frames down to one that was not waiting, and then nothing
-- is changed, or that waited for one argument more than after it.
theorem exists_frames_endArgument (stack : Stack) :
    ∃ below frame finished count, stack.frames = below ++ frame :: finished ∧
      (∀ other ∈ finished, other.pending = 1) ∧
      stack.endArgument.frames = below ++ [{ frame with pending := count }] ∧
      (frame.pending = 0 ∧ count = 0 ∨ frame.pending = count + 1) := by
  cases hsignal : signal stack.above with
  | none =>
    have hfinished := signal_eq_none_iff.mp hsignal
    refine ⟨[], stack.root, stack.above.reverse, stack.root.pending - 1, rfl, ?_, ?_, by omega⟩
    · simpa using hfinished
    · simp [endArgument, hsignal, frames]
  | some rest =>
    obtain ⟨finished, frame, below, count, habove, hfinished, rfl, hcount⟩ :=
      exists_of_signal hsignal
    refine ⟨stack.root :: below.reverse, frame, finished.reverse, count, ?_, ?_, ?_, by omega⟩
    · simp [frames, habove]
    · simpa using hfinished
    · simp [endArgument, hsignal, frames]

end Stack

end ScoreLexer
