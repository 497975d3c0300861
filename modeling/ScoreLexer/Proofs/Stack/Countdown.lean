import Mathlib.Logic.Function.Iterate
import ScoreLexer.Proofs.Lexer.Turn
import ScoreLexer.Proofs.Stack.Bases

namespace ScoreLexer

namespace Stack

-- What the frames wait for beyond the last argument of each. A frame with all its arguments is one
-- argument of the frame below, so each signal takes one off this number.
def surplus (frames : List Frame) : Nat := sumOf (fun frame => frame.pending - 1) frames

theorem surplus_cons (frame : Frame) (below : List Frame) :
    surplus (frame :: below) = frame.pending - 1 + surplus below := rfl

theorem surplus_append (upper below : List Frame) :
    surplus (upper ++ below) = surplus upper + surplus below := sumOf_append _ upper below

theorem surplus_eq_zero_iff {frames : List Frame} :
    surplus frames = 0 ↔ ∀ frame ∈ frames, frame.pending ≤ 1 := by
  induction frames with
  | nil => simp [surplus, sumOf]
  | cons frame below ih =>
    rw [surplus_cons, Nat.add_eq_zero_iff, Nat.sub_eq_zero_iff_le, ih, List.forall_mem_cons]

-- What counting down has left of the frames: the lower ones as they were, and on top of them one
-- that still waits, for no more arguments than before.
def IsLeftOf (left frames : List Frame) : Prop :=
  ∃ frame below count, frame :: below <:+ frames ∧ 0 < count ∧ count ≤ frame.pending ∧
    left = { frame with pending := count } :: below

namespace IsLeftOf

variable {frames left : List Frame}

theorem refl (hne : frames ≠ []) (hpositive : ∀ frame ∈ frames, 0 < frame.pending) :
    IsLeftOf frames frames := by
  obtain ⟨frame, below, rfl⟩ := List.exists_cons_of_ne_nil hne
  exact ⟨frame, below, frame.pending, List.suffix_rfl, hpositive frame (by simp), Nat.le_refl _, rfl⟩

theorem trans {later : List Frame} (hlater : IsLeftOf later left) (hleft : IsLeftOf left frames) :
    IsLeftOf later frames := by
  obtain ⟨frame, below, count, hsuffix, hcount, hle, rfl⟩ := hleft
  obtain ⟨next, lower, fewer, hnext, hfewer, hfewerLe, rfl⟩ := hlater
  rcases List.suffix_cons_iff.mp hnext with hsame | hlower
  -- the same frame has counted down again, or others below it have been reached
  · obtain ⟨rfl, rfl⟩ := List.cons.inj hsame
    exact ⟨frame, lower, fewer, hsuffix, hfewer, Nat.le_trans hfewerLe hle, rfl⟩
  · exact ⟨next, lower, fewer, hlower.trans ((List.suffix_cons _ _).trans hsuffix), hfewer, hfewerLe,
      rfl⟩

theorem pending_pos (h : IsLeftOf left frames) (hpositive : ∀ frame ∈ frames, 0 < frame.pending) :
    ∀ frame ∈ left, 0 < frame.pending := by
  obtain ⟨frame, below, count, hsuffix, hcount, -, rfl⟩ := h
  refine List.forall_mem_cons.mpr ⟨hcount, fun other hother => ?_⟩
  exact hpositive other (hsuffix.subset (List.mem_cons_of_mem _ hother))

end IsLeftOf

theorem exists_signal_of_surplus {frames : List Frame}
    (hpositive : ∀ frame ∈ frames, 0 < frame.pending) {more : Nat}
    (h : surplus frames = more + 1) :
    ∃ left, signal frames = some left ∧ IsLeftOf left frames ∧ surplus left = more := by
  have hfinal {finished : List Frame} (hfinished : ∀ frame ∈ finished, frame.pending = 1) :
      surplus finished = 0 :=
    surplus_eq_zero_iff.mpr fun frame hframe => Nat.le_of_eq (hfinished frame hframe)
  cases hsignal : signal frames with
  | none =>
    have hzero := hfinal (signal_eq_none_iff.mp hsignal)
    omega
  | some left =>
    obtain ⟨finished, frame, below, count, rfl, hfinished, rfl, hcount⟩ := exists_of_signal hsignal
    have hframe : 0 < frame.pending := hpositive frame (by simp)
    have hsurplus : frame.pending - 1 + surplus below = more + 1 := by
      rw [← surplus_cons, ← h, surplus_append, hfinal hfinished, Nat.zero_add]
    refine ⟨_, rfl, ⟨frame, below, count, List.suffix_append _ _, by omega, by omega, rfl⟩, ?_⟩
    rw [surplus_cons]
    dsimp only
    omega

theorem signal_of_surplus_eq_zero {frames : List Frame}
    (hpositive : ∀ frame ∈ frames, 0 < frame.pending) (h : surplus frames = 0) :
    signal frames = none := by
  refine signal_eq_none_iff.mpr fun frame hframe => ?_
  exact Nat.le_antisymm (surplus_eq_zero_iff.mp h frame hframe) (hpositive frame hframe)

theorem exists_iterate_endArgument (base : Stack) {pushed : List Frame} (hne : pushed ≠ [])
    (hpositive : ∀ frame ∈ pushed, 0 < frame.pending) {calls : Nat} (h : calls ≤ surplus pushed) :
    ∃ left, endArgument^[calls] (base.raise pushed) = base.raise left ∧ IsLeftOf left pushed ∧
      surplus left + calls = surplus pushed := by
  induction calls with
  | zero => exact ⟨pushed, rfl, .refl hne hpositive, rfl⟩
  | succ calls ih =>
    obtain ⟨left, hstack, hleft, hsurplus⟩ := ih (Nat.le_of_succ_le h)
    obtain ⟨more, hmore⟩ : ∃ more, surplus left = more + 1 := ⟨surplus left - 1, by omega⟩
    obtain ⟨later, hsignal, hlater, hless⟩ :=
      exists_signal_of_surplus (hleft.pending_pos hpositive) hmore
    refine ⟨later, ?_, hlater.trans hleft, by omega⟩
    rw [Function.iterate_succ_apply', hstack, endArgument_raise_of_some hsignal]

theorem frames_prefix_endArgument_raise {base : Stack} (hbase : base.top.pending = 0)
    (upper : List Frame) : base.frames <+: (base.raise upper).endArgument.frames := by
  obtain ⟨rest, hrest⟩ := exists_endArgument_raise hbase upper
  rw [hrest, frames_raise]
  exact List.prefix_append _ _

end Stack

open Stack

-- Frames that wait for arguments, above a base that waits for none, take one signal for each
-- argument beyond the last of each of them, and one more. Up to then the base is untouched below
-- what is left of the frames, and every signal counts one argument down. A signal at any time
-- removes frames that wait for their last argument only, and it lowers no count but a positive one.
theorem iterate_endArgument_counts_down (base : Stack) (hbase : base.top.pending = 0) :
    (∀ pushed : List Frame, pushed ≠ [] → (∀ frame ∈ pushed, 0 < frame.pending) →
      let after (calls : Nat) := Stack.endArgument^[calls] (base.raise pushed)
      after (1 + surplus pushed) = base ∧
        ∀ calls < 1 + surplus pushed, ∃ left, after calls = base.raise left ∧
          IsLeftOf left pushed ∧ surplus left + calls = surplus pushed) ∧
      ∀ upper : List Frame,
        base.frames <+: (base.raise upper).endArgument.frames ∧
          ∃ below frame finished count, (base.raise upper).frames = below ++ frame :: finished ∧
            (∀ other ∈ finished, other.pending = 1) ∧
            (base.raise upper).endArgument.frames = below ++ [{ frame with pending := count }] ∧
            (frame.pending = 0 ∧ count = 0 ∨ frame.pending = count + 1) := by
  constructor
  · intro pushed hne hpositive after
    refine ⟨?_, fun calls hcalls => ?_⟩
    · obtain ⟨left, hstack, hleft, hsurplus⟩ :=
        exists_iterate_endArgument base hne hpositive (Nat.le_refl _)
      have hsignal : signal left = none :=
        signal_of_surplus_eq_zero (hleft.pending_pos hpositive) (by omega)
      calc after (1 + surplus pushed)
        _ = (base.raise left).endArgument := by
          rw [← hstack, Nat.add_comm]
          exact Function.iterate_succ_apply' _ _ _
        _ = base := by rw [endArgument_raise_of_none hsignal, endArgument_eq_self hbase]
    · exact exists_iterate_endArgument base hne hpositive (by omega)
  · intro upper
    exact ⟨frames_prefix_endArgument_raise hbase upper,
      (base.raise upper).exists_frames_endArgument⟩

-- Of four frames two wait for more than one argument. Four signals end them all, the third leaves the
-- lowest one, and the base in music is never touched.
theorem iterate_endArgument_counts_down_four_frames :
    let base := Stack.toplevel.enter (Frame.fresh .music)
    let pushed : List Frame := [⟨.markup, 1⟩, ⟨.markup, 3⟩, ⟨.scheme, 1⟩, ⟨.markup, 2⟩]
    base.top.pending = 0 ∧ pushed ≠ [] ∧ (∀ frame ∈ pushed, 0 < frame.pending) ∧
      surplus pushed = 3 ∧ Stack.endArgument^[4] (base.raise pushed) = base ∧
      ∀ calls < 4, Stack.endArgument^[calls] (base.raise pushed) ≠ base := by
  intro base pushed
  have hne : pushed ≠ [] := List.cons_ne_nil _ _
  have hpositive : ∀ frame ∈ pushed, 0 < frame.pending := by decide
  obtain ⟨hends, hbefore⟩ := (iterate_endArgument_counts_down base rfl).1 pushed hne hpositive
  refine ⟨rfl, hne, hpositive, rfl, hends, fun calls hcalls hbase => ?_⟩
  obtain ⟨left, hstack, ⟨frame, below, count, -, -, -, rfl⟩, -⟩ := hbefore calls hcalls
  have hdepth := congrArg Stack.depth (hstack.symm.trans hbase)
  rw [depth_raise, List.length_cons] at hdepth
  omega

end ScoreLexer
