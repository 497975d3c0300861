import ScoreLexer.Proofs.Stack.Signal

namespace ScoreLexer

structure Frame.Lasting (property : Frame → Prop) : Prop where
  fresh : ∀ context, property (fresh context)
  countDown : ∀ {frame : Frame} {more : Nat}, property frame → frame.pending = more + 2 →
    property { frame with pending := more + 1 }

namespace Stack

def Above (property : Frame → Prop) (stack : Stack) : Prop := ∀ frame ∈ stack.above, property frame

theorem root_replace (frame : Frame) (stack : Stack) : (stack.replace frame).root = stack.root := by
  unfold replace
  split <;> rfl

theorem root_of_giveWay? {stack lower : Stack} (h : stack.giveWay? = some lower) :
    lower.root = stack.root := by
  obtain ⟨-, -, -, ⟨-, rfl⟩ | ⟨-, -, rfl⟩⟩ := exists_of_giveWay? h <;> rfl

-- The bottom frame never gives way, and neither does its context anywhere else.
theorem giveWay?_eq_none_iff {stack : Stack} :
    stack.giveWay? = none ↔ stack.top.context.fallthrough? = none := by
  unfold giveWay? top
  cases stack.above with
  | nil =>
    have hroot := stack.canBeRoot_root
    rw [Context.canBeRoot, Bool.and_eq_true] at hroot
    simpa using hroot.1
  | cons frame below =>
    dsimp only [List.headD_cons]
    cases frame.context.fallthrough? with
    | none => simp
    | some fallthrough => cases fallthrough <;> simp

namespace Above

variable {property : Frame → Prop} {stack : Stack}

theorem enter (h : stack.Above property) {frame : Frame} (hframe : property frame) :
    (stack.enter frame).Above property := List.forall_mem_cons.mpr ⟨hframe, h⟩

theorem leave (h : stack.Above property) : stack.leave.Above property :=
  fun frame hframe => h frame (List.mem_of_mem_tail hframe)

theorem replace (h : stack.Above property) {frame : Frame} (hframe : property frame) :
    (stack.replace frame).Above property := by
  unfold Stack.replace
  split
  · exact h
  · exact h.leave.enter hframe

-- The frame that absorbs the end of an argument counts down or stays as it is.
theorem of_signal (hlasting : Frame.Lasting property) {frames above : List Frame}
    (h : ∀ frame ∈ frames, property frame) (hsignal : signal frames = some above) :
    ∀ frame ∈ above, property frame := by
  obtain ⟨finished, frame, below, count, rfl, -, rfl, hcount⟩ := exists_of_signal hsignal
  obtain ⟨hframe, hbelow⟩ := List.forall_mem_cons.mp (List.forall_mem_append.mp h).2
  refine List.forall_mem_cons.mpr ⟨?_, hbelow⟩
  rcases hcount with ⟨hnone, rfl⟩ | ⟨hpositive, hmore⟩
  · rwa [← hnone]
  · obtain ⟨more, rfl⟩ := Nat.exists_eq_succ_of_ne_zero (Nat.ne_of_gt hpositive)
    exact hlasting.countDown hframe hmore

theorem endArgument (hlasting : Frame.Lasting property) (h : stack.Above property) :
    stack.endArgument.Above property := by
  unfold Stack.endArgument
  split
  · next hsignal => exact of_signal hlasting h hsignal
  · exact fun frame hframe => absurd hframe List.not_mem_nil

theorem giveWay (hlasting : Frame.Lasting property) (h : stack.Above property) {lower : Stack}
    (hlower : stack.giveWay? = some lower) : lower.Above property := by
  obtain ⟨frame, below, habove, hplace⟩ := exists_of_giveWay? hlower
  have hbelow : ∀ frame ∈ below, property frame :=
    fun frame hframe => h frame (habove ▸ List.mem_cons_of_mem _ hframe)
  obtain ⟨-, rfl⟩ | ⟨next, -, rfl⟩ := hplace
  · exact hbelow
  · exact List.forall_mem_cons.mpr ⟨hlasting.fresh next, hbelow⟩

end Above

end Stack

end ScoreLexer
