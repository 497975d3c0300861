import ScoreLexer.Proofs.Stack.Bases

namespace ScoreLexer

namespace Stack

def openBrace (stack : Stack) : Stack := stack.enter (Frame.fresh .markup)

theorem endArgument_openBrace (stack : Stack) : stack.openBrace.endArgument = stack.openBrace := rfl

theorem exists_endArgument_raise_openBrace (stack : Stack) (upper : List Frame) :
    ∃ rest, (stack.openBrace.raise upper).endArgument = stack.openBrace.raise rest :=
  exists_endArgument_raise rfl upper

-- Markup commands that wait for so many arguments each, the outermost one first, as frames with the
-- top one first.
def pendingCommands (counts : List Nat) : List Frame := (counts.map (Frame.mk .markup)).reverse

theorem pendingCommands_append (outer inner : List Nat) :
    pendingCommands (outer ++ inner) = pendingCommands inner ++ pendingCommands outer := by
  simp [pendingCommands]

theorem pending_of_mem_pendingCommands {counts : List Nat} (h : ∀ count ∈ counts, count = 1) :
    ∀ frame ∈ pendingCommands counts, frame.pending = 1 := by
  intro frame hframe
  obtain ⟨count, hcount, rfl⟩ := List.mem_map.mp (List.mem_reverse.mp hframe)
  exact h count hcount

-- Of commands that do not all wait for one argument, the innermost one that waits for more.
theorem exists_waiting_for_more {counts : List Nat} (hpositive : ∀ count ∈ counts, 0 < count)
    (h : ¬∀ count ∈ counts, count = 1) :
    ∃ outer more inner, counts = outer ++ (more + 2) :: inner ∧ ∀ count ∈ inner, count = 1 := by
  induction counts with
  | nil => exact absurd (by simp) h
  | cons count counts ih =>
    obtain ⟨hcount, hcounts⟩ := List.forall_mem_cons.mp hpositive
    by_cases hrest : ∀ count ∈ counts, count = 1
    · have hne : count ≠ 1 := fun heq => h (List.forall_mem_cons.mpr ⟨heq, hrest⟩)
      obtain ⟨more, rfl⟩ : ∃ more, count = more + 2 := ⟨count - 2, by omega⟩
      exact ⟨[], more, counts, rfl, hrest⟩
    · obtain ⟨outer, more, inner, rfl, hinner⟩ := ih hcounts hrest
      exact ⟨count :: outer, more, inner, rfl, hinner⟩

end Stack

namespace Kind

open Stack

variable (markupArity : String → UInt8) (text : Text) (stack : Stack)

theorem transition_closeBracketMarkup :
    closeBracketMarkup.transition markupArity text stack =
      stack.endArgument.leave.endArgument := rfl

theorem transition_closeBracketMarkup_of_last {counts : List Nat}
    (h : ∀ count ∈ counts, count = 1) :
    closeBracketMarkup.transition markupArity text
      (stack.openBrace.raise (pendingCommands counts)) = stack.endArgument := by
  have hsignal := signal_eq_none_iff.mpr (pending_of_mem_pendingCommands h)
  rw [transition_closeBracketMarkup, endArgument_raise_of_none hsignal, endArgument_openBrace]
  rfl

-- A command that waits for more is left in place of the list.
theorem transition_closeBracketMarkup_of_more {inner : List Nat}
    (h : ∀ count ∈ inner, count = 1) (outer : List Nat) (more : Nat) :
    closeBracketMarkup.transition markupArity text
        (stack.openBrace.raise (pendingCommands (outer ++ (more + 2) :: inner))) =
      (stack.openBrace.raise (pendingCommands outer)).endArgument := by
  have hframes : pendingCommands (outer ++ (more + 2) :: inner) =
      pendingCommands inner ++ ⟨.markup, more + 2⟩ :: pendingCommands outer := by
    rw [← List.singleton_append, ← List.append_assoc, pendingCommands_append,
      pendingCommands_append]
    rfl
  have hsignal := signal_countDown (pending_of_mem_pendingCommands h) .markup more
    (pendingCommands outer)
  rw [transition_closeBracketMarkup, hframes, endArgument_raise_of_some hsignal]
  rfl

end Kind

open Stack

-- The closing brace of markup closes the innermost open list if and only if every command pending
-- inside waits for one argument only. If one of them waits for more, the innermost of these is
-- left, its surroundings get the end of an argument, and the list stays open.
theorem closingBrace_closes_iff (markupArity : String → UInt8) (text : Text) (stack : Stack)
    {counts : List Nat} (hpositive : ∀ count ∈ counts, 0 < count) :
    let after := Kind.closeBracketMarkup.transition markupArity text
      (stack.openBrace.raise (pendingCommands counts))
    (after = stack.endArgument ↔ ∀ count ∈ counts, count = 1) ∧
      ∀ outer more inner, counts = outer ++ (more + 2) :: inner → (∀ count ∈ inner, count = 1) →
        after = (stack.openBrace.raise (pendingCommands outer)).endArgument ∧
          stack.openBrace.frames <+: after.frames := by
  intro after
  have hopen : ∀ outer more inner, counts = outer ++ (more + 2) :: inner →
      (∀ count ∈ inner, count = 1) →
      after = (stack.openBrace.raise (pendingCommands outer)).endArgument ∧
        stack.openBrace.frames <+: after.frames := by
    rintro outer more inner rfl hinner
    have hafter :=
      Kind.transition_closeBracketMarkup_of_more markupArity text stack hinner outer more
    obtain ⟨rest, hrest⟩ := stack.exists_endArgument_raise_openBrace (pendingCommands outer)
    refine ⟨hafter, rest.reverse, ?_⟩
    rw [← frames_raise, ← hrest]
    exact congrArg frames hafter.symm
  refine ⟨⟨?_, Kind.transition_closeBracketMarkup_of_last markupArity text stack⟩, hopen⟩
  intro hcloses
  by_contra hmore
  obtain ⟨outer, more, inner, hcounts, hinner⟩ := exists_waiting_for_more hpositive hmore
  have hprefix := (hopen outer more inner hcounts hinner).2.length_le
  have hdepth := stack.depth_endArgument_le
  rw [hcloses] at hprefix
  simp only [frames, openBrace, Stack.enter, depth, List.length_cons, List.length_reverse]
    at hprefix hdepth
  omega

-- Of three commands the one in the middle waits for three arguments. It is left, the outermost one
-- is over with it, and the list stays open.
theorem closingBrace_closes_iff_three_commands :
    let stack := Stack.toplevel.enter ⟨.markup, 1⟩
    let counts := [1, 3, 1]
    (∀ count ∈ counts, 0 < count) ∧
      Kind.closeBracketMarkup.transition (fun _ => 1) ['}']
        (stack.openBrace.raise (pendingCommands counts)) = stack.openBrace := by
  intro stack counts
  have hpositive : ∀ count ∈ counts, 0 < count := by decide
  obtain ⟨-, hopen⟩ := closingBrace_closes_iff (fun _ => 1) ['}'] stack hpositive
  exact ⟨hpositive, (hopen [1] 1 [1] rfl (by decide)).1.trans rfl⟩

-- A command that waits for two arguments keeps its list open over the brace.
theorem closingBrace_not_closes :
    ¬∀ (markupArity : String → UInt8) (text : Text) (stack : Stack) (counts : List Nat),
      (∀ count ∈ counts, 1 ≤ count ∧ count ≤ 4) →
      Kind.closeBracketMarkup.transition markupArity text
        (stack.openBrace.raise (pendingCommands counts)) = stack.endArgument := by
  intro h
  have hcloses := h (fun _ => 1) ['}'] (Stack.toplevel.enter ⟨.markup, 1⟩) [2] (by decide)
  revert hcloses
  decide

end ScoreLexer
