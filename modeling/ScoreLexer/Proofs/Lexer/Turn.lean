import ScoreLexer.Lexer.Basic
import ScoreLexer.Proofs.Stack.Frames

namespace ScoreLexer

structure Site where
  -- byte offset of the cursor
  position : Nat
  cursor : Cursor
  stack : Stack

namespace Site

def emit (lexer : Lexer) (site : Site) (kind : Kind) (count : Nat) : Site :=
  let text : Text := site.cursor.rest.take count
  { position := site.position + text.byteSize
    cursor := site.cursor.advance count
    stack := kind.transition lexer.markupArity text site.stack }

end Site

inductive Turn (lexer : Lexer) : Site → Site → Prop where
  | claimed {site : Site} {kind : Kind} {count : Nat}
      (hfirst : lexer.first? site.stack.top.context site.cursor = some (kind, count)) :
      Turn lexer site (site.emit lexer kind count)
  | gaveWay {site : Site} {lower : Stack}
      (hfirst : lexer.first? site.stack.top.context site.cursor = none)
      (hlower : site.stack.giveWay? = some lower) :
      Turn lexer site { site with stack := lower }
  | unclaimed {site : Site} {c : Char} {rest : Text}
      (hfirst : lexer.first? site.stack.top.context site.cursor = none)
      (hstays : site.stack.giveWay? = none)
      (hrest : site.cursor.rest = c :: rest) :
      Turn lexer site (site.emit lexer site.stack.top.context.defaultKind
        (lexer.unclaimed site.stack.top.context (some c) rest + 1))

inductive Turns (lexer : Lexer) : Nat → Site → Site → Prop where
  | refl (site : Site) : Turns lexer 0 site site
  | cons {count : Nat} {site next last : Site} (hturn : Turn lexer site next)
      (hturns : Turns lexer count next last) : Turns lexer (count + 1) site last

def AtRest (lexer : Lexer) (site : Site) : Prop := ∀ next, ¬Turn lexer site next

theorem Turns.trans {lexer : Lexer} {m n : Nat} {first middle last : Site}
    (hfirst : Turns lexer m first middle) (hlast : Turns lexer n middle last) :
    Turns lexer (m + n) first last := by
  induction hfirst with
  | refl => simpa using hlast
  | cons hturn _ ih =>
    rw [Nat.add_right_comm]
    exact .cons hturn (ih hlast)

def sumOf {α : Type} (measure : α → Nat) : List α → Nat
  | [] => 0
  | a :: rest => measure a + sumOf measure rest

theorem sumOf_append {α : Type} (measure : α → Nat) (front back : List α) :
    sumOf measure (front ++ back) = sumOf measure front + sumOf measure back := by
  induction front with
  | nil => simp [sumOf]
  | cons a front ih => rw [List.cons_append, sumOf, sumOf, ih, Nat.add_assoc]

namespace Frame

def patience (frame : Frame) : Nat :=
  match frame.context.fallthrough? with
  | some (.replace _) => 2
  | some .leave => 1
  | none => 0

theorem patience_le (frame : Frame) : frame.patience ≤ 2 := by
  unfold patience
  split <;> omega

end Frame

namespace Stack

def patience (stack : Stack) : Nat := sumOf Frame.patience stack.above

theorem patience_enter (frame : Frame) (stack : Stack) :
    (stack.enter frame).patience = frame.patience + stack.patience := by
  simp [patience, enter, sumOf]

theorem patience_leave_le (stack : Stack) : stack.leave.patience ≤ stack.patience := by
  unfold patience leave
  cases stack.above with
  | nil => simp
  | cons frame below =>
    simp only [List.tail_cons, sumOf]
    omega

theorem patience_replace_le (frame : Frame) (stack : Stack) :
    (stack.replace frame).patience ≤ stack.patience + 2 := by
  unfold replace
  split
  · omega
  · have hframe := frame.patience_le
    have hleave := stack.patience_leave_le
    rw [patience_enter]
    omega

theorem patience_expect (count : Nat) (stack : Stack) :
    (stack.expect count).patience = stack.patience := by
  unfold patience expect
  cases stack.above with
  | nil => simp
  | cons frame below => simp [sumOf, Frame.patience]

theorem patience_signal_le {frames above : List Frame} (h : signal frames = some above) :
    sumOf Frame.patience above ≤ sumOf Frame.patience frames := by
  obtain ⟨finished, frame, below, count, rfl, -, rfl, -⟩ := exists_of_signal h
  rw [sumOf_append]
  exact Nat.le_add_left _ _

theorem patience_endArgument_le (stack : Stack) : stack.endArgument.patience ≤ stack.patience := by
  unfold endArgument
  split
  · next habove => exact patience_signal_le habove
  · simp [patience, sumOf]

theorem patience_lt_of_giveWay? {stack lower : Stack} (h : stack.giveWay? = some lower) :
    lower.patience < stack.patience := by
  obtain ⟨frame, below, habove, ⟨hleave, rfl⟩ | ⟨next, hreplace, rfl⟩⟩ := exists_of_giveWay? h
  · simp [patience, habove, sumOf, Frame.patience, hleave]
  · simp [patience, habove, sumOf, Frame.patience, hreplace, Frame.fresh,
      Context.fallthrough?_of_replace hreplace]

theorem patience_le_depth (stack : Stack) : stack.patience ≤ 2 * (stack.depth - 1) := by
  unfold patience depth
  induction stack.above with
  | nil => simp [sumOf]
  | cons frame below ih =>
    have hframe := frame.patience_le
    simp only [sumOf, List.length_cons] at ih ⊢
    omega

end Stack

namespace Step

-- How much patience a step can add: that of the frame it puts on top.
def gain : Step → Nat
  | .leave | .endArgument | .expectArgument => 0
  | _ => 2

theorem patience_apply_le (markupArity : String → UInt8) (text : Text) (stack : Stack)
    (step : Step) : (step.apply markupArity text stack).patience ≤ stack.patience + step.gain := by
  have henter : ∀ frame : Frame, (stack.enter frame).patience ≤ stack.patience + 2 := by
    intro frame
    have hframe := frame.patience_le
    rw [Stack.patience_enter]
    omega
  cases step with
  | enter context => exact henter _
  | enterExpecting context count => exact henter _
  | leave => exact stack.patience_leave_le
  | endArgument => exact stack.patience_endArgument_le
  | openBody =>
    simp only [apply]
    split
    · exact stack.patience_replace_le _
    · exact henter _
    · exact Nat.le_add_right _ _
  | markupArguments =>
    simp only [apply]
    split
    · exact Nat.le_trans stack.patience_endArgument_le (Nat.le_add_right _ _)
    · exact henter _
  | expectArgument => exact Nat.le_of_eq (stack.patience_expect 1)
  | schemeExpression => exact henter _

end Step

namespace Kind

theorem patience_foldl_le (markupArity : String → UInt8) (text : Text) (steps : List Step)
    (stack : Stack) :
    (steps.foldl (Step.apply markupArity text) stack).patience ≤
      stack.patience + sumOf Step.gain steps := by
  induction steps generalizing stack with
  | nil => simp
  | cons step steps ih =>
    have hstep := step.patience_apply_le markupArity text stack
    have hsteps := ih (step.apply markupArity text stack)
    simp only [List.foldl_cons, sumOf]
    omega

theorem sum_gain_steps_le (kind : Kind) : sumOf Step.gain kind.steps ≤ 2 := by
  cases kind <;> decide

theorem patience_transition_le (markupArity : String → UInt8) (kind : Kind) (text : Text)
    (stack : Stack) :
    (kind.transition markupArity text stack).patience ≤ stack.patience + 2 :=
  Nat.le_trans (patience_foldl_le markupArity text kind.steps stack)
    (Nat.add_le_add_left kind.sum_gain_steps_le _)

end Kind

namespace Site

-- What the turns from here on can use up: a character pays for its token and the frame that
-- the token may put on the stack.
def effort (site : Site) : Nat := 3 * site.cursor.rest.length + site.stack.patience

theorem effort_emit_lt (lexer : Lexer) (site : Site) (kind : Kind) {count : Nat}
    (hpos : 0 < count) (hle : count ≤ site.cursor.rest.length) :
    (site.emit lexer kind count).effort < site.effort := by
  have htransition := kind.patience_transition_le lexer.markupArity
    (site.cursor.rest.take count) site.stack
  simp only [effort, emit, Cursor.rest_advance, List.length_drop]
  omega

end Site

theorem Turn.effort_lt {lexer : Lexer} {site next : Site} (h : Turn lexer site next) :
    next.effort < site.effort := by
  cases h with
  | claimed hfirst =>
    obtain ⟨hpos, hle⟩ := Lexer.first?_bounds hfirst
    exact site.effort_emit_lt lexer _ hpos hle
  | gaveWay _ hlower =>
    have := Stack.patience_lt_of_giveWay? hlower
    simp only [Site.effort]
    omega
  | @unclaimed c rest _ _ hrest =>
    have hle := lexer.unclaimed_le site.stack.top.context (some c) rest
    have hlength : site.cursor.rest.length = rest.length + 1 := by rw [hrest, List.length_cons]
    exact site.effort_emit_lt lexer _ (by omega) (by omega)

theorem Turns.add_effort_le {lexer : Lexer} {count : Nat} {site last : Site}
    (h : Turns lexer count site last) : count + last.effort ≤ site.effort := by
  induction h with
  | refl => omega
  | cons hturn _ ih =>
    have hlt := hturn.effort_lt
    omega

namespace Lexer

theorem first?_eq_none_of_nil (lexer : Lexer) (context : Context) {cursor : Cursor}
    (h : cursor.rest = []) : lexer.first? context cursor = none := by
  cases hfirst : lexer.first? context cursor with
  | none => rfl
  | some found =>
    have hbounds := first?_bounds hfirst
    simp only [h, List.length_nil] at hbounds
    omega

-- Before a token, the recorded stacks give way one after the other, and then the token is emitted.
theorem turns_of_next_emitted {lexer : Lexer} {cursor : Cursor} {stack : Stack}
    {gaveWay : List Stack} {last : Stack} {kind : Kind} {count : Nat}
    (h : lexer.next cursor stack = .emitted gaveWay last kind count) (position : Nat) :
    Turns lexer (gaveWay.length + 1) ⟨position, cursor, stack⟩
      (Site.emit lexer ⟨position, cursor, last⟩ kind count) := by
  fun_induction next lexer cursor stack generalizing gaveWay with
  | case1 stack kind' count' hfirst =>
    simp only [Outcome.emitted.injEq] at h
    obtain ⟨rfl, rfl, rfl, rfl⟩ := h
    exact .cons (.claimed hfirst) (.refl _)
  | case2 stack hfirst lower hlower ih =>
    obtain ⟨later, rfl, hnext⟩ := Outcome.exists_of_precededBy_emitted h
    exact .cons (.gaveWay hfirst hlower) (ih hnext)
  | case3 => simp at h
  | case4 stack hfirst hlower c rest hrest =>
    simp only [Outcome.emitted.injEq] at h
    obtain ⟨rfl, rfl, rfl, rfl⟩ := h
    exact .cons (.unclaimed hfirst hlower hrest) (.refl _)

theorem turns_of_next_stopped {lexer : Lexer} {cursor : Cursor} {stack : Stack}
    {gaveWay : List Stack} {final : Stack} (h : lexer.next cursor stack = .stopped gaveWay final)
    (position : Nat) : cursor.rest = [] ∧ Turns lexer gaveWay.length ⟨position, cursor, stack⟩
      ⟨position, cursor, final⟩ ∧ AtRest lexer ⟨position, cursor, final⟩ := by
  fun_induction next lexer cursor stack generalizing gaveWay with
  | case1 => simp at h
  | case2 stack hfirst lower hlower ih =>
    obtain ⟨later, rfl, hnext⟩ := Outcome.exists_of_precededBy_stopped h
    obtain ⟨hrest, hturns, hatRest⟩ := ih hnext
    exact ⟨hrest, .cons (.gaveWay hfirst hlower) hturns, hatRest⟩
  | case3 stack hfirst hlower hrest =>
    simp only [Outcome.stopped.injEq] at h
    obtain ⟨rfl, rfl⟩ := h
    refine ⟨hrest, .refl _, ?_⟩
    intro next hturn
    cases hturn with
    | claimed hfirst' => simp [hfirst] at hfirst'
    | gaveWay _ hlower' => simp [hlower] at hlower'
    | unclaimed _ _ hrest' => simp [hrest] at hrest'
  | case4 => simp at h

theorem exists_turns_runFrom (lexer : Lexer) (position : Nat) (cursor : Cursor) (stack : Stack) :
    ∃ count last, Turns lexer count ⟨position, cursor, stack⟩ last ∧ AtRest lexer last ∧
      last.cursor.rest = [] ∧ last.stack = (lexer.runFrom position cursor stack).final := by
  fun_induction runFrom lexer position cursor stack with
  | case1 position cursor stack gaveWay final hnext =>
    obtain ⟨hrest, hturns, hatRest⟩ := turns_of_next_stopped hnext position
    exact ⟨_, _, hturns, hatRest, hrest, rfl⟩
  | case2 position cursor stack gaveWay last kind count hnext text after later ih =>
    obtain ⟨rest, site, hturns, hatRest, hrest, hfinal⟩ := ih
    exact ⟨_, site, (turns_of_next_emitted hnext position).trans hturns, hatRest, hrest, hfinal⟩

end Lexer

end ScoreLexer
