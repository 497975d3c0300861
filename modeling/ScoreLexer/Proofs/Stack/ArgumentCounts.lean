import ScoreLexer.Lexicon.Extension
import ScoreLexer.Proofs.Lexer.Moments
import ScoreLexer.Proofs.Stack.Frames

namespace ScoreLexer

namespace Frame

def IsCounted (frame : Frame) : Prop :=
  match frame.context with
  | .scheme | .clef | .scriptAbbreviation => frame.pending = 1
  | .overriding | .setting => frame.pending ≤ 1
  | .markup => frame.pending ≤ 4
  | _ => frame.pending = 0

theorem isCounted_fresh (context : Context) : (fresh context).IsCounted := by
  cases context <;> simp [IsCounted, fresh, Context.freshArguments]

-- Counting down keeps the number proper. Most contexts never wait for two arguments.
theorem IsCounted.countDown {frame : Frame} {more : Nat} (h : frame.IsCounted)
    (hpending : frame.pending = more + 2) :
    IsCounted { frame with pending := more + 1 } := by
  obtain ⟨context, pending⟩ := frame
  simp only at hpending
  subst hpending
  cases context <;> simp only [IsCounted] at h ⊢ <;> omega

theorem lasting_isCounted : Lasting IsCounted := ⟨isCounted_fresh, IsCounted.countDown⟩

theorem isCounted_markupFrame {arity : UInt8} (h : arity ≤ maxMarkupArity) :
    (Step.markupFrame arity).IsCounted := UInt8.le_iff_toNat_le.mp h

end Frame

namespace Stack

structure Counted (stack : Stack) : Prop where
  root : stack.root = ⟨.toplevel, 0⟩
  above : ∀ frame ∈ stack.above, frame.IsCounted

theorem counted_toplevel : toplevel.Counted := ⟨rfl, by simp [toplevel]⟩

namespace Counted

variable {stack : Stack}

theorem enter (h : stack.Counted) {frame : Frame} (hframe : frame.IsCounted) :
    (stack.enter frame).Counted := ⟨h.root, Above.enter h.above hframe⟩

theorem leave (h : stack.Counted) : stack.leave.Counted := ⟨h.root, Above.leave h.above⟩

theorem replace (h : stack.Counted) {frame : Frame} (hframe : frame.IsCounted) :
    (stack.replace frame).Counted :=
  ⟨(root_replace frame stack).trans h.root, Above.replace h.above hframe⟩

theorem endArgument (h : stack.Counted) : stack.endArgument.Counted := by
  refine ⟨?_, Above.endArgument Frame.lasting_isCounted h.above⟩
  unfold Stack.endArgument
  split
  · exact h.root
  · simp [h.root]

-- Only a property waits for the argument after an equals sign.
theorem expect (h : stack.Counted)
    (hcontext : stack.top.context = .overriding ∨ stack.top.context = .setting) :
    (stack.expect 1).Counted := by
  have hroot := h.root
  have habove := h.above
  unfold Stack.expect
  unfold top at hcontext
  cases hframes : stack.above with
  | nil => simp [hframes, hroot] at hcontext
  | cons frame below =>
    rw [hframes] at hcontext habove
    refine ⟨hroot, List.forall_mem_cons.mpr ⟨?_, (List.forall_mem_cons.mp habove).2⟩⟩
    obtain ⟨context, pending⟩ := frame
    have hcontext : context = .overriding ∨ context = .setting := hcontext
    obtain rfl | rfl := hcontext <;> exact Nat.le_refl 1

theorem giveWay (h : stack.Counted) {lower : Stack} (hlower : stack.giveWay? = some lower) :
    lower.Counted :=
  ⟨(root_of_giveWay? hlower).trans h.root, Above.giveWay Frame.lasting_isCounted h.above hlower⟩

end Counted

end Stack

-- Whether the step leaves numbers alone, but for markup that waits for a few arguments.
def Step.entersCounted : Step → Bool
  | .enterExpecting context count => context == .markup && count ≤ 4
  | .expectArgument => false
  | _ => true

theorem Stack.Counted.apply {markupArity : String → UInt8}
    (harity : ∀ command, markupArity command ≤ maxMarkupArity) {stack : Stack} (h : stack.Counted)
    {step : Step} (hstep : step.entersCounted = true) (text : Text) :
    (step.apply markupArity text stack).Counted := by
  cases step with
  | enter context => exact h.enter (Frame.isCounted_fresh context)
  | enterExpecting context count =>
    simp only [Step.entersCounted, Bool.and_eq_true, beq_iff_eq, decide_eq_true_eq] at hstep
    obtain ⟨rfl, hcount⟩ := hstep
    exact h.enter hcount
  | leave => exact h.leave
  | endArgument => exact h.endArgument
  | openBody =>
    simp only [Step.apply]
    split
    · exact h.replace (Frame.isCounted_fresh _)
    · exact h.enter (Frame.isCounted_fresh _)
    · exact h
  | markupArguments =>
    simp only [Step.apply]
    split
    · exact h.endArgument
    · exact h.enter (Frame.isCounted_markupFrame (harity _))
  | expectArgument => simp [Step.entersCounted] at hstep
  | schemeExpression => exact h.enter rfl

namespace Context

-- The equals sign that waits for an argument comes alone, and only properties admit it.
theorem entersCounted_steps (context : Context) :
    ∀ kind ∈ context.candidates, kind.steps.all Step.entersCounted = true ∨
      kind.steps = [.expectArgument] ∧ (context = .overriding ∨ context = .setting) := by
  cases context <;> decide

end Context

theorem Lexer.preserves_counted {lexer : Lexer}
    (harity : ∀ command, lexer.markupArity command ≤ maxMarkupArity) :
    lexer.Preserves Stack.Counted := by
  refine ⟨fun h hlower => h.giveWay hlower, ?_⟩
  intro stack kind text hstack hkind
  rcases stack.top.context.entersCounted_steps kind hkind with hsteps | ⟨hsteps, hcontext⟩
  · exact List.foldlRecOn kind.steps _ hstack fun stack hstack step hstep =>
      hstack.apply harity (List.all_eq_true.mp hsteps step hstep) text
  · rw [Kind.transition, hsteps]
    exact hstack.expect hcontext

namespace Lexicon

def HasBoundedArities (lexicon : Lexicon) : Prop :=
  ∀ command, lexicon.markupArity command ≤ maxMarkupArity

theorem arity_le_of_mem_arityTable {words : Category → List String} {entry : String × UInt8}
    (h : entry ∈ arityTable words) : entry.2 ≤ maxMarkupArity := by
  simp only [arityTable, Category.markupArities, List.foldl_flip_cons_eq_append,
    List.reverse_cons, List.reverse_nil, List.nil_append, List.cons_append, List.foldl_cons,
    List.foldl_nil, List.mem_append, List.mem_reverse, List.mem_map, List.append_nil] at h
  rcases h with ⟨_, -, rfl⟩ | ⟨_, -, rfl⟩ | ⟨_, -, rfl⟩ | ⟨_, -, rfl⟩ | ⟨_, -, rfl⟩ <;>
    (dsimp only; decide)

theorem hasBoundedArities_builtin : builtin.HasBoundedArities := by
  intro command
  show (builtinArities.lookup command).getD defaultMarkupArity ≤ maxMarkupArity
  cases hlookup : builtinArities.lookup command with
  | none => decide
  | some arity =>
    obtain ⟨front, back, hsplit, -⟩ := List.lookup_eq_some_iff.mp hlookup
    have hmem : (command, arity) ∈ builtinArities := by simp [hsplit]
    exact arity_le_of_mem_arityTable hmem

end Lexicon

namespace Extension

-- The extensions that can be put together by adding words and declaring numbers of arguments.
inductive Accepted : Extension → Prop where
  | empty : Accepted {}
  | words {extension : Extension} (category : Category) (added : List String)
      (h : Accepted extension) : Accepted (extension.addWords category added)
  | arity {extension next : Extension} {command : String} {count : UInt8}
      (h : Accepted extension) (hnext : extension.declareArity command count = .ok next) :
      Accepted next

theorem Accepted.arity_le {extension : Extension} (h : extension.Accepted) :
    ∀ entry ∈ extension.arities, entry.2 ≤ maxMarkupArity := by
  induction h with
  | empty => simp
  | words category added _ ih => exact ih
  | @arity extension next command count _ hnext ih =>
    unfold declareArity at hnext
    split at hnext
    · simp at hnext
    · next hle =>
      obtain rfl := Except.ok.inj hnext
      exact List.forall_mem_cons.mpr ⟨UInt8.not_lt.mp hle, ih⟩

theorem listedArity?_le {extension : Extension} {command : String} {arity : UInt8}
    (h : extension.listedArity? command = some arity) : arity ≤ maxMarkupArity := by
  have hlists : ∀ entry ∈ Category.markupArities, entry.1 ≤ maxMarkupArity := by decide
  obtain ⟨entry, hfound, rfl⟩ := Option.map_eq_some_iff.mp h
  exact hlists entry (List.mem_of_find?_eq_some hfound)

end Extension

namespace Lexicon

theorem HasBoundedArities.extend {base : Lexicon} (h : base.HasBoundedArities)
    {extension : Extension} (hextension : extension.Accepted) :
    (base.extend extension).HasBoundedArities := by
  intro command
  simp only [Lexicon.extend]
  split
  · next arity hlookup =>
    obtain ⟨front, back, hsplit, -⟩ := List.lookup_eq_some_iff.mp hlookup
    exact hextension.arity_le (command, arity) (by simp [hsplit])
  · cases hlisted : extension.listedArity? command with
    | none => exact h command
    | some arity => exact Extension.listedArity?_le hlisted

end Lexicon

-- At every moment of every session from the toplevel, all frames wait for proper numbers of
-- arguments and the bottom frame for none. The lexicon may give any markup command up to four
-- arguments; the built-in one does, and so does every extension of it that is accepted.
theorem isCounted_of_mem_moments :
    (∀ lexicon : Lexicon, lexicon.HasBoundedArities → ∀ texts : List Text,
      ∀ moment ∈ lexicon.lexer.moments Stack.toplevel texts,
        moment.root = ⟨.toplevel, 0⟩ ∧ ∀ frame ∈ moment.frames, frame.IsCounted) ∧
      Lexicon.builtin.HasBoundedArities ∧
      ∀ extension : Extension, extension.Accepted →
        (Lexicon.builtin.extend extension).HasBoundedArities := by
  refine ⟨?_, Lexicon.hasBoundedArities_builtin,
    fun extension h => Lexicon.hasBoundedArities_builtin.extend h⟩
  intro lexicon harity texts moment hmoment
  have hpreserves : lexicon.lexer.Preserves Stack.Counted := Lexer.preserves_counted harity
  have hcounted := hpreserves.of_mem_moments Stack.counted_toplevel texts moment hmoment
  refine ⟨hcounted.root, ?_⟩
  intro frame hframe
  rcases List.mem_cons.mp hframe with rfl | hframe
  · rw [hcounted.root]
    rfl
  · exact hcounted.above frame (List.mem_reverse.mp hframe)

-- A command of four arguments waits for all of them, and a second text goes on with that.
theorem isCounted_of_mem_moments_pattern :
    let lexicon : Lexicon := ⟨fun _ => [], fun _ => 4⟩
    let texts : List Text := ["\\markup \\pattern".toList, " a b".toList]
    lexicon.HasBoundedArities ∧
      (∃ moment ∈ lexicon.lexer.moments Stack.toplevel texts,
        moment.above = [⟨.markup, 4⟩, ⟨.markup, 1⟩] ∧ ∀ frame ∈ moment.frames, frame.IsCounted) ∧
      ∀ moment ∈ lexicon.lexer.moments Stack.toplevel texts, moment.root = ⟨.toplevel, 0⟩ := by
  intro lexicon texts
  have harity : lexicon.HasBoundedArities := fun _ => UInt8.le_refl 4
  have hall := isCounted_of_mem_moments.1 lexicon harity texts
  have hpending : ∃ moment ∈ lexicon.lexer.moments Stack.toplevel texts,
      moment.above = [⟨.markup, 4⟩, ⟨.markup, 1⟩] := by
    decide +kernel
  obtain ⟨moment, hmem, habove⟩ := hpending
  exact ⟨harity, ⟨moment, hmem, habove, (hall moment hmem).2⟩,
    fun moment hmem => (hall moment hmem).1⟩

end ScoreLexer
