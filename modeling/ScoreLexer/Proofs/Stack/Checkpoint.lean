import Mathlib.Data.List.Basic
import ScoreLexer.Proofs.Json.Reading
import ScoreLexer.Proofs.Lexer.Stages
import ScoreLexer.Proofs.Loops
import ScoreLexer.Proofs.Stack.Frames
import ScoreLexer.Stack.Checkpoint

namespace ScoreLexer

def Frame.IsStorable (frame : Frame) : Prop := frame.pending < 0x100000000

def Stack.IsStorable (stack : Stack) : Prop := ∀ frame ∈ stack.frames, frame.IsStorable

theorem Context.ofName?_name (context : Context) : ofName? context.name = some context := by
  have hall : ∀ context ∈ all, ofName? context.name = some context := by decide +kernel
  exact hall context (mem_all context)

namespace Checkpoint

theorem named?_name (context : Context) :
    named? (Json.encodeString context.name.toList) = some context := by
  simp [named?, Json.decodeString?_encodeString, Context.ofName?_name]

theorem count?_ofNat {n : Nat} (h : n < 0x100000000) : count? (.ofNat n) = some n := by
  have hdigits : (Nat.toDigits 10 n).all Text.isAsciiDigit = true :=
    List.all_eq_true.mpr fun c hc => Json.isAsciiDigit_of_mem_toDigits hc
  have hvalue := Nat.ofDigitChars_toDigits (b := 10) (n := n) (by decide) (by decide)
  rw [Nat.ofDigitChars_eq_foldl] at hvalue
  simp only [count?, Json.ofNat, hdigits, if_true, hvalue, h]

theorem frame?_ofFrame {frame : Frame} (h : frame.IsStorable) :
    frame? (ofFrame frame) = some frame := by
  have hcontext : context? (.ofText frame.context.name.toList) = some frame.context :=
    named?_name frame.context
  have hfields : record? ["id", "argcount"] (ofFrame frame) =
      some [.ofText frame.context.name.toList, .ofNat frame.pending] := by
    simp [record?, ofFrame, fields?, Json.member, Json.decodeString?_encodeString]
  simp [frame?, hfields, hcontext, count?_ofNat h]

theorem frames?_ofStack {stack : Stack} (h : stack.IsStorable) :
    frames? (ofStack stack) = some stack.frames := by
  have hfields : record? ["frames"] (ofStack stack) =
      some [.array (stack.frames.map ofFrame)] := by
    simp [record?, ofStack, fields?, Json.member, Json.decodeString?_encodeString]
  simp only [frames?, hfields, Option.bind_eq_bind, Option.bind_some]
  exact mapM_map_of_forall fun frame hframe => frame?_ofFrame (h frame hframe)

theorem composed_ofFrame (frame : Frame) : (ofFrame frame).Composed := by
  refine .object ?_ ?_
  · simp only [List.forall_mem_cons]
    exact ⟨⟨_, rfl⟩, ⟨_, rfl⟩, by simp⟩
  · simp [Json.member, Json.Composed.string, Json.Composed.number]

theorem composed_ofStack (stack : Stack) : (ofStack stack).Composed := by
  have hframes : (Json.array (stack.frames.map ofFrame)).Composed := by
    refine .array fun item hitem => ?_
    obtain ⟨frame, -, rfl⟩ := List.mem_map.mp hitem
    exact composed_ofFrame frame
  refine .object ?_ ?_
  · simp only [List.forall_mem_cons]
    exact ⟨⟨_, rfl⟩, by simp⟩
  · simpa [Json.member] using hframes

theorem parse_print_of_isStorable {stack : Stack} (h : stack.IsStorable) :
    parse (print stack) = .ok stack := by
  simp [parse, print, (composed_ofStack stack).read?_compact, frames?_ofStack h,
    Stack.ofFrames_frames, Json.skipBlank]

theorem count?_lt {json : Json} {n : Nat} (h : count? json = some n) : n < 0x100000000 := by
  unfold count? at h
  split at h <;> grind

theorem isStorable_of_frame? {json : Json} {frame : Frame} (h : frame? json = some frame) :
    frame.IsStorable := by
  obtain ⟨fields, -, h⟩ := Option.bind_eq_some_iff.mp h
  split at h
  · next id count =>
    obtain ⟨context, -, h⟩ := Option.bind_eq_some_iff.mp h
    obtain ⟨pending, hpending, h⟩ := Option.bind_eq_some_iff.mp h
    obtain rfl : ⟨context, pending⟩ = frame := Option.some.inj h
    exact count?_lt hpending
  · simp at h

theorem isStorable_of_frames? {json : Json} {frames : List Frame} (h : frames? json = some frames) :
    ∀ frame ∈ frames, frame.IsStorable := by
  obtain ⟨fields, -, h⟩ := Option.bind_eq_some_iff.mp h
  split at h
  · next items =>
    intro frame hframe
    obtain ⟨item, -, hitem⟩ := exists_of_mem_mapM h frame hframe
    exact isStorable_of_frame? hitem
  · simp at h

end Checkpoint

namespace Frame

theorem IsStorable.of_le {frame earlier : Frame} (h : earlier.IsStorable)
    (hle : frame.pending ≤ earlier.pending) : frame.IsStorable := Nat.lt_of_le_of_lt hle h

theorem isStorable_fresh (context : Context) : (fresh context).IsStorable := by
  cases context <;> simp [IsStorable, fresh, Context.freshArguments]

theorem lasting_isStorable : Lasting IsStorable := by
  refine ⟨isStorable_fresh, ?_⟩
  intro frame more h hpending
  exact h.of_le (by simp only [hpending]; omega)

theorem isStorable_markupFrame (arity : UInt8) : (Step.markupFrame arity).IsStorable :=
  Nat.lt_trans arity.toNat_lt (by decide)

end Frame

namespace Stack

structure StorableOn (context : Context) (stack : Stack) : Prop where
  context : stack.root.context = context
  root : stack.root.IsStorable
  above : ∀ frame ∈ stack.above, frame.IsStorable

theorem mem_frames {stack : Stack} {frame : Frame} :
    frame ∈ stack.frames ↔ frame = stack.root ∨ frame ∈ stack.above := by
  simp [frames]

theorem IsStorable.storableOn {stack : Stack} (h : stack.IsStorable) :
    stack.StorableOn stack.root.context :=
  ⟨rfl, h stack.root (mem_frames.mpr (.inl rfl)),
    fun frame hframe => h frame (mem_frames.mpr (.inr hframe))⟩

namespace StorableOn

variable {context : Context} {stack : Stack}

theorem isStorable (h : stack.StorableOn context) : stack.IsStorable := by
  intro frame hframe
  rcases mem_frames.mp hframe with rfl | hframe
  · exact h.root
  · exact h.above frame hframe

theorem enter (h : stack.StorableOn context) {frame : Frame} (hframe : frame.IsStorable) :
    (stack.enter frame).StorableOn context := ⟨h.context, h.root, Above.enter h.above hframe⟩

theorem leave (h : stack.StorableOn context) : stack.leave.StorableOn context :=
  ⟨h.context, h.root, Above.leave h.above⟩

theorem replace (h : stack.StorableOn context) {frame : Frame} (hframe : frame.IsStorable) :
    (stack.replace frame).StorableOn context := by
  have hroot := root_replace frame stack
  exact ⟨hroot ▸ h.context, hroot ▸ h.root, Above.replace h.above hframe⟩

theorem endArgument (h : stack.StorableOn context) : stack.endArgument.StorableOn context := by
  have habove := Above.endArgument Frame.lasting_isStorable h.above
  unfold Stack.endArgument at habove ⊢
  split at habove
  · exact ⟨h.context, h.root, habove⟩
  · exact ⟨h.context, h.root.of_le (Nat.sub_le _ _), habove⟩

theorem expect (h : stack.StorableOn context) : (stack.expect 1).StorableOn context := by
  have hone (context : Context) : Frame.IsStorable ⟨context, 1⟩ := by simp [Frame.IsStorable]
  have habove := h.above
  unfold Stack.expect
  split
  · exact ⟨h.context, hone _, habove⟩
  · next frame below hframes =>
    rw [hframes] at habove
    exact ⟨h.context, h.root,
      List.forall_mem_cons.mpr ⟨hone _, (List.forall_mem_cons.mp habove).2⟩⟩

theorem giveWay (h : stack.StorableOn context) {lower : Stack}
    (hlower : stack.giveWay? = some lower) : lower.StorableOn context := by
  have hroot := root_of_giveWay? hlower
  exact ⟨hroot ▸ h.context, hroot ▸ h.root,
    Above.giveWay Frame.lasting_isStorable h.above hlower⟩

end StorableOn

end Stack

namespace Kind

theorem le_of_enterExpecting_mem {kind : Kind} {context : Context} {count : Nat}
    (h : .enterExpecting context count ∈ kind.steps) : count ≤ 1 := by
  have hsteps : kind.steps.all
      (fun step => match step with | .enterExpecting _ count => count ≤ 1 | _ => true) = true := by
    cases kind <;> rfl
  exact of_decide_eq_true (List.all_eq_true.mp hsteps _ h)

end Kind

theorem Lexer.preservesSteps_storableOn (lexer : Lexer) (context : Context) :
    lexer.PreservesSteps (Stack.StorableOn context) := by
  refine ⟨fun h hlower => h.giveWay hlower, ?_⟩
  intro stack kind step text h hstep
  cases step with
  | enter context => exact h.enter (Frame.isStorable_fresh context)
  | enterExpecting context count =>
    have hcount := Kind.le_of_enterExpecting_mem hstep
    exact h.enter (Nat.lt_of_le_of_lt hcount (by decide))
  | leave => exact h.leave
  | endArgument => exact h.endArgument
  | openBody =>
    simp only [Step.apply]
    split
    · exact h.replace (Frame.isStorable_fresh _)
    · exact h.enter (Frame.isStorable_fresh _)
    · exact h
  | markupArguments =>
    simp only [Step.apply]
    split
    · exact h.endArgument
    · exact h.enter (Frame.isStorable_markupFrame _)
  | expectArgument => exact h.expect
  | schemeExpression => exact h.enter (by simp [Frame.IsStorable, Step.schemeFrame])

theorem Stack.frames_of_ofFrames {frames : List Frame} {stack : Stack}
    (h : ofFrames frames = .ok stack) :
    stack.frames = frames ∧
      ∃ root above, frames = root :: above ∧ root.context.canBeRoot = true := by
  unfold ofFrames at h
  split at h
  · simp at h
  · next root above =>
    split at h
    · next hroot =>
      obtain rfl := Except.ok.inj h
      exact ⟨by simp [Stack.frames], root, above, rfl, hroot⟩
    · simp at h

namespace Checkpoint

theorem frames?_of_parse {text : Text} {stack : Stack} (h : parse text = .ok stack) :
    ∃ json rest, Json.read? text = some (json, rest) ∧ frames? json = some stack.frames ∧
      Stack.ofFrames stack.frames = .ok stack := by
  unfold parse at h
  split at h
  · simp at h
  · next json rest hread =>
    split at h
    · simp at h
    · next frames hframes =>
      split at h
      · simp at h
      · next accepted haccepted =>
        split at h
        · obtain rfl := Except.ok.inj h
          obtain ⟨rfl, -⟩ := Stack.frames_of_ofFrames haccepted
          exact ⟨json, rest, hread, hframes, haccepted⟩
        · simp at h

-- A stack of admissible frames is restored from its checkpoint. A stack read from any text has the
-- frames that the text describes, rests on a context that can be the bottom one and is restored from
-- a checkpoint of its own. Lexing leaves the bottom context as it is, and every stack on the way is
-- one that its frames make and its checkpoint restores.
theorem parse_print :
    (∀ (frames : List Frame) (stack : Stack), Stack.ofFrames frames = .ok stack →
        (∀ frame ∈ frames, frame.IsStorable) → parse (print stack) = .ok stack) ∧
      (∀ (text : Text) (stack : Stack), parse text = .ok stack →
        (∃ json rest root above, Json.read? text = some (json, rest) ∧
          frames? json = some (root :: above) ∧ stack.frames = root :: above ∧
          root.context.canBeRoot = true) ∧
        parse (print stack) = .ok stack) ∧
      ∀ (lexicon : Lexicon) (stack : Stack) (text : Text), stack.IsStorable →
        ∀ stage ∈ (lexicon.lexer.lex stack text).stages lexicon.markupArity,
          stage.root.context = stack.root.context ∧ Stack.ofFrames stage.frames = .ok stage ∧
            parse (print stage) = .ok stage := by
  refine ⟨?_, ?_, ?_⟩
  · intro frames stack hstack hframes
    obtain ⟨rfl, -⟩ := Stack.frames_of_ofFrames hstack
    exact parse_print_of_isStorable hframes
  · intro text stack htext
    obtain ⟨json, rest, hread, hframes, hstack⟩ := frames?_of_parse htext
    obtain ⟨-, root, above, hcons, hroot⟩ := Stack.frames_of_ofFrames hstack
    exact ⟨⟨json, rest, root, above, hread, hcons ▸ hframes, hcons, hroot⟩,
      parse_print_of_isStorable (isStorable_of_frames? hframes)⟩
  · intro lexicon stack text hstack stage hstage
    have hstage := (lexicon.lexer.preservesSteps_storableOn stack.root.context).of_mem_stages
      hstack.storableOn text stage hstage
    exact ⟨hstage.context, stage.ofFrames_frames, parse_print_of_isStorable hstage.isStorable⟩

-- Lists in place of the objects, a name as the only key of an object, and the largest number of
-- arguments there is, which lexing then counts down.
theorem parse_print_positional :
    let text : Text := " [[[\"Toplevel\", 0], [\x7b\"Markup\": null\x7d, 4294967295]]] ".toList
    let stack : Stack := Stack.toplevel.enter ⟨.markup, 0xFFFFFFFF⟩
    let counted : Stack := Stack.toplevel.enter ⟨.markup, 0xFFFFFFFE⟩
    let run : Run := Lexer.builtin.lex stack "\\bold a".toList
    parse text = .ok stack ∧ stack.IsStorable ∧ parse (print stack) = .ok stack ∧
      counted ∈ run.stages Lexicon.builtin.markupArity ∧
      ∀ stage ∈ run.stages Lexicon.builtin.markupArity, parse (print stage) = .ok stage := by
  intro text stack counted run
  obtain ⟨hmade, hread, hlexed⟩ := parse_print
  have htext : parse text = .ok stack := by decide +kernel
  have hstorable : stack.IsStorable := by
    simp [Stack.IsStorable, stack, Stack.enter, Stack.toplevel, Stack.frames, Frame.IsStorable,
      Frame.fresh, Context.freshArguments]
  have hcounted : counted ∈ run.stages Lexicon.builtin.markupArity := by decide +kernel
  exact ⟨htext, hstorable, hmade stack.frames stack stack.ofFrames_frames hstorable, hcounted,
    fun stage hstage => (hlexed Lexicon.builtin stack _ hstorable stage hstage).2.2⟩

end Checkpoint

end ScoreLexer
