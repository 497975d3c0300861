import ScoreLexer.Proofs.Lexer.Run
import ScoreLexer.Proofs.Lexer.Turn
import ScoreLexer.Proofs.Pattern.Match
import ScoreLexer.Proofs.Pattern.Opening

namespace ScoreLexer

theorem Text.head?_append_any {p : Char → Bool} {text : Text} (h : text.head?.any p = true)
    (rest : Text) : (text ++ rest).head?.any p = true := by
  cases text with
  | nil => simp at h
  | cons c text => exact h

namespace Lexer

theorem firstOf?_of_match? {lexer : Lexer} {kinds : List Kind} {cursor : Cursor} {kind : Kind}
    {count : Nat} (hmem : kind ∈ kinds)
    (hrefused : lexer.firstOf? (kinds.takeWhile (· != kind)) cursor = none)
    (hmatch : lexer.match? kind cursor = some count) :
    lexer.firstOf? kinds cursor = some (kind, count) := by
  induction kinds with
  | nil => simp at hmem
  | cons head kinds ih =>
    by_cases hhead : head = kind
    · rw [firstOf?, List.findSome?_cons, hhead, hmatch]
      rfl
    · rw [List.takeWhile_cons_of_pos (by simpa using hhead), firstOf?, List.findSome?_cons]
        at hrefused
      rw [firstOf?, List.findSome?_cons]
      have htail := List.mem_of_ne_of_mem (Ne.symm hhead) hmem
      cases hfirst : lexer.match? head cursor with
      | some count => simp [hfirst] at hrefused
      | none =>
        rw [hfirst] at hrefused
        exact ih htail hrefused

theorem firstOf?_append (lexer : Lexer) (former latter : List Kind) (cursor : Cursor) :
    lexer.firstOf? (former ++ latter) cursor =
      (lexer.firstOf? former cursor).or (lexer.firstOf? latter cursor) :=
  List.findSome?_append

theorem match?_eq {lexer : Lexer} {kind : Kind} {recognizer : Recognizer}
    (hkind : kind.recognizer? lexer.vocabulary = some recognizer) (cursor : Cursor) :
    lexer.match? kind cursor = recognizer.match? cursor := by
  rw [match?, hkind]

theorem first?_of_ends {lexer : Lexer} {context : Context} {kind : Kind} {recognizer : Recognizer}
    {before : Option Char} {text rest : Text} (hmem : kind ∈ context.candidates)
    (hrefused :
      lexer.firstOf? (context.candidates.takeWhile (· != kind)) ⟨before, text ++ rest⟩ = none)
    (hkind : kind.recognizer? lexer.vocabulary = some recognizer)
    (hstart : recognizer.fromWordStart = false) (hne : text ≠ [])
    (hends : (recognizer.pattern.ends ⟨before, text ++ rest⟩).head?.map Cursor.rest = some rest)
    (hguard : recognizer.guard.allows rest.head? = true) :
    lexer.first? context ⟨before, text ++ rest⟩ = some (kind, text.length) := by
  apply firstOf?_of_match? hmem hrefused
  rw [match?_eq hkind, Recognizer.match?_of_ends hstart hne hends hguard]

end Lexer

namespace Stack

theorem frames_enter (frame : Frame) (stack : Stack) :
    (stack.enter frame).frames = stack.frames ++ [frame] := by
  simp [frames, enter]

theorem frames_prefix_enter (frame : Frame) (stack : Stack) :
    stack.frames <+: (stack.enter frame).frames := by
  rw [frames_enter]
  exact List.prefix_append _ _

end Stack

-- The lexer reads the text before the rest from every stack with the first property. It makes
-- tokens of the given kinds, after each of which the frames of the base are still the lowest ones,
-- and ends with a stack of the second property.
def Reads (lexer : Lexer) (base : Stack) (start : Stack → Prop) (text rest : Text)
    (kinds : List Kind) (finish : Stack → Prop) : Prop :=
  ∀ stack, start stack → ∀ (position : Nat) (before : Option Char), ∃ emissions last,
    emissions.map (fun emission => emission.token.kind) = kinds ∧
      (∀ emission ∈ emissions, base.frames <+: emission.after.frames) ∧ finish last ∧
      lexer.runFrom position ⟨before, text ++ rest⟩ stack =
        (lexer.runFrom (position + text.byteSize) ⟨text.getLast?.or before, rest⟩ last).precededBy
          emissions

namespace Reads

variable {lexer : Lexer} {base : Stack} {start middle finish : Stack → Prop} {rest : Text}

theorem nil : Reads lexer base start [] rest [] start := by
  intro stack hstack position before
  exact ⟨[], stack, rfl, by simp, hstack, rfl⟩

theorem append {former latter : Text} {first second : List Kind}
    (hformer : Reads lexer base start former (latter ++ rest) first middle)
    (hlatter : Reads lexer base middle latter rest second finish) :
    Reads lexer base start (former ++ latter) rest (first ++ second) finish := by
  intro stack hstack position before
  obtain ⟨emissions, between, hkinds, hbase, hbetween, hrun⟩ :=
    hformer stack hstack position before
  obtain ⟨more, last, hmore, hbase', hlast, hnext⟩ :=
    hlatter between hbetween (position + former.byteSize) (former.getLast?.or before)
  refine ⟨emissions ++ more, last, ?_, ?_, hlast, ?_⟩
  · rw [List.map_append, hkinds, hmore]
  · exact List.forall_mem_append.mpr ⟨hbase, hbase'⟩
  · rw [List.append_assoc, hrun, hnext, Run.precededBy_precededBy, Text.byteSize_append,
      Nat.add_assoc, List.getLast?_append, Option.or_assoc]

theorem weaken {text : Text} {kinds : List Kind} {start' finish' : Stack → Prop}
    (h : Reads lexer base start text rest kinds finish)
    (hstart : ∀ stack, start' stack → start stack)
    (hfinish : ∀ stack, finish stack → finish' stack) :
    Reads lexer base start' text rest kinds finish' := by
  intro stack hstack position before
  obtain ⟨emissions, last, hkinds, hbase, hlast, hrun⟩ :=
    h stack (hstart stack hstack) position before
  exact ⟨emissions, last, hkinds, hbase, hfinish last hlast, hrun⟩

theorem lower {text : Text} {kinds : List Kind} {base' : Stack}
    (h : Reads lexer base start text rest kinds finish) (hbase' : base'.frames <+: base.frames) :
    Reads lexer base' start text rest kinds finish := by
  intro stack hstack position before
  obtain ⟨emissions, last, hkinds, hbase, hlast, hrun⟩ := h stack hstack position before
  exact ⟨emissions, last, hkinds, fun emission hemission => hbase'.trans (hbase emission hemission),
    hlast, hrun⟩

theorem token {text : Text} {kind : Kind}
    (h : ∀ stack, start stack → ∀ before, ∃ gaveWay settled,
      lexer.next ⟨before, text ++ rest⟩ stack = .emitted gaveWay settled kind text.length ∧
        finish (kind.transition lexer.markupArity text settled))
    (hbase : ∀ stack, finish stack → base.frames <+: stack.frames) :
    Reads lexer base start text rest [kind] finish := by
  intro stack hstack position before
  obtain ⟨gaveWay, settled, hnext, hfinish⟩ := h stack hstack before
  refine ⟨[⟨gaveWay, settled, ⟨kind, text, position⟩,
    kind.transition lexer.markupArity text settled⟩], _, rfl, ?_, hfinish, ?_⟩
  · simpa using hbase _ hfinish
  · rw [Lexer.runFrom_of_emitted hnext]
    simp only [Cursor.advance, List.take_left', List.drop_left']

end Reads

-- A duration stays on the stack over the blanks after it and gives way before the next token, so
-- most pieces are read from a stack on which one may linger.
def Lingers (settled stack : Stack) : Prop :=
  stack = settled ∨ stack = settled.enter (Frame.fresh .duration)

theorem lingers_self {settled stack : Stack} (h : stack = settled) : Lingers settled stack := .inl h

theorem Lingers.frames_prefix {settled stack : Stack} (h : Lingers settled stack) :
    settled.frames <+: stack.frames := by
  rcases h with rfl | rfl
  · exact List.prefix_rfl
  · exact Stack.frames_prefix_enter _ _

theorem Stack.giveWay?_duration (settled : Stack) :
    (settled.enter (Frame.fresh .duration)).giveWay? =
      some (settled.enter (Frame.fresh .durationScaling)) := rfl

theorem Stack.giveWay?_durationScaling (settled : Stack) :
    (settled.enter (Frame.fresh .durationScaling)).giveWay? = some settled := rfl

def endsDuration (c : Char) : Bool := !Text.isBlank c && !(['%', '.', '*'].contains c)

namespace Lexer

variable {lexer : Lexer}

theorem first?_of_endsDuration (lexer : Lexer) {text : Text}
    (h : text.head?.any endsDuration = true) (before : Option Char) :
    lexer.first? .duration ⟨before, text⟩ = none ∧
      lexer.first? .durationScaling ⟨before, text⟩ = none := by
  cases text with
  | nil => simp at h
  | cons c rest =>
    have hc : endsDuration c = true := h
    simp only [endsDuration, List.contains_cons, List.contains_nil, Bool.or_false,
      Bool.and_eq_true, Bool.not_eq_true', Bool.or_eq_false_iff, beq_eq_false_iff_ne] at hc
    obtain ⟨hblank, hpercent, hdot, hstar⟩ := hc
    constructor <;> apply firstOf?_eq_none <;>
      simp [Context.candidates, Context.spaceItems, Kind.opens, Kind.recognizer?,
        Recognizer.symbol, Recognizer.plain, Pattern.opens, Pattern.word, Pattern.consumes,
        hblank, hpercent.symm, hdot.symm, hstar.symm]

theorem next_of_lingers {cursor : Cursor} {settled stack : Stack} {kind : Kind} {count : Nat}
    (h : Lingers settled stack) (hends : cursor.rest.head?.any endsDuration = true)
    (hfirst : lexer.first? settled.top.context cursor = some (kind, count)) :
    ∃ gaveWay, lexer.next cursor stack = .emitted gaveWay settled kind count := by
  have hsettled := next_of_claimed hfirst
  obtain ⟨hduration, hscaling⟩ := lexer.first?_of_endsDuration hends cursor.before
  rcases h with rfl | rfl
  · exact ⟨[], hsettled⟩
  · rw [next_of_gaveWay hduration settled.giveWay?_duration,
      next_of_gaveWay hscaling settled.giveWay?_durationScaling, hsettled]
    exact ⟨_, rfl⟩

theorem runFrom_nil_of_lingers (lexer : Lexer) {settled stack : Stack} (h : Lingers settled stack)
    (hstays : settled.giveWay? = none) (position : Nat) (before : Option Char) :
    ∃ gaveWay, lexer.runFrom position ⟨before, []⟩ stack = ⟨[], gaveWay, settled⟩ := by
  have hnone : ∀ context, lexer.first? context ⟨before, []⟩ = none :=
    fun context => lexer.first?_eq_none_of_nil context rfl
  have hsettled : lexer.next ⟨before, []⟩ settled = .stopped [] settled :=
    next_of_nil (hnone _) hstays rfl
  rcases h with rfl | rfl
  · exact ⟨_, runFrom_of_stopped hsettled position⟩
  · have hnext := next_of_gaveWay (hnone _) settled.giveWay?_duration
    rw [next_of_gaveWay (hnone _) settled.giveWay?_durationScaling, hsettled] at hnext
    exact ⟨_, runFrom_of_stopped hnext position⟩

end Lexer

namespace Reads

variable {lexer : Lexer} {base settled next : Stack} {text rest : Text} {kind : Kind}

theorem claimed
    (hfirst : ∀ before,
      lexer.first? settled.top.context ⟨before, text ++ rest⟩ = some (kind, text.length))
    (hnext : kind.transition lexer.markupArity text settled = next)
    (hbase : base.frames <+: next.frames) :
    Reads lexer base (· = settled) text rest [kind] (· = next) := by
  apply token
  · rintro stack rfl before
    exact ⟨[], stack, Lexer.next_of_claimed (hfirst before), hnext⟩
  · rintro stack rfl
    exact hbase

theorem settling (hends : text.head?.any endsDuration = true)
    (hfirst : ∀ before,
      lexer.first? settled.top.context ⟨before, text ++ rest⟩ = some (kind, text.length))
    (hnext : kind.transition lexer.markupArity text settled = next)
    (hbase : base.frames <+: next.frames) :
    Reads lexer base (Lingers settled) text rest [kind] (· = next) := by
  apply token
  · intro stack hstack before
    obtain ⟨gaveWay, hemitted⟩ :=
      Lexer.next_of_lingers hstack (Text.head?_append_any hends rest) (hfirst before)
    exact ⟨gaveWay, settled, hemitted, hnext⟩
  · rintro stack rfl
    exact hbase

end Reads

end ScoreLexer
