import ScoreLexer.Lexer.Basic

namespace ScoreLexer

def Emission.moments (emission : Emission) : List Stack :=
  emission.gaveWay ++ [emission.stack, emission.after]

def Run.moments (run : Run) : List Stack :=
  run.emissions.flatMap Emission.moments ++ (run.gaveWay ++ [run.final])

-- All stacks of a session that lexes texts one after the other, each from the stack that the one
-- before ended with.
def Lexer.moments (lexer : Lexer) : Stack → List Text → List Stack
  | _, [] => []
  | stack, text :: texts =>
      let run := lexer.lex stack text
      run.moments ++ lexer.moments run.final texts

theorem Kind.transition_defaultKind (markupArity : String → UInt8) (context : Context) (text : Text)
    (stack : Stack) : context.defaultKind.transition markupArity text stack = stack := by
  cases context <;> rfl

structure Lexer.Preserves (lexer : Lexer) (property : Stack → Prop) : Prop where
  giveWay : ∀ {stack lower : Stack}, property stack → stack.giveWay? = some lower → property lower
  transition : ∀ {stack : Stack} {kind : Kind} (text : Text), property stack →
    kind ∈ stack.top.context.candidates →
    property (kind.transition lexer.markupArity text stack)

namespace Lexer

theorem mem_candidates_of_first? {lexer : Lexer} {context : Context} {cursor : Cursor} {kind : Kind}
    {count : Nat} (h : lexer.first? context cursor = some (kind, count)) :
    kind ∈ context.candidates := by
  obtain ⟨candidate, hmem, hmatch⟩ := List.exists_of_findSome?_eq_some h
  obtain ⟨found, -, heq⟩ := Option.map_eq_some_iff.mp hmatch
  obtain ⟨rfl, -⟩ := Prod.mk.inj heq
  exact hmem

namespace Preserves

variable {lexer : Lexer} {property : Stack → Prop}

theorem of_next_emitted (h : lexer.Preserves property) {cursor : Cursor} {stack : Stack}
    (hstack : property stack) {gaveWay : List Stack} {settled : Stack} {kind : Kind} {count : Nat}
    (hnext : lexer.next cursor stack = .emitted gaveWay settled kind count) (text : Text) :
    (∀ moment ∈ gaveWay, property moment) ∧ property settled ∧
      property (kind.transition lexer.markupArity text settled) := by
  fun_induction next lexer cursor stack generalizing gaveWay with
  | case1 stack kind' count' hfirst =>
    simp only [Outcome.emitted.injEq] at hnext
    obtain ⟨rfl, rfl, rfl, rfl⟩ := hnext
    exact ⟨by simp, hstack, h.transition text hstack (mem_candidates_of_first? hfirst)⟩
  | case2 stack hfirst lower hlower ih =>
    obtain ⟨later, rfl, hlow⟩ := Outcome.exists_of_precededBy_emitted hnext
    obtain ⟨hlater, hrest⟩ := ih (h.giveWay hstack hlower) hlow
    exact ⟨List.forall_mem_cons.mpr ⟨hstack, hlater⟩, hrest⟩
  | case3 => simp at hnext
  | case4 stack hfirst hlower c rest hrest =>
    simp only [Outcome.emitted.injEq] at hnext
    obtain ⟨rfl, rfl, rfl, rfl⟩ := hnext
    rw [Kind.transition_defaultKind]
    exact ⟨by simp, hstack, hstack⟩

theorem of_next_stopped (h : lexer.Preserves property) {cursor : Cursor} {stack : Stack}
    (hstack : property stack) {gaveWay : List Stack} {final : Stack}
    (hnext : lexer.next cursor stack = .stopped gaveWay final) :
    (∀ moment ∈ gaveWay, property moment) ∧ property final := by
  fun_induction next lexer cursor stack generalizing gaveWay with
  | case1 => simp at hnext
  | case2 stack hfirst lower hlower ih =>
    obtain ⟨later, rfl, hlow⟩ := Outcome.exists_of_precededBy_stopped hnext
    obtain ⟨hlater, hfinal⟩ := ih (h.giveWay hstack hlower) hlow
    exact ⟨List.forall_mem_cons.mpr ⟨hstack, hlater⟩, hfinal⟩
  | case3 stack =>
    simp only [Outcome.stopped.injEq] at hnext
    obtain ⟨rfl, rfl⟩ := hnext
    exact ⟨by simp, hstack⟩
  | case4 => simp at hnext

theorem of_mem_moments_runFrom (h : lexer.Preserves property) (position : Nat) (cursor : Cursor)
    {stack : Stack} (hstack : property stack) :
    ∀ moment ∈ (lexer.runFrom position cursor stack).moments, property moment := by
  fun_induction runFrom lexer position cursor stack with
  | case1 position cursor stack gaveWay final hnext =>
    obtain ⟨hgaveWay, hfinal⟩ := h.of_next_stopped hstack hnext
    simpa [Run.moments, or_imp, forall_and] using ⟨hgaveWay, hfinal⟩
  | case2 position cursor stack gaveWay settled kind count hnext text after later ih =>
    obtain ⟨hgaveWay, hsettled, hafter⟩ := h.of_next_emitted hstack hnext text
    intro moment hmoment
    rw [Run.moments, List.flatMap_cons, List.append_assoc, List.mem_append] at hmoment
    rcases hmoment with hmoment | hmoment
    · simp only [Emission.moments, List.mem_append, List.mem_cons, List.not_mem_nil,
        or_false] at hmoment
      rcases hmoment with hmoment | rfl | rfl
      · exact hgaveWay moment hmoment
      · exact hsettled
      · exact hafter
    · exact ih hafter moment hmoment

theorem final_lex (h : lexer.Preserves property) {stack : Stack} (hstack : property stack)
    (text : Text) : property (lexer.lex stack text).final :=
  h.of_mem_moments_runFrom 0 (Cursor.start text) hstack _ (by simp [Run.moments, lex])

theorem of_mem_moments (h : lexer.Preserves property) {stack : Stack} (hstack : property stack)
    (texts : List Text) : ∀ moment ∈ lexer.moments stack texts, property moment := by
  induction texts generalizing stack with
  | nil => simp [moments]
  | cons text texts ih =>
    intro moment hmoment
    rcases List.mem_append.mp hmoment with hmoment | hmoment
    · exact h.of_mem_moments_runFrom 0 (Cursor.start text) hstack moment hmoment
    · exact ih (h.final_lex hstack text) moment hmoment

end Preserves

end Lexer

end ScoreLexer
