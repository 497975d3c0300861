import ScoreLexer.Proofs.Lexer.Moments

namespace ScoreLexer

-- The stacks around a token: those that give way before it, the one that emits it, and the ones
-- after each of its steps.
def Emission.stages (markupArity : String → UInt8) (emission : Emission) : List Stack :=
  emission.gaveWay ++
    emission.token.kind.steps.scanl (Step.apply markupArity emission.token.text) emission.stack

def Run.stages (markupArity : String → UInt8) (run : Run) : List Stack :=
  run.emissions.flatMap (Emission.stages markupArity) ++ (run.gaveWay ++ [run.final])

theorem of_mem_scanl {α β : Type} {f : β → α → β} {property : β → Prop} {steps : List α}
    (hstep : ∀ step ∈ steps, ∀ b, property b → property (f b step)) {start : β}
    (hstart : property start) : ∀ b ∈ steps.scanl f start, property b := by
  induction steps generalizing start with
  | nil => simpa using hstart
  | cons step steps ih =>
    obtain ⟨hfirst, hsteps⟩ := List.forall_mem_cons.mp hstep
    rw [List.scanl_cons]
    exact List.forall_mem_cons.mpr ⟨hstart, ih hsteps (hfirst start hstart)⟩

namespace Lexer

structure PreservesSteps (lexer : Lexer) (property : Stack → Prop) : Prop where
  giveWay : ∀ {stack lower : Stack}, property stack → stack.giveWay? = some lower → property lower
  apply : ∀ {stack : Stack} {kind : Kind} {step : Step} (text : Text), property stack →
    step ∈ kind.steps → property (step.apply lexer.markupArity text stack)

namespace PreservesSteps

variable {lexer : Lexer} {property : Stack → Prop}

theorem preserves (h : lexer.PreservesSteps property) : lexer.Preserves property := by
  refine ⟨h.giveWay, ?_⟩
  intro stack kind text hstack _
  exact List.foldlRecOn kind.steps _ hstack fun stack hstack step hstep =>
    h.apply text hstack hstep

theorem of_mem_stages (h : lexer.PreservesSteps property) {stack : Stack} (hstack : property stack)
    (text : Text) :
    ∀ stage ∈ (lexer.lex stack text).stages lexer.markupArity, property stage := by
  have hmoments := h.preserves.of_mem_moments_runFrom 0 (Cursor.start text) hstack
  simp only [Run.moments, List.mem_append, List.mem_flatMap] at hmoments
  intro stage hstage
  rcases List.mem_append.mp hstage with hstage | hstage
  · obtain ⟨emission, hemission, hstage⟩ := List.mem_flatMap.mp hstage
    have hemits : property emission.stack :=
      hmoments _ (.inl ⟨emission, hemission, by simp [Emission.moments]⟩)
    rcases List.mem_append.mp hstage with hstage | hstage
    · exact hmoments stage (.inl ⟨emission, hemission, List.mem_append_left _ hstage⟩)
    · exact of_mem_scanl (fun step hstep _ hb => h.apply _ hb hstep) hemits stage hstage
  · exact hmoments stage (.inr (List.mem_append.mp hstage))

end PreservesSteps

end Lexer

end ScoreLexer
