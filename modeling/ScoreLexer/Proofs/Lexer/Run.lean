import ScoreLexer.Lexer.Basic
import ScoreLexer.Proofs.Pattern.Locality

namespace ScoreLexer

def Emission.shift (offset : Nat) (emission : Emission) : Emission :=
  { emission with token := emission.token.shift offset }

namespace Run

def precededBy (emissions : List Emission) (run : Run) : Run :=
  { run with emissions := emissions ++ run.emissions }

def shift (offset : Nat) (run : Run) : Run :=
  { run with emissions := run.emissions.map (Emission.shift offset) }

@[simp] theorem final_precededBy (emissions : List Emission) (run : Run) :
    (run.precededBy emissions).final = run.final := rfl

@[simp] theorem emissions_precededBy (emissions : List Emission) (run : Run) :
    (run.precededBy emissions).emissions = emissions ++ run.emissions := rfl

@[simp] theorem tokens_precededBy (emissions : List Emission) (run : Run) :
    (run.precededBy emissions).tokens = emissions.map Emission.token ++ run.tokens :=
  List.map_append

theorem precededBy_precededBy (former latter : List Emission) (run : Run) :
    (run.precededBy latter).precededBy former = run.precededBy (former ++ latter) := by
  simp [precededBy]

@[simp] theorem final_shift (offset : Nat) (run : Run) : (run.shift offset).final = run.final := rfl

theorem tokens_shift (offset : Nat) (run : Run) :
    (run.shift offset).tokens = run.tokens.map (Token.shift offset) := by
  simp [tokens, shift, Emission.shift]

end Run

namespace Lexer

open Cursor

theorem next_of_claimed {lexer : Lexer} {cursor : Cursor} {stack : Stack} {kind : Kind}
    {count : Nat} (hfirst : lexer.first? stack.top.context cursor = some (kind, count)) :
    lexer.next cursor stack = .emitted [] stack kind count := by
  rw [next, hfirst]

theorem next_of_gaveWay {lexer : Lexer} {cursor : Cursor} {stack lower : Stack}
    (hfirst : lexer.first? stack.top.context cursor = none)
    (hlower : stack.giveWay? = some lower) :
    lexer.next cursor stack = (lexer.next cursor lower).precededBy stack := by
  rw [next, hfirst]
  dsimp only
  split <;> simp_all

theorem next_of_nil {lexer : Lexer} {cursor : Cursor} {stack : Stack}
    (hfirst : lexer.first? stack.top.context cursor = none) (hstays : stack.giveWay? = none)
    (hrest : cursor.rest = []) : lexer.next cursor stack = .stopped [] stack := by
  rw [next, hfirst]
  dsimp only
  split <;> simp_all

theorem next_of_unclaimed {lexer : Lexer} {cursor : Cursor} {stack : Stack} {c : Char}
    {rest : Text} (hfirst : lexer.first? stack.top.context cursor = none)
    (hstays : stack.giveWay? = none) (hrest : cursor.rest = c :: rest) :
    lexer.next cursor stack = .emitted [] stack stack.top.context.defaultKind
      (lexer.unclaimed stack.top.context (some c) rest + 1) := by
  rw [next, hfirst]
  dsimp only
  split <;> simp_all

theorem runFrom_of_stopped {lexer : Lexer} {cursor : Cursor} {stack : Stack}
    {gaveWay : List Stack} {final : Stack} (h : lexer.next cursor stack = .stopped gaveWay final)
    (position : Nat) : lexer.runFrom position cursor stack = ⟨[], gaveWay, final⟩ := by
  rw [runFrom]
  split <;> simp_all

theorem runFrom_of_emitted {lexer : Lexer} {cursor : Cursor} {stack : Stack}
    {gaveWay : List Stack} {last : Stack} {kind : Kind} {count : Nat}
    (h : lexer.next cursor stack = .emitted gaveWay last kind count) (position : Nat) :
    lexer.runFrom position cursor stack =
      (lexer.runFrom (position + Text.byteSize (cursor.rest.take count)) (cursor.advance count)
        (kind.transition lexer.markupArity (cursor.rest.take count) last)).precededBy
        [⟨gaveWay, last, ⟨kind, cursor.rest.take count, position⟩,
          kind.transition lexer.markupArity (cursor.rest.take count) last⟩] := by
  rw [runFrom]
  split
  · simp_all
  · next hnext =>
    rw [h, Outcome.emitted.injEq] at hnext
    obtain ⟨rfl, rfl, rfl, rfl⟩ := hnext
    rfl

theorem first?_similar (lexer : Lexer) (context : Context) {first second : Cursor}
    (h : Similar first second) : lexer.first? context first = lexer.first? context second := by
  have hmatch : ∀ kind, lexer.match? kind first = lexer.match? kind second := by
    intro kind
    unfold match?
    split
    · rfl
    · exact Recognizer.match?_similar _ h
  simp only [first?, firstOf?, hmatch]

theorem next_similar (lexer : Lexer) {first second : Cursor} (h : Similar first second)
    (stack : Stack) : lexer.next first stack = lexer.next second stack := by
  fun_induction next lexer first stack with
  | case1 stack kind count hfirst =>
    rw [lexer.first?_similar _ h] at hfirst
    rw [next_of_claimed hfirst]
  | case2 stack hfirst lower hlower ih =>
    rw [lexer.first?_similar _ h] at hfirst
    rw [next_of_gaveWay hfirst hlower, ih]
  | case3 stack hfirst hlower hrest =>
    rw [lexer.first?_similar _ h] at hfirst
    rw [next_of_nil hfirst hlower (h.rest_eq ▸ hrest)]
  | case4 stack hfirst hlower c rest hrest =>
    rw [lexer.first?_similar _ h] at hfirst
    rw [next_of_unclaimed hfirst hlower (h.rest_eq ▸ hrest)]

theorem advance_similar {first second : Cursor} (h : Similar first second) {count : Nat}
    (hpos : 0 < count) (hle : count ≤ first.rest.length) :
    first.advance count = second.advance count := by
  have hlast : (second.rest.take count).getLast? ≠ none := by
    rw [Ne, List.getLast?_eq_none_iff, List.take_eq_nil_iff]
    have hlength := congrArg List.length h.rest_eq
    rintro (hzero | hnil)
    · omega
    · rw [hnil, List.length_nil] at hlength
      omega
  obtain ⟨c, hc⟩ := Option.ne_none_iff_exists'.mp hlast
  simp only [advance, h.rest_eq, hc, Option.some_or]

-- Only the first token can look back beyond the start.
theorem runFrom_similar (lexer : Lexer) (position : Nat) {first second : Cursor}
    (h : Similar first second) (stack : Stack) :
    lexer.runFrom position first stack = lexer.runFrom position second stack := by
  have hsame := lexer.next_similar h stack
  cases hnext : lexer.next first stack with
  | stopped gaveWay final =>
    rw [runFrom_of_stopped hnext, runFrom_of_stopped (hsame ▸ hnext)]
  | emitted gaveWay last kind count =>
    obtain ⟨hpos, hle⟩ := next_bounds hnext
    have hsecond : lexer.next second stack = .emitted gaveWay last kind count := hsame ▸ hnext
    rw [runFrom_of_emitted hnext, runFrom_of_emitted hsecond, h.rest_eq,
      advance_similar h hpos hle]

theorem runFrom_add (lexer : Lexer) (position offset : Nat) (cursor : Cursor) (stack : Stack) :
    lexer.runFrom (position + offset) cursor stack =
      (lexer.runFrom position cursor stack).shift offset := by
  fun_induction runFrom lexer position cursor stack with
  | case1 position cursor stack gaveWay final hnext => rw [runFrom_of_stopped hnext]; rfl
  | case2 position cursor stack gaveWay last kind count hnext text after later ih =>
    rw [runFrom_of_emitted hnext, Nat.add_right_comm, ih]
    rfl

end Lexer

end ScoreLexer
