import ScoreLexer.Proofs.Lexer.LineBoundary
import ScoreLexer.Proofs.Lexer.Moments

namespace ScoreLexer

def Text.prepend (piece : Text) (parts : Text × Text) : Text × Text := (piece ++ parts.1, parts.2)

theorem Text.map_prepend_nil (parts : Option (Text × Text)) : parts.map (prepend []) = parts := by
  cases parts <;> rfl

theorem Text.map_prepend_prepend (front back : Text) (parts : Option (Text × Text)) :
    (parts.map (prepend back)).map (prepend front) = parts.map (prepend (front ++ back)) := by
  cases parts <;> simp [prepend]

-- A context that a mark ends, and a scan for the first mark that counts. The lexer has no such
-- scan: it stops wherever something matches, so where the body ends is the outcome of many tokens.
structure Enclosure where
  context : Context
  closer : Kind
  mark : Text
  -- the text before the mark and the text after it
  scan : Text → Option (Text × Text)

namespace Enclosure

def inner (enclosure : Enclosure) : List Kind :=
  (enclosure.context.defaultKind :: enclosure.context.candidates).filter (· != enclosure.closer)

-- What the lexer comes upon inside the enclosure, and what the scan makes of it.
inductive Finds (enclosure : Enclosure) (lexer : Lexer) (before : Option Char) : Text → Prop where
  | mark (rest : Text)
      (hfirst : lexer.first? enclosure.context ⟨before, enclosure.mark ++ rest⟩ =
        some (enclosure.closer, enclosure.mark.length))
      (hscan : enclosure.scan (enclosure.mark ++ rest) = some ([], rest)) :
      Finds enclosure lexer before (enclosure.mark ++ rest)
  | piece (kind : Kind) (piece rest : Text) (hkind : kind ∈ enclosure.inner)
      (hsteps : kind.steps = [])
      (hfirst : lexer.first? enclosure.context ⟨before, piece ++ rest⟩ = some (kind, piece.length))
      (hscan : enclosure.scan (piece ++ rest) = (enclosure.scan rest).map (Text.prepend piece)) :
      Finds enclosure lexer before (piece ++ rest)
  | unclaimed (c : Char) (rest : Text)
      (hfirst : lexer.first? enclosure.context ⟨before, c :: rest⟩ = none)
      (hscan : enclosure.scan (c :: rest) = (enclosure.scan rest).map (Text.prepend [c])) :
      Finds enclosure lexer before (c :: rest)
  | nothing (hscan : enclosure.scan [] = none) : Finds enclosure lexer before []

structure Guides (enclosure : Enclosure) (lexer : Lexer) : Prop where
  stays : enclosure.context.fallthrough? = none
  default_mem : enclosure.context.defaultKind ∈ enclosure.inner
  -- no word goes on across the mark
  apart : ∀ rest, Cursor.Similar ⟨enclosure.mark.getLast?, rest⟩ (Cursor.start rest)
  finds : ∀ before text, enclosure.Finds lexer before text

namespace Guides

variable {enclosure : Enclosure} {lexer : Lexer}

theorem scan_unclaimed (h : enclosure.Guides lexer) (before : Option Char) (text : Text) :
    let count := lexer.unclaimed enclosure.context before text
    enclosure.scan text =
      (enclosure.scan (text.drop count)).map (Text.prepend (text.take count)) := by
  induction text generalizing before with
  | nil => exact (Text.map_prepend_nil _).symm
  | cons c rest ih =>
    rw [Lexer.unclaimed]
    split
    · exact (Text.map_prepend_nil _).symm
    · next hsilent =>
      generalize htext : c :: rest = text at hsilent ⊢
      cases h.finds before text with
      | mark rest' hfirst => simp [hfirst] at hsilent
      | piece kind piece rest' _ _ hfirst => simp [hfirst] at hsilent
      | nothing => simp at htext
      | unclaimed c' rest' _ hscan =>
        obtain ⟨rfl, rfl⟩ := List.cons.inj htext
        rw [hscan, ih (some c), Text.map_prepend_prepend]
        rfl

theorem next_cases (h : enclosure.Guides lexer) {stack : Stack}
    (hstack : stack.top.context = enclosure.context) (before : Option Char) (text : Text) :
    (∃ rest, text = enclosure.mark ++ rest ∧ enclosure.scan text = some ([], rest) ∧
      lexer.next ⟨before, text⟩ stack =
        .emitted [] stack enclosure.closer enclosure.mark.length) ∨
      (∃ kind piece rest, text = piece ++ rest ∧ kind ∈ enclosure.inner ∧
        kind.transition lexer.markupArity piece stack = stack ∧
        enclosure.scan text = (enclosure.scan rest).map (Text.prepend piece) ∧
        lexer.next ⟨before, text⟩ stack = .emitted [] stack kind piece.length) ∨
      text = [] ∧ enclosure.scan text = none ∧
        lexer.next ⟨before, text⟩ stack = .stopped [] stack := by
  have hstays : stack.giveWay? = none := Stack.giveWay?_eq_none_iff.mpr (hstack ▸ h.stays)
  have hpassed := h.scan_unclaimed before text
  cases h.finds before text with
  | mark rest hfirst hscan =>
    exact .inl ⟨rest, rfl, hscan, Lexer.next_of_claimed (hstack ▸ hfirst)⟩
  | piece kind piece rest hkind hsteps hfirst hscan =>
    refine .inr (.inl ⟨kind, piece, rest, rfl, hkind, ?_, hscan,
      Lexer.next_of_claimed (hstack ▸ hfirst)⟩)
    rw [Kind.transition, hsteps, List.foldl_nil]
  | unclaimed c rest hfirst =>
    have hnext := Lexer.next_of_unclaimed (hstack ▸ hfirst) hstays rfl
    have hcount : lexer.unclaimed enclosure.context before (c :: rest) =
        lexer.unclaimed enclosure.context (some c) rest + 1 := by
      rw [Lexer.unclaimed, hfirst]
      rfl
    have hlength := lexer.unclaimed_le enclosure.context before (c :: rest)
    rw [hstack, ← hcount] at hnext
    refine .inr (.inl ⟨_, _, _, (List.take_append_drop _ _).symm, h.default_mem,
      Kind.transition_defaultKind _ _ _ _, hpassed, ?_⟩)
    rw [hnext, List.length_take, Nat.min_eq_left hlength]
  | nothing hscan =>
    have hfirst : lexer.first? stack.top.context ⟨before, []⟩ = none :=
      lexer.first?_eq_none_of_nil stack.top.context rfl
    exact .inr (.inr ⟨rfl, hscan, Lexer.next_of_nil hfirst hstays rfl⟩)

-- The tokens up to the mark cover the body, then comes the mark, and the run goes on after it.
-- Without a mark the whole text is inside. By induction on the length of the text: every token but
-- the mark leaves a shorter one on the same stack.
theorem runFrom_cases (h : enclosure.Guides lexer) {stack : Stack}
    (hstack : stack.top.context = enclosure.context) (position : Nat) (before : Option Char)
    (text : Text) :
    let after := enclosure.closer.transition lexer.markupArity enclosure.mark stack
    ∃ inside : List Emission, (∀ emission ∈ inside, emission.token.kind ∈ enclosure.inner) ∧
      match enclosure.scan text with
      | some (body, rest) =>
          text = body ++ (enclosure.mark ++ rest) ∧
            Partition position body (inside.map Emission.token) ∧
            lexer.runFrom position ⟨before, text⟩ stack =
              (lexer.runFrom (position + Text.byteSize (body ++ enclosure.mark))
                ⟨enclosure.mark.getLast?, rest⟩ after).precededBy
                (inside ++ [⟨[], stack, ⟨enclosure.closer, enclosure.mark,
                  position + body.byteSize⟩, after⟩])
      | none => lexer.runFrom position ⟨before, text⟩ stack = ⟨inside, [], stack⟩ := by
  intro after
  induction hlength : text.length using Nat.strongRecOn generalizing text position before with
  | ind length ih =>
    rcases h.next_cases hstack before text with
      ⟨rest, rfl, hscan, hnext⟩ | ⟨kind, piece, rest, rfl, hkind, hsame, hscan, hnext⟩ |
        ⟨rfl, hscan, hnext⟩
    · refine ⟨[], by simp, ?_⟩
      have hmark : enclosure.mark.getLast?.isSome := by
        have hpos := (Lexer.next_bounds hnext).1
        rw [List.getLast?_isSome]
        exact List.length_pos_iff.mp hpos
      rw [hscan, Lexer.runFrom_of_emitted hnext]
      refine ⟨rfl, rfl, ?_⟩
      simp only [Cursor.advance, List.take_left, List.drop_left, Option.or_of_isSome hmark]
      rfl
    · have hpos := (Lexer.next_bounds hnext).1
      have hshort : rest.length < length := by
        rw [← hlength, List.length_append]
        omega
      obtain ⟨inside, hinside, hrest⟩ := ih rest.length hshort
        (position + piece.byteSize) (piece.getLast?.or before) rest rfl
      have hrun := Lexer.runFrom_of_emitted hnext position
      simp only [Cursor.advance, List.take_left, List.drop_left, hsame] at hrun
      refine ⟨⟨[], stack, ⟨kind, piece, position⟩, stack⟩ :: inside,
        List.forall_mem_cons.mpr ⟨hkind, hinside⟩, ?_⟩
      rw [hscan]
      cases hparts : enclosure.scan rest with
      | none =>
        rw [hparts] at hrest
        rw [Option.map_none, hrun, hrest]
        rfl
      | some parts =>
        obtain ⟨body, after⟩ := parts
        rw [hparts] at hrest
        obtain ⟨rfl, hpartition, hlater⟩ := hrest
        refine ⟨(List.append_assoc _ _ _).symm, ⟨rfl, List.length_pos_iff.mp hpos, body, rfl,
          hpartition⟩, ?_⟩
        rw [hrun, hlater, Run.precededBy_precededBy]
        simp only [Text.byteSize_append, List.append_assoc, Nat.add_assoc]
        rfl
    · refine ⟨[], by simp, ?_⟩
      rw [hscan, Lexer.runFrom_of_stopped hnext]

theorem lex_cases (h : enclosure.Guides lexer) (stack : Stack)
    (hstack : stack.top.context = enclosure.context) (text : Text) :
    let after := enclosure.closer.transition lexer.markupArity enclosure.mark stack
    ∃ inside : List Emission, (∀ emission ∈ inside, emission.token.kind ∈ enclosure.inner) ∧
      match enclosure.scan text with
      | some (body, rest) =>
          text = body ++ (enclosure.mark ++ rest) ∧
            Partition 0 body (inside.map Emission.token) ∧
            lexer.lex stack text =
              ((lexer.lex after rest).shift (Text.byteSize (body ++ enclosure.mark))).precededBy
                (inside ++ [⟨[], stack, ⟨enclosure.closer, enclosure.mark, body.byteSize⟩, after⟩])
      | none => lexer.lex stack text = ⟨inside, [], stack⟩ := by
  intro after
  obtain ⟨inside, hinside, hrun⟩ := h.runFrom_cases hstack 0 none text
  refine ⟨inside, hinside, ?_⟩
  cases hscan : enclosure.scan text with
  | none =>
    rw [hscan] at hrun
    exact hrun
  | some parts =>
    obtain ⟨body, rest⟩ := parts
    rw [hscan] at hrun
    obtain ⟨htext, hpartition, hrun⟩ := hrun
    refine ⟨htext, hpartition, ?_⟩
    rw [Lexer.runFrom_similar lexer _ (h.apart rest), Lexer.runFrom_add, Nat.zero_add] at hrun
    exact hrun

theorem lex_emissions (h : enclosure.Guides lexer) (stack : Stack)
    (hstack : stack.top.context = enclosure.context) (text : Text) :
    let run := lexer.lex stack text
    match enclosure.scan text with
    | some (body, rest) =>
        text = body ++ (enclosure.mark ++ rest) ∧
          ∃ former closing latter, run.emissions = former ++ closing :: latter ∧
            (∀ token ∈ former.map Emission.token, token.kind ∈ enclosure.inner) ∧
            Partition 0 body (former.map Emission.token) ∧
            closing.token = ⟨enclosure.closer, enclosure.mark, Text.byteSize body⟩ ∧
            closing.after = enclosure.closer.transition lexer.markupArity enclosure.mark stack
    | none => (∀ token ∈ run.tokens, token.kind ∈ enclosure.inner) ∧ run.final = stack := by
  intro run
  obtain ⟨former, hformer, hrun⟩ := h.lex_cases stack hstack text
  rw [← List.forall_mem_map (f := Emission.token) (P := fun token => token.kind ∈ enclosure.inner)]
    at hformer
  cases hscan : enclosure.scan text with
  | none =>
    rw [hscan] at hrun
    rw [show run = _ from hrun]
    exact ⟨hformer, rfl⟩
  | some parts =>
    obtain ⟨body, rest⟩ := parts
    rw [hscan] at hrun
    obtain ⟨htext, hpartition, hrun⟩ := hrun
    have hemissions := congrArg Run.emissions hrun
    rw [Run.emissions_precededBy, List.append_assoc, List.singleton_append] at hemissions
    exact ⟨htext, former, _, _, hemissions, hformer, hpartition, rfl, rfl⟩

end Guides

end Enclosure

end ScoreLexer
