import ScoreLexer.Stack.Step
import ScoreLexer.Token.Basic
import ScoreLexer.Token.Recognition

namespace ScoreLexer

structure Lexer where
  vocabulary : Vocabulary
  markupArity : String → UInt8

def Lexicon.lexer (lexicon : Lexicon) : Lexer :=
  { vocabulary := .ofLexicon lexicon, markupArity := lexicon.markupArity }

structure Emission where
  -- the stacks whose top gave way at the start of the token, in order
  gaveWay : List Stack
  -- the stack whose top context made the token
  stack : Stack
  token : Token
  -- the stack after the steps of the token
  after : Stack

structure Run where
  emissions : List Emission
  -- the stacks whose top gave way at the end of the text
  gaveWay : List Stack
  final : Stack

namespace Run

def tokens (run : Run) : List Token := run.emissions.map Emission.token

-- Only the depths are compared, not the frames.
def isUnterminated (start : Stack) (run : Run) : Bool := start.depth < run.final.depth

end Run

-- What happens at a cursor once contexts have given way.
inductive Outcome where
  | stopped (gaveWay : List Stack) (stack : Stack)
  -- a token of so many characters
  | emitted (gaveWay : List Stack) (stack : Stack) (kind : Kind) (count : Nat)

def Outcome.precededBy (earlier : Stack) : Outcome → Outcome
  | .stopped gaveWay stack => .stopped (earlier :: gaveWay) stack
  | .emitted gaveWay stack kind count => .emitted (earlier :: gaveWay) stack kind count

theorem Outcome.exists_of_precededBy_stopped {earlier final : Stack} {outcome : Outcome}
    {gaveWay : List Stack} (h : outcome.precededBy earlier = .stopped gaveWay final) :
    ∃ later, gaveWay = earlier :: later ∧ outcome = .stopped later final := by
  cases outcome with
  | stopped later =>
    obtain ⟨rfl, rfl⟩ := Outcome.stopped.inj h
    exact ⟨later, rfl, rfl⟩
  | emitted => cases h

theorem Outcome.exists_of_precededBy_emitted {earlier last : Stack} {outcome : Outcome}
    {gaveWay : List Stack} {kind : Kind} {count : Nat}
    (h : outcome.precededBy earlier = .emitted gaveWay last kind count) :
    ∃ later, gaveWay = earlier :: later ∧ outcome = .emitted later last kind count := by
  cases outcome with
  | stopped => cases h
  | emitted later =>
    obtain ⟨rfl, rfl, rfl, rfl⟩ := Outcome.emitted.inj h
    exact ⟨later, rfl, rfl⟩

namespace Lexer

def builtin : Lexer := Lexicon.builtin.lexer

def match? (lexer : Lexer) (kind : Kind) (cursor : Cursor) : Option Nat :=
  match kind.recognizer? lexer.vocabulary with
  | none => none
  | some recognizer => recognizer.match? cursor

def firstOf? (lexer : Lexer) (kinds : List Kind) (cursor : Cursor) : Option (Kind × Nat) :=
  kinds.findSome? fun kind => (lexer.match? kind cursor).map (kind, ·)

def first? (lexer : Lexer) (context : Context) (cursor : Cursor) : Option (Kind × Nat) :=
  lexer.firstOf? context.candidates cursor

-- The number of characters up to the next place where a kind of the context matches, or to
-- the end of the text.
def unclaimed (lexer : Lexer) (context : Context) (before : Option Char) : Text → Nat
  | [] => 0
  | c :: rest =>
      if (lexer.first? context ⟨before, c :: rest⟩).isSome then 0
      else lexer.unclaimed context (some c) rest + 1

-- The first of the top context's kinds that matches gives the token. When none matches, a context
-- that falls through gives way without consuming anything, and the next one decides. Any other
-- context makes a token of its default kind.
def next (lexer : Lexer) (cursor : Cursor) (stack : Stack) : Outcome :=
  match lexer.first? stack.top.context cursor with
  | some (kind, count) => .emitted [] stack kind count
  | none =>
      match _h : stack.giveWay? with
      | some lower => (lexer.next cursor lower).precededBy stack
      | none =>
          match cursor.rest with
          | [] => .stopped [] stack
          | c :: rest =>
              .emitted [] stack stack.top.context.defaultKind
                (lexer.unclaimed stack.top.context (some c) rest + 1)
termination_by stack.slack
decreasing_by exact Stack.slack_lt_of_giveWay? _h

theorem match?_bounds {lexer : Lexer} {kind : Kind} {cursor : Cursor} {count : Nat}
    (h : lexer.match? kind cursor = some count) : 0 < count ∧ count ≤ cursor.rest.length := by
  unfold match? at h
  split at h
  · simp at h
  · exact Recognizer.match?_bounds h

theorem first?_bounds {lexer : Lexer} {context : Context} {cursor : Cursor} {kind : Kind}
    {count : Nat} (h : lexer.first? context cursor = some (kind, count)) :
    0 < count ∧ count ≤ cursor.rest.length := by
  obtain ⟨candidate, _, hmatch⟩ := List.exists_of_findSome?_eq_some h
  obtain ⟨found, hfound, heq⟩ := Option.map_eq_some_iff.1 hmatch
  obtain ⟨_, rfl⟩ := Prod.mk.inj heq
  exact match?_bounds hfound

theorem unclaimed_le (lexer : Lexer) (context : Context) (before : Option Char) (rest : Text) :
    lexer.unclaimed context before rest ≤ rest.length := by
  induction rest generalizing before with
  | nil => simp [unclaimed]
  | cons c rest ih =>
    unfold unclaimed
    split
    · omega
    · simpa using ih (some c)

theorem next_bounds {lexer : Lexer} {cursor : Cursor} {stack : Stack} {gaveWay : List Stack}
    {last : Stack} {kind : Kind} {count : Nat}
    (h : lexer.next cursor stack = .emitted gaveWay last kind count) :
    0 < count ∧ count ≤ cursor.rest.length := by
  fun_induction next lexer cursor stack generalizing gaveWay with
  | case1 stack kind' count' hfirst =>
    simp only [Outcome.emitted.injEq] at h
    obtain ⟨_, _, rfl, rfl⟩ := h
    exact first?_bounds hfirst
  | case2 stack hfirst lower hlower ih =>
    obtain ⟨later, -, hnext⟩ := Outcome.exists_of_precededBy_emitted h
    exact ih hnext
  | case3 => simp at h
  | case4 stack hfirst hlower c rest hrest =>
    simp only [Outcome.emitted.injEq] at h
    obtain ⟨_, _, _, rfl⟩ := h
    have := unclaimed_le lexer stack.top.context (some c) rest
    simp [hrest]
    omega

-- Lex what is left of a text, the cursor being at the given byte offset.
def runFrom (lexer : Lexer) (position : Nat) (cursor : Cursor) (stack : Stack) : Run :=
  match _h : lexer.next cursor stack with
  | .stopped gaveWay final => ⟨[], gaveWay, final⟩
  | .emitted gaveWay last kind count =>
      let text : Text := cursor.rest.take count
      let after := kind.transition lexer.markupArity text last
      let later := lexer.runFrom (position + text.byteSize) (cursor.advance count) after
      { later with emissions := ⟨gaveWay, last, ⟨kind, text, position⟩, after⟩ :: later.emissions }
termination_by cursor.rest.length
decreasing_by
  have := next_bounds _h
  simp only [Cursor.rest_advance, List.length_drop]
  omega

def lex (lexer : Lexer) (stack : Stack) (text : Text) : Run :=
  lexer.runFrom 0 (Cursor.start text) stack

-- The number of bytes of a token of the kind at a byte offset of a text. Offsets inside a
-- character or beyond the end have none.
def matchAt? (lexer : Lexer) (kind : Kind) (text : Text) (position : Nat) : Option Nat :=
  match text.splitAtByte? position with
  | none => none
  | some (front, back) =>
      (lexer.match? kind ⟨front.getLast?, back⟩).map fun count => Text.byteSize (back.take count)

end Lexer

end ScoreLexer
