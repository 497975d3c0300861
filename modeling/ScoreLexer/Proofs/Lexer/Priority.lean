import ScoreLexer.Proofs.Lexer.Coverage
import ScoreLexer.Proofs.Lexer.Moments
import ScoreLexer.Proofs.Lexer.Run

namespace ScoreLexer

open Text

namespace Text

theorem of_splitAtByte? {text front back : Text} {offset : Nat}
    (h : text.splitAtByte? offset = some (front, back)) :
    text = front ++ back ∧ front.byteSize = offset := by
  fun_induction splitAtByte? text offset generalizing front with
  | case1 text =>
    obtain ⟨rfl, rfl⟩ := Prod.mk.inj (Option.some.inj h)
    exact ⟨rfl, rfl⟩
  | case2 => simp at h
  | case3 c text offset hsize ih =>
    obtain ⟨⟨inner, rest⟩, hinner, heq⟩ := Option.map_eq_some_iff.mp h
    obtain ⟨rfl, rfl⟩ := Prod.mk.inj heq
    obtain ⟨rfl, hbytes⟩ := ih hinner
    refine ⟨rfl, ?_⟩
    rw [byteSize_cons, hbytes]
    omega
  | case4 => simp at h

theorem exists_of_byteSize_le {front back front' back' : Text}
    (h : front ++ back = front' ++ back') (hsize : front.byteSize ≤ front'.byteSize) :
    ∃ middle, front' = front ++ middle ∧ back = middle ++ back' := by
  rcases List.append_eq_append_iff.mp h with ⟨middle, hfront, hback⟩ | ⟨middle, hfront, hback⟩
  · exact ⟨middle, hfront, hback⟩
  · have hmiddle : middle = [] := by
      cases middle with
      | nil => rfl
      | cons c middle =>
        have hpos := c.utf8Size_pos
        rw [hfront, byteSize_append, byteSize_cons] at hsize
        omega
    rw [hmiddle] at hfront hback
    exact ⟨[], by simp [hfront], hback.symm⟩

theorem eq_of_byteSize_eq {front back front' back' : Text} (h : front ++ back = front' ++ back')
    (hsize : front.byteSize = front'.byteSize) : front = front' ∧ back = back' := by
  have hsplit := splitAtByte?_append front back
  rw [h, hsize, splitAtByte?_append] at hsplit
  obtain ⟨hfront, hback⟩ := Prod.mk.inj (Option.some.inj hsplit)
  exact ⟨hfront.symm, hback.symm⟩

end Text

def Cursor.between (front back : Text) : Cursor := ⟨front.getLast?, back⟩

theorem Cursor.advance_between (front back : Text) (count : Nat) :
    (between front back).advance count = between (front ++ back.take count) (back.drop count) := by
  rw [advance, between, between, List.getLast?_append]

theorem Cursor.between_append_cons (front middle back : Text) (c : Char) :
    between (front ++ c :: middle) back = ⟨middle.getLast?.or (some c), back⟩ := by
  rw [between, List.getLast?_append, List.getLast?_cons, Option.some_or, Option.or_some]

inductive Stack.GivesWay : Stack → List Stack → Stack → Prop where
  | refl (stack : Stack) : GivesWay stack [] stack
  | cons {stack lower last : Stack} {gaveWay : List Stack} (hlower : stack.giveWay? = some lower)
      (hbelow : GivesWay lower gaveWay last) : GivesWay stack (stack :: gaveWay) last

def Kind.isLeftover : Kind → Bool
  | .unparsed | .error | .comment | .string => true
  | _ => false

def Lexer.SilentAt (lexer : Lexer) (context : Context) (text : Text) (offset : Nat) : Prop :=
  ∀ kind ∈ context.candidates, lexer.matchAt? kind text offset = none

namespace Emission

def IsFirstMatch (lexer : Lexer) (text : Text) (emission : Emission) : Prop :=
  ∃ earlier later,
    emission.stack.top.context.candidates = earlier ++ emission.token.kind :: later ∧
      lexer.matchAt? emission.token.kind text emission.token.position =
        some emission.token.text.byteSize ∧
      ∀ kind ∈ earlier, lexer.matchAt? kind text emission.token.position = none

-- The token has the default kind of a context that does not give way. No kind of the context
-- matches at or inside the token, and one of them does behind it, unless the text ends there.
structure IsUnclaimed (lexer : Lexer) (text : Text) (emission : Emission) : Prop where
  kind : emission.token.kind = emission.stack.top.context.defaultKind
  stays : emission.stack.top.context.fallthrough? = none
  silent : ∀ offset, emission.token.position ≤ offset → offset < emission.token.finish →
    lexer.SilentAt emission.stack.top.context text offset
  finish : emission.token.finish = text.byteSize ∨
    ∃ kind ∈ emission.stack.top.context.candidates,
      (lexer.matchAt? kind text emission.token.finish).isSome

-- The token is made by priority, what gave way before it had nothing that matches there, and the
-- stack after it is what the steps of its kind make of the one that emits it.
structure ByPriority (lexer : Lexer) (text : Text) (emission : Emission) : Prop where
  made : emission.IsFirstMatch lexer text ∨ emission.IsUnclaimed lexer text
  gaveWay : ∀ stack ∈ emission.gaveWay,
    lexer.SilentAt stack.top.context text emission.token.position
  after : emission.after =
    emission.token.kind.transition lexer.markupArity emission.token.text emission.stack

end Emission

namespace Lexer

variable {lexer : Lexer}

theorem matchAt?_append (kind : Kind) (front back : Text) :
    lexer.matchAt? kind (front ++ back) front.byteSize =
      (lexer.match? kind (Cursor.between front back)).map fun count =>
        byteSize (back.take count) := by
  rw [matchAt?, splitAtByte?_append]
  rfl

theorem first?_eq_some_iff {context : Context} {cursor : Cursor} {kind : Kind} {count : Nat} :
    lexer.first? context cursor = some (kind, count) ↔
      ∃ earlier later, context.candidates = earlier ++ kind :: later ∧
        lexer.match? kind cursor = some count ∧ ∀ other ∈ earlier, lexer.match? other cursor = none := by
  simp only [first?, firstOf?, List.findSome?_eq_some_iff, Option.map_eq_some_iff,
    Option.map_eq_none_iff]
  constructor
  · rintro ⟨earlier, candidate, later, hlist, ⟨found, hmatch, heq⟩, hnone⟩
    obtain ⟨rfl, rfl⟩ := Prod.mk.inj heq
    exact ⟨earlier, later, hlist, hmatch, hnone⟩
  · rintro ⟨earlier, later, hlist, hmatch, hnone⟩
    exact ⟨earlier, kind, later, hlist, ⟨count, hmatch, rfl⟩, hnone⟩

theorem silentAt_append {context : Context} {front back : Text} :
    lexer.SilentAt context (front ++ back) front.byteSize ↔
      lexer.first? context (Cursor.between front back) = none := by
  simp only [SilentAt, matchAt?_append, first?, firstOf?, List.findSome?_eq_none_iff,
    Option.map_eq_none_iff]

theorem exists_matchAt?_append {context : Context} {front back : Text}
    (h : (lexer.first? context (Cursor.between front back)).isSome) :
    ∃ kind ∈ context.candidates,
      (lexer.matchAt? kind (front ++ back) front.byteSize).isSome := by
  obtain ⟨⟨kind, count⟩, hfirst⟩ := Option.isSome_iff_exists.mp h
  obtain ⟨earlier, later, hlist, hmatch, -⟩ := first?_eq_some_iff.mp hfirst
  refine ⟨kind, by simp [hlist], ?_⟩
  rw [matchAt?_append, hmatch]
  rfl

theorem first?_of_lt_unclaimed {context : Context} {before : Option Char} {middle back : Text}
    (h : middle.length < lexer.unclaimed context before (middle ++ back)) :
    lexer.first? context ⟨middle.getLast?.or before, back⟩ = none := by
  induction middle generalizing before with
  | nil =>
    cases back with
    | nil => simp [unclaimed] at h
    | cons c back =>
      rw [List.nil_append, unclaimed] at h
      split at h
      · simp at h
      · next hsilent => simpa using hsilent
  | cons c middle ih =>
    rw [List.cons_append, unclaimed] at h
    split at h
    · simp at h
    · rw [List.length_cons] at h
      have hrest := ih (Nat.lt_of_add_lt_add_right h)
      rwa [List.getLast?_cons, Option.some_or, ← Option.or_some]

theorem first?_of_eq_unclaimed {context : Context} {before : Option Char} {middle back : Text}
    (h : middle.length = lexer.unclaimed context before (middle ++ back)) (hback : back ≠ []) :
    (lexer.first? context ⟨middle.getLast?.or before, back⟩).isSome := by
  induction middle generalizing before with
  | nil =>
    obtain ⟨c, back, rfl⟩ := List.exists_cons_of_ne_nil hback
    rw [List.nil_append, unclaimed] at h
    split at h
    · next hclaimed => exact hclaimed
    · simp at h
  | cons c middle ih =>
    rw [List.cons_append, unclaimed] at h
    split at h
    · simp at h
    · rw [List.length_cons] at h
      have hrest := ih (Nat.add_right_cancel h)
      rwa [List.getLast?_cons, Option.some_or, ← Option.or_some]

-- What the loop does at a cursor. The stacks that give way claim nothing there, and the last stack
-- claims what comes next, or it stays and the text is unclaimed.
theorem next_emitted_cases {cursor : Cursor} {stack : Stack} {gaveWay : List Stack} {last : Stack}
    {kind : Kind} {count : Nat}
    (h : lexer.next cursor stack = .emitted gaveWay last kind count) :
    stack.GivesWay gaveWay last ∧
      (∀ earlier ∈ gaveWay, lexer.first? earlier.top.context cursor = none) ∧
      (lexer.first? last.top.context cursor = some (kind, count) ∨
        lexer.first? last.top.context cursor = none ∧ last.giveWay? = none ∧
          kind = last.top.context.defaultKind ∧ ∃ c rest, cursor.rest = c :: rest ∧
            count = lexer.unclaimed last.top.context (some c) rest + 1) := by
  fun_induction next lexer cursor stack generalizing gaveWay with
  | case1 stack kind' count' hfirst =>
    simp only [Outcome.emitted.injEq] at h
    obtain ⟨rfl, rfl, rfl, rfl⟩ := h
    exact ⟨.refl _, by simp, .inl hfirst⟩
  | case2 stack hfirst lower hlower ih =>
    obtain ⟨later, rfl, hnext⟩ := Outcome.exists_of_precededBy_emitted h
    obtain ⟨hgivesWay, hsilent, hmade⟩ := ih hnext
    exact ⟨.cons hlower hgivesWay, List.forall_mem_cons.mpr ⟨hfirst, hsilent⟩, hmade⟩
  | case3 => simp at h
  | case4 stack hfirst hlower c rest hrest =>
    simp only [Outcome.emitted.injEq] at h
    obtain ⟨rfl, rfl, rfl, rfl⟩ := h
    exact ⟨.refl _, by simp, .inr ⟨hfirst, hlower, rfl, c, rest, hrest, rfl⟩⟩

theorem silentAt_of_unclaimed {context : Context} {front rest : Text} {c : Char}
    (hfirst : lexer.first? context (Cursor.between front (c :: rest)) = none) {count : Nat}
    (hcount : count = lexer.unclaimed context (some c) rest + 1) {offset : Nat}
    (hle : front.byteSize ≤ offset)
    (hlt : offset < front.byteSize + byteSize ((c :: rest).take count)) :
    lexer.SilentAt context (front ++ c :: rest) offset := by
  cases hsplit : (front ++ c :: rest).splitAtByte? offset with
  | none => simp [SilentAt, matchAt?, hsplit]
  | some parts =>
    obtain ⟨front', back'⟩ := parts
    obtain ⟨htext, rfl⟩ := of_splitAtByte? hsplit
    obtain ⟨middle, rfl, hback⟩ := exists_of_byteSize_le htext hle
    rw [htext, silentAt_append]
    cases middle with
    | nil =>
      obtain rfl : c :: rest = back' := hback
      rwa [List.append_nil]
    | cons d middle =>
      rw [List.cons_append] at hback
      obtain ⟨rfl, rfl⟩ := List.cons.inj hback
      -- the place lies before the end of the piece, so fewer characters come before it
      have hshort : middle.length + 1 < count := by
        by_contra hcontra
        have htake : (c :: (middle ++ back')).take count = (c :: middle).take count := by
          rw [← List.cons_append, List.take_append_of_le_length (by simpa using hcontra)]
        have hsize := congrArg byteSize (List.take_append_drop count (c :: middle))
        rw [byteSize_append] at hsize
        rw [htake, byteSize_append] at hlt
        omega
      rw [Cursor.between_append_cons]
      apply lexer.first?_of_lt_unclaimed
      omega

theorem exists_matchAt?_of_unclaimed {context : Context} {front rest : Text} {c : Char} {count : Nat}
    (hcount : count = lexer.unclaimed context (some c) rest + 1) :
    front.byteSize + byteSize ((c :: rest).take count) = byteSize (front ++ c :: rest) ∨
      ∃ kind ∈ context.candidates, (lexer.matchAt? kind (front ++ c :: rest)
        (front.byteSize + byteSize ((c :: rest).take count))).isSome := by
  have hle := lexer.unclaimed_le context (some c) rest
  set middle := rest.take (count - 1) with hmiddle
  have hlength : middle.length = lexer.unclaimed context (some c) rest := by
    rw [hmiddle, List.length_take]
    omega
  have htake : (c :: rest).take count = c :: middle := by
    rw [hcount, List.take_succ_cons, hmiddle, hcount, Nat.add_sub_cancel]
  have hsplit : rest = middle ++ rest.drop (count - 1) := (List.take_append_drop _ _).symm
  rw [htake, ← byteSize_append]
  by_cases hback : rest.drop (count - 1) = []
  · left
    rw [hback, List.append_nil] at hsplit
    rw [← hsplit]
  · right
    have hclaims : (lexer.first? context
        ⟨middle.getLast?.or (some c), rest.drop (count - 1)⟩).isSome :=
      first?_of_eq_unclaimed (hsplit ▸ hlength) hback
    rw [← Cursor.between_append_cons front] at hclaims
    have hmatch := exists_matchAt?_append hclaims
    rwa [List.append_assoc, List.cons_append, ← hsplit] at hmatch

theorem byPriority_runFrom (front back : Text) (stack : Stack) :
    let run := lexer.runFrom front.byteSize (Cursor.between front back) stack
    (∀ emission ∈ run.emissions.head?, stack.GivesWay emission.gaveWay emission.stack) ∧
      (run.emissions.IsChain fun earlier emission =>
        earlier.after.GivesWay emission.gaveWay emission.stack) ∧
      ∀ emission ∈ run.emissions, emission.ByPriority lexer (front ++ back) := by
  generalize hposition : front.byteSize = position
  generalize hcursor : Cursor.between front back = cursor
  fun_induction runFrom lexer position cursor stack generalizing front back with
  | case1 => exact ⟨by simp, .nil, by simp⟩
  | case2 position cursor stack gaveWay last kind count hnext text after later ih =>
    subst hposition hcursor
    obtain ⟨hgivesWay, hsilent, hmade⟩ := next_emitted_cases hnext
    have htext : front ++ back = (front ++ text) ++ back.drop count := by
      rw [List.append_assoc]
      exact congrArg (front ++ ·) (List.take_append_drop count back).symm
    obtain ⟨hhead, hchain, hall⟩ := ih (front ++ text) (back.drop count)
      (byteSize_append front text) (Cursor.advance_between front back count).symm
    have hpriority : Emission.ByPriority lexer (front ++ back)
        ⟨gaveWay, last, ⟨kind, text, front.byteSize⟩, after⟩ := by
      refine ⟨?_, fun earlier hearlier => silentAt_append.mpr (hsilent earlier hearlier), rfl⟩
      rcases hmade with hfirst | ⟨hfirst, hstays, rfl, c, rest, hrest, hcount⟩
      · obtain ⟨earlier, others, hlist, hmatch, hnone⟩ := first?_eq_some_iff.mp hfirst
        refine .inl ⟨earlier, others, hlist, ?_, fun other hother => ?_⟩
        · rw [matchAt?_append, hmatch]
          rfl
        · rw [matchAt?_append, hnone other hother]
          rfl
      · obtain rfl : back = c :: rest := hrest
        exact .inr ⟨rfl, Stack.giveWay?_eq_none_iff.mp hstays,
          fun offset hle hlt => silentAt_of_unclaimed hfirst hcount hle hlt,
          exists_matchAt?_of_unclaimed hcount⟩
    refine ⟨?_, List.isChain_cons.mpr ⟨hhead, hchain⟩, List.forall_mem_cons.mpr ⟨hpriority, ?_⟩⟩
    · rintro _ ⟨⟩
      exact hgivesWay
    · rwa [htext]

theorem matchAt?_of_isLeftover {kind : Kind} (h : kind.isLeftover = true) (text : Text)
    (offset : Nat) : lexer.matchAt? kind text offset = none := by
  have hnone : kind.recognizer? lexer.vocabulary = none := by
    cases kind <;> first | rfl | exact absurd h Bool.false_ne_true
  unfold matchAt? match?
  rw [hnone]
  split <;> rfl

end Lexer

namespace Emission

variable {lexer : Lexer} {text : Text} {emission : Emission}

theorem ByPriority.isUnclaimed (h : emission.ByPriority lexer text)
    (hleftover : emission.token.kind.isLeftover = true) : emission.IsUnclaimed lexer text := by
  rcases h.made with ⟨earlier, later, -, hmatch, -⟩ | hunclaimed
  · rw [Lexer.matchAt?_of_isLeftover hleftover] at hmatch
    exact absurd hmatch (Option.some_ne_none _).symm
  · exact hunclaimed

-- Where a leftover ends the stack is still the same, and one of its kinds matches. So the stack
-- neither gives way there nor leaves the text unclaimed.
theorem ByPriority.not_isLeftover_next (h : emission.ByPriority lexer text)
    (hleftover : emission.token.kind.isLeftover = true) {next : Emission}
    (hnext : next.ByPriority lexer text)
    (hgivesWay : emission.after.GivesWay next.gaveWay next.stack)
    (hposition : next.token.position = emission.token.finish)
    (hlt : next.token.position < next.token.finish) (hend : next.token.finish ≤ text.byteSize) :
    next.token.kind.isLeftover = false := by
  have hunclaimed := h.isUnclaimed hleftover
  rw [h.after, hunclaimed.kind, Kind.transition_defaultKind] at hgivesWay
  have hclaims : ¬lexer.SilentAt emission.stack.top.context text next.token.position := by
    intro hsilent
    obtain hfinish | ⟨kind, hkind, hmatch⟩ := hunclaimed.finish
    · omega
    · rw [← hposition, hsilent kind hkind] at hmatch
      simp at hmatch
  by_contra hkind
  have hleft := hnext.isUnclaimed (Bool.of_not_eq_false hkind)
  generalize hstack : next.stack = settled, hgaveWay : next.gaveWay = gaveWay at hgivesWay
  cases hgivesWay with
  | refl => exact hclaims (hstack ▸ hleft.silent _ (Nat.le_refl _) hlt)
  | cons => exact hclaims (hnext.gaveWay _ (by simp [hgaveWay]))

end Emission

namespace Lexer

variable (lexer : Lexer) (start : Stack) (text : Text)

theorem byPriority_lex :
    let run := lexer.lex start text
    (∀ emission ∈ run.emissions.head?, start.GivesWay emission.gaveWay emission.stack) ∧
      (run.emissions.IsChain fun earlier emission =>
        earlier.after.GivesWay emission.gaveWay emission.stack) ∧
      ∀ emission ∈ run.emissions, emission.ByPriority lexer text :=
  lexer.byPriority_runFrom [] text start

end Lexer

theorem Lexer.token_of_first? {lexer : Lexer} {start : Stack} {front back : Text}
    {emission : Emission} (hmem : emission ∈ (lexer.lex start (front ++ back)).emissions)
    (hposition : emission.token.position = front.byteSize) {kind : Kind} {count : Nat}
    (hfirst : lexer.first? emission.stack.top.context (Cursor.between front back) =
      some (kind, count)) :
    emission.token = ⟨kind, back.take count, front.byteSize⟩ := by
  obtain ⟨-, -, hall⟩ := lexer.byPriority_lex start (front ++ back)
  have hpartition := lexer.partition_lex start (front ++ back)
  have htoken : emission.token ∈ (lexer.lex start (front ++ back)).tokens :=
    List.mem_map_of_mem hmem
  obtain ⟨front', rest, htext, hfront⟩ := hpartition.exists_slice emission.token htoken
  rw [List.append_assoc] at htext
  obtain ⟨rfl, hback⟩ := eq_of_byteSize_eq htext (by omega)
  rcases (hall emission hmem).made with ⟨earlier, later, hlist, hmatch, hnone⟩ | hunclaimed
  · simp only [hposition, matchAt?_append, Option.map_eq_some_iff, Option.map_eq_none_iff]
      at hmatch hnone
    obtain ⟨found, hfound, hsize⟩ := hmatch
    have hfirst' := first?_eq_some_iff.mpr ⟨earlier, later, hlist, hfound, hnone⟩
    obtain ⟨hkind, rfl⟩ := Prod.mk.inj (Option.some.inj (hfirst.symm.trans hfirst'))
    obtain ⟨htake, -⟩ := eq_of_byteSize_eq ((back.take_append_drop count).trans hback) hsize
    rw [htake, hkind, ← hposition]
  · have hpos := byteSize_pos (hpartition.text_ne_nil emission.token htoken)
    have hsilent := hunclaimed.silent emission.token.position (Nat.le_refl _)
      (Nat.lt_add_of_pos_right hpos)
    rw [hposition, silentAt_append, hfirst] at hsilent
    simp at hsilent

namespace Lexer

variable (lexer : Lexer) (start : Stack) (text : Text)

theorem isChain_isLeftover : (lexer.lex start text).tokens.IsChain fun token next =>
    ¬(token.kind.isLeftover = true ∧ next.kind.isLeftover = true) := by
  obtain ⟨-, hchain, hall⟩ := lexer.byPriority_lex start text
  have hpartition := lexer.partition_lex start text
  have hpositions := hpartition.isChain
  rw [Run.tokens, List.isChain_map, List.isChain_iff_forall_rel_of_append_cons_cons] at hpositions ⊢
  rw [List.isChain_iff_forall_rel_of_append_cons_cons] at hchain
  rintro emission next former latter hsplit ⟨hleftover, hleft⟩
  have hmem : emission ∈ (lexer.lex start text).emissions := by simp [hsplit]
  have hnext : next ∈ (lexer.lex start text).emissions := by simp [hsplit]
  have htoken : next.token ∈ (lexer.lex start text).tokens := List.mem_map_of_mem hnext
  have hlt : next.token.position < next.token.finish :=
    Nat.lt_add_of_pos_right (byteSize_pos (hpartition.text_ne_nil next.token htoken))
  have hfalse := (hall emission hmem).not_isLeftover_next hleftover (hall next hnext)
    (hchain hsplit) (hpositions hsplit) hlt (finish_le_of_mem_lex htoken)
  exact absurd hleft (by simp [hfalse])

end Lexer

-- The tokens of a text are those that the priorities of the catalogue call for. The stack that makes
-- a token is the one before it after contexts have given way. Either its top context claims the token
-- with the first of its kinds that matches, or nothing it admits matches up to where the token ends.
-- No context that gave way had a kind that matches. So two pieces of unclaimed text never stand side
-- by side.
theorem lex_by_priority (lexicon : Lexicon) (start : Stack) (text : Text) :
    let lexer := lexicon.lexer
    let run := lexer.lex start text
    (∀ emission ∈ run.emissions.head?, start.GivesWay emission.gaveWay emission.stack) ∧
      (run.emissions.IsChain fun earlier emission =>
        earlier.after.GivesWay emission.gaveWay emission.stack) ∧
      (∀ emission ∈ run.emissions, emission.ByPriority lexer text) ∧
      run.tokens.IsChain fun token next =>
        ¬(token.kind.isLeftover = true ∧ next.kind.isLeftover = true) := by
  intro lexer run
  obtain ⟨hhead, hchain, hall⟩ := lexer.byPriority_lex start text
  exact ⟨hhead, hchain, hall, lexer.isChain_isLeftover start text⟩

end ScoreLexer
