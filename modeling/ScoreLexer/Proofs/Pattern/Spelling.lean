import ScoreLexer.Proofs.Lexer.Priority
import ScoreLexer.Proofs.Pattern.Naming

namespace ScoreLexer

namespace Pattern

-- The texts that the pattern describes, edges aside.
def Spells : Pattern → Text → Prop
  | words list, text => text ∈ list
  | one accepts, text => ∃ c, text = [c] ∧ accepts c = true
  | run accepts, text => text ≠ [] ∧ text.all accepts = true
  | seq first second, text =>
      ∃ former latter, text = former ++ latter ∧ first.Spells former ∧ second.Spells latter
  | alt first second, text => first.Spells text ∨ second.Spells text
  | many inner, text =>
      ∃ pieces : List Text, text = pieces.flatten ∧ ∀ piece ∈ pieces, inner.Spells piece
  | edge, text => text = []

theorem exists_spells_of_mem_manyEnds {inner : Pattern}
    (hinner : ∀ {cursor last : Cursor}, last ∈ inner.ends cursor →
      ∃ text, inner.Spells text ∧ cursor.rest = text ++ last.rest)
    {count : Nat} {cursor last : Cursor} (h : last ∈ manyEnds inner.ends count cursor) :
    ∃ text, (many inner).Spells text ∧ cursor.rest = text ++ last.rest := by
  induction count generalizing cursor with
  | zero =>
    obtain rfl := List.mem_singleton.mp h
    exact ⟨[], ⟨[], rfl, by simp⟩, rfl⟩
  | succ count ih =>
    rcases List.mem_append.mp h with h | h
    · obtain ⟨middle, hmiddle, hlast⟩ := List.mem_flatMap.mp h
      obtain ⟨piece, hpiece, hfirst⟩ := hinner hmiddle
      obtain ⟨_, ⟨pieces, rfl, hpieces⟩, hrest⟩ := ih hlast
      refine ⟨piece ++ pieces.flatten, ⟨piece :: pieces, rfl, ?_⟩, ?_⟩
      · exact List.forall_mem_cons.mpr ⟨hpiece, hpieces⟩
      · rw [hfirst, hrest, List.append_assoc]
    · obtain rfl := List.mem_singleton.mp h
      exact ⟨[], ⟨[], rfl, by simp⟩, rfl⟩

theorem exists_spells_of_mem_ends {pattern : Pattern} {cursor last : Cursor}
    (h : last ∈ pattern.ends cursor) :
    ∃ text, pattern.Spells text ∧ cursor.rest = text ++ last.rest := by
  induction pattern generalizing cursor last with
  | words list =>
    obtain ⟨word, hword, hpast⟩ := List.mem_filterMap.mp h
    exact ⟨word, hword, Cursor.prefix_of_past? hpast⟩
  | one accepts =>
    simp only [ends] at h
    split at h
    · simp at h
    · next c rest hrest =>
      split at h
      · next hc =>
        obtain rfl := List.mem_singleton.mp h
        exact ⟨[c], ⟨c, rfl, hc⟩, hrest⟩
      · simp at h
  | run accepts =>
    -- a run takes at least one character, so what it took is not empty
    have hlt : last.rest.length < cursor.rest.length := length_lt_of_mem_ends rfl h
    rcases exists_of_mem_runEnds h with hnone | ⟨front, hfront, hrest⟩
    · simp at hnone
    · refine ⟨front, ⟨?_, hfront⟩, hrest⟩
      rintro rfl
      rw [hrest, List.nil_append] at hlt
      exact absurd hlt (Nat.lt_irrefl _)
  | seq first second hfirst hsecond =>
    obtain ⟨middle, hmiddle, hlast⟩ := List.mem_flatMap.mp h
    obtain ⟨former, hformer, hcursor⟩ := hfirst hmiddle
    obtain ⟨latter, hlatter, hrest⟩ := hsecond hlast
    exact ⟨former ++ latter, ⟨former, latter, rfl, hformer, hlatter⟩,
      by rw [hcursor, hrest, List.append_assoc]⟩
  | alt first second hfirst hsecond =>
    rcases List.mem_append.mp h with h | h
    · obtain ⟨text, htext, hrest⟩ := hfirst h
      exact ⟨text, .inl htext, hrest⟩
    · obtain ⟨text, htext, hrest⟩ := hsecond h
      exact ⟨text, .inr htext, hrest⟩
  | many inner hinner => exact exists_spells_of_mem_manyEnds (fun h => hinner h) h
  | edge =>
    simp only [ends] at h
    split at h
    · obtain rfl := List.mem_singleton.mp h
      exact ⟨[], rfl, rfl⟩
    · simp at h

end Pattern

theorem Recognizer.match?_eq_some_iff {recognizer : Recognizer} {cursor : Cursor} {count : Nat} :
    recognizer.match? cursor = some count ↔
      (recognizer.fromWordStart = true → cursor.insideWord = false) ∧
        ∃ text last, (recognizer.pattern.ends cursor).head? = some last ∧
          cursor.rest = text ++ last.rest ∧ text ≠ [] ∧
          recognizer.guard.allows last.rest.head? = true ∧ count = text.length := by
  unfold match?
  constructor
  · intro h
    split at h
    · simp at h
    · next hstart =>
      split at h
      · simp at h
      · next last hlast =>
        split at h
        · next hallowed =>
          obtain ⟨hlt, hguard⟩ := Bool.and_eq_true_iff.mp hallowed
          have hlt := of_decide_eq_true hlt
          obtain ⟨text, -, hrest⟩ := Pattern.exists_spells_of_mem_ends (List.mem_of_mem_head? hlast)
          have hlength := congrArg List.length hrest
          rw [List.length_append] at hlength
          have hcount := Option.some.inj h
          refine ⟨by simpa using hstart, text, last, hlast, hrest, ?_, hguard, by omega⟩
          rintro rfl
          rw [List.length_nil] at hlength
          omega
        · simp at h
  · rintro ⟨hstart, text, last, hlast, hrest, hne, hguard, rfl⟩
    have hpos := List.length_pos_iff.mpr hne
    have hinside : ¬(recognizer.fromWordStart && cursor.insideWord) = true := by
      simpa using hstart
    have hlength : cursor.rest.length = text.length + last.rest.length := by
      rw [hrest, List.length_append]
    rw [if_neg hinside, hlast]
    simp only [hguard, hlength, Nat.lt_add_of_pos_left hpos, decide_true, Bool.and_self, if_true,
      Nat.add_sub_cancel]

theorem Recognizer.spells_of_match? {recognizer : Recognizer} {cursor : Cursor} {count : Nat}
    (h : recognizer.match? cursor = some count) :
    recognizer.pattern.Spells (cursor.rest.take count) := by
  obtain ⟨-, text, last, hlast, hrest, -, -, rfl⟩ := match?_eq_some_iff.mp h
  obtain ⟨spelled, hspelled, hsplit⟩ :=
    Pattern.exists_spells_of_mem_ends (List.mem_of_mem_head? hlast)
  rwa [hrest, List.take_left, List.append_cancel_right (hrest.symm.trans hsplit)]

theorem Context.isLeftover_defaultKind (context : Context) :
    context.defaultKind.isLeftover = true := by
  cases context <;> rfl

namespace Lexer

variable {lexer : Lexer}

theorem exists_spells_of_match? {kind : Kind} {cursor : Cursor} {count : Nat}
    (h : lexer.match? kind cursor = some count) :
    ∃ recognizer, kind.recognizer? lexer.vocabulary = some recognizer ∧
      recognizer.pattern.Spells (cursor.rest.take count) := by
  unfold match? at h
  split at h
  · simp at h
  · next recognizer hrecognizer => exact ⟨recognizer, hrecognizer, Recognizer.spells_of_match? h⟩

-- A token is left over, or its kind has a pattern that spells its text.
theorem exists_spells_of_mem_runFrom {position : Nat} {cursor : Cursor} {stack : Stack}
    {token : Token} (h : token ∈ (lexer.runFrom position cursor stack).tokens) :
    token.kind.isLeftover = true ∨
      ∃ recognizer, token.kind.recognizer? lexer.vocabulary = some recognizer ∧
        recognizer.pattern.Spells token.text := by
  fun_induction runFrom lexer position cursor stack with
  | case1 => simp [Run.tokens] at h
  | case2 position cursor stack gaveWay last kind count hnext text after later ih =>
    rcases List.mem_cons.mp h with rfl | h
    · obtain ⟨-, -, hfirst | ⟨-, -, rfl, -⟩⟩ := next_emitted_cases hnext
      · obtain ⟨-, -, -, hmatch, -⟩ := first?_eq_some_iff.mp hfirst
        exact .inr (exists_spells_of_match? hmatch)
      · exact .inl last.top.context.isLeftover_defaultKind
    · exact ih h

end Lexer

end ScoreLexer
