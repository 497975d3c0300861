import ScoreLexer.Lexer.Basic
import ScoreLexer.Proofs.Pattern.Locality

namespace ScoreLexer

namespace Pattern

def opens (c : Char) : Pattern → Bool
  | words list => list.any fun word => word.head? == some c
  | one accepts | run accepts => accepts c
  | seq former latter => former.opens c || (!former.consumes && latter.opens c)
  | alt former latter => former.opens c || latter.opens c
  | many inner => inner.opens c
  | edge => false

theorem eq_of_mem_manyEnds {step : Cursor → List Cursor} {cursor : Cursor}
    (hstep : ∀ last ∈ step cursor, last = cursor) {count : Nat} {last : Cursor}
    (h : last ∈ manyEnds step count cursor) : last = cursor := by
  induction count with
  | zero => exact List.mem_singleton.mp h
  | succ count ih =>
    rcases List.mem_append.mp h with h | h
    · obtain ⟨middle, hmiddle, hlast⟩ := List.mem_flatMap.mp h
      rw [hstep middle hmiddle] at hlast
      exact ih hlast
    · exact List.mem_singleton.mp h

-- A pattern that cannot take the next character stays where it is, if it ends at all.
theorem eq_of_mem_ends {pattern : Pattern} {c : Char} (hpattern : pattern.opens c = false)
    {before : Option Char} {rest : Text} {last : Cursor}
    (h : last ∈ pattern.ends ⟨before, c :: rest⟩) : last = ⟨before, c :: rest⟩ := by
  induction pattern generalizing last with
  | words list =>
    obtain ⟨word, hmem, hword⟩ := List.mem_filterMap.mp h
    cases word with
    | nil => exact (Option.some.inj hword).symm
    | cons w word =>
      have hne : w ≠ c := by simpa using List.any_eq_false.mp hpattern (w :: word) hmem
      simp [Cursor.past?, hne] at hword
  | one accepts =>
    simp only [opens] at hpattern
    simp [ends, hpattern] at h
  | run accepts =>
    simp only [opens] at hpattern
    simp [ends, runEnds, hpattern] at h
  | seq former latter hformer hlatter =>
    simp only [opens, Bool.or_eq_false_iff, Bool.and_eq_false_iff,
      Bool.not_eq_false'] at hpattern
    obtain ⟨hfirst, hsecond⟩ := hpattern
    obtain ⟨middle, hmiddle, hlast⟩ := List.mem_flatMap.mp h
    obtain rfl := hformer hfirst hmiddle
    rcases hsecond with hconsumes | hsecond
    -- a pattern that must take something cannot have stayed
    · have := length_lt_of_mem_ends hconsumes hmiddle
      omega
    · exact hlatter hsecond hlast
  | alt former latter hformer hlatter =>
    obtain ⟨hfirst, hsecond⟩ := Bool.or_eq_false_iff.mp hpattern
    rcases List.mem_append.mp h with h | h
    · exact hformer hfirst h
    · exact hlatter hsecond h
  | many inner hinner => exact eq_of_mem_manyEnds (fun last hlast => hinner hpattern hlast) h
  | edge =>
    simp only [ends] at h
    split at h
    · exact List.mem_singleton.mp h
    · simp at h

end Pattern

theorem Recognizer.match?_eq_none {recognizer : Recognizer} {c : Char}
    (h : recognizer.pattern.opens c = false) (before : Option Char) (rest : Text) :
    recognizer.match? ⟨before, c :: rest⟩ = none := by
  unfold match?
  split
  · rfl
  · split
    · rfl
    · next last hlast =>
      rw [Pattern.eq_of_mem_ends h (List.mem_of_mem_head? hlast)]
      simp

def Kind.opens (vocabulary : Vocabulary) (c : Char) (kind : Kind) : Bool :=
  (kind.recognizer? vocabulary).any fun recognizer => recognizer.pattern.opens c

theorem Lexer.firstOf?_eq_none {lexer : Lexer} {kinds : List Kind} {c : Char}
    (h : kinds.all fun kind => !kind.opens lexer.vocabulary c) (before : Option Char)
    (rest : Text) : lexer.firstOf? kinds ⟨before, c :: rest⟩ = none := by
  rw [firstOf?, List.findSome?_eq_none_iff]
  intro kind hkind
  have hopens : kind.opens lexer.vocabulary c = false := by
    simpa using List.all_eq_true.mp h kind hkind
  unfold match?
  split
  · rfl
  · next recognizer hrecognizer =>
    rw [Kind.opens, hrecognizer] at hopens
    rw [Recognizer.match?_eq_none hopens]
    rfl

end ScoreLexer
