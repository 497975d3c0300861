import Mathlib.Data.List.Forall2
import ScoreLexer.Pattern.Basic

namespace ScoreLexer

namespace Cursor

-- Cursors with the same text after them, and both or neither at the end of a word.
structure Similar (first second : Cursor) : Prop where
  rest_eq : first.rest = second.rest
  endsWord_eq : first.before.any Text.isWordChar = second.before.any Text.isWordChar
  insideWord_eq : first.insideWord = second.insideWord

instance : Std.Refl Similar := ⟨fun _ => ⟨rfl, rfl, rfl⟩⟩

theorem Similar.atWordEdge_eq {first second : Cursor} (h : Similar first second) :
    first.atWordEdge = second.atWordEdge := by
  rw [atWordEdge, atWordEdge, h.endsWord_eq, h.rest_eq]

theorem similar_newline (rest : Text) : Similar ⟨some '\n', rest⟩ ⟨none, rest⟩ :=
  ⟨rfl, rfl, rfl⟩

def extend (more : Text) (cursor : Cursor) : Cursor := { cursor with rest := cursor.rest ++ more }

@[simp] theorem rest_extend (more : Text) (cursor : Cursor) :
    (cursor.extend more).rest = cursor.rest ++ more := rfl

@[simp] theorem insideWord_extend (more : Text) (cursor : Cursor) :
    (cursor.extend more).insideWord = cursor.insideWord := rfl

theorem past?_similar {first second : Cursor} (h : Similar first second) (word : Text) :
    Option.Rel Similar (past? word first) (past? word second) := by
  cases word with
  | nil => exact .some h
  | cons w word =>
    simp only [past?, h.rest_eq]
    cases second.rest with
    | nil => exact .none
    | cons c rest =>
      dsimp only
      split
      · cases past? word ⟨some c, rest⟩ with
        | none => exact .none
        | some last => exact .some (refl last)
      · exact .none

theorem past?_extend_newline {word : Text} (hword : '\n' ∉ word) (more : Text) (cursor : Cursor) :
    past? word (cursor.extend ('\n' :: more)) =
      (past? word cursor).map (extend ('\n' :: more)) := by
  induction word generalizing cursor with
  | nil => rfl
  | cons w word ih =>
    simp only [List.mem_cons, not_or] at hword
    obtain ⟨before, rest⟩ := cursor
    cases rest with
    | nil => simp [past?, extend, Ne.symm hword.1]
    | cons c rest =>
      simp only [past?, extend, List.cons_append]
      split
      · exact ih hword.2 ⟨some c, rest⟩
      · rfl

theorem atWordEdge_extend_newline (more : Text) (cursor : Cursor) :
    (cursor.extend ('\n' :: more)).atWordEdge = cursor.atWordEdge := by
  obtain ⟨before, rest⟩ := cursor
  have hnewline : Text.isWordChar '\n' = false := by decide
  cases rest with
  | nil => simp [atWordEdge, extend, hnewline]
  | cons c rest => rfl

end Cursor

namespace Pattern

open Cursor

theorem manyEnds_similar {step : Cursor → List Cursor}
    (hstep : ∀ {first second}, Similar first second →
      List.Forall₂ Similar (step first) (step second)) (count : Nat) {first second : Cursor}
    (h : Similar first second) :
    List.Forall₂ Similar (manyEnds step count first) (manyEnds step count second) := by
  induction count generalizing first second with
  | zero => exact .cons h .nil
  | succ count ih =>
    exact List.rel_append (List.rel_flatMap (hstep h) fun _ _ => ih) (.cons h .nil)

theorem ends_similar (pattern : Pattern) {first second : Cursor} (h : Similar first second) :
    List.Forall₂ Similar (pattern.ends first) (pattern.ends second) := by
  induction pattern generalizing first second with
  | words list =>
    refine List.rel_filterMap (R := Eq) ?_ (List.forall₂_refl list)
    rintro word _ rfl
    exact past?_similar h word
  | one accepts =>
    simp only [ends, h.rest_eq]
    exact List.forall₂_refl _
  | run accepts =>
    simp only [ends, h.rest_eq]
    exact List.forall₂_refl _
  | seq former latter hformer hlatter =>
    exact List.rel_flatMap (hformer h) fun _ _ => hlatter
  | alt former latter hformer hlatter => exact List.rel_append (hformer h) (hlatter h)
  | many inner hinner =>
    simp only [ends, h.rest_eq]
    exact manyEnds_similar hinner _ h
  | edge =>
    simp only [ends, h.atWordEdge_eq]
    split
    · exact .cons h .nil
    · exact .nil

def consumes : Pattern → Bool
  | words list => list.all fun word => !word.isEmpty
  | one _ | run _ => true
  | seq former latter => former.consumes || latter.consumes
  | alt former latter => former.consumes && latter.consumes
  | many _ | edge => false

-- Whether the pattern takes no newline. What is repeated must take something.
def staysInLine : Pattern → Bool
  | words list => list.all fun word => !word.contains '\n'
  | one accepts | run accepts => !accepts '\n'
  | seq former latter | alt former latter => former.staysInLine && latter.staysInLine
  | many inner => inner.consumes && inner.staysInLine
  | edge => true

@[simp] theorem staysInLine_seq (former latter : Pattern) :
    (seq former latter).staysInLine = (former.staysInLine && latter.staysInLine) := rfl

@[simp] theorem staysInLine_edge : edge.staysInLine = true := rfl

@[simp] theorem staysInLine_word (text : String) :
    (word text).staysInLine = !text.toList.contains '\n' := by
  simp [word, staysInLine]

theorem past?_length {word : Text} {cursor last : Cursor} (h : cursor.past? word = some last) :
    last.rest.length + word.length = cursor.rest.length := by
  induction word generalizing cursor with
  | nil =>
    simp only [past?, Option.some.injEq] at h
    simp [h]
  | cons w word ih =>
    obtain ⟨before, rest⟩ := cursor
    cases rest with
    | nil => simp [past?] at h
    | cons c rest =>
      simp only [past?] at h
      split at h
      · have hword := ih h
        simp only [List.length_cons] at hword ⊢
        omega
      · simp at h

theorem length_of_mem_ends_one {accepts : Char → Bool} {cursor last : Cursor}
    (h : last ∈ (one accepts).ends cursor) : last.rest.length + 1 = cursor.rest.length := by
  simp only [ends] at h
  split at h
  · simp at h
  · next c rest hrest =>
    split at h
    · rw [List.mem_singleton.mp h, hrest, List.length_cons]
    · simp at h

theorem mem_runEnds {accepts : Char → Bool} {text : Text} {found : List Cursor} {last : Cursor}
    (h : last ∈ runEnds accepts text found) : last ∈ found ∨ last.rest.length < text.length := by
  induction text generalizing found with
  | nil => exact .inl h
  | cons c rest ih =>
    rw [runEnds] at h
    split at h
    · rcases ih h with hfound | hlt
      · rcases List.mem_cons.mp hfound with rfl | hfound
        · exact .inr (by simp)
        · exact .inl hfound
      · exact .inr (by simp; omega)
    · exact .inl h

theorem mem_manyEnds {step : Cursor → List Cursor}
    (hstep : ∀ {cursor last}, last ∈ step cursor → last.rest.length ≤ cursor.rest.length)
    {count : Nat} {cursor last : Cursor} (h : last ∈ manyEnds step count cursor) :
    last.rest.length ≤ cursor.rest.length := by
  induction count generalizing cursor with
  | zero => exact Nat.le_of_eq (by rw [List.mem_singleton.mp h])
  | succ count ih =>
    rw [manyEnds, List.mem_append, List.mem_flatMap, List.mem_singleton] at h
    rcases h with ⟨middle, hmiddle, hlast⟩ | rfl
    · exact Nat.le_trans (ih hlast) (hstep hmiddle)
    · exact Nat.le_refl _

theorem length_le_of_mem_ends {pattern : Pattern} {cursor last : Cursor}
    (h : last ∈ pattern.ends cursor) : last.rest.length ≤ cursor.rest.length := by
  induction pattern generalizing cursor last with
  | words list =>
    obtain ⟨word, -, hword⟩ := List.mem_filterMap.mp h
    have := past?_length hword
    omega
  | one accepts =>
    have := length_of_mem_ends_one h
    omega
  | run accepts =>
    have hrun := mem_runEnds h
    simp only [List.not_mem_nil, false_or] at hrun
    omega
  | seq former latter hformer hlatter =>
    obtain ⟨middle, hmiddle, hlast⟩ := List.mem_flatMap.mp h
    exact Nat.le_trans (hlatter hlast) (hformer hmiddle)
  | alt former latter hformer hlatter =>
    rcases List.mem_append.mp h with h | h
    · exact hformer h
    · exact hlatter h
  | many inner hinner => exact mem_manyEnds hinner h
  | edge =>
    simp only [ends] at h
    split at h
    · exact Nat.le_of_eq (by rw [List.mem_singleton.mp h])
    · simp at h

theorem length_lt_of_mem_ends {pattern : Pattern} (hpattern : pattern.consumes = true)
    {cursor last : Cursor} (h : last ∈ pattern.ends cursor) :
    last.rest.length < cursor.rest.length := by
  induction pattern generalizing cursor last with
  | words list =>
    obtain ⟨word, hmem, hword⟩ := List.mem_filterMap.mp h
    have hlength := past?_length hword
    have hpos : 0 < word.length :=
      List.length_pos_iff.mpr (by simpa using List.all_eq_true.mp hpattern word hmem)
    omega
  | one accepts =>
    have := length_of_mem_ends_one h
    omega
  | run accepts =>
    have hrun := mem_runEnds h
    simpa using hrun
  | seq former latter hformer hlatter =>
    obtain ⟨middle, hmiddle, hlast⟩ := List.mem_flatMap.mp h
    rcases Bool.or_eq_true_iff.mp hpattern with hconsumes | hconsumes
    · exact Nat.lt_of_le_of_lt (length_le_of_mem_ends hlast) (hformer hconsumes hmiddle)
    · exact Nat.lt_of_lt_of_le (hlatter hconsumes hlast) (length_le_of_mem_ends hmiddle)
  | alt former latter hformer hlatter =>
    obtain ⟨hfirst, hsecond⟩ := Bool.and_eq_true_iff.mp hpattern
    rcases List.mem_append.mp h with h | h
    · exact hformer hfirst h
    · exact hlatter hsecond h
  | many inner => exact absurd hpattern Bool.false_ne_true
  | edge => exact absurd hpattern Bool.false_ne_true

-- Once there are as many repetitions as characters, more of them make no difference.
theorem manyEnds_eq_of_le {step : Cursor → List Cursor}
    (hstep : ∀ {cursor last}, last ∈ step cursor → last.rest.length < cursor.rest.length)
    {m n : Nat} {cursor : Cursor} (hm : cursor.rest.length ≤ m) (hn : cursor.rest.length ≤ n) :
    manyEnds step m cursor = manyEnds step n cursor := by
  have hnone : ∀ cursor : Cursor, cursor.rest.length = 0 → step cursor = [] := by
    intro cursor hzero
    apply List.eq_nil_iff_forall_not_mem.mpr
    intro last hlast
    have := hstep hlast
    omega
  induction m generalizing n cursor with
  | zero =>
    cases n with
    | zero => rfl
    | succ n =>
      rw [manyEnds, manyEnds, hnone cursor (by omega)]
      rfl
  | succ m ih =>
    cases n with
    | zero =>
      rw [manyEnds, manyEnds, hnone cursor (by omega)]
      rfl
    | succ n =>
      rw [manyEnds, manyEnds]
      congr 1
      apply List.flatMap_congr
      intro last hlast
      have hlt := hstep hlast
      exact ih (by omega) (by omega)

theorem runEnds_extend_newline {accepts : Char → Bool} (h : accepts '\n' = false) (more : Text)
    (text : Text) (found : List Cursor) :
    runEnds accepts (text ++ '\n' :: more) (found.map (extend ('\n' :: more))) =
      (runEnds accepts text found).map (extend ('\n' :: more)) := by
  induction text generalizing found with
  | nil => simp [runEnds, h]
  | cons c rest ih =>
    rw [List.cons_append, runEnds, runEnds]
    split
    · exact ih (⟨some c, rest⟩ :: found)
    · rfl

theorem manyEnds_extend {step : Cursor → List Cursor} {more : Text}
    (hstep : ∀ cursor, step (cursor.extend more) = (step cursor).map (extend more))
    (count : Nat) (cursor : Cursor) :
    manyEnds step count (cursor.extend more) = (manyEnds step count cursor).map (extend more) := by
  induction count generalizing cursor with
  | zero => rfl
  | succ count ih =>
    rw [manyEnds, manyEnds, hstep, List.map_append, List.flatMap_map, List.map_flatMap]
    simp only [ih, List.map_cons, List.map_nil]

-- A pattern that takes no newline ends at the same places whether a newline follows or the text
-- stops.
theorem ends_extend_newline {pattern : Pattern} (h : pattern.staysInLine = true) (more : Text)
    (cursor : Cursor) :
    pattern.ends (cursor.extend ('\n' :: more)) =
      (pattern.ends cursor).map (extend ('\n' :: more)) := by
  induction pattern generalizing cursor with
  | words list =>
    simp only [ends, List.map_filterMap]
    apply List.filterMap_congr
    intro word hword
    have hfree : '\n' ∉ word := by simpa using List.all_eq_true.mp h word hword
    exact past?_extend_newline hfree more cursor
  | one accepts =>
    have hnewline : accepts '\n' = false := by simpa [staysInLine] using h
    obtain ⟨before, rest⟩ := cursor
    cases rest with
    | nil => simp [ends, extend, hnewline]
    | cons c rest =>
      simp only [ends, extend, List.cons_append]
      split <;> rfl
  | run accepts =>
    have hnewline : accepts '\n' = false := by simpa [staysInLine] using h
    exact runEnds_extend_newline hnewline more cursor.rest []
  | seq former latter hformer hlatter =>
    obtain ⟨hfirst, hsecond⟩ := Bool.and_eq_true_iff.mp h
    rw [ends, ends, hformer hfirst, List.flatMap_map, List.map_flatMap]
    simp only [hlatter hsecond]
  | alt former latter hformer hlatter =>
    obtain ⟨hfirst, hsecond⟩ := Bool.and_eq_true_iff.mp h
    rw [ends, ends, hformer hfirst, hlatter hsecond, List.map_append]
  | many inner hinner =>
    obtain ⟨hconsumes, hline⟩ := Bool.and_eq_true_iff.mp h
    rw [ends, ends, manyEnds_extend (hinner hline)]
    congr 1
    apply manyEnds_eq_of_le (length_lt_of_mem_ends hconsumes)
    · simp
    · exact Nat.le_refl _
  | edge =>
    simp only [ends, atWordEdge_extend_newline]
    split <;> rfl

end Pattern

namespace Recognizer

open Cursor

theorem match?_similar (recognizer : Recognizer) {first second : Cursor}
    (h : Similar first second) : recognizer.match? first = recognizer.match? second := by
  have hends := recognizer.pattern.ends_similar h
  unfold match?
  rw [h.insideWord_eq, h.rest_eq]
  generalize recognizer.pattern.ends first = ends₁ at hends ⊢
  generalize recognizer.pattern.ends second = ends₂ at hends ⊢
  cases hends with
  | nil => rfl
  | cons hhead _ => simp only [List.head?_cons, hhead.rest_eq]

theorem allows_head?_newline (guard : Guard) (rest more : Text) :
    guard.allows (rest ++ '\n' :: more).head? = guard.allows rest.head? := by
  cases rest with
  | nil => cases guard <;> rfl
  | cons c rest => rfl

theorem match?_extend_newline {recognizer : Recognizer} (h : recognizer.pattern.staysInLine = true)
    (more : Text) (cursor : Cursor) :
    recognizer.match? (cursor.extend ('\n' :: more)) = recognizer.match? cursor := by
  unfold match?
  rw [insideWord_extend, Pattern.ends_extend_newline h, List.head?_map]
  cases (recognizer.pattern.ends cursor).head? with
  | none => rfl
  | some last =>
    simp only [Option.map_some, rest_extend, List.length_append, allows_head?_newline,
      Nat.add_lt_add_iff_right, Nat.add_sub_add_right]

end Recognizer

end ScoreLexer
