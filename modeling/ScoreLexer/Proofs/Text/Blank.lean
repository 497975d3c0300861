import Mathlib.Data.List.DropRight
import ScoreLexer.Proofs.Pattern.Locality
import ScoreLexer.Text.Blank

namespace ScoreLexer

namespace Text

def blanks : Text :=
  [9, 10, 11, 12, 13, 0x20, 0x85, 0xA0, 0x1680, 0x2000, 0x2001, 0x2002, 0x2003, 0x2004, 0x2005,
   0x2006, 0x2007, 0x2008, 0x2009, 0x200A, 0x2028, 0x2029, 0x202F, 0x205F, 0x3000].map Char.ofNat

theorem mem_blanks {c : Char} (h : isBlank c = true) : c ∈ blanks := by
  refine List.mem_map.mpr ⟨c.toNat, ?_, Char.ofNat_toNat c⟩
  simp only [isBlank, Bool.or_eq_true, Bool.and_eq_true, decide_eq_true_eq, beq_iff_eq] at h
  simp only [List.mem_cons, List.not_mem_nil, or_false]
  omega

theorem not_word_of_isBlank {c : Char} (h : isBlank c = true) :
    isWordChar c = false ∧ isAlphanumeric c = false ∧ c ≠ '_' := by
  have hall : blanks.all (fun c => !isWordChar c && !isAlphanumeric c && c != '_') = true := by
    decide +kernel
  simpa [and_assoc] using List.all_eq_true.mp hall c (mem_blanks h)

def isIndent (c : Char) : Bool := isBlank c && c != '\n'

-- The text without the blanks in front of it. A newline is kept.
def unindented (text : Text) : Text := text.dropWhile isIndent

theorem dropWhile_unindented (text : Text) :
    (unindented text).dropWhile isBlank = text.dropWhile isBlank := by
  induction text with
  | nil => rfl
  | cons c text ih =>
    by_cases hc : isIndent c = true
    · have hblank : isBlank c = true := (Bool.and_eq_true_iff.mp hc).1
      rw [unindented, List.dropWhile_cons_of_pos hc, List.dropWhile_cons_of_pos hblank]
      exact ih
    · rw [unindented, List.dropWhile_cons_of_neg hc]

theorem unindented_append {front : Text} (hfront : front.all isIndent = true) (text : Text) :
    unindented (front ++ text) = unindented text := by
  rw [unindented, List.dropWhile_append_of_pos (List.all_eq_true.mp hfront), unindented]

theorem unindented_unindented (text : Text) : unindented (unindented text) = unindented text := by
  rw [unindented, unindented, List.dropWhile_idempotent]

end Text

theorem Cursor.similar_of_isBlank {before : Option Char} (h : ∀ c ∈ before, Text.isBlank c = true)
    (rest : Text) : Similar ⟨before, rest⟩ ⟨none, rest⟩ := by
  cases before with
  | none => exact ⟨rfl, rfl, rfl⟩
  | some c =>
    obtain ⟨hword, halphanumeric, hunderscore⟩ := Text.not_word_of_isBlank (h c rfl)
    exact ⟨rfl, by simp [hword], by simp [insideWord, halphanumeric, hunderscore]⟩

theorem Cursor.similar_of_all_isBlank {front : Text} (h : front.all Text.isBlank = true)
    (rest : Text) : Similar ⟨front.getLast?, rest⟩ ⟨none, rest⟩ :=
  similar_of_isBlank (fun c hc => List.all_eq_true.mp h c (List.mem_of_getLast? hc)) rest

end ScoreLexer
