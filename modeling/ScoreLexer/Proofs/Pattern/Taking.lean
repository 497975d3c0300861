import Mathlib.Algebra.BigOperators.Group.List.Basic
import ScoreLexer.Proofs.Pattern.Match

namespace ScoreLexer

theorem Text.getLast?_cons_or (c : Char) (text : Text) (before : Option Char) :
    (c :: text).getLast?.or before = text.getLast?.or (some c) := by
  cases text <;> simp [List.getLast?_cons]

theorem Cursor.past?_append (word rest : Text) (before : Option Char) :
    Cursor.past? word ⟨before, word ++ rest⟩ = some ⟨word.getLast?.or before, rest⟩ := by
  induction word generalizing before with
  | nil => rfl
  | cons w word ih =>
    rw [List.cons_append, past?]
    dsimp only
    rw [if_pos rfl, ih, Text.getLast?_cons_or]

theorem Cursor.prefix_of_past? {word : Text} {cursor last : Cursor}
    (h : cursor.past? word = some last) : cursor.rest = word ++ last.rest := by
  induction word generalizing cursor with
  | nil => simpa [past?] using congrArg (Option.map Cursor.rest) h
  | cons w word ih =>
    unfold past? at h
    split at h
    · simp at h
    · next c rest hrest =>
      split at h
      · next hc => rw [hrest, hc, List.cons_append, ← ih h]
      · simp at h

theorem head?_flatMap_of_head? {α β : Type} {l : List α} {f : α → List β} {a : α} {b : β}
    (hl : l.head? = some a) (hf : (f a).head? = some b) : (l.flatMap f).head? = some b := by
  obtain ⟨tail, rfl⟩ := List.head?_eq_some_iff.mp hl
  rw [List.flatMap_cons, List.head?_append, hf, Option.some_or]

namespace Pattern

-- The pattern takes the text: its preferred end at the text is right before the rest.
def Takes (pattern : Pattern) (before : Option Char) (text rest : Text) : Prop :=
  (pattern.ends ⟨before, text ++ rest⟩).head? = some ⟨text.getLast?.or before, rest⟩

theorem head?_manyEnds {inner : Pattern} {follows : Text → Prop} {pieces : List Text} {rest : Text}
    (hinner : ∀ piece ∈ pieces, ∀ before rest, follows rest → inner.Takes before piece rest)
    (hfollows : ∀ piece ∈ pieces, ∀ rest, follows (piece ++ rest)) (hrest : follows rest)
    (hstop : ∀ before, inner.ends ⟨before, rest⟩ = []) {count : Nat}
    (hcount : pieces.length ≤ count) (before : Option Char) :
    (manyEnds inner.ends count ⟨before, pieces.flatten ++ rest⟩).head? =
      some ⟨pieces.flatten.getLast?.or before, rest⟩ := by
  induction pieces generalizing count before with
  | nil =>
    cases count with
    | zero => rfl
    | succ count =>
      rw [List.flatten_nil, List.nil_append, manyEnds, hstop, List.flatMap_nil]
      rfl
  | cons piece pieces ih =>
    obtain ⟨count, rfl⟩ : ∃ more, count = more + 1 := by
      rw [List.length_cons] at hcount
      exact ⟨count - 1, by omega⟩
    have hnext : follows (pieces.flatten ++ rest) := by
      cases pieces with
      | nil => exact hrest
      | cons next pieces =>
        rw [List.flatten_cons, List.append_assoc]
        exact hfollows next (by simp) _
    have hpiece := hinner piece (by simp) before _ hnext
    have hmore := ih (fun piece h => hinner piece (by simp [h]))
      (fun piece h => hfollows piece (by simp [h])) (Nat.le_of_succ_le_succ hcount)
      (piece.getLast?.or before)
    have hlast : (piece ++ pieces.flatten).getLast?.or before =
        pieces.flatten.getLast?.or (piece.getLast?.or before) := by
      rw [List.getLast?_append, Option.or_assoc]
    rw [List.flatten_cons, hlast, manyEnds, List.append_assoc, List.head?_append,
      head?_flatMap_of_head? hpiece hmore, Option.some_or]

namespace Takes

variable {before : Option Char} {text more rest : Text}

theorem head?_rest {pattern : Pattern} (h : pattern.Takes before text rest) :
    (pattern.ends ⟨before, text ++ rest⟩).head?.map Cursor.rest = some rest := by
  rw [h, Option.map_some]

theorem word (word : String) : (Pattern.word word).Takes before word.toList rest := by
  simp [Takes, Pattern.word, ends, Cursor.past?_append]

theorem one {accepts : Char → Bool} {c : Char} (h : accepts c = true) :
    (Pattern.one accepts).Takes before [c] rest := by
  simp [Takes, ends, h]

theorem run {accepts : Char → Bool} (hne : text ≠ []) (htext : text.all accepts = true)
    (hrest : ∀ c ∈ rest.head?, accepts c = false) :
    (Pattern.run accepts).Takes before text rest := by
  have hstop : ∀ found, runEnds accepts rest found = found := by
    intro found
    cases rest with
    | nil => rfl
    | cons c rest => rw [runEnds, hrest c rfl, if_neg Bool.false_ne_true]
  have hruns : ∀ found, (runEnds accepts (text ++ rest) found).head? =
      some ⟨text.getLast?.or before, rest⟩ := by
    induction text with
    | nil => exact absurd rfl hne
    | cons c text ih =>
      obtain ⟨hc, htext⟩ := Bool.and_eq_true_iff.mp htext
      intro found
      rw [List.cons_append, runEnds, if_pos hc]
      cases text with
      | nil => rw [List.nil_append, hstop]; rfl
      | cons d text =>
        have hlast : (c :: d :: text).getLast? = (d :: text).getLast? := List.getLast?_cons_cons
        rw [hlast]
        exact ih (List.cons_ne_nil d text) htext _
  exact hruns []

theorem seq {first second : Pattern} (hfirst : first.Takes before text (more ++ rest))
    (hsecond : second.Takes (text.getLast?.or before) more rest) :
    (Pattern.seq first second).Takes before (text ++ more) rest := by
  have hlast : (text ++ more).getLast?.or before =
      more.getLast?.or (text.getLast?.or before) := by
    rw [List.getLast?_append, Option.or_assoc]
  rw [Takes, hlast, List.append_assoc]
  exact head?_flatMap_of_head? hfirst hsecond

theorem altLeft {first second : Pattern} (h : first.Takes before text rest) :
    (Pattern.alt first second).Takes before text rest := by
  rw [Takes, ends, List.head?_append, h, Option.some_or]

theorem altRight {first second : Pattern} (hnone : first.ends ⟨before, text ++ rest⟩ = [])
    (h : second.Takes before text rest) : (Pattern.alt first second).Takes before text rest := by
  rw [Takes, ends, hnone, List.nil_append, h]

theorem absent {inner : Pattern} (hnone : inner.ends ⟨before, rest⟩ = []) :
    (Pattern.optional inner).Takes before [] rest :=
  altRight hnone rfl

theorem edge (h : Cursor.atWordEdge ⟨before, rest⟩ = true) :
    Pattern.edge.Takes before [] rest := by
  simp [Takes, ends, h]

-- Pieces of a repetition, none of them empty. What may follow a piece is what the next one begins
-- with or what follows them all.
theorem many {inner : Pattern} {follows : Text → Prop} {pieces : List Text}
    (hne : ∀ piece ∈ pieces, piece ≠ [])
    (hinner : ∀ piece ∈ pieces, ∀ before rest, follows rest → inner.Takes before piece rest)
    (hfollows : ∀ piece ∈ pieces, ∀ rest, follows (piece ++ rest)) (hrest : follows rest)
    (hstop : ∀ before, inner.ends ⟨before, rest⟩ = []) :
    (Pattern.many inner).Takes before pieces.flatten rest := by
  have hpieces : pieces.length ≤ pieces.flatten.length := by
    rw [List.length_flatten, ← List.length_map List.length]
    apply List.length_le_sum_of_one_le
    intro length hlength
    obtain ⟨piece, hpiece, rfl⟩ := List.mem_map.mp hlength
    exact List.length_pos_iff.mpr (hne piece hpiece)
  apply head?_manyEnds hinner hfollows hrest hstop
  rw [List.length_append]
  omega

end Takes

end Pattern

namespace Recognizer

theorem match?_of_takes {recognizer : Recognizer} {before : Option Char} {text rest : Text}
    (hstart : recognizer.fromWordStart = false) (hne : text ≠ [])
    (htakes : recognizer.pattern.Takes before text rest)
    (hguard : recognizer.guard.allows rest.head? = true) :
    recognizer.match? ⟨before, text ++ rest⟩ = some text.length :=
  match?_of_ends hstart hne htakes.head?_rest hguard

theorem match?_of_ends_nil {recognizer : Recognizer} {cursor : Cursor}
    (h : recognizer.pattern.ends cursor = []) : recognizer.match? cursor = none := by
  unfold match?
  rw [h]
  split <;> rfl

end Recognizer

end ScoreLexer
