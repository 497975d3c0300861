import Mathlib.Order.Bounds.Defs
import ScoreLexer.Proofs.Document.Editing

namespace ScoreLexer

open Text

def EndsAlike (former latter : List Line) (index : Nat) : Prop :=
  ∃ line ∈ former[index]?, ∃ line' ∈ latter[index]?, line'.final = line.final

theorem endsAlike_drop (count : Nat) (former latter : List Line) (index : Nat) :
    EndsAlike (former.drop count) (latter.drop count) index ↔
      EndsAlike former latter (count + index) := by
  simp only [EndsAlike, List.getElem?_drop]

theorem EndsAlike.lt_length {former latter : List Line} {index : Nat}
    (h : EndsAlike former latter index) : index < former.length := by
  obtain ⟨line, hline, -⟩ := h
  exact (List.getElem?_eq_some_iff.mp hline).1

-- So many lines at the front are lexed again. The last of them is the first to end as before, or
-- the last of all, and the lines after it are kept.
structure Reach (former latter : List Line) (count : Nat) : Prop where
  pos : 0 < count
  le : count ≤ former.length
  length_eq : latter.length = former.length
  kept : latter.drop count = former.drop count
  differs : ∀ index, index + 1 < count → ¬EndsAlike former latter index
  settles : EndsAlike former latter (count - 1) ∨ count = former.length

theorem reach_one {previous line : Line} (h : line.final = previous.final) (below : List Line) :
    Reach (previous :: below) (line :: below) 1 where
  pos := Nat.one_pos
  le := by simp
  length_eq := by simp
  kept := rfl
  differs := by simp
  settles := .inl ⟨previous, rfl, line, rfl, h⟩

theorem Reach.cons {former latter : List Line} {count : Nat} (h : Reach former latter count)
    {previous line : Line} (hfinal : line.final ≠ previous.final) :
    Reach (previous :: former) (line :: latter) (count + 1) where
  pos := Nat.succ_pos count
  le := Nat.succ_le_succ h.le
  length_eq := by simp [h.length_eq]
  kept := h.kept
  differs := by
    intro index hindex
    cases index with
    | zero =>
      rintro ⟨_, ⟨⟩, _, ⟨⟩, hsame⟩
      exact hfinal hsame
    | succ index => exact h.differs index (Nat.lt_of_succ_lt_succ hindex)
  settles := by
    obtain ⟨more, rfl⟩ : ∃ more, count = more + 1 := ⟨count - 1, by have := h.pos; omega⟩
    rcases h.settles with hsame | hall
    · exact .inl hsame
    · exact .inr (congrArg Nat.succ hall)

-- The number of lines lexed again is the least with which the change has died out, where there is
-- one.
theorem Reach.isLeast_or {former latter : List Line} {count : Nat}
    (h : Reach former latter count) :
    IsLeast {k | 1 ≤ k ∧ EndsAlike former latter (k - 1)} count ∨
      (∀ k, 1 ≤ k → ¬EndsAlike former latter (k - 1)) ∧ count = former.length := by
  have hbefore : ∀ k, 1 ≤ k → k < count → ¬EndsAlike former latter (k - 1) :=
    fun k hk hlt => h.differs (k - 1) (by omega)
  by_cases hends : EndsAlike former latter (count - 1)
  · refine .inl ⟨⟨h.pos, hends⟩, ?_⟩
    rintro k ⟨hk, hsame⟩
    exact Nat.le_of_not_lt fun hlt => hbefore k hk hlt hsame
  · have hall : count = former.length := h.settles.resolve_left hends
    refine .inr ⟨fun k hk hsame => ?_, hall⟩
    have hle := hsame.lt_length
    rcases Nat.lt_or_eq_of_le (show k ≤ count by omega) with hlt | rfl
    · exact hbefore k hk hlt hsame
    · exact hends hsame

theorem chained_drop {lexer : Lexer} {start : Stack} {lines : List Line}
    (h : Chained lexer start lines) {index : Nat} (hlt : index < lines.length) :
    Chained lexer lines[index].start (lines.drop index) := by
  induction index generalizing start lines with
  | zero =>
    cases lines with
    | nil => cases hlt
    | cons line below => exact h.1 ▸ h
  | succ index ih =>
    cases lines with
    | nil => cases hlt
    | cons line below => exact ih h.2.2.2 (Nat.lt_of_succ_lt_succ hlt)

namespace Document

-- By induction on the lines below the edited one.
theorem reach_relex (lexer : Lexer) (start : Stack) (text : Text) (previous : Line)
    (below : List Line) :
    Reach (previous :: below) (relex lexer start text previous below).1
      (relex lexer start text previous below).2 := by
  induction below generalizing start text previous with
  | nil => exact ⟨Nat.one_pos, Nat.le_refl _, rfl, rfl, by simp [relex], .inr rfl⟩
  | cons next below ih =>
    rw [relex]
    split
    · next hsame => exact reach_one hsame _
    · next hdiffers => exact (ih _ next.text next).cons hdiffers

theorem relex_of_chained {lexer : Lexer} {start : Stack} {previous : Line} {below : List Line}
    (h : Chained lexer start (previous :: below)) :
    relex lexer start previous.text previous below = (previous :: below, 1) := by
  have hline := lex_line_of_chained h
  cases below with
  | nil => rw [relex, hline]
  | cons next below =>
    rw [relex, hline]
    exact if_pos rfl

variable {lexer : Lexer} {document : Document}

theorem admissible_of_replaceLine {edit : Edit} {result : Document × Nat}
    (hedit : document.replaceLine lexer edit.index edit.text = .ok result) :
    edit.Admissible document.lines.length := by
  refine Decidable.byContradiction fun hrefused => ?_
  obtain ⟨error, hreplace⟩ := exists_error_of_not_admissible lexer hrefused
  rw [hedit] at hreplace
  cases hreplace

theorem reach_replaceLine {edit : Edit} {edited : Document} {count : Nat}
    (hedit : document.replaceLine lexer edit.index edit.text = .ok (edited, count)) :
    edited.lines.take edit.index = document.lines.take edit.index ∧
      Reach (document.lines.drop edit.index) (edited.lines.drop edit.index) count := by
  have hadmissible := admissible_of_replaceLine hedit
  have hdrop := List.drop_eq_getElem_cons hadmissible.1
  have htake : (document.lines.take edit.index).length = edit.index :=
    List.length_take_of_le (Nat.le_of_lt hadmissible.1)
  have hreplace := replaceLine_eq_ok lexer hadmissible hdrop
  rw [hedit, Except.ok.injEq, Prod.mk.injEq] at hreplace
  obtain ⟨rfl, rfl⟩ := hreplace
  refine ⟨List.take_left' htake, ?_⟩
  rw [List.drop_left' htake, hdrop]
  exact reach_relex lexer _ _ _ _

theorem eq_ofTexts_of_replaceLine (h : Chained lexer document.initial document.lines)
    {edit : Edit} {edited : Document} {count : Nat}
    (hedit : document.replaceLine lexer edit.index edit.text = .ok (edited, count)) :
    edited = ofTexts lexer document.initial (edit.store document.texts) := by
  obtain ⟨_, hreplace⟩ := replaceLine_of_admissible h (admissible_of_replaceLine hedit)
  rw [hedit, Except.ok.injEq, Prod.mk.injEq] at hreplace
  exact hreplace.1

theorem storedText_self (h : AreLines document.texts) {index : Nat}
    (hlt : index < document.lines.length) :
    Edit.Admissible ⟨index, document.lines[index].text⟩ document.lines.length ∧
      document.storedText ⟨index, document.lines[index].text⟩ = document.lines[index].text := by
  have hlength : document.texts.length = document.lines.length := List.length_map _
  obtain ⟨hline, hend⟩ := isLine_getElem h (hlength ▸ hlt)
  simp only [texts, List.getElem_map, List.length_map] at hline hend
  refine ⟨⟨hlt, hline⟩, ?_⟩
  unfold storedText
  split
  · rfl
  · next hne =>
    dsimp only at hne ⊢
    exact if_pos (hend (by omega))

theorem replaceLine_self (h : Chained lexer document.initial document.lines)
    (hlines : AreLines document.texts) {index : Nat} (hlt : index < document.lines.length) :
    document.replaceLine lexer index document.lines[index].text = .ok (document, 1) := by
  have hdrop := List.drop_eq_getElem_cons hlt
  have hchained := chained_drop h hlt
  obtain ⟨hadmissible, hstored⟩ := storedText_self hlines hlt
  have hreplace := replaceLine_eq_ok lexer hadmissible hdrop
  rw [hdrop] at hchained
  rw [hstored, relex_of_chained hchained, ← hdrop, List.take_append_drop] at hreplace
  exact hreplace

end Document

-- How far an edit reaches, whatever edits were made before. The lines above the edited one and the
-- lines that are not lexed again stay as they are. Lexing all lines with the new text in place, the
-- last line lexed again is the first from the edited one on that ends with the stack it ended with
-- before, or the last of the document when there is none. Putting a line's own text in its place
-- lexes this line only and changes nothing.
theorem replaceLine_reaches_least (lexer : Lexer) (initial : Stack) (text : Text)
    (edits : List Edit) :
    let document := (Document.lex lexer initial text).editAll lexer edits
    let lines := document.lines
    (∀ (edit : Edit) (edited : Document) (count : Nat),
      document.replaceLine lexer edit.index edit.text = .ok (edited, count) →
      let fresh := (Document.ofTexts lexer initial (edit.store document.texts)).lines
      (1 ≤ count ∧ count ≤ lines.length - edit.index) ∧
        edited.lines.length = lines.length ∧
        edited.lines.take edit.index = lines.take edit.index ∧
        edited.lines.drop (edit.index + count) = lines.drop (edit.index + count) ∧
        (IsLeast {k | 1 ≤ k ∧ EndsAlike lines fresh (edit.index + (k - 1))} count ∨
          (∀ k, 1 ≤ k → ¬EndsAlike lines fresh (edit.index + (k - 1))) ∧
            count = lines.length - edit.index)) ∧
      ∀ (index : Nat) (hlt : index < lines.length),
        document.replaceLine lexer index lines[index].text = .ok (document, 1) := by
  intro document lines
  have hdocument : document = Document.ofTexts lexer initial (edits.foldl Edit.store text.lines) :=
    Document.editAll_ofTexts lexer initial text.lines edits
  have hinitial : document.initial = initial := by rw [hdocument]; rfl
  have hchained : Chained lexer document.initial lines := by
    rw [hinitial, show lines = _ from congrArg Document.lines hdocument]
    exact Document.chained_lexLines lexer initial _
  have htexts : AreLines document.texts := by
    rw [hdocument, Document.texts, Document.ofTexts, Document.map_text_lexLines]
    exact Document.areLines_foldl_store (areLines_lines text) edits
  refine ⟨?_, fun index hlt => Document.replaceLine_self hchained htexts hlt⟩
  intro edit edited count hedit fresh
  have hfresh : edited.lines = fresh := by
    rw [Document.eq_ofTexts_of_replaceLine hchained hedit, hinitial]
  have hlt : edit.index < lines.length := (Document.admissible_of_replaceLine hedit).1
  obtain ⟨htake, hreach⟩ : _ ∧ Reach (lines.drop edit.index) _ count :=
    Document.reach_replaceLine hedit
  have hle := hreach.le
  have hlength := hreach.length_eq
  have hkept := hreach.kept
  have hleast := hreach.isLeast_or
  simp only [List.length_drop, List.drop_drop, endsAlike_drop, hfresh] at hle hlength hkept hleast
  rw [hfresh] at htake ⊢
  exact ⟨⟨hreach.pos, hle⟩, by omega, htake, hkept, hleast⟩

-- A comment opened in the first line reaches to the line that closes it, and the last line is kept.
theorem replaceLine_reaches_least_open_comment :
    let lexer := Lexicon.builtin.lexer
    let document := (Document.lex lexer .toplevel "c d\ne f\n%\x7d g\na b".toList).editAll lexer
      [⟨3, "a' b'".toList⟩]
    let edit : Edit := ⟨0, "c d %\x7b".toList⟩
    let edited := Document.ofTexts lexer .toplevel (edit.store document.texts)
    document.replaceLine lexer edit.index edit.text = .ok (edited, 3) ∧
      edited.lines.drop 3 = document.lines.drop 3 ∧
      IsLeast {k | 1 ≤ k ∧ EndsAlike document.lines edited.lines (0 + (k - 1))} 3 := by
  intro lexer document edit edited
  have hresult : (document.replaceLine lexer edit.index edit.text).toOption = some (edited, 3) := by
    decide +kernel
  have hedit : document.replaceLine lexer edit.index edit.text = .ok (edited, 3) := by
    cases h : document.replaceLine lexer edit.index edit.text with
    | ok result =>
      rw [h] at hresult
      exact congrArg _ (Option.some.inj hresult)
    | error =>
      rw [h] at hresult
      cases hresult
  have hlines : document.lines.length = 4 := by decide +kernel
  obtain ⟨-, -, -, hkept, hleast⟩ :=
    (replaceLine_reaches_least lexer .toplevel "c d\ne f\n%\x7d g\na b".toList
      [⟨3, "a' b'".toList⟩]).1 edit edited 3 hedit
  refine ⟨hedit, hkept, hleast.resolve_right ?_⟩
  rintro ⟨-, hall : 3 = document.lines.length - 0⟩
  omega

end ScoreLexer
