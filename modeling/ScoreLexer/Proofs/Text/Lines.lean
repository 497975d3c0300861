import ScoreLexer.Text.Basic

namespace ScoreLexer.Text

-- A newline stands nowhere but at the end.
def IsLine (text : Text) : Prop := '\n' ∉ text.dropLast

-- Lines, all but the last of which end in a newline.
def AreLines : List Text → Prop
  | [] => True
  | [line] => IsLine line
  | line :: next :: below =>
      (IsLine line ∧ line.getLast? = some '\n') ∧ AreLines (next :: below)

theorem exists_of_isLine {line : Text} (hline : IsLine line) (hlast : line.getLast? = some '\n') :
    ∃ front, '\n' ∉ front ∧ line = front ++ ['\n'] := by
  refine ⟨line.dropLast, hline, ?_⟩
  have hne : line ≠ [] := by
    rintro rfl
    simp at hlast
  rw [List.getLast?_eq_some_getLast hne, Option.some.injEq] at hlast
  rw [← hlast, List.dropLast_concat_getLast]

theorem not_mem_of_isLine {line : Text} (hline : IsLine line)
    (hlast : line.getLast? ≠ some '\n') : '\n' ∉ line := by
  intro hmem
  have hne : line ≠ [] := List.ne_nil_of_mem hmem
  rw [← List.dropLast_concat_getLast hne, List.mem_append, List.mem_singleton] at hmem
  rcases hmem with hmem | hmem
  · exact hline hmem
  · exact hlast (by rw [List.getLast?_eq_some_getLast hne, hmem])

theorem lines_append_newline {front : Text} (hfront : '\n' ∉ front) (rest : Text) :
    lines (front ++ '\n' :: rest) = (front ++ ['\n']) :: lines rest := by
  induction front with
  | nil => simp [lines]
  | cons c front ih =>
    simp only [List.mem_cons, not_or] at hfront
    simp only [List.cons_append, lines, if_neg (Ne.symm hfront.1), ih hfront.2]

theorem lines_of_not_mem {text : Text} (h : '\n' ∉ text) (hne : text ≠ []) :
    lines text = [text] := by
  induction text with
  | nil => exact absurd rfl hne
  | cons c text ih =>
    simp only [List.mem_cons, not_or] at h
    cases text with
    | nil => simp [lines, Ne.symm h.1]
    | cons d text =>
      have htail := ih h.2 (List.cons_ne_nil d text)
      rw [lines, if_neg (Ne.symm h.1), htail]

theorem lines_concat_newline (text : Text) :
    lines (text ++ ['\n']) = lines text ++ [['\n']] ∨
      ∃ earlier last, lines text = earlier ++ [last] ∧
        lines (text ++ ['\n']) = earlier ++ [last ++ ['\n']] := by
  induction text with
  | nil => exact .inl rfl
  | cons c text ih =>
    simp only [List.cons_append, lines]
    by_cases hc : c = '\n'
    · rw [if_pos hc, if_pos hc]
      rcases ih with hown | ⟨earlier, last, hlines, hlonger⟩
      · exact .inl (by rw [hown]; rfl)
      · exact .inr ⟨[c] :: earlier, last, by rw [hlines]; rfl, by rw [hlonger]; rfl⟩
    · rw [if_neg hc, if_neg hc]
      rcases ih with hown | ⟨earlier, last, hlines, hlonger⟩
      · rw [hown]
        cases lines text with
        | nil => exact .inr ⟨[], [c], rfl, rfl⟩
        | cons first below => exact .inl rfl
      · rw [hlines, hlonger]
        cases earlier with
        | nil => exact .inr ⟨[], c :: last, rfl, rfl⟩
        | cons first below => exact .inr ⟨(c :: first) :: below, last, rfl, rfl⟩

theorem ne_nil_of_mem_lines {text line : Text} (h : line ∈ lines text) : line ≠ [] := by
  induction text generalizing line with
  | nil => simp [lines] at h
  | cons c text ih =>
    rw [lines] at h
    split at h
    · rcases List.mem_cons.mp h with rfl | h
      · exact List.cons_ne_nil _ _
      · exact ih h
    · split at h
      · rw [List.mem_singleton.mp h]
        exact List.cons_ne_nil _ _
      · next first below hlines =>
        rcases List.mem_cons.mp h with rfl | h
        · exact List.cons_ne_nil _ _
        · exact ih (hlines ▸ List.mem_cons_of_mem first h)

theorem areLines_cons_char {c : Char} (hc : c ≠ '\n') {line : Text} {below : List Text}
    (hne : line ≠ []) (h : AreLines (line :: below)) : AreLines ((c :: line) :: below) := by
  obtain ⟨d, rest, rfl⟩ := List.exists_cons_of_ne_nil hne
  have hline : IsLine (d :: rest) → IsLine (c :: d :: rest) := by
    intro hrest hmem
    rw [List.dropLast_cons_cons, List.mem_cons] at hmem
    exact hmem.elim (fun heq => hc heq.symm) hrest
  cases below with
  | nil => exact hline h
  | cons next below =>
    obtain ⟨⟨hrest, hlast⟩, hbelow⟩ := h
    exact ⟨⟨hline hrest, by rw [List.getLast?_cons_cons]; exact hlast⟩, hbelow⟩

theorem areLines_lines (text : Text) : AreLines (lines text) := by
  induction text with
  | nil => trivial
  | cons c text ih =>
    rw [lines]
    split
    · next hc =>
      subst hc
      cases hlines : lines text with
      | nil => simp [AreLines, IsLine]
      | cons line below =>
        rw [hlines] at ih
        exact ⟨⟨by simp [IsLine], rfl⟩, ih⟩
    · next hc =>
      split
      · simp [AreLines, IsLine]
      · next line below hlines =>
        have hmem : line ∈ lines text := by
          rw [hlines]
          exact List.mem_cons_self
        exact areLines_cons_char hc (ne_nil_of_mem_lines hmem) (hlines ▸ ih)

theorem areLines_set {texts : List Text} (h : AreLines texts) {index : Nat} {line : Text}
    (hline : IsLine line) (hlast : index + 1 < texts.length → line.getLast? = some '\n') :
    AreLines (texts.set index line) := by
  induction texts generalizing index with
  | nil => trivial
  | cons first below ih =>
    cases below with
    | nil =>
      cases index with
      | zero => exact hline
      | succ index => exact h
    | cons next below =>
      obtain ⟨hfirst, hbelow⟩ := h
      cases index with
      | zero => exact ⟨⟨hline, hlast (by simp)⟩, hbelow⟩
      | succ index =>
        have hset : AreLines ((next :: below).set index line) :=
          ih hbelow (fun hlt => hlast (by simpa using hlt))
        cases index with
        | zero => exact ⟨hfirst, hset⟩
        | succ index => exact ⟨hfirst, hset⟩

theorem isLine_getElem {texts : List Text} (h : AreLines texts) {index : Nat}
    (hlt : index < texts.length) :
    IsLine texts[index] ∧ (index + 1 < texts.length → texts[index].getLast? = some '\n') := by
  induction texts generalizing index with
  | nil => simp at hlt
  | cons line below ih =>
    cases below with
    | nil =>
      obtain rfl : index = 0 := by simpa using hlt
      exact ⟨h, fun hlast => absurd hlast (by simp)⟩
    | cons next below =>
      obtain ⟨⟨hline, hend⟩, hbelow⟩ := h
      cases index with
      | zero => exact ⟨hline, fun _ => hend⟩
      | succ index =>
        obtain ⟨hisLine, hnewline⟩ := ih hbelow (by simpa using hlt)
        exact ⟨hisLine, fun hlast => hnewline (by simpa using hlast)⟩

-- The last line is the only one that may be empty, and cutting a text never gives an empty line.
theorem lines_flatten_of_areLines {texts : List Text} (h : AreLines texts)
    (hlast : texts.getLast? ≠ some []) : lines texts.flatten = texts := by
  induction texts with
  | nil => rfl
  | cons line below ih =>
    cases below with
    | nil =>
      have hne : line ≠ [] := by
        rintro rfl
        exact hlast rfl
      rw [List.flatten_singleton]
      by_cases hend : line.getLast? = some '\n'
      · obtain ⟨front, hfront, rfl⟩ := exists_of_isLine h hend
        rw [lines_append_newline hfront]
        rfl
      · exact lines_of_not_mem (not_mem_of_isLine h hend) hne
    | cons next below =>
      obtain ⟨⟨hline, hend⟩, hbelow⟩ := h
      obtain ⟨front, hfront, rfl⟩ := exists_of_isLine hline hend
      have hrest := ih hbelow (by simpa [List.getLast?_cons_cons] using hlast)
      rw [List.flatten_cons, List.append_assoc, List.singleton_append,
        lines_append_newline hfront, hrest]

theorem exists_eq_lines_flatten_append {texts : List Text} (h : AreLines texts) :
    ∃ rest, texts = lines texts.flatten ++ rest ∧ ∀ line ∈ rest, line = [] := by
  induction texts with
  | nil => exact ⟨[], rfl, by simp⟩
  | cons line below ih =>
    cases below with
    | nil =>
      by_cases hne : line = []
      · subst hne
        exact ⟨[[]], rfl, by simp⟩
      · have hlines := lines_flatten_of_areLines h (by simpa using hne)
        exact ⟨[], by rw [hlines, List.append_nil], by simp⟩
    | cons next below =>
      obtain ⟨⟨hline, hend⟩, hbelow⟩ := h
      obtain ⟨front, hfront, rfl⟩ := exists_of_isLine hline hend
      obtain ⟨rest, heq, hrest⟩ := ih hbelow
      have hlines := lines_append_newline hfront (next :: below).flatten
      refine ⟨rest, ?_, hrest⟩
      rw [List.flatten_cons, List.append_assoc, List.singleton_append, hlines, List.cons_append,
        ← heq]

theorem lines_flatten_prefix {texts : List Text} (h : AreLines texts) :
    lines texts.flatten <+: texts := by
  obtain ⟨rest, heq, -⟩ := exists_eq_lines_flatten_append h
  exact ⟨rest, heq.symm⟩

end ScoreLexer.Text
