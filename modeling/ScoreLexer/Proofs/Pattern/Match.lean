import ScoreLexer.Token.Recognition

namespace ScoreLexer

namespace Text

variable {accepts : Char → Bool} {front rest : Text}

theorem takeWhile_append_of_stops (hfront : front.all accepts = true)
    (hrest : ∀ c ∈ rest.head?, accepts c = false) : (front ++ rest).takeWhile accepts = front := by
  have hnil : rest.takeWhile accepts = [] := by
    cases rest with
    | nil => rfl
    | cons c rest => exact List.takeWhile_cons_of_neg (by simpa using hrest c rfl)
  rw [List.takeWhile_append_of_pos (List.all_eq_true.mp hfront), hnil, List.append_nil]

theorem dropWhile_append_of_stops (hfront : front.all accepts = true)
    (hrest : ∀ c ∈ rest.head?, accepts c = false) : (front ++ rest).dropWhile accepts = rest := by
  have happend := List.takeWhile_append_dropWhile (p := accepts) (l := front ++ rest)
  rw [takeWhile_append_of_stops hfront hrest] at happend
  exact List.append_cancel_left happend

theorem stops_dropWhile (accepts : Char → Bool) (text : Text) :
    ∀ c ∈ (text.dropWhile accepts).head?, accepts c = false := by
  intro c hc
  have hnot := List.head?_dropWhile_not accepts text
  rwa [Option.mem_def.mp hc] at hnot

end Text

namespace Pattern

theorem head?_runEnds (accepts : Char → Bool) (text : Text) (found : List Cursor) :
    (runEnds accepts text found).head?.map Cursor.rest =
      if (text.takeWhile accepts).length = 0 then found.head?.map Cursor.rest
      else some (text.dropWhile accepts) := by
  induction text generalizing found with
  | nil => rfl
  | cons c rest ih =>
    rw [runEnds]
    split
    · next hc =>
      rw [ih, List.takeWhile_cons_of_pos hc, List.dropWhile_cons_of_pos hc, List.length_cons,
        if_neg (Nat.succ_ne_zero _)]
      split
      · next hzero =>
        have hrest : rest.takeWhile accepts ++ rest.dropWhile accepts = rest :=
          List.takeWhile_append_dropWhile
        rw [List.length_eq_zero_iff.mp hzero, List.nil_append] at hrest
        rw [hrest]
        rfl
      · rfl
    · next hc =>
      rw [List.takeWhile_cons_of_neg hc, List.length_nil, if_pos rfl]

end Pattern

namespace Recognizer

theorem match?_of_head? (recognizer : Recognizer) {cursor : Cursor} {rest : Text}
    (hstart : recognizer.fromWordStart = false)
    (hends : (recognizer.pattern.ends cursor).head?.map Cursor.rest = some rest)
    (hlt : rest.length < cursor.rest.length) :
    recognizer.match? cursor =
      if recognizer.guard.allows rest.head? then some (cursor.rest.length - rest.length)
      else none := by
  obtain ⟨last, hlast, rfl⟩ := Option.map_eq_some_iff.mp hends
  unfold match?
  rw [hstart, hlast]
  simp [hlt]

-- The longest run, unless it is empty or the guard refuses what follows it.
theorem match?_run (accepts : Char → Bool) (guard : Guard) (cursor : Cursor) :
    Recognizer.match? { pattern := .run accepts, guard } cursor =
      if (cursor.rest.takeWhile accepts).length = 0 then none
      else if guard.allows (cursor.rest.dropWhile accepts).head? then
        some (cursor.rest.takeWhile accepts).length
      else none := by
  have hlength : (cursor.rest.takeWhile accepts).length + (cursor.rest.dropWhile accepts).length =
      cursor.rest.length := by
    rw [← List.length_append, List.takeWhile_append_dropWhile]
  have hhead := Pattern.head?_runEnds accepts cursor.rest []
  split
  · next hzero =>
    rw [if_pos hzero] at hhead
    have hnone : (Pattern.runEnds accepts cursor.rest []).head? = none := by
      simpa using hhead
    simp [match?, Pattern.ends, hnone]
  · next hpos =>
    rw [if_neg hpos] at hhead
    have hmatch := match?_of_head? { pattern := .run accepts, guard } rfl hhead (by omega)
    rw [hmatch, ← hlength, Nat.add_sub_cancel]

theorem match?_of_ends {recognizer : Recognizer} {before : Option Char} {text rest : Text}
    (hstart : recognizer.fromWordStart = false) (hne : text ≠ [])
    (hends : (recognizer.pattern.ends ⟨before, text ++ rest⟩).head?.map Cursor.rest = some rest)
    (hguard : recognizer.guard.allows rest.head? = true) :
    recognizer.match? ⟨before, text ++ rest⟩ = some text.length := by
  have hpos := List.length_pos_iff.mpr hne
  rw [match?_of_head? recognizer hstart hends (by simpa using hpos), if_pos hguard,
    List.length_append, Nat.add_sub_cancel]

theorem match?_run_append {accepts : Char → Bool} {guard : Guard} {text rest : Text}
    (hne : text ≠ []) (htext : text.all accepts = true)
    (hrest : ∀ c ∈ rest.head?, accepts c = false) (hguard : guard.allows rest.head? = true)
    (before : Option Char) :
    Recognizer.match? { pattern := .run accepts, guard } ⟨before, text ++ rest⟩ =
      some text.length := by
  rw [match?_run]
  dsimp only
  rw [Text.takeWhile_append_of_stops htext hrest, Text.dropWhile_append_of_stops htext hrest,
    if_neg (by simpa using hne), if_pos hguard]

end Recognizer

end ScoreLexer
