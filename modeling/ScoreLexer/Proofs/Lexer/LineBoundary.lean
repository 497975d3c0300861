import ScoreLexer.Proofs.Lexer.Coverage
import ScoreLexer.Proofs.Lexer.Run
import ScoreLexer.Proofs.Pattern.Match
import ScoreLexer.Proofs.Token.Recognition

namespace ScoreLexer

-- The outcome when no more than so many characters are left. Up to a newline the text behind it has
-- no influence but that a run of blanks or of unclaimed text may go on, and what goes on is cut
-- off.
def Outcome.upTo (limit : Nat) : Outcome → Outcome
  | .stopped gaveWay stack => .stopped gaveWay stack
  | .emitted gaveWay stack kind count => .emitted gaveWay stack kind (min limit count)

theorem Outcome.upTo_precededBy (limit : Nat) (earlier : Stack) (outcome : Outcome) :
    (outcome.precededBy earlier).upTo limit = (outcome.upTo limit).precededBy earlier := by
  cases outcome <;> rfl

theorem Text.length_takeWhile_append (accepts : Char → Bool) (front back : Text) :
    (front.takeWhile accepts).length =
      min front.length ((front ++ back).takeWhile accepts).length := by
  induction front with
  | nil => simp
  | cons c front ih =>
    rw [List.cons_append]
    by_cases hc : accepts c = true
    · rw [List.takeWhile_cons_of_pos hc, List.takeWhile_cons_of_pos hc]
      simp only [List.length_cons, ih]
      omega
    · rw [List.takeWhile_cons_of_neg hc, List.takeWhile_cons_of_neg hc]
      simp

-- A token of the run ends at the byte offset, and the stack after it does not give way.
def Run.CleanAt (run : Run) (offset : Nat) (stack : Stack) : Prop :=
  ∃ emission ∈ run.emissions, emission.token.finish = offset ∧ emission.after = stack ∧
    stack.top.context.fallthrough? = none

namespace Lexer

-- A match that goes beyond the newline is a run of blanks.
theorem match?_upTo_newline {lexer : Lexer} (hwords : lexer.vocabulary.StaysInLine) (kind : Kind)
    (before : Option Char) (front more : Text) :
    lexer.match? kind ⟨before, front ++ ['\n']⟩ =
      (lexer.match? kind ⟨before, front ++ '\n' :: more⟩).map (min (front.length + 1)) := by
  unfold match?
  cases hblank : kind.isBlankRun with
  | true =>
    have hlength := Text.length_takeWhile_append Text.isBlank (front ++ ['\n']) more
    rw [List.append_assoc, List.singleton_append, List.length_append, List.length_singleton]
      at hlength
    simp only [Kind.recognizer?_of_isBlankRun hblank, Recognizer.plain, Recognizer.match?_run,
      hlength, Guard.allows, if_true]
    split
    · rw [if_pos (by omega)]
      rfl
    · rw [if_neg (by omega)]
      rfl
  | false =>
    cases hrecognizer : kind.recognizer? lexer.vocabulary with
    | none => rfl
    | some recognizer =>
      have hline := Kind.staysInLine_recognizer? hwords hblank hrecognizer
      have hshort := Recognizer.match?_extend_newline hline [] ⟨before, front⟩
      have hlong := Recognizer.match?_extend_newline hline more ⟨before, front⟩
      simp only [Cursor.extend] at hshort hlong
      dsimp only
      rw [hshort, hlong]
      cases hmatch : recognizer.match? ⟨before, front⟩ with
      | none => rfl
      | some count =>
        have hle : count ≤ front.length := (Recognizer.match?_bounds hmatch).2
        rw [Option.map_some, Nat.min_eq_right (by omega)]

theorem first?_upTo_newline {lexer : Lexer} (hwords : lexer.vocabulary.StaysInLine)
    (context : Context) (before : Option Char) (front more : Text) :
    lexer.first? context ⟨before, front ++ ['\n']⟩ =
      (lexer.first? context ⟨before, front ++ '\n' :: more⟩).map fun (kind, count) =>
        (kind, min (front.length + 1) count) := by
  unfold first? firstOf?
  induction context.candidates with
  | nil => rfl
  | cons kind kinds ih =>
    rw [List.findSome?_cons, List.findSome?_cons, match?_upTo_newline hwords kind before front more]
    cases lexer.match? kind ⟨before, front ++ '\n' :: more⟩ with
    | none => exact ih
    | some count => rfl

theorem unclaimed_upTo_newline {lexer : Lexer} (hwords : lexer.vocabulary.StaysInLine)
    (context : Context) (before : Option Char) (front more : Text) :
    lexer.unclaimed context before (front ++ ['\n']) =
      min (front.length + 1) (lexer.unclaimed context before (front ++ '\n' :: more)) := by
  have hfirst : ∀ before front, (lexer.first? context ⟨before, front ++ ['\n']⟩).isSome =
      (lexer.first? context ⟨before, front ++ '\n' :: more⟩).isSome := by
    intro before front
    rw [first?_upTo_newline hwords context before front more, Option.isSome_map]
  induction front generalizing before with
  | nil =>
    have hhere := hfirst before []
    simp only [List.nil_append] at hhere
    simp only [List.nil_append, unclaimed, hhere]
    split
    · simp
    · simp
  | cons c front ih =>
    have hhere := hfirst before (c :: front)
    simp only [List.cons_append] at hhere
    simp only [List.cons_append, unclaimed, hhere, ih]
    split
    · simp
    · simp only [List.length_cons]
      omega

theorem next_upTo_newline {lexer : Lexer} (hwords : lexer.vocabulary.StaysInLine)
    (before : Option Char) (front more : Text) (stack : Stack) :
    lexer.next ⟨before, front ++ ['\n']⟩ stack =
      (lexer.next ⟨before, front ++ '\n' :: more⟩ stack).upTo (front.length + 1) := by
  have hfirst := fun context => first?_upTo_newline hwords context before front more
  generalize hcursor : (⟨before, front ++ '\n' :: more⟩ : Cursor) = cursor at hfirst ⊢
  fun_induction next lexer cursor stack with
  | case1 stack kind count hclaimed =>
    exact next_of_claimed (by rw [hfirst, hclaimed]; rfl)
  | case2 stack hnone lower hlower ih =>
    rw [Outcome.upTo_precededBy, ← ih]
    exact next_of_gaveWay (by rw [hfirst, hnone]; rfl) hlower
  | case3 stack _ _ hrest => simp [← hcursor] at hrest
  | case4 stack hnone hlower c rest hrest =>
    have hshort : lexer.first? stack.top.context ⟨before, front ++ ['\n']⟩ = none := by
      rw [hfirst, hnone]
      rfl
    subst hcursor
    cases front with
    | nil =>
      obtain ⟨rfl, rfl⟩ := List.cons.inj hrest
      rw [next_of_unclaimed hshort hlower rfl]
      simp [Outcome.upTo, unclaimed]
    | cons d front =>
      simp only [List.cons_append, List.cons.injEq] at hrest
      obtain ⟨rfl, rfl⟩ := hrest
      rw [next_of_unclaimed hshort hlower List.cons_append,
        unclaimed_upTo_newline hwords _ _ front more]
      simp only [Outcome.upTo, List.length_cons]
      congr 1
      omega

theorem advance_append {count : Nat} {front : Text} (hle : count ≤ front.length)
    (before : Option Char) (back : Text) :
    Cursor.advance count ⟨before, front ++ back⟩ =
      ⟨(front.take count).getLast?.or before, front.drop count ++ back⟩ := by
  rw [Cursor.advance, List.take_append_of_le_length hle, List.drop_append_of_le_length hle]

theorem lt_finish_of_mem_runFrom {lexer : Lexer} {position : Nat} {cursor : Cursor} {stack : Stack}
    {emission : Emission} (h : emission ∈ (lexer.runFrom position cursor stack).emissions) :
    position < emission.token.finish := by
  have hpartition := lexer.partition_runFrom position cursor stack
  have hmem : emission.token ∈ (lexer.runFrom position cursor stack).tokens :=
    List.mem_map_of_mem h
  obtain ⟨front, back, -, hposition⟩ := hpartition.exists_slice _ hmem
  have hsize := Text.byteSize_pos (hpartition.text_ne_nil _ hmem)
  rw [Token.finish]
  omega

theorem runFrom_nil {lexer : Lexer} {cursor : Cursor} (hrest : cursor.rest = []) {stack : Stack}
    (hstays : stack.top.context.fallthrough? = none) (position : Nat) :
    lexer.runFrom position cursor stack = ⟨[], [], stack⟩ :=
  runFrom_of_stopped (next_of_nil (lexer.first?_eq_none_of_nil _ hrest)
    (Stack.giveWay?_eq_none_iff.mpr hstays) hrest) position

-- The whole run is the run over the first piece followed by the run over the second. By strong
-- induction on the first piece: a token before the boundary leaves a shorter piece, one that ends
-- at it is the clean one, and none can go beyond it.
theorem runFrom_append {lexer : Lexer} (hwords : lexer.vocabulary.StaysInLine) {front more : Text}
    {position : Nat} {before : Option Char} {stack next : Stack}
    (hclean : (lexer.runFrom position ⟨before, front ++ '\n' :: more⟩ stack).CleanAt
      (position + Text.byteSize (front ++ ['\n'])) next) :
    (lexer.runFrom position ⟨before, front ++ ['\n']⟩ stack).final = next ∧
      lexer.runFrom position ⟨before, front ++ '\n' :: more⟩ stack =
        (lexer.runFrom (position + Text.byteSize (front ++ ['\n'])) ⟨some '\n', more⟩
          next).precededBy (lexer.runFrom position ⟨before, front ++ ['\n']⟩ stack).emissions := by
  induction hlength : front.length using Nat.strongRecOn
    generalizing front position before stack with
  | ind length ih =>
    cases hnext : lexer.next ⟨before, front ++ '\n' :: more⟩ stack with
    | stopped gaveWay final =>
      have hrest := (turns_of_next_stopped hnext position).1
      simp at hrest
    | emitted gaveWay last kind count =>
      have hshort := next_upTo_newline hwords before front more stack
      rw [hnext, Outcome.upTo] at hshort
      rw [runFrom_of_emitted hnext] at hclean ⊢
      obtain ⟨emission, hmem, hfinish, rfl, hstays⟩ := hclean
      rw [Run.emissions_precededBy, List.mem_append, List.mem_singleton] at hmem
      dsimp only at hmem hfinish ⊢
      rcases Nat.lt_trichotomy count (front.length + 1) with hlt | heq | hgt
      -- the token lies before the boundary
      · have hle : count ≤ front.length := by omega
        have hsize : Text.byteSize (front.take count) +
            Text.byteSize (front.drop count ++ ['\n']) = Text.byteSize (front ++ ['\n']) := by
          rw [← Text.byteSize_append, ← List.append_assoc, List.take_append_drop]
        have hpos := Text.byteSize_pos
          (List.append_ne_nil_of_right_ne_nil (front.drop count) (List.cons_ne_nil '\n' []))
        rw [Nat.min_eq_right (by omega)] at hshort
        rw [runFrom_of_emitted hshort]
        rw [advance_append hle, List.take_append_of_le_length hle] at hmem ⊢
        rw [advance_append hle, List.take_append_of_le_length hle]
        rcases hmem with rfl | hmem
        · simp only [Token.finish] at hfinish
          omega
        · have hcount := (next_bounds hnext).1
          obtain ⟨hfinal, hrun⟩ := ih (front.drop count).length (by rw [List.length_drop]; omega)
            ⟨emission, hmem, by omega, rfl, hstays⟩ rfl
          refine ⟨hfinal, ?_⟩
          rw [hrun, Run.precededBy_precededBy, Nat.add_assoc, hsize]
          rfl
      -- the token ends at the boundary
      · have htake : (front ++ '\n' :: more).take count = front ++ ['\n'] := by
          rw [heq, List.take_length_add_append]
          rfl
        have hadvance : Cursor.advance count ⟨before, front ++ '\n' :: more⟩ =
            ⟨some '\n', more⟩ := by
          rw [Cursor.advance, htake, List.getLast?_append]
          simp [heq, List.drop_append]
        rw [htake, hadvance] at hmem ⊢
        rcases hmem with rfl | hmem
        · have hwhole : (front ++ ['\n']).take count = front ++ ['\n'] :=
            List.take_of_length_le (by simp [heq])
          rw [Nat.min_eq_right (by omega)] at hshort
          rw [runFrom_of_emitted hshort, hwhole, runFrom_nil (by simp [heq]) hstays]
          exact ⟨rfl, rfl⟩
        · have hlt := lt_finish_of_mem_runFrom hmem
          omega
      -- a token that goes beyond it leaves none to end there
      · have htake : (front ++ '\n' :: more).take count =
            (front ++ ['\n']) ++ more.take (count - (front.length + 1)) := by
          rw [← List.singleton_append, ← List.append_assoc, List.take_append,
            List.take_of_length_le (by simp; omega), List.length_append, List.length_singleton]
        have hcount : count ≤ front.length + (more.length + 1) := by
          simpa using (next_bounds hnext).2
        have hmore : more.take (count - (front.length + 1)) ≠ [] := by
          rw [← List.length_pos_iff, List.length_take]
          omega
        have hpos := Text.byteSize_pos hmore
        rw [htake, Text.byteSize_append] at hmem
        rcases hmem with rfl | hmem
        · simp only [Token.finish, Text.byteSize_append] at hfinish hpos
          omega
        · have hlt := lt_finish_of_mem_runFrom hmem
          omega

theorem lex_append {lexer : Lexer} (hwords : lexer.vocabulary.StaysInLine) {start next : Stack}
    {first second : Text} (hfirst : first.getLast? = some '\n')
    (hclean : (lexer.lex start (first ++ second)).CleanAt first.byteSize next) :
    (lexer.lex start first).final = next ∧
      lexer.lex start (first ++ second) =
        ((lexer.lex next second).shift first.byteSize).precededBy
          (lexer.lex start first).emissions := by
  obtain ⟨front, rfl⟩ : ∃ front, first = front ++ ['\n'] := by
    obtain ⟨front, hfront⟩ := List.getLast?_eq_some_iff.mp hfirst
    exact ⟨front, hfront⟩
  simp only [lex, Cursor.start, List.append_assoc, List.singleton_append] at hclean ⊢
  rw [← Nat.zero_add (Text.byteSize (front ++ ['\n']))] at hclean
  obtain ⟨hfinal, hrun⟩ := runFrom_append hwords hclean
  refine ⟨hfinal, ?_⟩
  rw [hrun, lexer.runFrom_similar _ (Cursor.similar_newline second), runFrom_add]

end Lexer

end ScoreLexer
