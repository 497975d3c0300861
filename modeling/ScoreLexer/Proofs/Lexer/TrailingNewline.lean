import ScoreLexer.Proofs.Lexer.Indentation
import ScoreLexer.Proofs.Lexer.Priority

namespace ScoreLexer

namespace Kind

def takesNewline : Kind → Bool
  | .space | .blockCommentSpace | .string => true
  | _ => false

theorem takesNewline_iff {kind : Kind} :
    kind.takesNewline = true ↔ kind.isBlankRun = true ∨ kind = .string := by
  cases kind <;> decide

theorem takesNewline_defaultKind {context : Context} :
    context.defaultKind.takesNewline = true ↔ context = .string := by
  cases context <;> decide

theorem transition_of_takesNewline {kind : Kind} (h : kind.takesNewline = true)
    (markupArity : String → UInt8) (text : Text) (stack : Stack) :
    kind.transition markupArity text stack = stack := by
  cases kind with
  | space | blockCommentSpace | string => rfl
  | _ => exact absurd h Bool.false_ne_true

theorem isError_of_takesNewline {kind : Kind} (h : kind.takesNewline = true) :
    kind.isError = false := by
  cases kind with
  | space | blockCommentSpace | string => rfl
  | _ => exact absurd h Bool.false_ne_true

-- The number of characters of a token once a newline stands at the end of the text, the token
-- starting that many characters before it.
def withNewline (length : Nat) (kind : Kind) (count : Nat) : Nat :=
  if kind.takesNewline = true ∧ count = length then count + 1 else count

theorem withNewline_of_not {kind : Kind} (h : ¬kind.takesNewline = true) (length count : Nat) :
    kind.withNewline length count = count := if_neg fun hboth => h hboth.1

theorem withNewline_succ (length : Nat) (kind : Kind) (count : Nat) :
    kind.withNewline (length + 1) (count + 1) = kind.withNewline length count + 1 := by
  simp only [withNewline, Nat.add_right_cancel_iff]
  split <;> rfl

end Kind

def Outcome.withNewline (length : Nat) : Outcome → Outcome
  | .stopped gaveWay stack => .stopped gaveWay stack
  | .emitted gaveWay stack kind count => .emitted gaveWay stack kind (kind.withNewline length count)

theorem Outcome.withNewline_precededBy (length : Nat) (earlier : Stack) (outcome : Outcome) :
    (outcome.precededBy earlier).withNewline length =
      (outcome.withNewline length).precededBy earlier := by
  cases outcome <;> rfl

-- The tokens before and after a newline is put at the end of a text of the given size: the newline
-- is a token of its own, or the last character of the last token.
inductive GainsNewline (size : Nat) : List Token → List Token → Prop where
  | token (tokens : List Token) {kind : Kind} (hkind : kind.takesNewline = true) :
      GainsNewline size tokens (tokens ++ [⟨kind, ['\n'], size⟩])
  | character (earlier : List Token) {last : Token} (hkind : last.kind.takesNewline = true) :
      GainsNewline size (earlier ++ [last]) (earlier ++ [{ last with text := last.text ++ ['\n'] }])

theorem GainsNewline.append_left {size : Nat} {former latter : List Token}
    (h : GainsNewline size former latter) (earlier : List Token) :
    GainsNewline size (earlier ++ former) (earlier ++ latter) := by
  cases h with
  | token _ hkind =>
    rw [← List.append_assoc]
    exact .token _ hkind
  | character inner hkind =>
    rw [← List.append_assoc, ← List.append_assoc]
    exact .character _ hkind

theorem GainsNewline.filter_isError {size : Nat} {former latter : List Token}
    (h : GainsNewline size former latter) :
    latter.filter (fun token => token.kind.isError) =
      former.filter fun token => token.kind.isError := by
  cases h with
  | token tokens hkind | character tokens hkind =>
    have hnone := Kind.isError_of_takesNewline hkind
    simp [List.filter_append, hnone]

namespace Lexer

variable {lexer : Lexer}

theorem match?_append_newline_of_not_isBlankRun (hwords : lexer.vocabulary.StaysInLine)
    {kind : Kind} (hkind : kind.isBlankRun = false) (before : Option Char) (front : Text) :
    lexer.match? kind ⟨before, front ++ ['\n']⟩ = lexer.match? kind ⟨before, front⟩ := by
  unfold match?
  cases hrecognizer : kind.recognizer? lexer.vocabulary with
  | none => rfl
  | some recognizer =>
    have hline := Kind.staysInLine_recognizer? hwords hkind hrecognizer
    exact Recognizer.match?_extend_newline hline [] ⟨before, front⟩

theorem match?_isBlankRun {kind : Kind} (h : kind.isBlankRun = true) (cursor : Cursor) :
    lexer.match? kind cursor =
      if (cursor.rest.takeWhile Text.isBlank).length = 0 then none
      else some (cursor.rest.takeWhile Text.isBlank).length := by
  rw [match?_eq (Kind.recognizer?_of_isBlankRun h _)]
  exact Recognizer.match?_run Text.isBlank .anything cursor

theorem match?_eq_none_of_nil (kind : Kind) (before : Option Char) :
    lexer.match? kind ⟨before, []⟩ = none := by
  refine Option.eq_none_iff_forall_ne_some.mpr fun count hmatch => ?_
  obtain ⟨hpos, hle⟩ := match?_bounds hmatch
  exact absurd hle (Nat.not_le_of_lt hpos)

-- A run of blanks takes the newline when nothing but blanks is left.
theorem match?_append_newline (hwords : lexer.vocabulary.StaysInLine) (kind : Kind)
    (before : Option Char) {front : Text} (hne : front ≠ []) :
    lexer.match? kind ⟨before, front ++ ['\n']⟩ =
      (lexer.match? kind ⟨before, front⟩).map (kind.withNewline front.length) := by
  cases hblank : kind.isBlankRun with
  | true =>
    have hpos := List.length_pos_iff.mpr hne
    simp only [match?_isBlankRun hblank, List.takeWhile_append]
    split
    · next hall =>
      have htakes := Kind.takesNewline_iff.mpr (.inl hblank)
      have hnewline : ['\n'].takeWhile Text.isBlank = ['\n'] := rfl
      rw [hnewline, List.length_append, List.length_singleton, if_neg (Nat.succ_ne_zero _),
        if_neg (by omega), Option.map_some, Kind.withNewline, if_pos ⟨htakes, hall⟩, hall]
    · next hsome =>
      have hsame : kind.withNewline front.length (front.takeWhile Text.isBlank).length =
          (front.takeWhile Text.isBlank).length := if_neg fun hboth => hsome hboth.2
      split
      · rfl
      · rw [Option.map_some, hsame]
  | false =>
    rw [match?_append_newline_of_not_isBlankRun hwords hblank]
    by_cases hstring : kind = .string
    · subst hstring
      rfl
    · have hnot : ¬kind.takesNewline = true := by simp [Kind.takesNewline_iff, hblank, hstring]
      have hsame : kind.withNewline front.length = id :=
        funext fun count => Kind.withNewline_of_not hnot _ count
      rw [hsame, Option.map_id_apply]

theorem first?_newline (hwords : lexer.vocabulary.StaysInLine) {context : Context}
    (hcontext : context ≠ .string) (before : Option Char) :
    ∃ kind : Kind, kind.isBlankRun = true ∧
      lexer.first? context ⟨before, ['\n']⟩ = some (kind, 1) := by
  obtain ⟨kind, former, latter, hkind, hcandidates, hformer⟩ := context.exists_isBlankRun hcontext
  refine ⟨kind, hkind, first?_eq_some_iff.mpr ⟨former, latter, hcandidates, ?_, ?_⟩⟩
  · rw [match?_isBlankRun hkind]
    rfl
  · intro other hother
    have hsame := match?_append_newline_of_not_isBlankRun hwords (hformer other hother) before []
    exact hsame.trans (match?_eq_none_of_nil other before)

theorem first?_append_newline (hwords : lexer.vocabulary.StaysInLine) (context : Context)
    (before : Option Char) {front : Text} (hne : front ≠ []) :
    lexer.first? context ⟨before, front ++ ['\n']⟩ =
      (lexer.first? context ⟨before, front⟩).map fun (kind, count) =>
        (kind, kind.withNewline front.length count) := by
  unfold first? firstOf?
  induction context.candidates with
  | nil => rfl
  | cons kind kinds ih =>
    rw [List.findSome?_cons, List.findSome?_cons, match?_append_newline hwords kind before hne]
    cases lexer.match? kind ⟨before, front⟩ with
    | none => exact ih
    | some count => rfl

theorem unclaimed_append_newline (hwords : lexer.vocabulary.StaysInLine) (context : Context)
    (before : Option Char) (front : Text) :
    lexer.unclaimed context before (front ++ ['\n']) =
      context.defaultKind.withNewline front.length (lexer.unclaimed context before front) := by
  induction front generalizing before with
  | nil =>
    rw [List.nil_append, unclaimed, unclaimed, unclaimed, List.length_nil]
    by_cases hstring : context = .string
    · subst hstring
      rw [first?_string_of_isBlank lexer rfl]
      rfl
    · obtain ⟨kind, -, hfirst⟩ := first?_newline hwords hstring before
      have hnot : ¬context.defaultKind.takesNewline = true :=
        fun htakes => hstring (Kind.takesNewline_defaultKind.mp htakes)
      rw [hfirst, Kind.withNewline_of_not hnot]
      rfl
  | cons c front ih =>
    have hhere := first?_append_newline hwords context before (List.cons_ne_nil c front)
    rw [List.cons_append] at hhere
    rw [List.cons_append, unclaimed, unclaimed, hhere, Option.isSome_map]
    split
    · exact (if_neg fun hboth => Nat.succ_ne_zero _ hboth.2.symm).symm
    · rw [ih, List.length_cons, Kind.withNewline_succ]

theorem next_append_newline (hwords : lexer.vocabulary.StaysInLine) (before : Option Char)
    {front : Text} (hne : front ≠ []) (stack : Stack) :
    lexer.next ⟨before, front ++ ['\n']⟩ stack =
      (lexer.next ⟨before, front⟩ stack).withNewline front.length := by
  have hfirst := fun context => first?_append_newline hwords context before hne
  generalize hcursor : (⟨before, front⟩ : Cursor) = cursor at hfirst ⊢
  fun_induction next lexer cursor stack with
  | case1 stack kind count hclaimed =>
    exact next_of_claimed (by rw [hfirst, hclaimed]; rfl)
  | case2 stack hnone lower hlower ih =>
    rw [Outcome.withNewline_precededBy, ← ih]
    exact next_of_gaveWay (by rw [hfirst, hnone]; rfl) hlower
  | case3 stack _ _ hrest =>
    subst hcursor
    exact absurd hrest hne
  | case4 stack hnone hlower c rest hrest =>
    subst hcursor
    obtain rfl : front = c :: rest := hrest
    have hlong : lexer.first? stack.top.context ⟨before, (c :: rest) ++ ['\n']⟩ = none := by
      rw [hfirst, hnone]
      rfl
    rw [next_of_unclaimed hlong hlower List.cons_append, unclaimed_append_newline hwords,
      ← Kind.withNewline_succ]
    rfl

-- Every context claims a newline that stands alone, and keeps the stack.
theorem next_newline (hwords : lexer.vocabulary.StaysInLine) (before : Option Char)
    (stack : Stack) : ∃ kind : Kind, kind.takesNewline = true ∧
      lexer.next ⟨before, ['\n']⟩ stack = .emitted [] stack kind 1 := by
  by_cases hstring : stack.top.context = .string
  · have hnone : lexer.first? stack.top.context ⟨before, ['\n']⟩ = none := by
      rw [hstring]
      exact first?_string_of_isBlank lexer rfl before []
    have hstays : stack.giveWay? = none := Stack.giveWay?_eq_none_iff.mpr (by rw [hstring]; rfl)
    refine ⟨_, Kind.takesNewline_defaultKind.mpr hstring, ?_⟩
    exact next_of_unclaimed hnone hstays rfl
  · obtain ⟨kind, hkind, hfirst⟩ := first?_newline hwords hstring before
    exact ⟨kind, Kind.takesNewline_iff.mpr (.inl hkind), next_of_claimed hfirst⟩

theorem next_at_end (lexer : Lexer) (before : Option Char) (stack : Stack) :
    lexer.next ⟨before, []⟩ stack = lexer.next (Cursor.start []) stack := by
  have hnone : ∀ context, lexer.first? context (Cursor.start []) = none :=
    fun context => lexer.first?_eq_none_of_nil context rfl
  generalize hcursor : (⟨before, []⟩ : Cursor) = cursor
  fun_induction next lexer cursor stack with
  | case1 stack kind count hfirst =>
    rw [lexer.first?_eq_none_of_nil _ (by rw [← hcursor])] at hfirst
    cases hfirst
  | case2 stack hfirst lower hlower ih => rw [ih, next_of_gaveWay (hnone _) hlower]
  | case3 stack hfirst hlower hrest => rw [next_of_nil (hnone _) hlower rfl]
  | case4 stack hfirst hlower c rest hrest =>
    subst hcursor
    cases hrest

theorem runFrom_at_end (lexer : Lexer) (position : Nat) (before : Option Char) (stack : Stack) :
    lexer.runFrom position ⟨before, []⟩ stack = lexer.runFrom 0 (Cursor.start []) stack := by
  have hsame := lexer.next_at_end before stack
  cases hnext : lexer.next ⟨before, []⟩ stack with
  | stopped gaveWay final =>
    rw [runFrom_of_stopped hnext, runFrom_of_stopped (hsame ▸ hnext)]
  | emitted gaveWay last kind count =>
    obtain ⟨hpos, hle⟩ := next_bounds hnext
    exact absurd hle (Nat.not_le_of_lt hpos)

theorem runFrom_of_emitted_whole {before : Option Char} {text : Text} {stack last : Stack}
    {gaveWay : List Stack} {kind : Kind} (hkind : kind.takesNewline = true)
    (hnext : lexer.next ⟨before, text⟩ stack = .emitted gaveWay last kind text.length)
    (position : Nat) :
    lexer.runFrom position ⟨before, text⟩ stack =
      (lexer.runFrom 0 (Cursor.start []) last).precededBy
        [⟨gaveWay, last, ⟨kind, text, position⟩, last⟩] := by
  rw [runFrom_of_emitted hnext, Kind.transition_of_takesNewline hkind]
  dsimp only
  rw [List.take_length, Cursor.advance, List.drop_length]
  exact congrArg (Run.precededBy _) (lexer.runFrom_at_end _ _ last)

-- By strong induction on the text: a token before its end leaves a shorter one, and at the end the
-- newline goes to the token there or stands alone.
theorem runFrom_append_newline (hwords : lexer.vocabulary.StaysInLine) (position : Nat)
    (before : Option Char) (front : Text) (stack : Stack) :
    (lexer.runFrom position ⟨before, front ++ ['\n']⟩ stack).final =
        (lexer.runFrom position ⟨before, front⟩ stack).final ∧
      GainsNewline (position + front.byteSize) (lexer.runFrom position ⟨before, front⟩ stack).tokens
        (lexer.runFrom position ⟨before, front ++ ['\n']⟩ stack).tokens := by
  have hnil (last : Stack) : (lexer.runFrom 0 (Cursor.start []) last).tokens = [] :=
    (lexer.partition_runFrom 0 (Cursor.start []) last).eq_nil
  induction hlength : front.length using Nat.strongRecOn
    generalizing front position before stack with
  | ind length ih =>
    by_cases hne : front = []
    -- nothing is left, and the newline stands alone
    · subst hne
      obtain ⟨kind, hkind, hnext⟩ := next_newline hwords before stack
      rw [List.nil_append, runFrom_of_emitted_whole hkind hnext, Run.tokens_precededBy,
        runFrom_at_end, hnil]
      exact ⟨rfl, .token [] hkind⟩
    have hlong := next_append_newline hwords before hne stack
    cases hnext : lexer.next ⟨before, front⟩ stack with
    | stopped gaveWay final => exact absurd (turns_of_next_stopped hnext position).1 hne
    | emitted gaveWay last kind count =>
      obtain ⟨hpos, hle⟩ : 0 < count ∧ count ≤ front.length := next_bounds hnext
      rw [hnext, Outcome.withNewline, Kind.withNewline] at hlong
      split at hlong
      -- the token reaches the end and takes the newline
      · next htakes =>
        obtain ⟨hkind, hcount⟩ := htakes
        subst hcount
        have hlength : front.length + 1 = (front ++ ['\n']).length := by simp
        rw [hlength] at hlong
        rw [runFrom_of_emitted_whole hkind hnext, runFrom_of_emitted_whole hkind hlong,
          Run.tokens_precededBy, Run.tokens_precededBy, hnil]
        exact ⟨rfl, .character [] hkind⟩
      -- the newline lies behind the token
      · have hsize : Text.byteSize (front.take count) + Text.byteSize (front.drop count) =
            front.byteSize := by
          rw [← Text.byteSize_append, List.take_append_drop]
        rw [runFrom_of_emitted hnext, runFrom_of_emitted hlong, advance_append hle]
        simp only [List.take_append_of_le_length hle]
        obtain ⟨hfinal, htokens⟩ := ih (front.drop count).length
          (by rw [← hlength, List.length_drop]; omega)
          (position + Text.byteSize (front.take count)) ((front.take count).getLast?.or before)
          (front.drop count) (kind.transition lexer.markupArity (front.take count) last) rfl
        rw [Nat.add_assoc, hsize] at htokens
        refine ⟨hfinal, ?_⟩
        rw [Run.tokens_precededBy, Run.tokens_precededBy]
        exact htokens.append_left _

theorem lex_concat_newline (hwords : lexer.vocabulary.StaysInLine) (start : Stack) (text : Text) :
    (lexer.lex start (text ++ ['\n'])).final = (lexer.lex start text).final ∧
      GainsNewline text.byteSize (lexer.lex start text).tokens
        (lexer.lex start (text ++ ['\n'])).tokens := by
  have hrun := runFrom_append_newline hwords 0 none text start
  rwa [Nat.zero_add] at hrun

end Lexer

end ScoreLexer
