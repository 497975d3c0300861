import ScoreLexer.Proofs.Lexer.Reading
import ScoreLexer.Proofs.Score.Lengths
import ScoreLexer.Proofs.Text.Ascii

namespace ScoreLexer

-- The contexts in which nothing but a run of blanks claims a space.
def Context.skipsSpace : Context → Bool
  | .toplevel | .expectBook | .expectBookPart | .expectScore | .expectLayout | .expectMidi
  | .book | .bookPart | .score | .layout | .midi | .music | .chord | .duration | .markup
  | .schemeList | .schemeLilyPond => true
  | _ => false

def Context.holdsPitches : Context → Bool
  | .music | .chord | .schemeLilyPond => true
  | _ => false

theorem Context.eq_of_holdsPitches {context : Context} (h : context.holdsPitches = true) :
    context = .music ∨ context = .chord ∨ context = .schemeLilyPond := by
  cases context <;> simp_all [holdsPitches]

def Context.holdsItems : Context → Bool
  | .music | .schemeLilyPond => true
  | _ => false

theorem Context.eq_of_holdsItems {context : Context} (h : context.holdsItems = true) :
    context = .music ∨ context = .schemeLilyPond := by
  cases context <;> simp_all [holdsItems]

theorem Context.holdsPitches_of_holdsItems {context : Context} (h : context.holdsItems = true) :
    context.holdsPitches = true := by
  obtain rfl | rfl := eq_of_holdsItems h <;> rfl

def PartEnds (rest : Text) : Prop := rest = [] ∨ ∃ more, rest = ' ' :: more

theorem PartEnds.not_head {rest : Text} (h : PartEnds rest) {accepts : Char → Bool}
    (hspace : accepts ' ' = false) : ∀ c ∈ rest.head?, accepts c = false := by
  obtain rfl | ⟨more, rfl⟩ := h
  · simp
  · rintro c ⟨⟩
    exact hspace

-- What a space can be the beginning of can follow when pieces with spaces before them come first.
theorem follows_append {follows : Text → Prop} (hspace : ∀ rest, follows (' ' :: rest))
    (texts : List Text) {rest : Text} (hrest : follows rest) :
    follows (texts.flatMap (' ' :: ·) ++ rest) := by
  cases texts with
  | nil => exact hrest
  | cons text texts => exact hspace _

theorem partEnds_append (texts : List Text) {rest : Text} (hrest : PartEnds rest) :
    PartEnds (texts.flatMap (' ' :: ·) ++ rest) :=
  follows_append (fun rest => .inr ⟨rest, rfl⟩) texts hrest

-- A single letter that no other letter follows is not found in longer words.
theorem Recognizer.match?_eq_none_of_ne {recognizer : Recognizer} {letter : Char}
    (hstart : recognizer.fromWordStart = false) (hguard : recognizer.guard = .notLetter)
    (hends : ∀ before rest,
      (recognizer.pattern.ends ⟨before, letter :: rest⟩).head?.map Cursor.rest = some rest)
    (hopens :
      Text.alphabet.all (fun c => c == letter || !recognizer.pattern.opens c) = true)
    {letters : Text} (hlower : letters.all Char.isLower = true) (hne : letters ≠ [])
    (hletters : letters ≠ [letter]) (before : Option Char) (rest : Text) :
    recognizer.match? ⟨before, letters ++ rest⟩ = none := by
  obtain ⟨c, more, rfl⟩ := List.exists_cons_of_ne_nil hne
  by_cases hc : c = letter
  · subst hc
    have hmore : more ≠ [] := by
      rintro rfl
      exact hletters rfl
    obtain ⟨d, more, rfl⟩ := List.exists_cons_of_ne_nil hmore
    have hd : Text.isAsciiLetter d = true :=
      Text.isAsciiLetter_of_isLower (List.all_eq_true.mp hlower d (by simp))
    have hmatch := recognizer.match?_of_head? hstart (hends before (d :: more ++ rest)) (by simp)
    rw [hguard] at hmatch
    simpa [Guard.allows, hd] using hmatch
  · have hmem := Text.mem_alphabet (List.all_eq_true.mp hlower c List.mem_cons_self)
    have hrefused : recognizer.pattern.opens c = false := by
      simpa [hc] using List.all_eq_true.mp hopens c hmem
    exact match?_eq_none hrefused before _

namespace Lexer

variable {lexer : Lexer}

theorem first?_space {context : Context} (hcontext : context.skipsSpace = true) {rest : Text}
    (hrest : ∀ c ∈ rest.head?, Text.isBlank c = false) (before : Option Char) :
    lexer.first? context ⟨before, [' '] ++ rest⟩ = some (.space, 1) := by
  have hmatch : lexer.match? .space ⟨before, [' '] ++ rest⟩ = some 1 :=
    Recognizer.match?_run_append (by decide) rfl hrest rfl before
  cases context <;> simp only [Context.skipsSpace, reduceCtorEq] at hcontext <;>
    exact firstOf?_of_match? (by decide) rfl hmatch

theorem first?_opening {context : Context}
    (hcontext : context.holdsGroups = true ∨ context.holdsItems = true) (bracket : Bracket)
    (before : Option Char) (rest : Text) :
    lexer.first? context ⟨before, bracket.opening ++ rest⟩ =
      some (bracket.openingKind, bracket.opening.length) := by
  cases bracket <;> cases context <;> simp [Context.holdsGroups, Context.holdsItems] at hcontext <;>
    exact first?_of_ends (by decide) rfl rfl rfl (by decide) rfl rfl

theorem first?_closing (bracket : Bracket) (before : Option Char) (rest : Text) :
    lexer.first? .music ⟨before, bracket.closing ++ rest⟩ =
      some (bracket.closingKind, bracket.closing.length) := by
  cases bracket <;> exact first?_of_ends (by decide) rfl rfl rfl (by decide) rfl rfl

-- Two angles in a row are something else, so what follows an angle matters.
theorem first?_chordStart {context : Context} (hcontext : context.holdsItems = true) {rest : Text}
    (hrest : PartEnds rest) (before : Option Char) :
    lexer.first? context ⟨before, ['<'] ++ rest⟩ = some (.chordStart, 1) := by
  obtain rfl | ⟨more, rfl⟩ := hrest <;> obtain rfl | rfl := Context.eq_of_holdsItems hcontext <;>
    exact first?_of_ends (by decide) rfl rfl rfl (by decide) rfl rfl

theorem first?_chordEnd {rest : Text} (hrest : PartEnds rest) (before : Option Char) :
    lexer.first? .chord ⟨before, ['>'] ++ rest⟩ = some (.chordEnd, 1) := by
  obtain rfl | ⟨more, rfl⟩ := hrest <;>
    exact first?_of_ends (by decide) rfl rfl rfl (by decide) rfl rfl

theorem first?_keyword {context : Context} {block : Block} (hblock : block ∈ context.blocks)
    {rest : Text} (hrest : PartEnds rest) (before : Option Char) :
    lexer.first? context ⟨before, block.keyword ++ rest⟩ =
      some (block.kind, block.keyword.length) := by
  obtain rfl | ⟨more, rfl⟩ := hrest <;>
    cases context <;> cases block <;> simp [Context.blocks] at hblock <;>
      exact first?_of_ends (by decide) rfl rfl rfl (by decide) rfl rfl

theorem first?_openBracket (block : Block) (before : Option Char) (rest : Text) :
    lexer.first? block.waiting ⟨before, ['{'] ++ rest⟩ = some (.openBracket, 1) := by
  cases block <;> exact first?_of_ends (by decide) rfl rfl rfl (by decide) rfl rfl

theorem first?_closeBracket (block : Block) (before : Option Char) (rest : Text) :
    lexer.first? block.body ⟨before, ['}'] ++ rest⟩ = some (.closeBracket, 1) := by
  cases block <;> exact first?_of_ends (by decide) rfl rfl rfl (by decide) rfl rfl

theorem first?_dot (before : Option Char) (rest : Text) :
    lexer.first? .duration ⟨before, ['.'] ++ rest⟩ = some (.dot, 1) :=
  first?_of_ends (by decide) rfl rfl rfl (by decide) rfl rfl

theorem firstOf?_before_skip {context : Context} (hcontext : context.holdsPitches = true)
    {c : Char} (hc : c.isLower = true) (before : Option Char) (rest : Text) :
    lexer.firstOf? (context.candidates.takeWhile (· != .skip)) ⟨before, c :: rest⟩ = none := by
  have hopens : Text.alphabet.all (fun c =>
      (context.candidates.takeWhile (· != .skip)).all
        fun kind => !kind.opens lexer.vocabulary c) = true := by
    obtain rfl | rfl | rfl := Context.eq_of_holdsPitches hcontext <;> rfl
  exact firstOf?_eq_none (List.all_eq_true.mp hopens c (Text.mem_alphabet hc)) before rest

theorem firstOf?_before_note {context : Context} (hcontext : context.holdsPitches = true)
    {letters : Text} (hlower : letters.all Char.isLower = true) (hne : letters ≠ [])
    (hskip : letters ≠ ['s']) (hrest : letters ≠ ['r']) (before : Option Char) (rest : Text) :
    lexer.firstOf? (context.candidates.takeWhile (· != .note)) ⟨before, letters ++ rest⟩ =
      none := by
  have hsplit : context.candidates.takeWhile (· != .note) =
      context.candidates.takeWhile (· != .skip) ++ [.skip, .rest] := by
    obtain rfl | rfl | rfl := Context.eq_of_holdsPitches hcontext <;> rfl
  have hfront : lexer.firstOf? (context.candidates.takeWhile (· != .skip))
      ⟨before, letters ++ rest⟩ = none := by
    obtain ⟨c, more, rfl⟩ := List.exists_cons_of_ne_nil hne
    exact firstOf?_before_skip hcontext (List.all_eq_true.mp hlower c List.mem_cons_self) before _
  have hmatchSkip : lexer.match? .skip ⟨before, letters ++ rest⟩ = none :=
    Recognizer.match?_eq_none_of_ne rfl rfl (fun _ _ => rfl) rfl hlower hne hskip before rest
  have hmatchRest : lexer.match? .rest ⟨before, letters ++ rest⟩ = none :=
    Recognizer.match?_eq_none_of_ne rfl rfl (fun _ _ => rfl) rfl hlower hne hrest before rest
  rw [hsplit, firstOf?_append, hfront]
  simp [firstOf?, hmatchSkip, hmatchRest]

-- The letters of a pitch are claimed whole, by the kind of a lone letter or as a note.
theorem first?_letters (pitch : Pitch) {context : Context}
    (hcontext : context.holdsPitches = true) {rest : Text}
    (hrest : Guard.notLetter.allows rest.head? = true) (before : Option Char) :
    lexer.first? context ⟨before, pitch.letters ++ rest⟩ =
      some (pitch.kind, pitch.letters.length) := by
  unfold Pitch.kind
  split
  · next hletters =>
    rw [hletters]
    obtain rfl | rfl | rfl := Context.eq_of_holdsPitches hcontext <;>
      exact first?_of_ends (by decide) rfl rfl rfl (by decide) rfl hrest
  · next hskip =>
    split
    · next hletters =>
      rw [hletters]
      obtain rfl | rfl | rfl := Context.eq_of_holdsPitches hcontext <;>
        exact first?_of_ends (by decide) rfl rfl rfl (by decide) rfl hrest
    · next hlone =>
      have hupto : ∀ c ∈ rest.head?, c.isLower = false := by
        intro c hc
        rw [Option.mem_def.mp hc] at hrest
        cases hlower : c.isLower with
        | false => rfl
        | true => simp [Guard.allows, Text.isAsciiLetter_of_isLower hlower] at hrest
      apply firstOf?_of_match?
      · obtain rfl | rfl | rfl := Context.eq_of_holdsPitches hcontext <;> decide
      · exact firstOf?_before_note hcontext pitch.isLower_letters pitch.letters_ne_nil hskip hlone
          before rest
      · exact Recognizer.match?_run_append pitch.letters_ne_nil pitch.isLower_letters hupto hrest
          before

theorem first?_octave {context : Context} (hcontext : context.holdsPitches = true) {octave : Text}
    (hoctave : octave.all isOctaveMark = true) (hne : octave ≠ []) {rest : Text}
    (hrest : ∀ c ∈ rest.head?, isOctaveMark c = false) (before : Option Char) :
    lexer.first? context ⟨before, octave ++ rest⟩ = some (.octave, octave.length) := by
  have hopens : ['\'', ','].all (fun c =>
      (context.candidates.takeWhile (· != .octave)).all
        fun kind => !kind.opens lexer.vocabulary c) = true := by
    obtain rfl | rfl | rfl := Context.eq_of_holdsPitches hcontext <;> rfl
  apply firstOf?_of_match?
  · obtain rfl | rfl | rfl := Context.eq_of_holdsPitches hcontext <;> decide
  · obtain ⟨c, more, rfl⟩ := List.exists_cons_of_ne_nil hne
    have hmark : c ∈ ['\'', ','] := by
      simpa [isOctaveMark] using List.all_eq_true.mp hoctave c List.mem_cons_self
    exact firstOf?_eq_none (List.all_eq_true.mp hopens c hmark) before _
  · exact Recognizer.match?_run_append hne hoctave hrest rfl before

-- A number is the number of a length, and no fraction, before a dot and before the end of the part.
theorem match?_number (lexer : Lexer) {number : Text} (hnumber : number ∈ lengthNumbers)
    {rest : Text} (hrest : PartEnds rest ∨ ∃ more, rest = '.' :: more) (before : Option Char) :
    lexer.match? .fraction ⟨before, number ++ rest⟩ = none ∧
      lexer.match? .duration ⟨before, number ++ rest⟩ = some number.length := by
  constructor
  · simp only [lengthNumbers, List.map, List.mem_cons, List.not_mem_nil, or_false] at hnumber
    rcases hnumber with rfl | rfl | rfl | rfl | rfl | rfl | rfl | rfl | rfl | rfl | rfl | rfl <;>
      obtain (rfl | ⟨more, rfl⟩) | ⟨more, rfl⟩ := hrest <;> rfl
  · have hstop : ∀ c ∈ rest.head?, Text.isAsciiDigit c = false := by
      obtain (rfl | ⟨more, rfl⟩) | ⟨more, rfl⟩ := hrest <;> simp [Text.isAsciiDigit]
    have hrun : (number ++ rest).takeWhile Text.isAsciiDigit = number :=
      Text.takeWhile_append_of_stops (all_isAsciiDigit_of_mem_lengthNumbers number hnumber) hstop
    have hdigit : (number ++ rest).head?.any Text.isAsciiDigit = true := by
      have hheads : ∀ number ∈ lengthNumbers, number.head?.any Text.isAsciiDigit = true := by decide
      have hhead := hheads number hnumber
      cases number with
      | nil => simp at hhead
      | cons c number => exact hhead
    rw [match?_eq rfl, Recognizer.match?_duration_iff hdigit, hrun]
    exact ⟨hnumber, rfl⟩

theorem first?_number {context : Context} (hcontext : context.holdsPitches = true) {number : Text}
    (hnumber : number ∈ lengthNumbers) {rest : Text}
    (hrest : PartEnds rest ∨ ∃ more, rest = '.' :: more) (before : Option Char) :
    lexer.first? context ⟨before, number ++ rest⟩ = some (.duration, number.length) := by
  have hopens : lengthNumbers.all (fun number => number.head?.any fun c =>
      (context.candidates.takeWhile (· != .fraction)).all
        fun kind => !kind.opens lexer.vocabulary c) = true := by
    obtain rfl | rfl | rfl := Context.eq_of_holdsPitches hcontext <;> rfl
  have hsplit : context.candidates.takeWhile (· != .duration) =
      context.candidates.takeWhile (· != .fraction) ++ [.fraction] := by
    obtain rfl | rfl | rfl := Context.eq_of_holdsPitches hcontext <;> rfl
  obtain ⟨hfraction, hduration⟩ := lexer.match?_number hnumber hrest before
  have hfront : lexer.firstOf? (context.candidates.takeWhile (· != .fraction))
      ⟨before, number ++ rest⟩ = none := by
    have hhead := List.all_eq_true.mp hopens number hnumber
    cases number with
    | nil => simp at hhead
    | cons c number => exact firstOf?_eq_none hhead before _
  apply firstOf?_of_match?
  · obtain rfl | rfl | rfl := Context.eq_of_holdsPitches hcontext <;> decide
  · rw [hsplit, firstOf?_append, hfront]
    simp [firstOf?, hfraction]
  · exact hduration

end Lexer

end ScoreLexer
