import ScoreLexer.Proofs.Pattern.Taking
import ScoreLexer.Proofs.Scheme.Grammar

namespace ScoreLexer

def Context.holdsData : Context → Bool
  | .scheme | .schemeList => true
  | _ => false

theorem Context.eq_of_holdsData {context : Context} (h : context.holdsData = true) :
    context = .scheme ∨ context = .schemeList := by
  cases context <;> simp_all [holdsData]

theorem Context.mem_candidates_of_holdsData {context : Context} (h : context.holdsData = true)
    {kind : Kind} (hkind : kind ∈ schemeItems) : kind ∈ context.candidates := by
  obtain rfl | rfl := eq_of_holdsData h
  · exact hkind
  · exact List.mem_cons_of_mem _ hkind

def DatumEnds (rest : Text) : Prop := PartEnds rest ∨ ∃ more, rest = ')' :: more

theorem DatumEnds.not_head {rest : Text} (h : DatumEnds rest) {accepts : Char → Bool}
    (hspace : accepts ' ' = false) (hparen : accepts ')' = false) :
    ∀ c ∈ rest.head?, accepts c = false := by
  rcases h with h | ⟨more, rfl⟩
  · exact h.not_head hspace
  · rintro c ⟨⟩
    exact hparen

theorem atWordEdge_after_digits (digits : Digits) (front : Text) (before : Option Char)
    {rest : Text} (hrest : DatumEnds rest) :
    Cursor.atWordEdge ⟨(front ++ digits.text).getLast?.or before, rest⟩ = true := by
  have hword : Text.isWordChar (digits.text.getLast digits.text_ne_nil) = true :=
    Text.isWordChar_of_isAsciiDigit
      (List.all_eq_true.mp digits.isDigit_text _ (List.getLast_mem digits.text_ne_nil))
  have hlast : (front ++ digits.text).getLast?.or before =
      some (digits.text.getLast digits.text_ne_nil) := by
    rw [List.getLast?_append, List.getLast?_eq_some_getLast digits.text_ne_nil]
    rfl
  rw [hlast, Cursor.atWordEdge]
  obtain (rfl | ⟨more, rfl⟩) | ⟨more, rfl⟩ := hrest <;> simp [hword] <;> rfl

theorem Digits.exists_text_eq (digits : Digits) :
    ∃ c more, digits.text = c :: more ∧ Text.isAsciiDigit c = true := by
  obtain ⟨c, more, htext⟩ := List.exists_cons_of_ne_nil digits.text_ne_nil
  have hc := List.all_eq_true.mp digits.isDigit_text c (htext ▸ List.mem_cons_self)
  exact ⟨c, more, htext, hc⟩

namespace SchemeNumber

variable {rest : Text}

theorem takes_sign (number : SchemeNumber) (hrest : rest.head?.any Text.isAsciiDigit = true)
    (before : Option Char) :
    (Pattern.optional (.word "-")).Takes before number.sign rest := by
  unfold sign
  split
  · exact .altLeft (.word "-")
  · apply Pattern.Takes.absent
    cases rest with
    | nil => rfl
    | cons c rest =>
      have hdigits : Text.decimalDigits.all ('-' != ·) = true := rfl
      have hne : '-' ≠ c :=
        bne_iff_ne.mp (List.all_eq_true.mp hdigits c (Text.mem_decimalDigits hrest))
      simp [Pattern.word, Pattern.ends, Cursor.past?, hne]

theorem takes_digits (digits : Digits) (hrest : ∀ c ∈ rest.head?, Text.isAsciiDigit c = false)
    (before : Option Char) : Pattern.digits.Takes before digits.text rest :=
  .run digits.text_ne_nil digits.isDigit_text hrest

theorem takes_more (number : SchemeNumber) (hrest : DatumEnds rest) (before : Option Char) :
    (Pattern.optional (.alt (.seq (.word ".") Pattern.digits)
      (.seq (.word "/") Pattern.digits))).Takes before number.more rest := by
  have hstop : ∀ c ∈ rest.head?, Text.isAsciiDigit c = false := hrest.not_head rfl rfl
  unfold more
  match number.more? with
  | none =>
    apply Pattern.Takes.absent
    obtain (rfl | ⟨more, rfl⟩) | ⟨more, rfl⟩ := hrest <;> rfl
  | some (.point, digits) =>
    exact .altLeft (.altLeft ((Pattern.Takes.word ".").seq (takes_digits digits hstop _)))
  | some (.slash, digits) =>
    exact .altLeft (.altRight rfl ((Pattern.Takes.word "/").seq (takes_digits digits hstop _)))

theorem not_digit_more (number : SchemeNumber) (hrest : DatumEnds rest) :
    ∀ c ∈ (number.more ++ rest).head?, Text.isAsciiDigit c = false := by
  unfold more
  match number.more? with
  | none => exact hrest.not_head rfl rfl
  | some (.point, _) =>
    rintro c ⟨⟩
    rfl
  | some (.slash, _) =>
    rintro c ⟨⟩
    rfl

theorem takes_edge (number : SchemeNumber) (hrest : DatumEnds rest) (before : Option Char) :
    Pattern.edge.Takes
      (number.more.getLast?.or (number.digits.text.getLast?.or before)) [] rest := by
  apply Pattern.Takes.edge
  unfold more
  match number.more? with
  | none => exact atWordEdge_after_digits number.digits [] before hrest
  | some (divider, digits) => exact atWordEdge_after_digits digits [divider.char] _ hrest

theorem exists_text_eq (number : SchemeNumber) :
    ∃ c more, number.text = c :: more ∧ c ∈ '-' :: Text.decimalDigits := by
  unfold text sign
  split
  · exact ⟨_, _, rfl, List.mem_cons_self⟩
  · obtain ⟨c, more, htext, hc⟩ := number.digits.exists_text_eq
    rw [htext]
    exact ⟨c, _, rfl, List.mem_cons_of_mem _ (Text.mem_decimalDigits hc)⟩

theorem takes_schemeNumber (number : SchemeNumber) (hrest : DatumEnds rest)
    (before : Option Char) : Pattern.schemeNumber.Takes before number.text rest := by
  have hhead : ((number.digits.text ++ number.more) ++ rest).head?.any Text.isAsciiDigit =
      true := by
    obtain ⟨c, more, htext, hc⟩ := number.digits.exists_text_eq
    rw [htext]
    exact hc
  have hmore := (number.takes_more hrest _).seq
    (number.takes_edge hrest (number.sign.getLast?.or before))
  rw [List.append_nil] at hmore
  exact (number.takes_sign hhead before).seq
    ((takes_digits number.digits (number.not_digit_more hrest) _).seq hmore)

end SchemeNumber

theorem QuoteMark.takes_schemeQuote (mark : QuoteMark) {rest : Text}
    (hrest : ∀ c ∈ rest.head?, c ≠ '@') (before : Option Char) :
    (Pattern.seq (.oneOf ['\'', ',', Text.backquote]) (.optional (.word "@"))).Takes before
      mark.text rest := by
  have habsent : ∀ before, (Pattern.optional (.word "@")).Takes before [] rest := by
    intro before
    apply Pattern.Takes.absent
    cases rest with
    | nil => rfl
    | cons c rest => simp [Pattern.word, Pattern.ends, Cursor.past?, (hrest c rfl).symm]
  cases mark with
  | quote | quasiquote | unquote => exact (Pattern.Takes.one (by decide)).seq (habsent _)
  | splice => exact (Pattern.Takes.one (by decide)).seq (.altLeft (.word "@"))

namespace Lexer

variable {lexer : Lexer} {context : Context} {rest : Text}

theorem first?_schemeOpenParen (hcontext : context.holdsData = true) (before : Option Char)
    (rest : Text) :
    lexer.first? context ⟨before, ['('] ++ rest⟩ = some (.schemeOpenParen, 1) := by
  obtain rfl | rfl := Context.eq_of_holdsData hcontext <;>
    exact first?_of_ends (by decide) rfl rfl rfl (by decide) rfl rfl

theorem first?_schemeCloseParen (before : Option Char) (rest : Text) :
    lexer.first? .schemeList ⟨before, [')'] ++ rest⟩ = some (.schemeCloseParen, 1) :=
  first?_of_ends (by decide) rfl rfl rfl (by decide) rfl rfl

theorem first?_schemeLilyPondStart (hcontext : context.holdsData = true) (before : Option Char)
    (rest : Text) :
    lexer.first? context ⟨before, ['#', '{'] ++ rest⟩ = some (.schemeLilyPondStart, 2) := by
  obtain rfl | rfl := Context.eq_of_holdsData hcontext <;>
    exact first?_of_ends (by decide) rfl rfl rfl (by decide) rfl rfl

theorem first?_schemeLilyPondEnd (before : Option Char) (rest : Text) :
    lexer.first? .schemeLilyPond ⟨before, ['#', '}'] ++ rest⟩ = some (.schemeLilyPondEnd, 2) :=
  first?_of_ends (by decide) rfl rfl rfl (by decide) rfl rfl

theorem first?_scheme_quote (hcontext : context.holdsData = true) (before : Option Char)
    (rest : Text) :
    lexer.first? context ⟨before, ['"'] ++ rest⟩ = some (.stringQuotedStart, 1) := by
  obtain rfl | rfl := Context.eq_of_holdsData hcontext <;>
    exact first?_of_ends (by decide) rfl rfl rfl (by decide) rfl rfl

theorem first?_schemeBool (hcontext : context.holdsData = true) (value : Bool)
    (hrest : DatumEnds rest) (before : Option Char) :
    lexer.first? context ⟨before, ['#', if value then 't' else 'f'] ++ rest⟩ =
      some (.schemeBool, 2) := by
  obtain (rfl | ⟨more, rfl⟩) | ⟨more, rfl⟩ := hrest <;>
    obtain rfl | rfl := Context.eq_of_holdsData hcontext <;> cases value <;>
      exact first?_of_ends (by decide) rfl rfl rfl (by decide) rfl rfl

-- An at sign after a comma would belong to the mark.
theorem first?_schemeQuote (hcontext : context.holdsData = true) (mark : QuoteMark)
    (hrest : ∀ c ∈ rest.head?, c ≠ '@') (before : Option Char) :
    lexer.first? context ⟨before, mark.text ++ rest⟩ = some (.schemeQuote, mark.text.length) := by
  have hrefused : lexer.firstOf? (context.candidates.takeWhile (· != .schemeQuote))
      ⟨before, mark.text ++ rest⟩ = none := by
    obtain rfl | rfl := Context.eq_of_holdsData hcontext <;> cases mark <;> rfl
  apply firstOf?_of_match? (Context.mem_candidates_of_holdsData hcontext (by decide)) hrefused
  exact (match?_eq rfl _).trans (Recognizer.match?_of_takes rfl (by cases mark <;> decide)
    (mark.takes_schemeQuote hrest before) rfl)

-- What is tried before numbers begins neither with a sign nor with a digit.
theorem first?_schemeNumber (hcontext : context.holdsData = true) (number : SchemeNumber)
    (hrest : DatumEnds rest) (before : Option Char) :
    lexer.first? context ⟨before, number.text ++ rest⟩ =
      some (.schemeNumber, number.text.length) := by
  have hopens : ('-' :: Text.decimalDigits).all (fun c =>
      (context.candidates.takeWhile (· != .schemeNumber)).all
        fun kind => !kind.opens lexer.vocabulary c) = true := by
    obtain rfl | rfl := Context.eq_of_holdsData hcontext <;> rfl
  obtain ⟨c, more, htext, hc⟩ := number.exists_text_eq
  apply firstOf?_of_match? (Context.mem_candidates_of_holdsData hcontext (by decide))
  · rw [htext]
    exact firstOf?_eq_none (List.all_eq_true.mp hopens c hc) before _
  · exact (match?_eq rfl _).trans (Recognizer.match?_of_takes rfl (by simp [htext])
      (number.takes_schemeNumber hrest before) rfl)

theorem first?_schemeWord (hcontext : context.holdsData = true) (symbol : SchemeSymbol)
    (hrest : DatumEnds rest) (before : Option Char) :
    lexer.first? context ⟨before, symbol.text ++ rest⟩ =
      some (.schemeWord, symbol.text.length) := by
  have hopens : (Text.alphabet ++ Text.capitals).all (fun c =>
      (context.candidates.takeWhile (· != .schemeWord)).all
        fun kind => !kind.opens lexer.vocabulary c) = true := by
    obtain rfl | rfl := Context.eq_of_holdsData hcontext <;> rfl
  have hletters : (Text.alphabet ++ Text.capitals).all isSymbolChar = true := rfl
  have hfirst := Text.mem_letters symbol.isLetter_first
  have htext : symbol.text.all isSymbolChar = true := by
    rw [SchemeSymbol.text, List.all_cons, symbol.isSymbolChar_more, Bool.and_true]
    exact List.all_eq_true.mp hletters _ hfirst
  have hstop : ∀ c ∈ rest.head?, isSymbolChar c = false := hrest.not_head rfl rfl
  apply firstOf?_of_match? (Context.mem_candidates_of_holdsData hcontext (by decide))
  · exact firstOf?_eq_none (List.all_eq_true.mp hopens _ hfirst) before _
  · exact Recognizer.match?_run_append (List.cons_ne_nil _ _) htext hstop rfl before

end Lexer

end ScoreLexer
