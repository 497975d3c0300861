import Mathlib.Data.List.TakeWhile
import ScoreLexer.Proofs.Pattern.Spelling
import ScoreLexer.Proofs.Scheme.Tokens

namespace ScoreLexer

namespace Text

variable {separator : Char} {front : Text}

theorem splitOnce?_append (h : separator ∉ front) (back : Text) :
    splitOnce? separator (front ++ separator :: back) = some (front, back) := by
  induction front with
  | nil => rw [List.nil_append, splitOnce?, if_pos rfl]
  | cons c front ih =>
    obtain ⟨hc, hfront⟩ := not_or.mp (List.mem_cons.not.mp h)
    rw [List.cons_append, splitOnce?, if_neg (Ne.symm hc), ih hfront]
    rfl

theorem splitOnce?_eq_none (h : separator ∉ front) : splitOnce? separator front = none := by
  induction front with
  | nil => rfl
  | cons c front ih =>
    obtain ⟨hc, hfront⟩ := not_or.mp (List.mem_cons.not.mp h)
    rw [splitOnce?, if_neg (Ne.symm hc), ih hfront]
    rfl

end Text

namespace NumericValue

-- One digit more: cutting off before and after it is the same as cutting off at the end.
theorem foldl_saturating (digits : Text) (n : Nat) :
    digits.foldl (fun n c => min (min (10 * n) maxUnsigned + (c.toNat - '0'.toNat)) maxUnsigned)
        (min n maxUnsigned) =
      min (digits.foldl (fun n c => 10 * n + (c.toNat - '0'.toNat)) n) maxUnsigned := by
  induction digits generalizing n with
  | nil => rfl
  | cons c digits ih =>
    have hstep :
        min (min (10 * min n maxUnsigned) maxUnsigned + (c.toNat - '0'.toNat)) maxUnsigned =
          min (10 * n + (c.toNat - '0'.toNat)) maxUnsigned := by
      omega
    rw [List.foldl_cons, hstep, ih, List.foldl_cons]

theorem saturatingDigits_eq (text : Text) :
    saturatingDigits text =
      min (Decimal.ofDigits (text.filter Text.isAsciiDigit)) maxUnsigned := by
  have hfold := foldl_saturating (text.filter Text.isAsciiDigit) 0
  rwa [Nat.zero_min] at hfold

theorem saturatingDigits_of_all {digits : Text} (h : digits.all Text.isAsciiDigit = true) :
    saturatingDigits digits = min (Decimal.ofDigits digits) maxUnsigned := by
  rw [saturatingDigits_eq, List.filter_eq_self.mpr (List.all_eq_true.mp h)]

end NumericValue

theorem Digits.not_mem (digits : Digits) {c : Char} (h : Text.isAsciiDigit c = false) :
    c ∉ digits.text := by
  intro hmem
  rw [List.all_eq_true.mp digits.isDigit_text c hmem] at h
  exact Bool.noConfusion h

namespace SchemeNumber

def whole (number : SchemeNumber) : Int :=
  if number.isNegative then -(Decimal.ofDigits number.digits.text : Int)
  else Decimal.ofDigits number.digits.text

def places (number : SchemeNumber) : Text :=
  match number.more? with
  | some (.point, digits) => digits.text
  | _ => []

def decimal (number : SchemeNumber) : Decimal :=
  ⟨number.isNegative, Decimal.ofDigits (number.digits.text ++ number.places),
    -(number.places.length : Int)⟩

variable (number : SchemeNumber)

theorem signedDigits_sign_append :
    NumericValue.signedDigits (number.sign ++ number.digits.text) =
      max (-2 ^ 63) (min (2 ^ 63 - 1) number.whole) := by
  have hvalue := NumericValue.saturatingDigits_of_all number.digits.isDigit_text
  have hmax : NumericValue.maxUnsigned = 18446744073709551615 := rfl
  have hsigned : NumericValue.maxSigned = 9223372036854775807 := rfl
  unfold sign whole
  cases number.isNegative with
  | true =>
    simp only [if_true, List.singleton_append, NumericValue.signedDigits, hvalue, hmax, hsigned]
    split <;> omega
  | false =>
    obtain ⟨c, more, htext, hc⟩ := number.digits.exists_text_eq
    have hplus : c ≠ '-' := by
      rintro rfl
      exact absurd hc (by decide)
    have hunsigned : NumericValue.signedDigits number.digits.text =
        if NumericValue.saturatingDigits number.digits.text ≤ NumericValue.maxSigned then
          (NumericValue.saturatingDigits number.digits.text : Int)
        else NumericValue.maxSigned := by
      rw [htext]
      unfold NumericValue.signedDigits
      split
      · next heq => exact absurd (List.cons.inj heq).1 hplus
      · rfl
    simp only [Bool.false_eq_true, if_false, List.nil_append, hunsigned, hvalue, hmax, hsigned]
    split <;> omega

theorem slash_mem_text_iff :
    '/' ∈ number.text ↔ ∃ denominator, number.more? = some (.slash, denominator) := by
  have hsign : '/' ∉ number.sign := by
    unfold sign
    split <;> decide
  have hdigits : '/' ∉ number.digits.text := number.digits.not_mem rfl
  simp only [text, List.mem_append, hsign, hdigits, false_or, more]
  match number.more? with
  | none => simp
  | some (.point, digits) =>
    have hplaces : '/' ∉ digits.text := digits.not_mem rfl
    simp [Divider.char, hplaces]
  | some (.slash, digits) => simp [Divider.char]

theorem parse_text_of_slash {denominator : Digits}
    (h : number.more? = some (.slash, denominator)) :
    NumericValue.parse number.text =
      .fraction (max (-2 ^ 63) (min (2 ^ 63 - 1) number.whole))
        (min (Decimal.ofDigits denominator.text) (2 ^ 64 - 1)) := by
  have hfront : '/' ∉ number.sign ++ number.digits.text := by
    have hdigits : '/' ∉ number.digits.text := number.digits.not_mem rfl
    unfold sign
    split <;> simp [hdigits]
  have htext : number.text = (number.sign ++ number.digits.text) ++ '/' :: denominator.text := by
    rw [text, more, h, List.append_assoc]
    rfl
  rw [NumericValue.parse, htext, Text.splitOnce?_append hfront]
  dsimp only
  rw [signedDigits_sign_append, NumericValue.saturatingDigits_of_all denominator.isDigit_text]
  rfl

theorem unsigned?_digits_more (hslash : ∀ denominator, number.more? ≠ some (.slash, denominator)) :
    Decimal.unsigned? number.isNegative (number.digits.text ++ number.more) =
      some number.decimal := by
  have hstop : ∀ c ∈ number.more.head?, Text.isAsciiDigit c = false := by
    have hend : DatumEnds [] := .inl (.inl rfl)
    have hnext := number.not_digit_more hend
    rwa [List.append_nil] at hnext
  have hne : number.digits.text.isEmpty = false :=
    List.isEmpty_eq_false_iff.mpr number.digits.text_ne_nil
  unfold Decimal.unsigned?
  simp only [Text.takeWhile_append_of_stops number.digits.isDigit_text hstop,
    Text.dropWhile_append_of_stops number.digits.isDigit_text hstop, hne, Bool.false_and]
  unfold more decimal places
  match hmore : number.more? with
  | none => rfl
  | some (.slash, denominator) => exact absurd hmore (hslash denominator)
  | some (.point, digits) =>
    have hall := List.all_eq_true.mp digits.isDigit_text
    simp [Divider.char, List.takeWhile_eq_self_iff.mpr hall, List.dropWhile_eq_nil_iff.mpr hall]

-- Infinities and what is no number begin with a letter.
theorem map_toLower_ne {first : Char} (hfirst : Text.isAsciiDigit first = false) (later : Text) :
    (number.digits.text ++ number.more).map Char.toLower ≠ first :: later := by
  obtain ⟨c, more, hdigits, hc⟩ := number.digits.exists_text_eq
  have hlower : Text.decimalDigits.all (Text.isAsciiDigit ·.toLower) = true := rfl
  have hdigit : Text.isAsciiDigit c.toLower = true :=
    List.all_eq_true.mp hlower c (Text.mem_decimalDigits hc)
  rw [hdigits]
  intro hmap
  obtain rfl : c.toLower = first := (List.cons.inj hmap).1
  exact Bool.noConfusion (hdigit.symm.trans hfirst)

theorem readFloat?_text (hslash : '/' ∉ number.text) :
    readFloat? number.text = some number.decimal.toFloat := by
  have hnumber := number.unsigned?_digits_more fun denominator hmore =>
    hslash (number.slash_mem_text_iff.mpr ⟨denominator, hmore⟩)
  have hinf : _ ≠ "inf".toList := number.map_toLower_ne rfl "nf".toList
  have hinfinity : _ ≠ "infinity".toList := number.map_toLower_ne rfl "nfinity".toList
  have hnan : _ ≠ "nan".toList := number.map_toLower_ne rfl "an".toList
  unfold readFloat?
  cases hsign : number.isNegative with
  | true =>
    have htext : number.text = '-' :: (number.digits.text ++ number.more) := by
      simp [text, sign, hsign]
    rw [hsign] at hnumber
    simp only [htext, Bool.or_eq_true, beq_iff_eq, hinf, hinfinity, hnan, or_self, if_false, hnumber,
      Option.map_some]
  | false =>
    have htext : number.text = number.digits.text ++ number.more := by
      simp [text, sign, hsign]
    obtain ⟨c, more, hdigits, hc⟩ := number.digits.exists_text_eq
    have hcons : number.digits.text ++ number.more = c :: (more ++ number.more) := by
      rw [hdigits, List.cons_append]
    have hminus : c ≠ '-' := by
      rintro rfl
      exact absurd hc (by decide)
    have hplus : c ≠ '+' := by
      rintro rfl
      exact absurd hc (by decide)
    rw [htext]
    split
    next negative body heq =>
    split at heq
    · next hdash => exact absurd (List.cons.inj (hcons.symm.trans hdash)).1 hminus
    · next hcross => exact absurd (List.cons.inj (hcons.symm.trans hcross)).1 hplus
    · obtain ⟨rfl, rfl⟩ := Prod.mk.inj heq
      rw [hsign] at hnumber
      simp only [Bool.or_eq_true, beq_iff_eq, hinf, hinfinity, hnan, or_self, if_false, hnumber,
        Option.map_some]

theorem parse_text_of_not_slash (hslash : '/' ∉ number.text) :
    NumericValue.parse number.text = .decimal number.decimal.toFloat := by
  rw [NumericValue.parse, Text.splitOnce?_eq_none hslash]
  dsimp only
  rw [number.readFloat?_text hslash, Option.getD_some]

end SchemeNumber

namespace Pattern

theorem exists_digits_of_spells {text : Text} (h : digits.Spells text) :
    ∃ found : Digits, text = found.text :=
  ⟨⟨text, h.1, h.2⟩, rfl⟩

theorem exists_sign_of_spells {text : Text} (h : (optional (word "-")).Spells text) :
    ∃ isNegative : Bool, text = if isNegative then ['-'] else [] := by
  rcases h with h | h
  · exact ⟨true, List.mem_singleton.mp h⟩
  · exact ⟨false, List.mem_singleton.mp h⟩

theorem exists_half_of_spells {mark : String} {divider : Divider}
    (hmark : mark.toList = [divider.char]) {text : Text}
    (h : (seq (word mark) digits).Spells text) :
    ∃ found : Digits, text = divider.char :: found.text := by
  obtain ⟨front, back, rfl, hfront, hback⟩ := h
  obtain ⟨found, rfl⟩ := exists_digits_of_spells hback
  obtain rfl : front = mark.toList := List.mem_singleton.mp hfront
  exact ⟨found, by rw [hmark, List.singleton_append]⟩

end Pattern

theorem Kind.exists_number_of_spells {kind : Kind} (hkind : kind.isNumeric = true)
    {vocabulary : Vocabulary} {recognizer : Recognizer}
    (hrecognizer : kind.recognizer? vocabulary = some recognizer) {text : Text}
    (h : recognizer.pattern.Spells text) : ∃ number : SchemeNumber, text = number.text := by
  have hpoint : ".".toList = [Divider.point.char] := rfl
  have hslash : "/".toList = [Divider.slash.char] := rfl
  cases kind with
  | repeatCount =>
    obtain rfl := Option.some.inj hrecognizer
    obtain ⟨whole, rfl⟩ := Pattern.exists_digits_of_spells h
    exact ⟨⟨false, whole, none⟩, by simp [SchemeNumber.text, SchemeNumber.sign, SchemeNumber.more]⟩
  | fraction =>
    obtain rfl := Option.some.inj hrecognizer
    obtain ⟨front, back, rfl, hfront, hback⟩ := h
    obtain ⟨numerator, rfl⟩ := Pattern.exists_digits_of_spells hfront
    obtain ⟨denominator, rfl⟩ := Pattern.exists_half_of_spells hslash hback
    exact ⟨⟨false, numerator, some (.slash, denominator)⟩, rfl⟩
  | decimalValue =>
    obtain rfl := Option.some.inj hrecognizer
    obtain ⟨sign, _, rfl, hsign, front, back, rfl, hfront, hback⟩ := h
    obtain ⟨isNegative, rfl⟩ := Pattern.exists_sign_of_spells hsign
    obtain ⟨whole, rfl⟩ := Pattern.exists_digits_of_spells hfront
    rcases hback with hback | hback
    · obtain ⟨places, rfl⟩ := Pattern.exists_half_of_spells hpoint hback
      exact ⟨⟨isNegative, whole, some (.point, places)⟩, rfl⟩
    · obtain rfl := List.mem_singleton.mp hback
      exact ⟨⟨isNegative, whole, none⟩, rfl⟩
  | schemeNumber =>
    obtain rfl := Option.some.inj hrecognizer
    obtain ⟨sign, _, rfl, hsign, front, _, rfl, hfront, back, _, rfl, hback, rfl⟩ := h
    obtain ⟨isNegative, rfl⟩ := Pattern.exists_sign_of_spells hsign
    obtain ⟨whole, rfl⟩ := Pattern.exists_digits_of_spells hfront
    rw [List.append_nil]
    rcases hback with (hback | hback) | hback
    · obtain ⟨places, rfl⟩ := Pattern.exists_half_of_spells hpoint hback
      exact ⟨⟨isNegative, whole, some (.point, places)⟩, rfl⟩
    · obtain ⟨denominator, rfl⟩ := Pattern.exists_half_of_spells hslash hback
      exact ⟨⟨isNegative, whole, some (.slash, denominator)⟩, rfl⟩
    · obtain rfl := List.mem_singleton.mp hback
      exact ⟨⟨isNegative, whole, none⟩, rfl⟩
  | _ => exact absurd hkind (by decide)

theorem Kind.isNumeric_of_isLeftover {kind : Kind} (h : kind.isLeftover = true) :
    kind.isNumeric = false := by
  cases kind with
  | unparsed | error | comment | string => rfl
  | _ => exact absurd h Bool.false_ne_true

-- Every token of a numeric kind is a number. With a slash in it, it is worth the fraction whose parts
-- are brought to the bounds of their ranges, and the value held after any of the digits is that of
-- the digits so far, cut off at the greatest unsigned number. Without a slash it is worth the decimal
-- number that it spells, and reading it does not fail.
theorem numeric?_of_mem_lex (lexicon : Lexicon) (stack : Stack) (text : Text) (token : Token)
    (htoken : token ∈ (lexicon.lexer.lex stack text).tokens)
    (hnumeric : token.kind.isNumeric = true) :
    ∃ number : SchemeNumber, token.text = number.text ∧
      ('/' ∈ token.text →
        ∃ denominator, number.more? = some (.slash, denominator) ∧
          token.numeric? = some (.fraction (max (-2 ^ 63) (min (2 ^ 63 - 1) number.whole))
            (min (Decimal.ofDigits denominator.text) (2 ^ 64 - 1))) ∧
          ∀ digits ∈ [number.digits, denominator], ∀ front, front <+: digits.text →
            NumericValue.saturatingDigits front = min (Decimal.ofDigits front) (2 ^ 64 - 1)) ∧
      ('/' ∉ token.text →
        readFloat? token.text = some number.decimal.toFloat ∧
          token.numeric? = some (.decimal number.decimal.toFloat)) := by
  obtain ⟨number, hnumber⟩ : ∃ number : SchemeNumber, token.text = number.text := by
    rcases Lexer.exists_spells_of_mem_runFrom htoken with hleftover | ⟨recognizer, hkind, hspells⟩
    · rw [Kind.isNumeric_of_isLeftover hleftover] at hnumeric
      exact absurd hnumeric Bool.false_ne_true
    · exact Kind.exists_number_of_spells hnumeric hkind hspells
  have hvalue : token.numeric? = some (NumericValue.parse number.text) := by
    rw [Token.numeric?, if_pos hnumeric, hnumber]
  rw [hnumber, hvalue]
  refine ⟨number, rfl, ?_, ?_⟩
  · intro hslash
    obtain ⟨denominator, hmore⟩ := number.slash_mem_text_iff.mp hslash
    refine ⟨denominator, hmore, by rw [number.parse_text_of_slash hmore], ?_⟩
    intro digits _ front hfront
    apply NumericValue.saturatingDigits_of_all
    rw [List.all_eq_true]
    exact fun c hc => List.all_eq_true.mp digits.isDigit_text c (hfront.subset hc)
  · intro hslash
    exact ⟨number.readFloat?_text hslash, by rw [number.parse_text_of_not_slash hslash]⟩

-- A numerator just below its range over a denominator just above its own.
theorem numeric?_of_mem_lex_out_of_range :
    let lexicon : Lexicon := Lexicon.ofWords fun _ => []
    let stack := Stack.toplevel.enter (.fresh .scheme)
    let text := "(-9223372036854775809/18446744073709551616".toList
    let token : Token := ⟨.schemeNumber, "-9223372036854775809/18446744073709551616".toList, 1⟩
    token ∈ (lexicon.lexer.lex stack text).tokens ∧ token.kind.isNumeric = true ∧
      '/' ∈ token.text ∧ token.numeric? = some (.fraction (-2 ^ 63) (2 ^ 64 - 1)) ∧
      ∃ number : SchemeNumber, ∃ denominator, token.text = number.text ∧
        number.more? = some (.slash, denominator) ∧
        max (-2 ^ 63) (min (2 ^ 63 - 1) number.whole) = -2 ^ 63 ∧
        min (Decimal.ofDigits denominator.text) (2 ^ 64 - 1) = 2 ^ 64 - 1 := by
  intro lexicon stack text token
  have htoken : token ∈ (lexicon.lexer.lex stack text).tokens := by decide +kernel
  have hnumeric : token.kind.isNumeric = true := by decide
  have hslash : '/' ∈ token.text := by decide
  have hbounds : token.numeric? = some (.fraction (-2 ^ 63) (2 ^ 64 - 1)) := by
    have hsplit : Text.splitOnce? '/' token.text =
        some ("-9223372036854775809".toList, "18446744073709551616".toList) := by
      decide +kernel
    have hnumerator : NumericValue.signedDigits "-9223372036854775809".toList = -2 ^ 63 := by
      decide +kernel
    have hdenominator : NumericValue.saturatingDigits "18446744073709551616".toList =
        2 ^ 64 - 1 := by
      decide +kernel
    rw [Token.numeric?, if_pos hnumeric, NumericValue.parse, hsplit]
    dsimp only
    rw [hnumerator, hdenominator]
  obtain ⟨number, htext, hfraction, -⟩ :=
    numeric?_of_mem_lex lexicon stack text token htoken hnumeric
  obtain ⟨denominator, hmore, hvalue, -⟩ := hfraction hslash
  obtain ⟨hwhole, hdenominator⟩ :=
    NumericValue.fraction.inj (Option.some.inj (hvalue.symm.trans hbounds))
  exact ⟨htoken, hnumeric, hslash, hbounds, number, denominator, htext, hmore, hwhole, hdenominator⟩

end ScoreLexer
