import ScoreLexer.Json.Reader

namespace ScoreLexer.Json

theorem hexValue?_hexDigit {n : Nat} (h : n < 16) : hexValue? (hexDigit n) = some n := by
  have hall : ∀ n < 16, hexValue? (hexDigit n) = some n := by decide
  exact hall n h

-- Control characters are written with four digits of base sixteen, the first two of them zeros.
theorem codeUnit?_hexDigits {n : Nat} (h : n < 0x20) :
    codeUnit? '0' '0' (hexDigit (n / 16)) (hexDigit (n % 16)) = some n := by
  have hzero : hexValue? '0' = some 0 := by decide
  simp only [codeUnit?, hzero, hexValue?_hexDigit (show n / 16 < 16 by omega),
    hexValue?_hexDigit (show n % 16 < 16 by omega), Option.some.injEq]
  omega

theorem decodeString?_codeUnit {a b c d : Char} {n : Nat} (h : codeUnit? a b c d = some n)
    (hhigh : isHighSurrogate n = false) (hlow : isLowSurrogate n = false) (rest : Text) :
    decodeString? ('\\' :: 'u' :: a :: b :: c :: d :: rest) =
      (decodeString? rest).map (Char.ofNat n :: ·) := by
  rw [decodeString?.eq_def]
  split <;> grind

theorem decodeString?_cons {c : Char} (h : c ≠ '\\') (rest : Text) :
    decodeString? (c :: rest) = (decodeString? rest).map (c :: ·) := by
  rw [decodeString?.eq_def]
  split <;> grind

theorem string?_cons {c : Char} (hquote : c ≠ '"') (hbackslash : c ≠ '\\')
    (hcontrol : 0x20 ≤ c.toNat) (rest : Text) :
    string? (c :: rest) = (string? rest).map fun (written, rest) => (c :: written, rest) := by
  rw [string?.eq_def]
  split <;> grind

theorem decodeString?_encodeChar (c : Char) (rest : Text) :
    decodeString? (encodeChar c ++ rest) = (decodeString? rest).map (c :: ·) := by
  unfold encodeChar
  split
  case h_8 hquote hbackslash hline hreturn htab hback hfeed =>
    split
    · next hcontrol =>
      have hhigh : isHighSurrogate c.toNat = false := by
        simp only [isHighSurrogate, Bool.and_eq_false_iff, decide_eq_false_iff_not]
        omega
      have hlow : isLowSurrogate c.toNat = false := by
        simp only [isLowSurrogate, Bool.and_eq_false_iff, decide_eq_false_iff_not]
        omega
      have hdecode := decodeString?_codeUnit (codeUnit?_hexDigits hcontrol) hhigh hlow rest
      rwa [Char.ofNat_toNat] at hdecode
    · exact decodeString?_cons hbackslash rest
  all_goals rfl

theorem string?_encodeChar (c : Char) (rest : Text) :
    string? (encodeChar c ++ rest) =
      (string? rest).map fun (written, rest) => (encodeChar c ++ written, rest) := by
  unfold encodeChar
  split
  case h_8 hquote hbackslash hline hreturn htab hback hfeed =>
    split
    · next hcontrol =>
      have hsome := Option.isSome_of_eq_some (codeUnit?_hexDigits hcontrol)
      simp only [List.cons_append, List.nil_append, string?, hsome, if_true]
    · next hcontrol => exact string?_cons hquote hbackslash (Nat.le_of_not_lt hcontrol) rest
  all_goals rfl

theorem decodeString?_encodeString (text : Text) :
    decodeString? (encodeString text) = some text := by
  induction text with
  | nil => rfl
  | cons c text ih =>
    have hcons : encodeString (c :: text) = encodeChar c ++ encodeString text := rfl
    rw [hcons, decodeString?_encodeChar, ih, Option.map_some]

theorem string?_encodeString (text rest : Text) :
    string? (encodeString text ++ '"' :: rest) = some (encodeString text, rest) := by
  induction text with
  | nil => rfl
  | cons c text ih =>
    have hcons : encodeString (c :: text) = encodeChar c ++ encodeString text := rfl
    rw [hcons, List.append_assoc, string?_encodeChar, ih, Option.map_some]

def EndsNumber (rest : Text) : Prop :=
  ∀ c ∈ rest.head?, Text.isAsciiDigit c = false ∧ c ≠ '.' ∧ c ≠ 'e' ∧ c ≠ 'E'

theorem isAsciiDigit_of_mem_toDigits {n : Nat} {c : Char} (h : c ∈ Nat.toDigits 10 n) :
    Text.isAsciiDigit c = true := by
  exact Nat.isDigit_of_mem_toDigits (by decide) (by decide) h

-- Only zero is written with a zero in front.
theorem toDigits_eq_cons (n : Nat) :
    ∃ c digits, Nat.toDigits 10 n = c :: digits ∧ (c = '0' → digits = []) := by
  induction n using Nat.strongRecOn with
  | ind n ih =>
    rw [Nat.toDigits_eq_if (by decide)]
    split
    · exact ⟨_, [], rfl, fun _ => rfl⟩
    · next hlarge =>
      obtain ⟨c, digits, hdigits, hzero⟩ := ih (n / 10) (by omega)
      refine ⟨c, digits ++ [(n % 10).digitChar], by rw [hdigits]; rfl, ?_⟩
      intro hc
      have hvalue := Nat.ofDigitChars_toDigits (b := 10) (n := n / 10) (by decide) (by decide)
      rw [hdigits, hzero hc, hc] at hvalue
      have hvalue : 0 = n / 10 := hvalue
      omega

theorem digits?_append {digits rest : Text} (hne : digits ≠ [])
    (hdigits : ∀ c ∈ digits, Text.isAsciiDigit c = true)
    (hrest : ∀ c ∈ rest.head?, Text.isAsciiDigit c = false) :
    digits? (digits ++ rest) = some (digits, rest) := by
  have htake : rest.takeWhile Text.isAsciiDigit = [] := by
    cases rest with
    | nil => rfl
    | cons c rest => simp [hrest c rfl]
  have hdrop : rest.dropWhile Text.isAsciiDigit = rest := by
    cases rest with
    | nil => rfl
    | cons c rest => simp [hrest c rfl]
  unfold digits?
  rw [List.takeWhile_append_of_pos hdigits, List.dropWhile_append_of_pos hdigits, htake, hdrop,
    List.append_nil]
  cases digits with
  | nil => exact absurd rfl hne
  | cons c digits => rfl

theorem places?_of_endsNumber {rest : Text} (h : EndsNumber rest) :
    places? rest = some ([], rest) := by
  cases rest with
  | nil => rfl
  | cons c rest =>
    obtain ⟨-, hpoint, -, -⟩ := h c rfl
    simp [places?, hpoint]

theorem power?_of_endsNumber {rest : Text} (h : EndsNumber rest) :
    power? rest = some ([], rest) := by
  cases rest with
  | nil => rfl
  | cons c rest =>
    obtain ⟨-, -, hsmall, hlarge⟩ := h c rfl
    simp [power?, hsmall, hlarge]

theorem whole?_toDigits {n : Nat} {rest : Text}
    (hrest : ∀ c ∈ rest.head?, Text.isAsciiDigit c = false) :
    whole? (Nat.toDigits 10 n ++ rest) = some (Nat.toDigits 10 n, rest) := by
  have hdigits := digits?_append (Nat.toDigits_ne_nil (n := n) (b := 10))
    (fun c hc => isAsciiDigit_of_mem_toDigits hc) hrest
  obtain ⟨c, digits, hcons, hzero⟩ := toDigits_eq_cons n
  unfold whole?
  rw [hdigits, hcons]
  split <;> grind

theorem number?_toDigits (n : Nat) {rest : Text} (h : EndsNumber rest) :
    number? (Nat.toDigits 10 n ++ rest) = some (Nat.toDigits 10 n, rest) := by
  have hwhole := whole?_toDigits (n := n) fun c hc => (h c hc).1
  obtain ⟨c, digits, hcons, -⟩ := toDigits_eq_cons n
  have hdigit : Text.isAsciiDigit c = true :=
    isAsciiDigit_of_mem_toDigits (by rw [hcons]; exact List.mem_cons_self)
  have hsign : c ≠ '-' := by
    rintro rfl
    exact absurd hdigit (by decide)
  rw [hcons, List.cons_append] at hwhole ⊢
  simp [number?, hsign, hwhole, places?_of_endsNumber h, power?_of_endsNumber h]

end ScoreLexer.Json
