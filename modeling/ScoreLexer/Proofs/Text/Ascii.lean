import ScoreLexer.Text.Basic
import ScoreLexer.Text.Lowercase
import ScoreLexer.Text.WordChar

namespace ScoreLexer.Text

def alphabet : Text := "abcdefghijklmnopqrstuvwxyz".toList

def capitals : Text := "ABCDEFGHIJKLMNOPQRSTUVWXYZ".toList

def decimalDigits : Text := "0123456789".toList

theorem mem_of_toNat_between {chars : Text} {first count : Nat}
    (hchars : ∀ n < count, Char.ofNat (first + n) ∈ chars) {c : Char} (hlow : first ≤ c.toNat)
    (hhigh : c.toNat < first + count) : c ∈ chars := by
  have hmem := hchars (c.toNat - first) (by omega)
  rwa [Nat.add_sub_of_le hlow, Char.ofNat_toNat] at hmem

theorem mem_alphabet {c : Char} (h : c.isLower = true) : c ∈ alphabet := by
  obtain ⟨hlow, hhigh⟩ := Bool.and_eq_true_iff.mp h
  have hlow : 97 ≤ c.toNat := UInt32.le_iff_toNat_le.mp (of_decide_eq_true hlow)
  have hhigh : c.toNat ≤ 122 := UInt32.le_iff_toNat_le.mp (of_decide_eq_true hhigh)
  have hletters : ∀ n < 26, Char.ofNat (97 + n) ∈ alphabet := by decide
  exact mem_of_toNat_between hletters hlow (by omega)

theorem mem_capitals {c : Char} (h : c.isUpper = true) : c ∈ capitals := by
  obtain ⟨hlow, hhigh⟩ := of_decide_eq_true h
  have hlow : 65 ≤ c.toNat := UInt32.le_iff_toNat_le.mp hlow
  have hhigh : c.toNat ≤ 90 := UInt32.le_iff_toNat_le.mp hhigh
  have hcapitals : ∀ n < 26, Char.ofNat (65 + n) ∈ capitals := by decide
  exact mem_of_toNat_between hcapitals hlow (by omega)

theorem mem_letters {c : Char} (h : isAsciiLetter c = true) : c ∈ alphabet ++ capitals := by
  rw [List.mem_append]
  rcases Bool.or_eq_true_iff.mp h with h | h
  · exact .inl (mem_alphabet h)
  · obtain ⟨hlow, hhigh⟩ := Bool.and_eq_true_iff.mp h
    exact .inr (mem_capitals (decide_eq_true ⟨of_decide_eq_true hlow, of_decide_eq_true hhigh⟩))

theorem mem_decimalDigits {c : Char} (h : isAsciiDigit c = true) : c ∈ decimalDigits := by
  obtain ⟨hlow, hhigh⟩ := Bool.and_eq_true_iff.mp h
  have hlow : 48 ≤ c.toNat := UInt32.le_iff_toNat_le.mp (of_decide_eq_true hlow)
  have hhigh : c.toNat ≤ 57 := UInt32.le_iff_toNat_le.mp (of_decide_eq_true hhigh)
  have hdigits : ∀ n < 10, Char.ofNat (48 + n) ∈ decimalDigits := by decide
  exact mem_of_toNat_between hdigits hlow (by omega)

theorem isAsciiLetter_of_isLower {c : Char} (h : c.isLower = true) : isAsciiLetter c = true := by
  have hletters : alphabet.all isAsciiLetter = true := rfl
  exact List.all_eq_true.mp hletters c (mem_alphabet h)

theorem isWordChar_of_isAsciiLetter {c : Char} (h : isAsciiLetter c = true) :
    isWordChar c = true := by
  have hletters : (alphabet ++ capitals).all isWordChar = true := rfl
  exact List.all_eq_true.mp hletters c (mem_letters h)

theorem isWordChar_of_isAsciiDigit {c : Char} (h : isAsciiDigit c = true) :
    isWordChar c = true := by
  have hdigits : decimalDigits.all isWordChar = true := rfl
  exact List.all_eq_true.mp hdigits c (mem_decimalDigits h)

theorem isAscii_of_isAsciiLetter {c : Char} (h : isAsciiLetter c = true) : c.toNat < 0x80 := by
  have hletters : (alphabet ++ capitals).all (fun c => c.toNat < 0x80) = true := rfl
  exact of_decide_eq_true (List.all_eq_true.mp hletters c (mem_letters h))

theorem isAsciiLetter_iff {c : Char} : isAsciiLetter c = true ↔
    65 ≤ c.toNat ∧ c.toNat ≤ 90 ∨ 97 ≤ c.toNat ∧ c.toNat ≤ 122 := by
  simp only [isAsciiLetter, Bool.or_eq_true, Bool.and_eq_true, decide_eq_true_eq, Char.le_def,
    UInt32.le_iff_toNat_le]
  exact or_comm

def isLetterByte (byte : UInt8) : Bool :=
  65 ≤ byte.toNat && byte.toNat ≤ 90 || 97 ≤ byte.toNat && byte.toNat ≤ 122

theorem isLetterByte_ofNat {n : Nat} : isLetterByte (UInt8.ofNat n) = true ↔
    65 ≤ n % 256 ∧ n % 256 ≤ 90 ∨ 97 ≤ n % 256 ∧ n % 256 ≤ 122 := by
  simp [isLetterByte]

-- The first byte of a character beyond ASCII is not that of a letter.
theorem isAsciiLetter_of_bytes {c : Char}
    (h : (String.utf8EncodeChar c).all isLetterByte = true) : isAsciiLetter c = true := by
  rw [isAsciiLetter_iff, Char.toNat]
  rw [String.utf8EncodeChar] at h
  split at h
  · simp only [List.all_cons, Bool.and_eq_true, isLetterByte_ofNat] at h
    omega
  split at h
  · simp only [List.all_cons, Bool.and_eq_true, isLetterByte_ofNat] at h
    omega
  split at h <;>
  · simp only [List.all_cons, Bool.and_eq_true, isLetterByte_ofNat] at h
    omega

-- The bytes of a string are at hand, while its characters have to be decoded.
theorem all_isAsciiLetter_of_bytes {word : String}
    (h : word.toByteArray.data.toList.all isLetterByte = true) :
    word.toList.all isAsciiLetter = true := by
  rw [← String.utf8Encode_toList, List.utf8Encode, List.toList_data_toByteArray,
    List.all_flatMap] at h
  rw [List.all_eq_true] at h ⊢
  exact fun c hc => isAsciiLetter_of_bytes (h c hc)

theorem toLower_of_isUpper_eq_false {c : Char} (h : c.isUpper = false) : c.toLower = c :=
  dif_neg (of_decide_eq_false h)

theorem toLower_ne_of_isUpper {c : Char} (h : c.isUpper = true) : c.toLower ≠ c := by
  have hcapitals : capitals.all (fun c => c.toLower ≠ c) = true := rfl
  exact of_decide_eq_true (List.all_eq_true.mp hcapitals c (mem_capitals h))

theorem lower_of_isAscii {text : Text} (h : ∀ c ∈ text, c.toNat < 0x80) :
    lower text = text.map Char.toLower := by
  rw [lower]
  generalize ([] : Text) = before
  induction text generalizing before with
  | nil => rfl
  | cons c rest ih =>
    obtain ⟨hc, hrest⟩ := List.forall_mem_cons.mp h
    have hsigma : c.toNat ≠ 0x3A3 := by omega
    rw [lowerAfter, if_neg hsigma, lowerChar, if_pos hc, ih hrest]
    rfl

end ScoreLexer.Text
