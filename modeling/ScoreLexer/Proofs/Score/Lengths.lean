import ScoreLexer.Proofs.Lexer.LongestWord
import ScoreLexer.Proofs.Score.Grammar

namespace ScoreLexer

theorem Guard.allows_notDigit_iff {rest : Text} : notDigit.allows rest.head? = true ↔
    ∀ c ∈ rest.head?, Text.isAsciiDigit c = false := by
  cases rest <;> simp [allows]

-- Of words that consist of accepted characters, the longest one that begins a text stops where no
-- such character follows if and only if it is the whole run of them.
theorem longest_before_stop_iff {words : List Text} {accepts : Char → Bool}
    (hwords : ∀ word ∈ words, word.all accepts = true) {text word rest : Text}
    (hsplit : text = word ++ rest) :
    (Longest (fun other => other ∈ words ∧ other <+: text) word ∧
        ∀ c ∈ rest.head?, accepts c = false) ↔
      word ∈ words ∧ word = text.takeWhile accepts := by
  constructor
  · rintro ⟨hlongest, hstop⟩
    have hmem := hlongest.isEligible.1
    rw [hsplit, Text.takeWhile_append_of_stops (hwords word hmem) hstop]
    exact ⟨hmem, rfl⟩
  · rintro ⟨hmem, hrun⟩
    have hbegins : word <+: text := ⟨rest, hsplit.symm⟩
    have hrest : rest = text.dropWhile accepts := by
      apply List.append_cancel_left
      calc word ++ rest
        _ = text := hsplit.symm
        _ = text.takeWhile accepts ++ text.dropWhile accepts :=
          List.takeWhile_append_dropWhile.symm
        _ = word ++ text.dropWhile accepts := by rw [← hrun]
    refine ⟨⟨⟨hmem, hbegins⟩, ?_⟩, hrest ▸ Text.stops_dropWhile accepts text⟩
    rintro other ⟨hother, hprefix⟩
    -- another word is a run of its own, so it does not go beyond the whole one
    have hwithin : other <+: word := by
      obtain ⟨tail, htail⟩ := hprefix
      rw [hrun, ← htail, List.takeWhile_append_of_pos (List.all_eq_true.mp (hwords other hother))]
      exact List.prefix_append _ _
    exact (Text.byteSize_le_iff hprefix hbegins).mpr hwithin.length_le

theorem all_isAsciiDigit_of_mem_lengthNumbers :
    ∀ number ∈ lengthNumbers, number.all Text.isAsciiDigit = true := by
  decide

namespace Pattern

theorem ends_anyCommand_of_ne {c : Char} (hc : c ≠ '\\') (names : List String)
    (before : Option Char) (rest : Text) : (anyCommand names).ends ⟨before, c :: rest⟩ = [] := by
  have hmark : (word "\\").ends ⟨before, c :: rest⟩ = [] := by
    simp [word, ends, Cursor.past?, Ne.symm hc]
  rw [anyCommand, ends, hmark, List.flatMap_nil]

theorem head?_duration_iff {before : Option Char} {text rest : Text}
    (hdigit : text.head?.any Text.isAsciiDigit = true) :
    (duration.ends ⟨before, text⟩).head?.map Cursor.rest = some rest ↔
      ∃ number, text = number ++ rest ∧
        Longest (fun other => other ∈ lengthNumbers ∧ other <+: text) number := by
  obtain ⟨c, more, rfl, hc⟩ : ∃ c more, text = c :: more ∧ Text.isAsciiDigit c = true := by
    cases text with
    | nil => simp at hdigit
    | cons c more => exact ⟨c, more, rfl, hdigit⟩
  have hbackslash : c ≠ '\\' := by
    rintro rfl
    exact absurd hc (by decide)
  set numbers := ["1024", "2048", "128", "256", "512", "16", "32", "64", "1", "2", "4", "8"].map
    String.toList with hnumbers
  have hdescending : Descending numbers := by
    unfold Descending
    decide
  have hmem (number : Text) : number ∈ numbers ↔ number ∈ lengthNumbers := by
    have hperm : numbers.Perm lengthNumbers := by decide
    exact hperm.mem_iff
  rw [duration, ends, ends_anyCommand_of_ne hbackslash, List.nil_append,
    head?_words_iff hdescending]
  simp only [hmem]

end Pattern

theorem Recognizer.match?_duration_iff {before : Option Char} {text : Text}
    (hdigit : text.head?.any Text.isAsciiDigit = true) {count : Nat} :
    Recognizer.match? { pattern := Pattern.duration, guard := .notDigit } ⟨before, text⟩ =
        some count ↔
      text.takeWhile Text.isAsciiDigit ∈ lengthNumbers ∧
        count = (text.takeWhile Text.isAsciiDigit).length := by
  rw [match?_eq_some_iff]
  constructor
  · rintro ⟨-, number, last, hlast, hsplit, -, hguard, rfl⟩
    have hends : (Pattern.duration.ends ⟨before, text⟩).head?.map Cursor.rest =
        some last.rest := by
      rw [hlast, Option.map_some]
    obtain ⟨longest, hlongestSplit, hlongest⟩ := (Pattern.head?_duration_iff hdigit).mp hends
    obtain rfl : longest = number := List.append_cancel_right (hlongestSplit.symm.trans hsplit)
    obtain ⟨hmem, hrun⟩ := (longest_before_stop_iff all_isAsciiDigit_of_mem_lengthNumbers
      hsplit).mp ⟨hlongest, Guard.allows_notDigit_iff.mp hguard⟩
    rw [← hrun]
    exact ⟨hmem, rfl⟩
  · rintro ⟨hmem, rfl⟩
    have hsplit : text = text.takeWhile Text.isAsciiDigit ++ text.dropWhile Text.isAsciiDigit :=
      List.takeWhile_append_dropWhile.symm
    obtain ⟨hlongest, hstop⟩ :=
      (longest_before_stop_iff all_isAsciiDigit_of_mem_lengthNumbers hsplit).mpr ⟨hmem, rfl⟩
    have hends : (Pattern.duration.ends ⟨before, text⟩).head?.map Cursor.rest =
        some (text.dropWhile Text.isAsciiDigit) :=
      (Pattern.head?_duration_iff hdigit).mpr ⟨_, hsplit, hlongest⟩
    obtain ⟨last, hlast, hrest⟩ := Option.map_eq_some_iff.mp hends
    have hne : text.takeWhile Text.isAsciiDigit ≠ [] := by
      have hnil : [] ∉ lengthNumbers := by decide
      exact fun hempty => hnil (hempty ▸ hmem)
    refine ⟨by simp, _, last, hlast, hrest ▸ hsplit, hne, ?_, rfl⟩
    rw [hrest]
    exact Guard.allows_notDigit_iff.mpr hstop

-- Where a digit comes, a duration is recognised if and only if the digits up to the first other
-- character are one of the lengths, and then it is made of all of them. So no part of a longer
-- number is taken for a duration.
theorem matchAt?_duration_iff_whole_number (lexer : Lexer) (front back : Text)
    (hdigit : back.head?.any Text.isAsciiDigit = true) (size : Nat) :
    lexer.matchAt? .duration (front ++ back) front.byteSize = some size ↔
      back.takeWhile Text.isAsciiDigit ∈ lengthNumbers ∧
        size = (back.takeWhile Text.isAsciiDigit).length := by
  have hrecognizer : Kind.duration.recognizer? lexer.vocabulary =
      some { pattern := Pattern.duration, guard := .notDigit } := rfl
  have hbytes : ∀ number ∈ lengthNumbers, Text.byteSize number = number.length := by decide
  have htake : back.take (back.takeWhile Text.isAsciiDigit).length =
      back.takeWhile Text.isAsciiDigit :=
    (List.prefix_iff_eq_take.mp (List.takeWhile_prefix _)).symm
  rw [Lexer.matchAt?_append, Lexer.match?_eq hrecognizer, Option.map_eq_some_iff]
  simp only [Cursor.between, Recognizer.match?_duration_iff hdigit]
  constructor
  · rintro ⟨_, ⟨hmem, rfl⟩, rfl⟩
    exact ⟨hmem, by rw [htake, hbytes _ hmem]⟩
  · rintro ⟨hmem, rfl⟩
    exact ⟨_, ⟨hmem, rfl⟩, by rw [htake, hbytes _ hmem]⟩

-- After a note a length that others begin is recognised, and longer numbers that it begins are not.
theorem matchAt?_duration_iff_whole_number_1024 :
    let lexer := (Lexicon.ofWords fun _ => []).lexer
    let front : Text := "c".toList
    ("1024.".toList.head?.any Text.isAsciiDigit = true ∧
      lexer.matchAt? .duration (front ++ "1024.".toList) front.byteSize = some 4) ∧
      "10240".toList.head?.any Text.isAsciiDigit = true ∧
      ∀ size, lexer.matchAt? .duration (front ++ "10240".toList) front.byteSize ≠ some size := by
  intro lexer front
  refine ⟨⟨rfl, ?_⟩, rfl, fun size hsize => ?_⟩
  · exact (matchAt?_duration_iff_whole_number lexer front "1024.".toList rfl 4).mpr
      ⟨by decide, by decide⟩
  · have hmem :=
      ((matchAt?_duration_iff_whole_number lexer front "10240".toList rfl size).mp hsize).1
    exact absurd hmem (by decide)

end ScoreLexer
