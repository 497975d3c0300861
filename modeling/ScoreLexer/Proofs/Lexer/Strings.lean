import ScoreLexer.Proofs.Lexer.Argument
import ScoreLexer.Proofs.Lexer.Enclosure
import ScoreLexer.Proofs.Pattern.Taking

namespace ScoreLexer

open Text

namespace Text

-- The text before the quote that ends a string and the text after it. The character after a
-- backslash is skipped.
def splitAtQuote? : Text → Option (Text × Text)
  | [] => none
  | '"' :: rest => some ([], rest)
  | '\\' :: c :: rest => (splitAtQuote? rest).map (prepend ['\\', c])
  | c :: rest => (splitAtQuote? rest).map (prepend [c])

theorem splitAtQuote?_cons {c : Char} (hquote : c ≠ '"') (hescape : c ≠ '\\') (rest : Text) :
    splitAtQuote? (c :: rest) = (splitAtQuote? rest).map (prepend [c]) := by
  rw [splitAtQuote?]
  · exact hquote
  · exact fun _ _ hc => absurd hc hescape

-- The lexer joins a backslash only to a backslash or a quote. Another character could not have
-- ended the string, so the scan can as well go on with it.
theorem splitAtQuote?_backslash {rest : Text} (h : ∀ c ∈ rest.head?, c ≠ '"' ∧ c ≠ '\\') :
    splitAtQuote? ('\\' :: rest) = (splitAtQuote? rest).map (prepend ['\\']) := by
  cases rest with
  | nil => rfl
  | cons c rest =>
    obtain ⟨hquote, hescape⟩ := h c rfl
    rw [splitAtQuote?, splitAtQuote?_cons hquote hescape, map_prepend_prepend]
    rfl

end Text

namespace Lexer

variable {lexer : Lexer}

theorem first?_string_escape {c : Char} (h : c = '"' ∨ c = '\\') (before : Option Char)
    (rest : Text) :
    lexer.first? .string ⟨before, ['\\', c] ++ rest⟩ = some (.stringQuoteEscape, 2) := by
  rcases h with rfl | rfl <;>
    exact first?_of_ends (by decide) rfl rfl rfl (by decide) rfl rfl

theorem first?_string_backslash {rest : Text} (h : ∀ c ∈ rest.head?, c ≠ '"' ∧ c ≠ '\\')
    (before : Option Char) : lexer.first? .string ⟨before, '\\' :: rest⟩ = none := by
  have hends : (Pattern.oneOf ['\\', '"']).ends ⟨some '\\', rest⟩ = [] := by
    cases rest with
    | nil => rfl
    | cons c rest =>
      obtain ⟨hquote, hescape⟩ := h c rfl
      simp [Pattern.oneOf, Pattern.ends, hquote, hescape]
  have hescape : lexer.match? .stringQuoteEscape ⟨before, '\\' :: rest⟩ = none := by
    apply Recognizer.match?_of_ends_nil
    have hword : (Pattern.word "\\").ends ⟨before, '\\' :: rest⟩ = [⟨some '\\', rest⟩] := rfl
    rw [Recognizer.plain, Pattern.ends, hword]
    simpa using hends
  have hquote : lexer.match? .stringQuotedEnd ⟨before, '\\' :: rest⟩ = none := rfl
  simp [first?, firstOf?, Context.candidates, hquote, hescape]

end Lexer

namespace Enclosure

def string : Enclosure := ⟨.string, .stringQuotedEnd, ['"'], splitAtQuote?⟩

theorem string_finds (lexer : Lexer) (before : Option Char) (text : Text) :
    string.Finds lexer before text := by
  cases text with
  | nil => exact .nothing rfl
  | cons c rest =>
    by_cases hquote : c = '"'
    · rw [hquote]
      exact .mark rest (Lexer.first?_string_quote before rest) rfl
    by_cases hescape : c = '\\'
    · rw [hescape]
      by_cases hnext : ∀ d ∈ rest.head?, d ≠ '"' ∧ d ≠ '\\'
      · exact .unclaimed '\\' rest (Lexer.first?_string_backslash hnext before)
          (splitAtQuote?_backslash hnext)
      · push Not at hnext
        obtain ⟨d, hd, hnext⟩ := hnext
        obtain ⟨rest, rfl⟩ := List.head?_eq_some_iff.mp hd
        have hmatch : d = '"' ∨ d = '\\' := or_iff_not_imp_left.mpr hnext
        exact .piece .stringQuoteEscape ['\\', d] rest (by decide) rfl
          (Lexer.first?_string_escape hmatch before rest) rfl
    · exact .unclaimed c rest (Lexer.first?_string_plain hquote hescape before rest)
        (splitAtQuote?_cons hquote hescape rest)

theorem string_guides (lexer : Lexer) : string.Guides lexer where
  stays := rfl
  default_mem := by decide
  apart _ := ⟨rfl, rfl, rfl⟩
  finds := string_finds lexer

end Enclosure

-- A string ends at the first quote that no backslash takes away. Up to it there is nothing but the
-- text of the string and escapes, and it ends an argument of the frames below the string. Without
-- such a quote the string stays open.
theorem lex_string (lexicon : Lexicon) (stack : Stack) (text : Text) :
    let inside := stack.enter ⟨.string, 0⟩
    let run := lexicon.lexer.lex inside text
    match text.splitAtQuote? with
    | some (body, rest) =>
        text = body ++ '"' :: rest ∧
          ∃ former closing latter, run.emissions = former ++ closing :: latter ∧
            (∀ token ∈ former.map Emission.token, token.kind ∈ [.string, .stringQuoteEscape]) ∧
            Partition 0 body (former.map Emission.token) ∧
            closing.token = ⟨.stringQuotedEnd, ['"'], body.byteSize⟩ ∧
            closing.after = stack.endArgument
    | none =>
        (∀ token ∈ run.tokens, token.kind ∈ [.string, .stringQuoteEscape]) ∧
          run.final = inside := by
  intro inside run
  exact (Enclosure.string_guides lexicon.lexer).lex_emissions inside rfl text

end ScoreLexer
