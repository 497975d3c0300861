import ScoreLexer.Proofs.Scheme.Tokens
import ScoreLexer.Proofs.Score.Reading

namespace ScoreLexer

-- The text is one argument wherever data may stand. It does not begin with an at sign, so a mark
-- before it stays what it is.
structure IsDatum (lexer : Lexer) (text : Text) (kinds : List Kind) : Prop where
  head : text.head?.any (fun c => !Text.isBlank c && c != '@') = true
  concludes : ∀ stack : Stack, stack.top.context.holdsData = true → ∀ rest, DatumEnds rest →
    Concludes lexer stack (· = stack) text rest kinds stack.endArgument

namespace IsDatum

variable {lexer : Lexer} {text : Text} {kinds : List Kind}

theorem argument (h : IsDatum lexer text kinds) {stack : Stack}
    (hstack : stack.top.context.holdsData = true) : Argument lexer DatumEnds stack text kinds := by
  refine ⟨?_, h.concludes stack hstack⟩
  have hhead := h.head
  cases text with
  | nil => simp at hhead
  | cons c text => exact (Bool.and_eq_true_iff.mp hhead).1

theorem head_ne_at (h : IsDatum lexer text kinds) (rest : Text) :
    ∀ c ∈ (text ++ rest).head?, c ≠ '@' := by
  intro c hc
  have hhead := Text.head?_append_any h.head rest
  rw [Option.mem_def.mp hc, Option.any_some, Bool.and_eq_true, bne_iff_ne] at hhead
  exact hhead.2

end IsDatum

section

variable {lexer : Lexer}

theorem isDatum_symbol (symbol : SchemeSymbol) : IsDatum lexer symbol.text [.schemeWord] := by
  have hletters : (Text.alphabet ++ Text.capitals).all (fun c => !Text.isBlank c && c != '@') =
      true := rfl
  refine ⟨List.all_eq_true.mp hletters _ (Text.mem_letters symbol.isLetter_first), ?_⟩
  intro stack hstack rest hrest
  exact Concludes.claimed (Lexer.first?_schemeWord hstack symbol hrest) rfl

theorem isDatum_number (number : SchemeNumber) : IsDatum lexer number.text [.schemeNumber] := by
  have hsigns : ('-' :: Text.decimalDigits).all (fun c => !Text.isBlank c && c != '@') = true := rfl
  constructor
  · obtain ⟨c, more, htext, hc⟩ := number.exists_text_eq
    rw [htext]
    exact List.all_eq_true.mp hsigns c hc
  · intro stack hstack rest hrest
    exact Concludes.claimed (Lexer.first?_schemeNumber hstack number hrest) rfl

theorem isDatum_truth (value : Bool) :
    IsDatum lexer ['#', if value then 't' else 'f'] [.schemeBool] := by
  refine ⟨rfl, ?_⟩
  intro stack hstack rest hrest
  exact Concludes.claimed (Lexer.first?_schemeBool hstack value hrest) rfl

theorem isDatum_quotation (quotation : Quotation) :
    IsDatum lexer quotation.text quotation.kinds := by
  refine ⟨rfl, ?_⟩
  intro stack hstack rest _
  exact concludes_quotation (Lexer.first?_scheme_quote hstack) quotation rest

theorem isDatum_list {texts : List Text} {kinds : List (List Kind)}
    (h : List.Forall₂ (IsDatum lexer) texts kinds) :
    IsDatum lexer (['('] ++ (spaced ' ' texts ++ [')']))
      ([.schemeOpenParen] ++ (spaced .space kinds ++ [.schemeCloseParen])) := by
  refine ⟨rfl, ?_⟩
  intro stack hstack rest _
  let inner := stack.enter (Frame.fresh .schemeList)
  have hinner : stack.frames <+: inner.frames := stack.frames_prefix_enter _
  have hopening : Reads lexer stack (· = stack) ['('] ((spaced ' ' texts ++ [')']) ++ rest)
      [.schemeOpenParen] (· = inner) :=
    Reads.claimed (fun before => Lexer.first?_schemeOpenParen hstack before _) rfl hinner
  have helements : Reads lexer inner (· = inner) (spaced ' ' texts) ([')'] ++ rest)
      (spaced .space kinds) (· = inner) :=
    reads_spaced_arguments rfl rfl (fun rest => .inl (.inr ⟨rest, rfl⟩))
      (h.imp fun _ _ hdatum => hdatum.argument rfl) (.inr ⟨rest, rfl⟩)
  have hclosing : Concludes lexer stack (· = inner) [')'] rest [.schemeCloseParen]
      stack.endArgument :=
    Concludes.claimed (fun before => Lexer.first?_schemeCloseParen before rest) rfl
  exact hopening.concludes ((helements.lower hinner).concludes hclosing)

theorem isDatum_quoted (mark : QuoteMark) {text : Text} {kinds : List Kind}
    (h : IsDatum lexer text kinds) :
    IsDatum lexer (mark.text ++ text) ([.schemeQuote] ++ kinds) := by
  refine ⟨by cases mark <;> rfl, ?_⟩
  intro stack hstack rest hrest
  have hmark : Reads lexer stack (· = stack) mark.text (text ++ rest) [.schemeQuote] (· = stack) :=
    Reads.claimed (Lexer.first?_schemeQuote hstack mark (h.head_ne_at rest)) rfl List.prefix_rfl
  exact hmark.concludes (h.concludes stack hstack rest hrest)

-- A duration may linger before the closing brace, which it gives way to.
theorem isDatum_music (items : List Item) :
    IsDatum lexer (enclosed ' ' ['#', '{'] (Item.texts items) ['#', '}'])
      (enclosed .space [.schemeLilyPondStart] (Item.kindsOf items) [.schemeLilyPondEnd]) := by
  rw [enclosed_eq, enclosed_eq, ← List.append_assoc ((Item.texts items).flatMap _),
    ← List.append_assoc ((Item.kindsOf items).flatMap _)]
  refine ⟨rfl, ?_⟩
  intro stack hstack rest _
  let inner := stack.enter (Frame.fresh .schemeLilyPond)
  have hinner : stack.frames <+: inner.frames := stack.frames_prefix_enter _
  have hopening : ∀ rest, Reads lexer stack (· = stack) ['#', '{'] rest [.schemeLilyPondStart]
      (· = inner) := fun rest =>
    Reads.claimed (fun before => Lexer.first?_schemeLilyPondStart hstack before rest) rfl hinner
  have hbody : Reads lexer inner (· = inner) ((Item.texts items).flatMap (' ' :: ·) ++ [' '])
      (['#', '}'] ++ rest) ((Item.kindsOf items).flatMap (.space :: ·) ++ [.space])
      (Lingers inner) :=
    reads_body rfl (passage_items rfl rfl items) rfl
  have hclosing : Concludes lexer stack (Lingers inner) ['#', '}'] rest [.schemeLilyPondEnd]
      stack.endArgument :=
    Concludes.settling rfl (fun before => Lexer.first?_schemeLilyPondEnd before rest) rfl
  exact (hopening _).concludes ((hbody.lower hinner).concludes hclosing)

end

mutual

theorem isDatum_datum (lexer : Lexer) :
    ∀ datum : Datum, IsDatum lexer datum.text datum.kinds
  | .symbol name => by
      rw [Datum.text, Datum.kinds]
      exact isDatum_symbol name
  | .number value => by
      rw [Datum.text, Datum.kinds]
      exact isDatum_number value
  | .truth value => by
      rw [Datum.text, Datum.kinds]
      exact isDatum_truth value
  | .quotation string => by
      rw [Datum.text, Datum.kinds]
      exact isDatum_quotation string
  | .list elements => by
      rw [Datum.text, Datum.kinds]
      exact isDatum_list (isDatum_data lexer elements)
  | .quoted mark datum => by
      rw [Datum.text, Datum.kinds]
      exact isDatum_quoted mark (isDatum_datum lexer datum)
  | .music items => by
      rw [Datum.text, Datum.kinds]
      exact isDatum_music items

theorem isDatum_data (lexer : Lexer) :
    ∀ data : List Datum, List.Forall₂ (IsDatum lexer) (Datum.texts data) (Datum.kindsOf data)
  | [] => by
      rw [Datum.texts, Datum.kindsOf]
      exact .nil
  | datum :: data => by
      rw [Datum.texts, Datum.kindsOf]
      exact .cons (isDatum_datum lexer datum) (isDatum_data lexer data)

end

-- The frame for one Scheme expression is left with the last token of a datum and not before.
theorem lex_datum_ends_argument (lexicon : Lexicon) (stack : Stack) (datum : Datum) :
    let run := lexicon.lexer.lex (stack.enter Step.schemeFrame) datum.text
    ∃ emissions last, run.emissions = emissions ++ [last] ∧ last.after = stack.endArgument ∧
      (∀ emission ∈ emissions, stack.frames ++ [Step.schemeFrame] <+: emission.after.frames) ∧
      run.tokens.map Token.kind = datum.kinds := by
  intro run
  have hdatum := isDatum_datum lexicon.lexer datum
  have hconcludes := hdatum.concludes (stack.enter Step.schemeFrame) rfl [] (.inl (.inl rfl))
  rw [Step.schemeFrame, stack.endArgument_enter_last] at hconcludes
  obtain ⟨emissions, last, hemissions, hlast, hframes, hkinds, -⟩ := hconcludes.lex
  rw [stack.frames_enter] at hframes
  exact ⟨emissions, last, hemissions, hlast, hframes, hkinds⟩

end ScoreLexer
