import ScoreLexer.Document.Basic
import ScoreLexer.Proofs.Lexer.LineBoundary
import ScoreLexer.Proofs.Text.Lines

namespace ScoreLexer

open Text

def CleanBetweenLines (lexer : Lexer) (start : Stack) (text : Text) : Prop :=
  ∀ first second, text = first ++ second → first.getLast? = some '\n' → second ≠ [] →
    ∃ next, (lexer.lex start text).CleanAt first.byteSize next

theorem cleanBetweenLines_iff {lexer : Lexer} {start : Stack} {text : Text} :
    CleanBetweenLines lexer start text ↔
      ∀ count < text.length, (text.take count).getLast? = some '\n' →
        ∃ emission ∈ (lexer.lex start text).emissions,
          emission.token.finish = byteSize (text.take count) ∧
            emission.after.top.context.fallthrough? = none := by
  constructor
  · intro h count hcount hnewline
    obtain ⟨-, emission, hmem, hfinish, rfl, hstays⟩ :=
      h _ _ (List.take_append_drop count text).symm hnewline (by simpa using hcount)
    exact ⟨emission, hmem, hfinish, hstays⟩
  · rintro h first second rfl hnewline hsecond
    have hcount : first.length < (first ++ second).length := by
      simpa using List.length_pos_iff.mpr hsecond
    obtain ⟨emission, hmem, hfinish, hstays⟩ := h first.length hcount (by simpa using hnewline)
    exact ⟨emission.after, emission, hmem, by simpa using hfinish, rfl, hstays⟩

instance (lexer : Lexer) (start : Stack) (text : Text) :
    Decidable (CleanBetweenLines lexer start text) :=
  decidable_of_iff _ cleanBetweenLines_iff.symm

namespace Lexer

theorem lt_finish_of_mem_lex {lexer : Lexer} {start : Stack} {text : Text} {token : Token}
    (h : token ∈ (lexer.lex start text).tokens) : 0 < token.finish := by
  obtain ⟨emission, hemission, rfl⟩ := List.mem_map.mp h
  exact lt_finish_of_mem_runFrom hemission

theorem cleanBetweenLines_of_append {lexer : Lexer} (hwords : lexer.vocabulary.StaysInLine)
    {start next : Stack} {first second : Text} (hfirst : first.getLast? = some '\n')
    (hclean : (lexer.lex start (first ++ second)).CleanAt first.byteSize next)
    (h : CleanBetweenLines lexer start (first ++ second)) :
    CleanBetweenLines lexer next second := by
  obtain ⟨-, hrun⟩ := lex_append hwords hfirst hclean
  intro former latter hsecond hformer hlatter
  have hnewline : (first ++ former).getLast? = some '\n' := by
    rw [List.getLast?_append, hformer]
    rfl
  have hpos : 0 < byteSize former := by
    apply byteSize_pos
    rintro rfl
    simp at hformer
  obtain ⟨stack, emission, hmem, hfinish, hafter, hstays⟩ :=
    h (first ++ former) latter (by rw [hsecond, List.append_assoc]) hnewline hlatter
  rw [byteSize_append] at hfinish
  rw [hrun, Run.emissions_precededBy, List.mem_append] at hmem
  rcases hmem with hmem | hmem
  · have hle := finish_le_of_mem_lex (List.mem_map_of_mem hmem)
    omega
  · obtain ⟨original, horiginal, rfl⟩ := List.mem_map.mp hmem
    refine ⟨stack, original, horiginal, ?_, hafter, hstays⟩
    simp only [Emission.shift, Token.shift, Token.finish] at hfinish ⊢
    omega

end Lexer

theorem Token.shift_zero : Token.shift 0 = id := by
  funext token
  simp only [shift, Nat.add_zero, id]

theorem Token.shift_comp_shift (offset size : Nat) :
    Token.shift offset ∘ Token.shift size = Token.shift (offset + size) := by
  funext token
  simp only [Function.comp, shift]
  congr 1
  omega

namespace Document

theorem final_ofTexts_cons (lexer : Lexer) (start : Stack) (line : Text) (texts : List Text) :
    (ofTexts lexer start (line :: texts)).final =
      (ofTexts lexer (Line.lex lexer start line).final texts).final := by
  cases texts with
  | nil => rfl
  | cons text texts =>
    simp only [Document.final, ofTexts, lexLines, List.getLast?_cons_cons]
    rw [List.getLast?_eq_some_getLast (List.cons_ne_nil _ _)]

theorem tokensFrom_lexLines {lexer : Lexer} (hwords : lexer.vocabulary.StaysInLine)
    {texts : List Text} (hlines : AreLines texts) (hne : ∀ line ∈ texts, line ≠ [])
    {start : Stack} (hclean : CleanBetweenLines lexer start texts.flatten) (offset : Nat) :
    tokensFrom offset (lexLines lexer start texts) =
        (lexer.lex start texts.flatten).tokens.map (Token.shift offset) ∧
      (texts ≠ [] →
        (ofTexts lexer start texts).final = (lexer.lex start texts.flatten).final) := by
  induction texts generalizing start offset with
  | nil =>
    have hnil : (lexer.lex start []).tokens = [] :=
      (lexer.partition_runFrom 0 (Cursor.start []) start).eq_nil
    exact ⟨by rw [List.flatten_nil, hnil]; rfl, fun h => absurd rfl h⟩
  | cons line below ih =>
    cases below with
    | nil =>
      rw [List.flatten_singleton]
      exact ⟨List.append_nil _, fun _ => rfl⟩
    | cons next below =>
      obtain ⟨⟨-, hend⟩, hbelow⟩ := hlines
      have hnext : (next :: below).flatten ≠ [] := by
        intro hnil
        exact hne next (by simp) (List.flatten_eq_nil_iff.mp hnil next List.mem_cons_self)
      rw [List.flatten_cons] at hclean ⊢
      obtain ⟨stack, hat⟩ := hclean line _ rfl hend hnext
      obtain ⟨hfinal, hrun⟩ := Lexer.lex_append hwords hend hat
      obtain ⟨htokens, hlast⟩ := ih hbelow
        (fun text htext => hne text (List.mem_cons_of_mem _ htext))
        (Lexer.cleanBetweenLines_of_append hwords hend hat hclean) (offset + line.byteSize)
      have hline : (Line.lex lexer start line).final = stack := hfinal
      constructor
      · rw [lexLines, tokensFrom, hline]
        simp only [Line.lex]
        rw [htokens, hrun, Run.tokens_precededBy, Run.tokens_shift, List.map_append,
          ← Token.shift_comp_shift, ← List.map_map]
        rfl
      · intro _
        rw [hrun, Run.final_precededBy, Run.final_shift, ← hlast (List.cons_ne_nil _ _),
          final_ofTexts_cons, hline]

end Document

theorem Lexer.lex_pieces {lexer : Lexer} (hwords : lexer.vocabulary.StaysInLine)
    {start next : Stack} {first second : Text} (hfirst : first.getLast? = some '\n')
    (hclean : (lexer.lex start (first ++ second)).CleanAt first.byteSize next) :
    (lexer.lex start first).tokens =
        (lexer.lex start (first ++ second)).tokens.filter
          (fun token => token.finish ≤ first.byteSize) ∧
      (lexer.lex start first).final = next ∧
      (lexer.lex next second).tokens.map (Token.shift first.byteSize) =
        (lexer.lex start (first ++ second)).tokens.filter
          (fun token => first.byteSize < token.finish) ∧
      (lexer.lex next second).final = (lexer.lex start (first ++ second)).final := by
  obtain ⟨hfinal, hrun⟩ := lex_append hwords hfirst hclean
  have htokens : (lexer.lex start (first ++ second)).tokens = (lexer.lex start first).tokens ++
      (lexer.lex next second).tokens.map (Token.shift first.byteSize) := by
    rw [hrun, Run.tokens_precededBy, Run.tokens_shift]
    rfl
  have hbefore : ∀ token ∈ (lexer.lex start first).tokens, token.finish ≤ first.byteSize :=
    fun token htoken => finish_le_of_mem_lex htoken
  have hafter : ∀ token ∈ (lexer.lex next second).tokens.map (Token.shift first.byteSize),
      first.byteSize < token.finish := by
    intro token htoken
    obtain ⟨original, horiginal, rfl⟩ := List.mem_map.mp htoken
    have hpos := lt_finish_of_mem_lex horiginal
    simp only [Token.shift, Token.finish] at hpos ⊢
    omega
  refine ⟨?_, hfinal, ?_, ?_⟩
  · rw [htokens, List.filter_append, List.filter_eq_self.mpr (by simpa using hbefore),
      List.filter_eq_nil_iff.mpr (by simpa using hafter), List.append_nil]
  · rw [htokens, List.filter_append, List.filter_eq_nil_iff.mpr (by simpa using hbefore),
      List.filter_eq_self.mpr (by simpa using hafter), List.nil_append]
  · rw [hrun, Run.final_precededBy, Run.final_shift]

namespace Document

-- A document all of whose line boundaries are clean has the tokens of its text, and unless it has no
-- lines also the final stack.
theorem lex_of_cleanBetweenLines {lexer : Lexer} (hwords : lexer.vocabulary.StaysInLine)
    {start : Stack} {text : Text} (hclean : CleanBetweenLines lexer start text) :
    (lex lexer start text).tokens = (lexer.lex start text).tokens ∧
      (text ≠ [] → (lex lexer start text).final = (lexer.lex start text).final) := by
  have hlines := tokensFrom_lexLines hwords (areLines_lines text)
    (fun line hline => ne_nil_of_mem_lines hline) (by rwa [lines_flatten]) 0
  rw [lines_flatten] at hlines
  obtain ⟨htokens, hfinal⟩ := hlines
  constructor
  · rw [tokens, lex, ofTexts, htokens, Token.shift_zero, List.map_id]
  · intro hne
    apply hfinal
    intro hnil
    rw [← lines_flatten text, hnil, List.flatten_nil] at hne
    exact hne rfl

end Document

-- At a clean line boundary the two pieces of a text are lexed as the whole is, and a document all
-- of whose line boundaries are clean has the tokens and the final stack of its text.
theorem lex_of_clean_boundaries (lexicon : Lexicon)
    (hwords : ∀ category, ∀ word ∈ lexicon.words category, '\n' ∉ word.toList) :
    let lexer := lexicon.lexer
    (∀ (start : Stack) (first second : Text), first.getLast? = some '\n' →
      let whole := lexer.lex start (first ++ second)
      ∀ emission ∈ whole.emissions, emission.token.finish = first.byteSize →
        emission.after.top.context.fallthrough? = none →
        (lexer.lex start first).tokens =
            whole.tokens.filter (fun token => token.finish ≤ first.byteSize) ∧
          (lexer.lex start first).final = emission.after ∧
          (lexer.lex emission.after second).tokens.map (Token.shift first.byteSize) =
            whole.tokens.filter (fun token => first.byteSize < token.finish) ∧
          (lexer.lex emission.after second).final = whole.final) ∧
      ∀ (start : Stack) (text : Text), CleanBetweenLines lexer start text →
        (Document.lex lexer start text).tokens = (lexer.lex start text).tokens ∧
          (text ≠ [] ∨ start.top.context.fallthrough? = none →
            (Document.lex lexer start text).final = (lexer.lex start text).final) := by
  intro lexer
  have hvocabulary : lexer.vocabulary.StaysInLine := Vocabulary.staysInLine_ofLexicon hwords
  constructor
  · intro start first second hfirst whole emission hemission hfinish hstays
    exact Lexer.lex_pieces hvocabulary hfirst ⟨emission, hemission, hfinish, rfl, hstays⟩
  · intro start text hclean
    obtain ⟨htokens, hfinal⟩ := Document.lex_of_cleanBetweenLines hvocabulary hclean
    refine ⟨htokens, ?_⟩
    rintro (hne | hstays)
    · exact hfinal hne
    · cases text with
      | nil =>
        rw [Lexer.lex, Lexer.runFrom_nil rfl hstays]
        rfl
      | cons c rest => exact hfinal (List.cons_ne_nil c rest)

-- A duration is over within the first line, and the braces are open between the two.
theorem lex_of_clean_boundaries_open_braces :
    let lexicon := Lexicon.ofWords fun _ => []
    let first : Text := "\x7b c4 e\n".toList
    let second : Text := "d \x7d".toList
    let whole := lexicon.lexer.lex Stack.toplevel (first ++ second)
    (∀ category, ∀ word ∈ lexicon.words category, '\n' ∉ word.toList) ∧
      (∃ emission ∈ whole.emissions, emission.token.finish = first.byteSize ∧
        emission.after.top.context.fallthrough? = none ∧
        (lexicon.lexer.lex Stack.toplevel first).final = emission.after ∧
        (lexicon.lexer.lex emission.after second).final = whole.final) ∧
      CleanBetweenLines lexicon.lexer Stack.toplevel (first ++ second) ∧
      (Document.lex lexicon.lexer Stack.toplevel (first ++ second)).tokens = whole.tokens ∧
      (Document.lex lexicon.lexer Stack.toplevel (first ++ second)).final = whole.final := by
  intro lexicon first second whole
  have hwords : ∀ category, ∀ word ∈ lexicon.words category, '\n' ∉ word.toList := by
    simp [lexicon, Lexicon.ofWords]
  have hclean : CleanBetweenLines lexicon.lexer Stack.toplevel (first ++ second) := by
    decide +kernel
  obtain ⟨hpieces, hdocument⟩ := lex_of_clean_boundaries lexicon hwords
  obtain ⟨htokens, hfinal⟩ := hdocument _ _ hclean
  obtain ⟨-, emission, hmem, hfinish, rfl, hstays⟩ :=
    hclean first second rfl (by decide) (by decide)
  obtain ⟨-, hfirst, -, hsecond⟩ := hpieces _ first second (by decide) emission hmem hfinish hstays
  exact ⟨hwords, ⟨emission, hmem, hfinish, hstays, hfirst, hsecond⟩, hclean, htokens,
    hfinal (.inl (by decide))⟩

-- The document of the empty text keeps a duration that lexing the empty text leaves.
theorem final_lex_nil_ne :
    ¬ ∀ lexicon : Lexicon, (∀ category, ∀ word ∈ lexicon.words category, '\n' ∉ word.toList) →
      ∀ (start : Stack) (text : Text), CleanBetweenLines lexicon.lexer start text →
        (Document.lex lexicon.lexer start text).tokens = (lexicon.lexer.lex start text).tokens ∧
          (Document.lex lexicon.lexer start text).final =
            (lexicon.lexer.lex start text).final := by
  intro h
  have hempty := h (Lexicon.ofWords fun _ => []) (by simp [Lexicon.ofWords])
    (Stack.toplevel.enter (Frame.fresh .duration)) [] (by decide +kernel)
  revert hempty
  decide +kernel

end ScoreLexer
