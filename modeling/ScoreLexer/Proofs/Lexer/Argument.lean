import ScoreLexer.Proofs.Score.Tokens

namespace ScoreLexer

-- The lexer reads the text before the rest from every stack with the property. It makes tokens of
-- the given kinds. Up to the last token the frames of the base are still the lowest ones, and after
-- it the stack is the given one.
def Concludes (lexer : Lexer) (base : Stack) (start : Stack → Prop) (text rest : Text)
    (kinds : List Kind) (finish : Stack) : Prop :=
  ∀ stack, start stack → ∀ (position : Nat) (before : Option Char), ∃ emissions last,
    (emissions ++ [last]).map (fun emission => emission.token.kind) = kinds ∧
      (∀ emission ∈ emissions, base.frames <+: emission.after.frames) ∧ last.after = finish ∧
      lexer.runFrom position ⟨before, text ++ rest⟩ stack =
        (lexer.runFrom (position + text.byteSize) ⟨text.getLast?.or before, rest⟩ finish).precededBy
          (emissions ++ [last])

namespace Concludes

variable {lexer : Lexer} {base finish : Stack} {start middle : Stack → Prop} {text rest : Text}
  {kinds : List Kind}

theorem token {kind : Kind}
    (h : ∀ stack, start stack → ∀ before, ∃ gaveWay settled,
      lexer.next ⟨before, text ++ rest⟩ stack = .emitted gaveWay settled kind text.length ∧
        kind.transition lexer.markupArity text settled = finish) :
    Concludes lexer base start text rest [kind] finish := by
  intro stack hstack position before
  obtain ⟨gaveWay, settled, hnext, rfl⟩ := h stack hstack before
  refine ⟨[], ⟨gaveWay, settled, ⟨kind, text, position⟩,
    kind.transition lexer.markupArity text settled⟩, rfl, by simp, rfl, ?_⟩
  rw [Lexer.runFrom_of_emitted hnext]
  simp only [Cursor.advance, List.take_left', List.drop_left', List.nil_append]

theorem claimed {settled : Stack} {kind : Kind}
    (hfirst : ∀ before,
      lexer.first? settled.top.context ⟨before, text ++ rest⟩ = some (kind, text.length))
    (hfinish : kind.transition lexer.markupArity text settled = finish) :
    Concludes lexer base (· = settled) text rest [kind] finish := by
  apply token
  rintro stack rfl before
  exact ⟨[], stack, Lexer.next_of_claimed (hfirst before), hfinish⟩

theorem settling {settled : Stack} {kind : Kind} (hends : text.head?.any endsDuration = true)
    (hfirst : ∀ before,
      lexer.first? settled.top.context ⟨before, text ++ rest⟩ = some (kind, text.length))
    (hfinish : kind.transition lexer.markupArity text settled = finish) :
    Concludes lexer base (Lingers settled) text rest [kind] finish := by
  apply token
  intro stack hstack before
  obtain ⟨gaveWay, hemitted⟩ :=
    Lexer.next_of_lingers hstack (Text.head?_append_any hends rest) (hfirst before)
  exact ⟨gaveWay, settled, hemitted, hfinish⟩

theorem lower {base' : Stack} (h : Concludes lexer base start text rest kinds finish)
    (hbase' : base'.frames <+: base.frames) :
    Concludes lexer base' start text rest kinds finish := by
  intro stack hstack position before
  obtain ⟨emissions, last, hkinds, hbase, hlast, hrun⟩ := h stack hstack position before
  exact ⟨emissions, last, hkinds, fun emission hemission => hbase'.trans (hbase emission hemission),
    hlast, hrun⟩

theorem reads (h : Concludes lexer base start text rest kinds finish)
    (hfinish : base.frames <+: finish.frames) :
    Reads lexer base start text rest kinds (· = finish) := by
  intro stack hstack position before
  obtain ⟨emissions, last, hkinds, hbase, hlast, hrun⟩ := h stack hstack position before
  refine ⟨emissions ++ [last], finish, hkinds, ?_, rfl, hrun⟩
  rw [List.forall_mem_append, List.forall_mem_singleton, hlast]
  exact ⟨hbase, hfinish⟩

end Concludes

theorem Reads.concludes {lexer : Lexer} {base finish : Stack} {start middle : Stack → Prop}
    {former latter rest : Text} {first second : List Kind}
    (hformer : Reads lexer base start former (latter ++ rest) first middle)
    (hlatter : Concludes lexer base middle latter rest second finish) :
    Concludes lexer base start (former ++ latter) rest (first ++ second) finish := by
  intro stack hstack position before
  obtain ⟨emissions, between, hkinds, hbase, hbetween, hrun⟩ :=
    hformer stack hstack position before
  obtain ⟨more, last, hmore, hbase', hlast, hnext⟩ :=
    hlatter between hbetween (position + former.byteSize) (former.getLast?.or before)
  refine ⟨emissions ++ more, last, ?_, ?_, hlast, ?_⟩
  · rw [List.append_assoc, List.map_append, hkinds, hmore]
  · exact List.forall_mem_append.mpr ⟨hbase, hbase'⟩
  · rw [List.append_assoc former, hrun, hnext, Run.precededBy_precededBy, Text.byteSize_append,
      Nat.add_assoc, List.getLast?_append, Option.or_assoc, List.append_assoc]

theorem Lexer.emissions_runFrom_nil (lexer : Lexer) (position : Nat) (before : Option Char)
    (stack : Stack) : (lexer.runFrom position ⟨before, []⟩ stack).emissions = [] := by
  cases hnext : lexer.next ⟨before, []⟩ stack with
  | stopped gaveWay final => rw [runFrom_of_stopped hnext]
  | emitted gaveWay settled kind count =>
    obtain ⟨hpos, hle⟩ := next_bounds hnext
    exact absurd (Nat.lt_of_lt_of_le hpos hle) (Nat.lt_irrefl 0)

theorem Concludes.lex {lexer : Lexer} {base stack finish : Stack} {text : Text} {kinds : List Kind}
    (h : Concludes lexer base (· = stack) text [] kinds finish) : ∃ emissions last,
      (lexer.lex stack text).emissions = emissions ++ [last] ∧ last.after = finish ∧
        (∀ emission ∈ emissions, base.frames <+: emission.after.frames) ∧
        (lexer.lex stack text).tokens.map Token.kind = kinds ∧
        (finish.giveWay? = none → (lexer.lex stack text).final = finish) := by
  obtain ⟨emissions, last, hkinds, hbase, hlast, hrun⟩ := h stack rfl 0 none
  have hemissions : (lexer.lex stack text).emissions = emissions ++ [last] := by
    rw [List.append_nil] at hrun
    rw [Lexer.lex, Cursor.start, hrun, Run.emissions_precededBy, lexer.emissions_runFrom_nil,
      List.append_nil]
  refine ⟨emissions, last, hemissions, hlast, hbase, ?_, ?_⟩
  · rw [Run.tokens, hemissions, List.map_map]
    exact hkinds
  · intro hstays
    obtain ⟨gaveWay, hend⟩ := lexer.runFrom_nil_of_lingers (lingers_self rfl) hstays
      (0 + text.byteSize) (text.getLast?.or none)
    rw [List.append_nil, hend] at hrun
    rw [Lexer.lex, Cursor.start, hrun, Run.final_precededBy]

namespace Stack

theorem endArgument_enter_last (context : Context) (stack : Stack) :
    (stack.enter ⟨context, 1⟩).endArgument = stack.endArgument := rfl

theorem endArgument_enter_more (context : Context) (more : Nat) (stack : Stack) :
    (stack.enter ⟨context, more + 2⟩).endArgument = stack.enter ⟨context, more + 1⟩ := rfl

end Stack

-- The text is one argument of the frame on top of the stack, before every rest that can follow it.
structure Argument (lexer : Lexer) (follows : Text → Prop) (stack : Stack) (text : Text)
    (kinds : List Kind) : Prop where
  head : text.head?.any (fun c => !Text.isBlank c) = true
  concludes : ∀ rest, follows rest →
    Concludes lexer stack (· = stack) text rest kinds stack.endArgument

section

variable {lexer : Lexer} {follows : Text → Prop} {stack : Stack}

theorem reads_space_before (hspace : stack.top.context.skipsSpace = true) {rest : Text}
    (hrest : rest.head?.any (fun c => !Text.isBlank c) = true) :
    Reads lexer stack (· = stack) [' '] rest [.space] (· = stack) := by
  have hblank : ∀ c ∈ rest.head?, Text.isBlank c = false := by
    intro c hc
    rw [Option.mem_def.mp hc] at hrest
    simpa using hrest
  exact Reads.claimed (Lexer.first?_space hspace hblank) rfl List.prefix_rfl

theorem reads_arguments (hspace : stack.top.context.skipsSpace = true)
    (habsorbs : stack.endArgument = stack) (hfollows : ∀ rest, follows (' ' :: rest))
    {texts : List Text} {kinds : List (List Kind)}
    (h : List.Forall₂ (Argument lexer follows stack) texts kinds) {rest : Text}
    (hrest : follows rest) :
    Reads lexer stack (· = stack) (texts.flatMap (' ' :: ·)) rest (kinds.flatMap (.space :: ·))
      (· = stack) := by
  induction h with
  | nil => exact Reads.nil
  | @cons text kinds texts more hargument _ ih =>
    have hhead : ((text ++ texts.flatMap (' ' :: ·)) ++ rest).head?.any
        (fun c => !Text.isBlank c) = true :=
      Text.head?_append_any (Text.head?_append_any hargument.head _) rest
    have hconcludes := hargument.concludes _ (follows_append hfollows texts hrest)
    rw [habsorbs] at hconcludes
    rw [List.flatMap_cons, List.flatMap_cons]
    exact (reads_space_before hspace hhead).append ((hconcludes.reads List.prefix_rfl).append ih)

theorem reads_spaced_arguments (hspace : stack.top.context.skipsSpace = true)
    (habsorbs : stack.endArgument = stack) (hfollows : ∀ rest, follows (' ' :: rest))
    {texts : List Text} {kinds : List (List Kind)}
    (h : List.Forall₂ (Argument lexer follows stack) texts kinds) {rest : Text}
    (hrest : follows rest) :
    Reads lexer stack (· = stack) (spaced ' ' texts) rest (spaced .space kinds) (· = stack) := by
  cases h with
  | nil => exact Reads.nil
  | @cons text kinds texts more hargument htexts =>
    have hfirst := hargument.concludes _ (follows_append hfollows texts hrest)
    rw [habsorbs] at hfirst
    rw [spaced_cons, spaced_cons]
    exact (hfirst.reads List.prefix_rfl).append
      (reads_arguments hspace habsorbs hfollows htexts hrest)

end

structure Quotation where
  body : Text
  isPlain_body : body.all (fun c => c != '"' && c != '\\') = true

namespace Quotation

def text (quotation : Quotation) : Text := '"' :: (quotation.body ++ ['"'])

def kinds (quotation : Quotation) : List Kind :=
  [.stringQuotedStart] ++ ((if quotation.body = [] then [] else [.string]) ++ [.stringQuotedEnd])

end Quotation

namespace Lexer

variable {lexer : Lexer}

theorem first?_string_plain {c : Char} (hquote : c ≠ '"') (hescape : c ≠ '\\')
    (before : Option Char) (rest : Text) : lexer.first? .string ⟨before, c :: rest⟩ = none := by
  apply firstOf?_eq_none
  simp [Context.candidates, Kind.opens, Kind.recognizer?, Recognizer.symbol, Recognizer.plain,
    Pattern.opens, Pattern.word, Pattern.consumes, hquote.symm, hescape.symm]

theorem first?_string_quote (before : Option Char) (rest : Text) :
    lexer.first? .string ⟨before, ['"'] ++ rest⟩ = some (.stringQuotedEnd, 1) :=
  first?_of_ends (by decide) rfl rfl rfl (by decide) rfl rfl

theorem unclaimed_string {body : Text} (hbody : body.all (fun c => c != '"' && c != '\\') = true)
    (before : Option Char) (rest : Text) :
    lexer.unclaimed .string before (body ++ (['"'] ++ rest)) = body.length := by
  induction body generalizing before with
  | nil =>
    have hquote := lexer.first?_string_quote before rest
    rw [List.nil_append, List.singleton_append, unclaimed, ← List.singleton_append, hquote]
    rfl
  | cons c body ih =>
    obtain ⟨hc, hbody⟩ := Bool.and_eq_true_iff.mp hbody
    simp only [Bool.and_eq_true, bne_iff_ne] at hc
    rw [List.cons_append, unclaimed, first?_string_plain hc.1 hc.2, ih hbody]
    rfl

theorem next_string {body : Text} (hne : body ≠ [])
    (hbody : body.all (fun c => c != '"' && c != '\\') = true) (stack : Stack)
    (before : Option Char) (rest : Text) :
    lexer.next ⟨before, body ++ (['"'] ++ rest)⟩ (stack.enter (Frame.fresh .string)) =
      .emitted [] (stack.enter (Frame.fresh .string)) .string body.length := by
  obtain ⟨c, body, rfl⟩ := List.exists_cons_of_ne_nil hne
  obtain ⟨hc, hbody⟩ := Bool.and_eq_true_iff.mp hbody
  simp only [Bool.and_eq_true, bne_iff_ne] at hc
  have hfirst : lexer.first? (stack.enter (Frame.fresh .string)).top.context
      ⟨before, c :: (body ++ (['"'] ++ rest))⟩ = none :=
    first?_string_plain hc.1 hc.2 before _
  have hlength : lexer.unclaimed (stack.enter (Frame.fresh .string)).top.context (some c)
      (body ++ (['"'] ++ rest)) = body.length :=
    unclaimed_string hbody _ rest
  rw [List.cons_append, next_of_unclaimed hfirst rfl rfl, hlength]
  rfl

end Lexer

theorem concludes_quotation {lexer : Lexer} {stack : Stack}
    (hquote : ∀ before rest, lexer.first? stack.top.context ⟨before, ['"'] ++ rest⟩ =
      some (.stringQuotedStart, 1))
    (quotation : Quotation) (rest : Text) :
    Concludes lexer stack (· = stack) quotation.text rest quotation.kinds stack.endArgument := by
  have hopening : Reads lexer stack (· = stack) ['"'] ((quotation.body ++ ['"']) ++ rest)
      [.stringQuotedStart] (· = stack.enter (Frame.fresh .string)) :=
    Reads.claimed (fun before => hquote before _) rfl (stack.frames_prefix_enter _)
  have hbody : Reads lexer stack (· = stack.enter (Frame.fresh .string)) quotation.body
      (['"'] ++ rest) (if quotation.body = [] then [] else [.string])
      (· = stack.enter (Frame.fresh .string)) := by
    split
    · next hnil =>
      rw [hnil]
      exact Reads.nil
    · next hne =>
      apply Reads.token
      · rintro _ rfl before
        exact ⟨_, _, Lexer.next_string hne quotation.isPlain_body stack before rest, rfl⟩
      · rintro _ rfl
        exact stack.frames_prefix_enter _
  have hclosing : Concludes lexer stack (· = stack.enter (Frame.fresh .string)) ['"'] rest
      [.stringQuotedEnd] stack.endArgument :=
    Concludes.claimed (fun before => Lexer.first?_string_quote before rest) rfl
  exact hopening.concludes (hbody.concludes hclosing)

end ScoreLexer
