import ScoreLexer.Proofs.Settings.Arities

namespace ScoreLexer

theorem Kind.isError_iff (kind : Kind) :
    kind.isError = true ↔ kind = .error ∨ kind = .errorInChord := by
  cases kind <;> decide

namespace Document

-- Nothing in the document is an error, and nothing is left open at its end.
structure Clean (document : Document) : Prop where
  tokens : ∀ token ∈ document.tokens, token.kind ≠ .error ∧ token.kind ≠ .errorInChord
  final : document.final = .toplevel

-- What is to be said about the document of a file: one line for every error token, and one when
-- the document does not end at the toplevel.
def complaints (path : String) (document : Document) : List String :=
  let errors := document.records.filter fun record =>
    record.token.kind = .error ∨ record.token.kind = .errorInChord
  (errors.map fun record => (Problem.unexpected record).render path) ++
    if document.final = .toplevel then [] else [(Problem.unterminated document.final).render path]

theorem final_of_mem_lexLines {lexer : Lexer} {property : Stack → Prop}
    (h : lexer.Preserves property) {start : Stack} (hstart : property start) (texts : List Text) :
    ∀ line ∈ lexLines lexer start texts, property line.final := by
  induction texts generalizing start with
  | nil => simp [lexLines]
  | cons text texts ih =>
    have hfinal : property (Line.lex lexer start text).final := h.final_lex hstart text
    exact List.forall_mem_cons.mpr ⟨hfinal, ih hfinal⟩

theorem final_lex {lexer : Lexer} {property : Stack → Prop} (h : lexer.Preserves property)
    {initial : Stack} (hinitial : property initial) (text : Text) :
    property (lex lexer initial text).final := by
  have hlines := final_of_mem_lexLines h hinitial text.lines
  unfold Document.final
  split
  · next line hline => exact hlines line (List.mem_of_getLast? hline)
  · exact hinitial

end Document

-- Of the stacks that a session from the toplevel passes through, one alone has a single frame.
theorem Stack.Counted.depth_le_iff {stack : Stack} (h : stack.Counted) :
    stack.depth ≤ toplevel.depth ↔ stack = toplevel := by
  constructor
  · intro hdepth
    have hroot := h.root
    obtain ⟨root, above, hcanBeRoot⟩ := stack
    have habove : above = [] := by
      rw [← List.length_eq_zero_iff]
      simp only [Stack.depth, Stack.toplevel, List.length_nil] at hdepth
      omega
    simp only at hroot
    subst hroot habove
    rfl
  · rintro rfl
    exact Nat.le_refl _

theorem map_kind_recordsFrom (number offset : Nat) (lines : List Line) :
    (recordsFrom number lines).map (fun record => record.token.kind) =
      (Document.tokensFrom offset lines).map Token.kind := by
  induction lines generalizing number offset with
  | nil => rfl
  | cons line below ih =>
    rw [recordsFrom, Document.tokensFrom, List.map_append, List.map_append, ih, Line.records,
      List.map_map, List.map_map]
    rfl

namespace Document

theorem forall_records_iff (document : Document) (property : Kind → Prop) :
    (∀ record ∈ document.records, property record.token.kind) ↔
      ∀ token ∈ document.tokens, property token.kind := by
  have hkinds : document.records.map (fun record => record.token.kind) =
      document.tokens.map Token.kind := map_kind_recordsFrom 1 0 document.lines
  have hforall : (∀ kind ∈ document.records.map (fun record => record.token.kind), property kind) ↔
      ∀ kind ∈ document.tokens.map Token.kind, property kind := by rw [hkinds]
  simpa only [List.forall_mem_map] using hforall

section

variable {lexer : Lexer} (harity : ∀ command, lexer.markupArity command ≤ maxMarkupArity)
  (text : Text)

include harity

theorem isUnterminated_eq_false_iff :
    (lex lexer .toplevel text).isUnterminated = false ↔
      (lex lexer .toplevel text).final = .toplevel := by
  have hpreserves : lexer.Preserves Stack.Counted := Lexer.preserves_counted harity
  have hcounted := final_lex hpreserves Stack.counted_toplevel text
  rw [← hcounted.depth_le_iff, isUnterminated, decide_eq_false_iff_not, Nat.not_lt]
  rfl

theorem map_render_problems (path : String) :
    (lex lexer .toplevel text).problems.map (Problem.render path) =
      (lex lexer .toplevel text).complaints path := by
  have hfinal := isUnterminated_eq_false_iff harity text
  rw [problems, complaints, List.map_append, List.map_map]
  congr 1
  · simp only [← Kind.isError_iff, Bool.decide_eq_true]
    rfl
  · by_cases hunterminated : (lex lexer .toplevel text).isUnterminated = false
    · rw [if_neg (by simp [hunterminated]), if_pos (hfinal.mp hunterminated)]
      rfl
    · rw [if_pos (by simpa using hunterminated), if_neg (fun h => hunterminated (hfinal.mpr h))]
      rfl

theorem problems_eq_nil_iff :
    (lex lexer .toplevel text).problems = [] ↔ (lex lexer .toplevel text).Clean := by
  generalize hdocument : lex lexer .toplevel text = document
  have hfinal : document.isUnterminated = false ↔ document.final = .toplevel :=
    hdocument ▸ isUnterminated_eq_false_iff harity text
  have herrors : (document.records.filter fun record => record.token.kind.isError) = [] ↔
      ∀ token ∈ document.tokens, token.kind ≠ .error ∧ token.kind ≠ .errorInChord := by
    rw [List.filter_eq_nil_iff, document.forall_records_iff fun kind => ¬kind.isError = true]
    simp only [Kind.isError_iff, not_or, ne_eq]
  have hclean : document.Clean ↔ (∀ token ∈ document.tokens, token.kind ≠ .error ∧
      token.kind ≠ .errorInChord) ∧ document.final = .toplevel :=
    ⟨fun h => ⟨h.tokens, h.final⟩, fun h => ⟨h.1, h.2⟩⟩
  rw [problems, List.append_eq_nil_iff, List.map_eq_nil_iff, herrors, hclean, ← hfinal]
  simp

end

end Document

namespace Workshop

variable {workshop : Workshop} {lexer : Lexer} {content : String → Text}

theorem openDocument_eq_ok (hlexer : workshop.settings.lexer = .ok lexer) {path : String}
    (hfile : workshop.file path = .text (content path)) :
    workshop.openDocument path = .ok (lexer, Document.lex lexer .toplevel (content path)) := by
  rw [openDocument, hfile, hlexer]
  rfl

-- The loop over the files adds what there is to say about each, and remembers whether there was
-- anything.
theorem check_eq (hlexer : workshop.settings.lexer = .ok lexer) {paths : List String}
    (hfiles : ∀ path ∈ paths, workshop.file path = .text (content path)) (first clean : Bool)
    (transcript : Transcript) :
    let problems := fun path => (Document.lex lexer .toplevel (content path)).problems
    let completion := workshop.check first clean transcript paths
    completion.exit = (if clean ∧ ∀ path ∈ paths, problems path = [] then 0 else 1) ∧
      completion.output = transcript.output ++
        String.join (paths.flatMap fun path => (problems path).map (Problem.render path)) := by
  intro problems
  induction paths generalizing first clean transcript with
  | nil => simp [check, Transcript.finish]
  | cons path paths ih =>
    obtain ⟨hfile, hmore⟩ := List.forall_mem_cons.mp hfiles
    have hopen := openDocument_eq_ok hlexer hfile
    simp only [check, hopen]
    generalize hreported : transcript.report _ _ = reported
    have houtput : reported.output = transcript.output := by
      rw [← hreported]
      rfl
    obtain ⟨hexit, hprinted⟩ := ih hmore false (clean && (problems path).isEmpty)
      (reported.print (String.join ((problems path).map (Problem.render path))))
    refine ⟨hexit.trans ?_, hprinted.trans ?_⟩
    · simp only [Bool.and_eq_true, List.isEmpty_iff, List.forall_mem_cons, and_assoc]
    · rw [List.flatMap_cons, String.join_append, Transcript.print, houtput, String.append_assoc]

end Workshop

theorem Arguments.Side.foldlM_addValue_check (side : Side) (paths : List String) :
    paths.foldlM (fun (side : Side) path => side.addValue .check path) side =
      (.ok { side with values := side.values ++ paths } : Except Request Side) := by
  induction paths generalizing side with
  | nil => rw [List.append_nil]; rfl
  | cons path paths ih =>
    have hadded : side.addValue .check path = .ok { side with values := side.values ++ [path] } :=
      rfl
    rw [List.foldlM_cons, hadded]
    refine (ih _).trans ?_
    rw [List.append_assoc, List.singleton_append]

-- Any files can be checked: after a divider no path is taken for an option.
theorem Request.ofArguments_check {paths : List String} (h : paths ≠ []) :
    ofArguments ("check" :: "--" :: paths) = .run ⟨.check paths, none, false⟩ := by
  obtain ⟨path, more, rfl⟩ := List.exists_cons_of_ne_nil h
  have hread : Arguments.readTask .check none {} ("--" :: path :: more) =
      .ok { values := path :: more } := Arguments.Side.foldlM_addValue_check {} (path :: more)
  have hname : Arguments.Look.of "check" = .value "check" := by decide +kernel
  have htask : TaskName.ofName? "check" = some .check := by decide +kernel
  rw [ofArguments, Arguments.readFront.eq_5 {} "check" _ "check" (by decide) hname, htask]
  simp only [hread]
  rfl

-- Checking files that can be read: the exit code is zero exactly when every one of them is clean,
-- and otherwise one. What is written are the complaints, file by file.
theorem run_check {surroundings : Surroundings} {arguments paths : List String}
    {config : Option String} {verbose : Bool} {settings : Settings} {lexer : Lexer}
    {content : String → Text}
    (hrequest : Request.ofArguments arguments = .run ⟨.check paths, config, verbose⟩)
    (hsettings : Invocation.settings? surroundings.file ⟨.check paths, config, verbose⟩ =
      some settings)
    (hlexer : settings.lexer = .ok lexer)
    (hfiles : ∀ path ∈ paths, surroundings.file path = .text (content path)) :
    let completion := Command.run surroundings arguments
    let document := fun path => Document.lex lexer .toplevel (content path)
    (completion.exit = 0 ↔ ∀ path ∈ paths, (document path).Clean) ∧
      (completion.exit = 0 ∨ completion.exit = 1) ∧
      completion.output = String.join (paths.flatMap fun path => (document path).complaints path) := by
  intro completion document
  have harity := Settings.markupArity_le_of_lexer hlexer
  let workshop : Workshop :=
    { file := surroundings.file, settings,
      level := Invocation.logLevel surroundings.log ⟨.check paths, config, verbose⟩ }
  have hcompletion : completion = workshop.check true true {} paths := by
    simp only [completion, Command.run, hrequest, Invocation.run, hsettings]
    rfl
  have hlexer : workshop.settings.lexer = .ok lexer := hlexer
  have hchecked := Workshop.check_eq hlexer hfiles true true {}
  rw [← hcompletion] at hchecked
  have hexit : completion.exit = if ∀ path ∈ paths, (document path).problems = [] then 0 else 1 := by
    simpa only [true_and] using hchecked.1
  have hclean : (∀ path ∈ paths, (document path).problems = []) ↔
      ∀ path ∈ paths, (document path).Clean :=
    forall₂_congr fun path _ => Document.problems_eq_nil_iff harity (content path)
  have houtput : completion.output = String.join (paths.flatMap fun path =>
      (document path).problems.map (Problem.render path)) := by
    simpa only [String.empty_append] using hchecked.2
  have hcomplaints : (fun path => (document path).problems.map (Problem.render path)) =
      fun path => (document path).complaints path :=
    funext fun path => Document.map_render_problems harity (content path) path
  refine ⟨?_, ?_, hcomplaints ▸ houtput⟩
  · rw [hexit, ← hclean]
    split
    · next hall => exact iff_of_true rfl hall
    · next hsome => exact iff_of_false (by decide) hsome
  · rw [hexit]
    split <;> simp

-- Of two files the first names no book where one is due, and the second leaves a brace open.
theorem run_check_open_brace :
    let content := fun path => (if path = "a.ly" then "\\book é \x7b\x7d\n" else "c \x7b d").toList
    let surroundings : Surroundings :=
      { file := fun path =>
          if path = "a.ly" ∨ path = "b.ly" then .text (content path) else .missing,
        log := none }
    let completion := Command.run surroundings ["check", "--", "a.ly", "b.ly"]
    completion.exit = 1 ∧ completion.output =
      "a.ly:1:7: unexpected \"é\" (Error)\n" ++
        "b.ly: unterminated construct, input ends inside Toplevel > Music\n" := by
  intro content surroundings completion
  have hrequest := Request.ofArguments_check (List.cons_ne_nil "a.ly" ["b.ly"])
  have hsettings : Invocation.settings? surroundings.file ⟨.check ["a.ly", "b.ly"], none, false⟩ =
      some ⟨.text, [], []⟩ := by
    decide +kernel
  have hlexer : Settings.lexer ⟨.text, [], []⟩ = .ok Lexer.builtin := rfl
  have hfiles : ∀ path ∈ ["a.ly", "b.ly"], surroundings.file path = .text (content path) := by
    decide +kernel
  obtain ⟨hexit, hcode, houtput⟩ := run_check hrequest hsettings hlexer hfiles
  have hopen : (Document.lex .builtin .toplevel (content "b.ly")).final ≠ .toplevel := by
    decide +kernel
  have hdirty : completion.exit ≠ 0 := fun h => hopen (hexit.mp h "b.ly" (by simp)).final
  exact ⟨hcode.resolve_left hdirty, houtput.trans (by decide +kernel)⟩

end ScoreLexer
