import ScoreLexer.Lexer.Expectation
import ScoreLexer.Proofs.Score.Reading

namespace ScoreLexer

def Kind.isProper (kind : Kind) : Bool := kind != .unparsed && !kind.isError

def Kind.pairsWith (opening closing : Kind) : Bool :=
  opening.matchTag?.isSome && opening.matchTag? == closing.matchTag? && opening.isMatchStart &&
    !closing.isMatchStart && closing.isMatchEnd

-- Nothing is wrong with the kinds, and whatever is open before them is what is open after them.
structure Paired (kinds : List Kind) : Prop where
  proper : ∀ kind ∈ kinds, kind.isProper = true
  neutral : ∀ pending more, balanced pending (kinds ++ more) = balanced pending more

namespace Paired

theorem nil : Paired [] := ⟨by simp, fun _ _ => rfl⟩

theorem append {former latter : List Kind} (hformer : Paired former) (hlatter : Paired latter) :
    Paired (former ++ latter) := by
  constructor
  · intro kind hkind
    rcases List.mem_append.mp hkind with hkind | hkind
    · exact hformer.proper kind hkind
    · exact hlatter.proper kind hkind
  · intro pending more
    rw [List.append_assoc, hformer.neutral, hlatter.neutral]

theorem single {kind : Kind} (hproper : kind.isProper = true) (htag : kind.matchTag? = none) :
    Paired [kind] := by
  constructor
  · simpa using hproper
  · intro pending more
    rw [List.singleton_append, balanced, htag]

theorem replicate {kind : Kind} (h : Paired [kind]) (count : Nat) :
    Paired (List.replicate count kind) := by
  induction count with
  | zero => exact nil
  | succ count ih => exact h.append ih

theorem between {opening closing : Kind} {kinds : List Kind}
    (hpair : opening.pairsWith closing = true) (hopening : opening.isProper = true)
    (hclosing : closing.isProper = true) (hkinds : Paired kinds) :
    Paired ([opening] ++ (kinds ++ [closing])) := by
  simp only [Kind.pairsWith, Bool.and_eq_true, Bool.not_eq_true', beq_iff_eq] at hpair
  obtain ⟨⟨⟨⟨hsome, htag⟩, hstart⟩, hno⟩, hend⟩ := hpair
  obtain ⟨tag, hopen⟩ := Option.isSome_iff_exists.mp hsome
  constructor
  · intro kind hkind
    simp only [List.mem_append, List.mem_singleton] at hkind
    rcases hkind with rfl | hkind | rfl
    · exact hopening
    · exact hkinds.proper kind hkind
    · exact hclosing
  · intro pending more
    rw [List.append_assoc, List.append_assoc, List.singleton_append, balanced, hopen]
    simp only [hstart, if_true]
    rw [hkinds.neutral, List.singleton_append, balanced, ← htag, hopen]
    simp [hno, hend]

theorem flatMap_space {pieces : List (List Kind)} (h : ∀ piece ∈ pieces, Paired piece) :
    Paired (pieces.flatMap (.space :: ·)) := by
  induction pieces with
  | nil => exact nil
  | cons piece pieces ih =>
    rw [List.flatMap_cons]
    have hspace : Paired [.space] := single rfl rfl
    exact (hspace.append (h piece List.mem_cons_self)).append
      (ih fun piece hpiece => h piece (List.mem_cons_of_mem _ hpiece))

theorem spaced {pieces : List (List Kind)} (h : ∀ piece ∈ pieces, Paired piece) :
    Paired (spaced .space pieces) := by
  cases pieces with
  | nil => exact nil
  | cons piece pieces =>
    rw [spaced_cons]
    exact (h piece List.mem_cons_self).append
      (flatMap_space fun piece hpiece => h piece (List.mem_cons_of_mem _ hpiece))

theorem enclosed {opening closing : Kind} {pieces : List (List Kind)}
    (hpair : opening.pairsWith closing = true) (hopening : opening.isProper = true)
    (hclosing : closing.isProper = true) (h : ∀ piece ∈ pieces, Paired piece) :
    Paired (enclosed .space [opening] pieces [closing]) := by
  rw [enclosed_eq, ← List.append_assoc (pieces.flatMap _)]
  have hspace : Paired [.space] := single rfl rfl
  exact between hpair hopening hclosing ((flatMap_space h).append hspace)

end Paired

theorem Pitch.paired_kinds (pitch : Pitch) : Paired pitch.kinds := by
  have hkind : Paired [pitch.kind] := by
    unfold kind
    split
    · exact .single rfl rfl
    · split <;> exact .single rfl rfl
  have hoctave : Paired (if pitch.octave = [] then [] else [.octave]) := by
    split
    · exact .nil
    · exact .single rfl rfl
  have hlength : Paired (pitch.length?.elim [] NoteLength.kinds) := by
    cases pitch.length? with
    | none => exact .nil
    | some length =>
      have hdots : Paired (List.replicate length.dots .dot) := .replicate (.single rfl rfl) _
      exact Paired.append (.single rfl rfl) hdots
  exact hkind.append (hoctave.append hlength)

namespace Item

mutual

theorem paired_kinds : ∀ item : Item, Paired item.kinds
  | .pitch tone => tone.paired_kinds
  | .chord pitches => by
      have hpitches : ∀ piece ∈ pitches.map Pitch.kinds, Paired piece := by
        intro piece hpiece
        obtain ⟨pitch, -, rfl⟩ := List.mem_map.mp hpiece
        exact pitch.paired_kinds
      rw [kinds, enclosed_eq]
      exact Paired.append (.single rfl rfl)
        ((Paired.flatMap_space hpitches).append (Paired.append (.single rfl rfl) (.single rfl rfl)))
  | .group bracket items => by
      rw [kinds]
      cases bracket <;> exact .enclosed rfl rfl rfl (paired_kindsOf items)

theorem paired_kindsOf : ∀ items : List Item, ∀ kinds ∈ kindsOf items, Paired kinds
  | [], _, h => by simp [kindsOf] at h
  | item :: items, kinds, h => by
      rw [kindsOf, List.mem_cons] at h
      rcases h with rfl | h
      · exact paired_kinds item
      · exact paired_kindsOf items kinds h

end

end Item

mutual

theorem Part.paired_kinds {context : Context} : ∀ part : Part context, Paired part.kinds
  | .group _ bracket items => (Item.group bracket items).paired_kinds
  | .block block _ parts => by
      have hbody : Paired (enclosed .space [.openBracket] parts.kindsOf [.closeBracket]) :=
        .enclosed rfl rfl rfl parts.paired_kindsOf
      have hkeyword : Paired [block.kind] := by
        cases block <;> exact .single rfl rfl
      rw [Part.kinds]
      exact .spaced (by simp [hkeyword, hbody])

theorem Parts.paired_kindsOf {context : Context} :
    ∀ parts : Parts context, ∀ kinds ∈ parts.kindsOf, Paired kinds
  | .nil, _, h => by simp [Parts.kindsOf] at h
  | .cons part parts, kinds, h => by
      rw [Parts.kindsOf, List.mem_cons] at h
      rcases h with rfl | h
      · exact part.paired_kinds
      · exact parts.paired_kindsOf kinds h

end

theorem lex_score (lexer : Lexer) (parts : Parts .toplevel) :
    (lexer.lex Stack.toplevel parts.text).final = Stack.toplevel ∧
      (lexer.lex Stack.toplevel parts.text).tokens.map Token.kind =
        spaced .space parts.kindsOf := by
  obtain ⟨emissions, last, hkinds, -, hlast, hrun⟩ :=
    reads_score lexer parts Stack.toplevel (lingers_self rfl) 0 none
  obtain ⟨gaveWay, hend⟩ := lexer.runFrom_nil_of_lingers hlast rfl
    (0 + parts.text.byteSize) (parts.text.getLast?.or none)
  rw [List.append_nil, hend] at hrun
  have hlex : lexer.lex Stack.toplevel parts.text = ⟨emissions, gaveWay, Stack.toplevel⟩ := by
    rw [Lexer.lex, Cursor.start, hrun, Run.precededBy, List.append_nil]
  rw [hlex]
  exact ⟨rfl, List.map_map.trans hkinds⟩

-- Well-formed scores are lexed back to the toplevel, without unparsed text, without errors and
-- with every delimiter closed by the one it belongs to.
theorem lex_score_balanced (lexicon : Lexicon) (parts : Parts .toplevel) :
    let run := lexicon.lexer.lex Stack.toplevel parts.text
    run.final = Stack.toplevel ∧
      (∀ token ∈ run.tokens, token.kind ≠ .unparsed ∧ token.kind.isError = false) ∧
      balanced [] (run.tokens.map Token.kind) = true := by
  intro run
  obtain ⟨hfinal, hkinds⟩ := lex_score lexicon.lexer parts
  have hpaired : Paired (run.tokens.map Token.kind) := by
    rw [hkinds]
    exact .spaced parts.paired_kindsOf
  refine ⟨hfinal, ?_, ?_⟩
  · intro token htoken
    have hproper := hpaired.proper token.kind (List.mem_map_of_mem htoken)
    simpa [Kind.isProper] using hproper
  · have hneutral := hpaired.neutral [] []
    rw [List.append_nil] at hneutral
    exact hneutral

end ScoreLexer
