import Mathlib.Data.List.Forall2
import ScoreLexer.Proofs.Score.Tokens
import ScoreLexer.Proofs.Stack.Signal

namespace ScoreLexer

namespace Bracket

theorem transition_opening (bracket : Bracket) (markupArity : String → UInt8) (stack : Stack) :
    bracket.openingKind.transition markupArity bracket.opening stack =
      stack.enter (Frame.fresh .music) := by
  cases bracket <;> rfl

theorem transition_closing (bracket : Bracket) (markupArity : String → UInt8) (stack : Stack)
    (frame : Frame) :
    bracket.closingKind.transition markupArity bracket.closing (stack.enter frame) =
      stack.endArgument := by
  cases bracket <;> rfl

end Bracket

namespace Block

theorem transition_kind (block : Block) (markupArity : String → UInt8) (stack : Stack) :
    block.kind.transition markupArity block.keyword stack =
      stack.enter (Frame.fresh block.waiting) := by
  cases block <;> rfl

theorem transition_openBracket (block : Block) (markupArity : String → UInt8) (stack : Stack) :
    Kind.openBracket.transition markupArity ['{'] (stack.enter (Frame.fresh block.waiting)) =
      stack.enter (Frame.fresh block.body) := by
  cases block <;> rfl

end Block

-- The text begins a part, and it is read as the kinds wherever the part may end. The stack stays in
-- place all the while, and a duration may linger on it before and after.
structure Passage (lexer : Lexer) (settled : Stack) (text : Text) (kinds : List Kind) : Prop where
  head : text.head?.any endsDuration = true
  reads : ∀ rest, PartEnds rest →
    Reads lexer settled (Lingers settled) text rest kinds (Lingers settled)

section

variable {lexer : Lexer} {settled : Stack}

theorem reads_space (hspace : settled.top.context.skipsSpace = true) {rest : Text}
    (hrest : rest.head?.any endsDuration = true) :
    Reads lexer settled (Lingers settled) [' '] rest [.space] (Lingers settled) := by
  have hblank : ∀ c ∈ rest.head?, Text.isBlank c = false := by
    intro c hc
    rw [Option.mem_def.mp hc] at hrest
    simp only [Option.any_some, endsDuration, Bool.and_eq_true, Bool.not_eq_true'] at hrest
    exact hrest.1
  apply Reads.token
  · intro stack hstack before
    have hcontext : stack.top.context.skipsSpace = true := by
      rcases hstack with rfl | rfl
      · exact hspace
      · rfl
    exact ⟨[], stack, Lexer.next_of_claimed (Lexer.first?_space hcontext hblank before), hstack⟩
  · exact fun _ => Lingers.frames_prefix

theorem reads_pieces (hspace : settled.top.context.skipsSpace = true) {texts : List Text}
    {kinds : List (List Kind)} (h : List.Forall₂ (Passage lexer settled) texts kinds) {rest : Text}
    (hrest : PartEnds rest) :
    Reads lexer settled (Lingers settled) (texts.flatMap (' ' :: ·)) rest
      (kinds.flatMap (.space :: ·)) (Lingers settled) := by
  induction h with
  | nil => exact Reads.nil
  | @cons text kinds texts more hpassage htexts ih =>
    have hhead : ((text ++ texts.flatMap (' ' :: ·)) ++ rest).head?.any endsDuration = true :=
      Text.head?_append_any (Text.head?_append_any hpassage.head _) rest
    rw [List.flatMap_cons, List.flatMap_cons]
    exact (reads_space hspace hhead).append
      ((hpassage.reads _ (partEnds_append _ hrest)).append ih)

theorem reads_body (hspace : settled.top.context.skipsSpace = true) {texts : List Text}
    {kinds : List (List Kind)} (h : List.Forall₂ (Passage lexer settled) texts kinds) {rest : Text}
    (hrest : rest.head?.any endsDuration = true) :
    Reads lexer settled (· = settled) (texts.flatMap (' ' :: ·) ++ [' ']) rest
      (kinds.flatMap (.space :: ·) ++ [.space]) (Lingers settled) :=
  ((reads_pieces hspace h (.inr ⟨_, rfl⟩)).append (reads_space hspace hrest)).weaken
    (fun _ => lingers_self) (fun _ h => h)

theorem reads_enclosed {start finish : Stack → Prop} {base inner : Stack}
    (hspace : inner.top.context.skipsSpace = true) (hbase : base.frames <+: inner.frames)
    {opening closing : Text} {openingKind closingKind : Kind} {texts : List Text}
    {kinds : List (List Kind)} {rest : Text}
    (hopening : ∀ rest, PartEnds rest →
      Reads lexer base start opening rest [openingKind] (· = inner))
    (hparts : List.Forall₂ (Passage lexer inner) texts kinds)
    (hhead : closing.head?.any endsDuration = true)
    (hclosing : Reads lexer base (Lingers inner) closing rest [closingKind] finish) :
    Reads lexer base start (enclosed ' ' opening texts closing) rest
      (enclosed .space [openingKind] kinds [closingKind]) finish := by
  have hbody := (reads_body hspace hparts (Text.head?_append_any hhead rest)).lower hbase
  have hends : PartEnds
      (((texts.flatMap (' ' :: ·) ++ [' ']) ++ closing) ++ rest) := by
    rw [List.append_assoc, List.append_assoc]
    exact partEnds_append _ (.inr ⟨_, rfl⟩)
  rw [enclosed_eq, enclosed_eq, ← List.append_assoc (texts.flatMap _),
    ← List.append_assoc (kinds.flatMap _)]
  exact (hopening _ hends).append (hbody.append hclosing)

theorem head?_letters (pitch : Pitch) : pitch.letters.head?.any endsDuration = true := by
  have hletters : Text.alphabet.all endsDuration = true := rfl
  obtain ⟨c, more, hcons⟩ := List.exists_cons_of_ne_nil pitch.letters_ne_nil
  have hc : c ∈ pitch.letters := hcons ▸ List.mem_cons_self
  rw [hcons]
  have hmem := Text.mem_alphabet (List.all_eq_true.mp pitch.isLower_letters c hc)
  exact List.all_eq_true.mp hletters c hmem

theorem head?_length? (length? : Option NoteLength) {rest : Text} (hrest : PartEnds rest) {c : Char}
    (hc : c ∈ (length?.elim [] NoteLength.text ++ rest).head?) :
    isOctaveMark c = false ∧ Text.isAsciiLetter c = false := by
  cases length? with
  | none =>
    obtain rfl | ⟨more, rfl⟩ := hrest
    · simp at hc
    · obtain rfl : ' ' = c := Option.some.inj hc
      decide
  | some length =>
    have hnumbers : ∀ number ∈ lengthNumbers,
        number.head?.any (fun c => !isOctaveMark c && !Text.isAsciiLetter c) = true := by decide
    have hhead : (length.text ++ rest).head?.any
        (fun c => !isOctaveMark c && !Text.isAsciiLetter c) = true := by
      rw [NoteLength.text, List.append_assoc]
      exact Text.head?_append_any (hnumbers length.number length.number_mem) _
    have hsome : (length.text ++ rest).head? = some c := hc
    rw [hsome] at hhead
    simpa using hhead

theorem allows_after_letters (pitch : Pitch) {rest : Text} (hrest : PartEnds rest) :
    Guard.notLetter.allows
      ((pitch.octave ++ pitch.length?.elim [] NoteLength.text) ++ rest).head? = true := by
  have hmarks := List.all_eq_true.mp pitch.isOctaveMark_octave
  cases hoctave : pitch.octave with
  | nil =>
    rw [List.nil_append]
    cases hhead : (pitch.length?.elim [] NoteLength.text ++ rest).head? with
    | none => rfl
    | some c =>
      obtain ⟨-, hletter⟩ := head?_length? pitch.length? hrest hhead
      simp [Guard.allows, hletter]
  | cons c octave =>
    have hc : c = '\'' ∨ c = ',' := by
      simpa [isOctaveMark] using hmarks c (hoctave ▸ List.mem_cons_self)
    rcases hc with rfl | rfl <;> rfl

theorem reads_dots (dots : Nat) (rest : Text) :
    Reads lexer settled (· = settled.enter (Frame.fresh .duration)) (List.replicate dots '.') rest
      (List.replicate dots .dot) (· = settled.enter (Frame.fresh .duration)) := by
  induction dots with
  | zero => exact Reads.nil
  | succ dots ih =>
    have hdot : Reads lexer settled (· = settled.enter (Frame.fresh .duration)) ['.']
        (List.replicate dots '.' ++ rest) [.dot] (· = settled.enter (Frame.fresh .duration)) :=
      Reads.claimed (fun before => Lexer.first?_dot before _) rfl (settled.frames_prefix_enter _)
    exact hdot.append ih

theorem reads_length? (hcontext : settled.top.context.holdsPitches = true)
    (length? : Option NoteLength) {rest : Text} (hrest : PartEnds rest) :
    Reads lexer settled (· = settled) (length?.elim [] NoteLength.text) rest
      (length?.elim [] NoteLength.kinds) (Lingers settled) := by
  cases length? with
  | none => exact Reads.nil.weaken (fun _ h => h) (fun _ => lingers_self)
  | some length =>
    have hends : PartEnds (List.replicate length.dots '.' ++ rest) ∨
        ∃ more, List.replicate length.dots '.' ++ rest = '.' :: more := by
      cases length.dots with
      | zero => exact .inl hrest
      | succ dots => exact .inr ⟨_, rfl⟩
    have hnumber : Reads lexer settled (· = settled) length.number
        (List.replicate length.dots '.' ++ rest) [.duration]
        (· = settled.enter (Frame.fresh .duration)) :=
      Reads.claimed (Lexer.first?_number hcontext length.number_mem hends) rfl
        (settled.frames_prefix_enter _)
    exact (hnumber.append (reads_dots length.dots rest)).weaken (fun _ h => h) (fun _ h => .inr h)

theorem reads_octave (hcontext : settled.top.context.holdsPitches = true) {octave : Text}
    (hoctave : octave.all isOctaveMark = true) {rest : Text}
    (hrest : ∀ c ∈ rest.head?, isOctaveMark c = false) :
    Reads lexer settled (· = settled) octave rest (if octave = [] then [] else [.octave])
      (· = settled) := by
  split
  · next hnil =>
    rw [hnil]
    exact Reads.nil
  · next hne =>
    exact Reads.claimed (Lexer.first?_octave hcontext hoctave hne hrest) rfl List.prefix_rfl

theorem passage_pitch (hcontext : settled.top.context.holdsPitches = true) (pitch : Pitch) :
    Passage lexer settled pitch.text pitch.kinds := by
  refine ⟨Text.head?_append_any (head?_letters pitch) _, ?_⟩
  intro rest hrest
  have hstays : pitch.kind.transition lexer.markupArity pitch.letters settled = settled := by
    unfold Pitch.kind
    split
    · rfl
    · split <;> rfl
  have hletters : Reads lexer settled (Lingers settled) pitch.letters
      ((pitch.octave ++ pitch.length?.elim [] NoteLength.text) ++ rest) [pitch.kind]
      (· = settled) :=
    Reads.settling (head?_letters pitch)
      (Lexer.first?_letters pitch hcontext (allows_after_letters pitch hrest)) hstays
      List.prefix_rfl
  have hoctave : Reads lexer settled (· = settled) pitch.octave
      (pitch.length?.elim [] NoteLength.text ++ rest)
      (if pitch.octave = [] then [] else [.octave]) (· = settled) :=
    reads_octave hcontext pitch.isOctaveMark_octave
      (fun c hc => (head?_length? pitch.length? hrest hc).1)
  exact hletters.append (hoctave.append (reads_length? hcontext pitch.length? hrest))

theorem passage_chord (hitems : settled.top.context.holdsItems = true) (pitches : List Pitch) :
    Passage lexer settled (Item.chord pitches).text (Item.chord pitches).kinds := by
  refine ⟨by rw [Item.text, enclosed_eq]; rfl, ?_⟩
  intro rest hrest
  have hopening : ∀ rest, PartEnds rest → Reads lexer settled (Lingers settled) ['<'] rest
      [.chordStart] (· = settled.enter (Frame.fresh .chord)) := fun rest hrest =>
    Reads.settling rfl (Lexer.first?_chordStart hitems hrest) rfl (settled.frames_prefix_enter _)
  have hpitches : List.Forall₂ (Passage lexer (settled.enter (Frame.fresh .chord)))
      (pitches.map Pitch.text) (pitches.map Pitch.kinds) := by
    rw [List.forall₂_map_left_iff, List.forall₂_map_right_iff, List.forall₂_same]
    exact fun pitch _ => passage_pitch rfl pitch
  have hclosing : Reads lexer settled (Lingers (settled.enter (Frame.fresh .chord))) ['>'] rest
      [.chordEnd] (· = settled) :=
    Reads.settling rfl (Lexer.first?_chordEnd hrest) rfl List.prefix_rfl
  exact (reads_enclosed rfl (settled.frames_prefix_enter _) hopening hpitches rfl hclosing).weaken
    (fun _ h => h) (fun _ => lingers_self)

theorem passage_group
    (hcontext : settled.top.context.holdsGroups = true ∨ settled.top.context.holdsItems = true)
    (hpending : settled.top.pending = 0) (bracket : Bracket) {items : List Item}
    (hitems : List.Forall₂ (Passage lexer (settled.enter (Frame.fresh .music)))
      (Item.texts items) (Item.kindsOf items)) :
    Passage lexer settled (Item.group bracket items).text (Item.group bracket items).kinds := by
  refine ⟨by rw [Item.text, enclosed_eq]; cases bracket <;> rfl, ?_⟩
  intro rest hrest
  have hopening : ∀ rest, PartEnds rest → Reads lexer settled (Lingers settled) bracket.opening rest
      [bracket.openingKind] (· = settled.enter (Frame.fresh .music)) := by
    intro rest _
    exact Reads.settling (by cases bracket <;> rfl)
      (fun before => Lexer.first?_opening hcontext bracket before rest)
      (bracket.transition_opening _ _) (settled.frames_prefix_enter _)
  have hclosing : Reads lexer settled (Lingers (settled.enter (Frame.fresh .music)))
      bracket.closing rest [bracket.closingKind] (· = settled) := by
    apply Reads.settling (by cases bracket <;> rfl)
    · exact fun before => Lexer.first?_closing bracket before rest
    · rw [bracket.transition_closing, Stack.endArgument_eq_self hpending]
    · exact List.prefix_rfl
  exact (reads_enclosed rfl (settled.frames_prefix_enter _) hopening hitems
    (by cases bracket <;> rfl) hclosing).weaken (fun _ h => h) (fun _ => lingers_self)

-- A block: its keyword waits for the brace, which puts the body in its place.
theorem passage_block {block : Block} (hblock : block ∈ settled.top.context.blocks)
    (hpending : settled.top.pending = 0) {texts : List Text} {kinds : List (List Kind)}
    (hparts : List.Forall₂ (Passage lexer (settled.enter (Frame.fresh block.body))) texts kinds) :
    Passage lexer settled (spaced ' ' [block.keyword, enclosed ' ' ['{'] texts ['}']])
      (spaced .space [[block.kind], enclosed .space [.openBracket] kinds [.closeBracket]]) := by
  constructor
  · rw [spaced_cons]
    cases block <;> rfl
  intro rest hrest
  have hkeyword : ∀ rest, PartEnds rest → Reads lexer settled (Lingers settled) block.keyword rest
      [block.kind] (· = settled.enter (Frame.fresh block.waiting)) := fun rest hrest =>
    Reads.settling (by cases block <;> rfl) (Lexer.first?_keyword hblock hrest)
      (block.transition_kind _ _) (settled.frames_prefix_enter _)
  have hopening : ∀ rest, PartEnds rest →
      Reads lexer settled (Lingers (settled.enter (Frame.fresh block.waiting))) ['{'] rest
        [.openBracket] (· = settled.enter (Frame.fresh block.body)) := fun rest _ =>
    Reads.settling rfl (fun before => Lexer.first?_openBracket block before rest)
      (block.transition_openBracket _ _) (settled.frames_prefix_enter _)
  have hclosing : Reads lexer settled (Lingers (settled.enter (Frame.fresh block.body))) ['}'] rest
      [.closeBracket] (· = settled) :=
    Reads.settling rfl (fun before => Lexer.first?_closeBracket block before rest)
      (Stack.endArgument_eq_self hpending) List.prefix_rfl
  have hbody := reads_enclosed (by cases block <;> rfl) (settled.frames_prefix_enter _) hopening
    hparts rfl hclosing
  have hspace : Reads lexer (settled.enter (Frame.fresh block.waiting))
      (Lingers (settled.enter (Frame.fresh block.waiting))) [' ']
      (enclosed ' ' ['{'] texts ['}'] ++ rest) [.space]
      (Lingers (settled.enter (Frame.fresh block.waiting))) := by
    apply reads_space
    · cases block <;> rfl
    · rw [enclosed_eq]
      rfl
  rw [spaced_cons, spaced_cons]
  simp only [List.flatMap_cons, List.flatMap_nil, List.append_nil]
  exact ((hkeyword _ (.inr ⟨_, rfl⟩)).append
    (((hspace.lower (settled.frames_prefix_enter _)).append hbody).weaken (fun _ => lingers_self)
      (fun _ h => h))).weaken (fun _ h => h) (fun _ => lingers_self)

end

mutual

theorem passage_item {lexer : Lexer} {settled : Stack}
    (hitems : settled.top.context.holdsItems = true) (hpending : settled.top.pending = 0) :
    ∀ item : Item, Passage lexer settled item.text item.kinds
  | .pitch pitch => passage_pitch (Context.holdsPitches_of_holdsItems hitems) pitch
  | .chord pitches => passage_chord hitems pitches
  | .group bracket items =>
      passage_group (.inr hitems) hpending bracket (passage_items rfl rfl items)

theorem passage_items {lexer : Lexer} {settled : Stack}
    (hitems : settled.top.context.holdsItems = true) (hpending : settled.top.pending = 0) :
    ∀ items : List Item,
      List.Forall₂ (Passage lexer settled) (Item.texts items) (Item.kindsOf items)
  | [] => .nil
  | item :: items => .cons (passage_item hitems hpending item) (passage_items hitems hpending items)

end

mutual

theorem passage_part (lexer : Lexer) {context : Context} (settled : Stack)
    (hcontext : settled.top.context = context) (hpending : settled.top.pending = 0) :
    ∀ part : Part context, Passage lexer settled part.text part.kinds
  | .group hgroups bracket items =>
      passage_group (.inl (hcontext ▸ hgroups)) hpending bracket (passage_items rfl rfl items)
  | .block block hblock parts =>
      passage_block (hcontext ▸ hblock) hpending
        (passage_parts lexer (settled.enter (Frame.fresh block.body)) rfl (by cases block <;> rfl)
          parts)

theorem passage_parts (lexer : Lexer) {context : Context} (settled : Stack)
    (hcontext : settled.top.context = context) (hpending : settled.top.pending = 0) :
    ∀ parts : Parts context,
      List.Forall₂ (Passage lexer settled) parts.texts parts.kindsOf
  | .nil => .nil
  | .cons part parts =>
      .cons (passage_part lexer settled hcontext hpending part)
        (passage_parts lexer settled hcontext hpending parts)

end

theorem reads_score (lexer : Lexer) (parts : Parts .toplevel) :
    Reads lexer .toplevel (Lingers .toplevel) parts.text [] (spaced .space parts.kindsOf)
      (Lingers .toplevel) := by
  unfold Parts.text
  cases parts with
  | nil => exact Reads.nil
  | cons part parts =>
    have hpart := passage_part lexer .toplevel rfl rfl part
    have hparts := passage_parts lexer .toplevel rfl rfl parts
    rw [Parts.texts, Parts.kindsOf, spaced_cons, spaced_cons]
    exact (hpart.reads _ (partEnds_append _ (.inl rfl))).append (reads_pieces rfl hparts (.inl rfl))

end ScoreLexer
