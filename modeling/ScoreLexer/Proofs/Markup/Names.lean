import ScoreLexer.Proofs.Lexer.Priority
import ScoreLexer.Proofs.Markup.Tokens

namespace ScoreLexer

namespace Text

-- The longest name of a markup command at a letter. A hyphen belongs to the name where a letter
-- follows it.
def markupName : Text → Text
  | [] => []
  | c :: rest =>
      if isAsciiLetter c || c == '-' && rest.head?.any isAsciiLetter then c :: markupName rest
      else []

theorem markupName_prefix (text : Text) : markupName text <+: text := by
  induction text with
  | nil => exact List.nil_prefix
  | cons c rest ih =>
    rw [markupName]
    split
    · exact List.cons_prefix_cons.mpr ⟨rfl, ih⟩
    · exact List.nil_prefix

-- What one token takes of a name. The command for scores is tried first and ends at the edge of a
-- word, and a hyphen is such an edge.
def takenName (name : Text) : Text :=
  if "score-".toList <+: name then "score".toList else name

theorem takenName_prefix (text : Text) : text.markupName.takenName <+: text := by
  refine List.IsPrefix.trans ?_ text.markupName_prefix
  rw [takenName]
  split
  · next h => exact List.IsPrefix.trans ⟨['-'], rfl⟩ h
  · exact List.prefix_rfl

theorem markupName_append {group : Text} (h : group.all isAsciiLetter = true) (rest : Text) :
    markupName (group ++ rest) = group ++ markupName rest := by
  induction group with
  | nil => rfl
  | cons c group ih =>
    obtain ⟨hc, hgroup⟩ := Bool.and_eq_true_iff.mp h
    rw [List.cons_append, markupName, hc, Bool.true_or, if_pos rfl, ih hgroup, List.cons_append]

theorem markupName_hyphen {rest : Text} (h : rest.head?.any isAsciiLetter = true) :
    markupName ('-' :: rest) = '-' :: markupName rest := by
  rw [markupName, h]
  rfl

theorem markupName_of_nameEnds {rest : Text} (h : NameEnds rest) : markupName rest = [] := by
  cases rest with
  | nil => rfl
  | cons c rest =>
    have hhyphen : (c == '-' && rest.head?.any isAsciiLetter) = false := by
      cases hc : c == '-' with
      | false => rfl
      | true =>
        rw [eq_of_beq hc] at h
        cases hnext : rest.head? with
        | none => rfl
        | some d => exact h.hyphen rest rfl d hnext
    rw [markupName, h.letter c rfl, hhyphen]
    rfl

end Text

section Groups

variable {first rest : Text} {more : List Text}

theorem Text.markupName_spaced (h : ∀ group ∈ first :: more, IsName group)
    (hrest : NameEnds rest) :
    markupName (spaced '-' (first :: more) ++ rest) = spaced '-' (first :: more) := by
  induction more generalizing first with
  | nil =>
    rw [spaced_cons, List.flatMap_nil, List.append_nil,
      markupName_append (h first List.mem_cons_self).2, markupName_of_nameEnds hrest,
      List.append_nil]
  | cons group more ih =>
    have hgroups : ∀ other ∈ group :: more, IsName other :=
      fun other hother => h other (List.mem_cons_of_mem first hother)
    have hletter : (spaced '-' (group :: more) ++ rest).head?.any isAsciiLetter = true := by
      obtain ⟨c, tail, htext, hc⟩ := (longestName_first hgroups hrest).exists_letter
      rw [spaced_cons, List.append_assoc, htext]
      exact hc
    have hspaced : spaced '-' (first :: group :: more) =
        first ++ '-' :: spaced '-' (group :: more) := by
      rw [spaced_cons, List.flatMap_cons, spaced_cons, List.cons_append]
    rw [hspaced, List.append_assoc, List.cons_append,
      markupName_append (h first List.mem_cons_self).2, markupName_hyphen hletter, ih hgroups]

theorem score_hyphen_prefix_iff (h : ∀ group ∈ first :: more, IsName group) :
    "score-".toList <+: spaced '-' (first :: more) ↔ first = "score".toList ∧ more ≠ [] := by
  have hname : LongestName first (more.flatMap ('-' :: ·) ++ []) :=
    longestName_first h ⟨by simp, by simp⟩
  rw [List.append_nil] at hname
  rw [spaced_cons]
  constructor
  · rintro ⟨tail, htail⟩
    have hsplit : first ++ more.flatMap ('-' :: ·) = "score".toList ++ '-' :: tail := htail.symm
    have hmore : '-' :: tail = more.flatMap ('-' :: ·) := by
      refine hname.rest_eq (by decide) ?_ hsplit
      rintro c ⟨⟩
      rfl
    rw [← hmore] at hsplit
    refine ⟨List.append_cancel_right hsplit, ?_⟩
    rintro rfl
    simp at hmore
  · rintro ⟨rfl, hne⟩
    obtain ⟨group, more, rfl⟩ := List.exists_cons_of_ne_nil hne
    exact ⟨group ++ more.flatMap ('-' :: ·), rfl⟩

end Groups

theorem Text.exists_groups {text : Text} (h : text.head?.any isAsciiLetter = true) :
    ∃ first more rest, (∀ group ∈ first :: more, IsName group) ∧ NameEnds rest ∧
      text = spaced '-' (first :: more) ++ rest := by
  have hname := LongestName.takeWhile text h
  have htext := (List.takeWhile_append_dropWhile (p := isAsciiLetter) (l := text)).symm
  have hfirst : IsName (text.takeWhile isAsciiLetter) := ⟨hname.ne_nil, hname.isLetters⟩
  by_cases hends : NameEnds (text.dropWhile isAsciiLetter)
  · refine ⟨_, [], _, List.forall_mem_singleton.mpr hfirst, hends, ?_⟩
    rwa [spaced_cons, List.flatMap_nil, List.append_nil]
  · -- a hyphen and a letter come next, so another name follows the hyphen
    obtain ⟨tail, htail, hletter⟩ : ∃ tail, text.dropWhile isAsciiLetter = '-' :: tail ∧
        tail.head?.any isAsciiLetter = true := by
      by_contra hnone
      push Not at hnone
      refine hends ⟨hname.stops, fun tail htail c hc => ?_⟩
      simpa [Option.mem_def.mp hc] using hnone tail htail
    have hlt : tail.length < text.length := by
      rw [htext, htail, List.length_append, List.length_cons]
      omega
    obtain ⟨group, more, rest, hgroups, hrest, hmore⟩ := exists_groups hletter
    refine ⟨_, group :: more, rest, List.forall_mem_cons.mpr ⟨hfirst, hgroups⟩, hrest, ?_⟩
    rw [htail, hmore] at htext
    rw [spaced_cons, List.flatMap_cons]
    rw [spaced_cons] at htext
    simpa using htext
termination_by text.length

namespace Lexer

variable {lexer : Lexer}

theorem first?_markup_of_score {cursor : Cursor} {count : Nat}
    (h : lexer.match? .markupScore cursor = some count) :
    lexer.first? .markup cursor = some (.markupScore, count) :=
  firstOf?_of_match? (by decide) rfl h

theorem of_match?_markupScore {name rest : Text} (hname : LongestName name rest)
    {before : Option Char} {count : Nat}
    (h : lexer.match? .markupScore ⟨before, '\\' :: (name ++ rest)⟩ = some count) :
    name = "score".toList ∧ count = 6 := by
  by_cases hscore : name = "score".toList
  · have hkeeps : (Pattern.anyCommand ["score"]).KeepsNames .anything :=
      Pattern.keepsNames_anyCommand (by decide) _
    have hcount : count = name.length + 1 := Recognizer.match?_of_keepsNames hkeeps hname h
    exact ⟨hscore, by rw [hcount, hscore]; rfl⟩
  · rw [match?_markupScore_eq_none hname hscore] at h
    simp at h

theorem match?_markupScore_hyphen (before : Option Char) (rest : Text) :
    lexer.match? .markupScore ⟨before, "\\score".toList ++ ('-' :: rest)⟩ = some 6 :=
  (match?_eq rfl _).trans (Recognizer.match?_of_ends rfl (by decide) rfl rfl)

theorem first?_markup_groups {first rest : Text} {more : List Text}
    (h : ∀ group ∈ first :: more, IsName group) (hrest : NameEnds rest) (before : Option Char) :
    ∃ kind, lexer.first? .markup ⟨before, '\\' :: (spaced '-' (first :: more) ++ rest)⟩ =
      some (kind, (Text.takenName (spaced '-' (first :: more))).length + 1) := by
  have hname := longestName_first h hrest
  have htext : spaced '-' (first :: more) ++ rest = first ++ (more.flatMap ('-' :: ·) ++ rest) := by
    rw [spaced_cons, List.append_assoc]
  cases hscore : lexer.match? .markupScore
      ⟨before, '\\' :: (spaced '-' (first :: more) ++ rest)⟩ with
  | none =>
    have hwhole : ¬"score-".toList <+: spaced '-' (first :: more) := by
      intro hprefix
      obtain ⟨rfl, hne⟩ := (score_hyphen_prefix_iff h).mp hprefix
      obtain ⟨group, more, rfl⟩ := List.exists_cons_of_ne_nil hne
      have hmatch : lexer.match? .markupScore _ = some 6 :=
        match?_markupScore_hyphen before (group ++ more.flatMap ('-' :: ·) ++ rest)
      rw [htext] at hscore
      exact Option.some_ne_none 6 (hmatch.symm.trans hscore)
    rw [Text.takenName, if_neg hwhole]
    exact ⟨.markupCommand,
      first?_markup_of_command hscore (match?_markupCommand h hrest before)⟩
  | some count =>
    refine ⟨.markupScore, ?_⟩
    rw [first?_markup_of_score hscore]
    rw [htext] at hscore
    obtain ⟨rfl, rfl⟩ := of_match?_markupScore hname hscore
    rw [Text.takenName]
    split
    · rfl
    · next hwhole =>
      have hmore : more = [] := by
        by_contra hne
        exact hwhole ((score_hyphen_prefix_iff h).mpr ⟨rfl, hne⟩)
      rw [hmore]
      rfl

theorem first?_markup_name {back : Text} (h : back.head?.any Text.isAsciiLetter = true)
    (before : Option Char) : ∃ kind, lexer.first? .markup ⟨before, '\\' :: back⟩ =
      some (kind, back.markupName.takenName.length + 1) := by
  obtain ⟨first, more, rest, hgroups, hrest, rfl⟩ := Text.exists_groups h
  rw [Text.markupName_spaced hgroups hrest]
  exact first?_markup_groups hgroups hrest before

end Lexer

-- With markup on top a command is one token with all of its name: letters, and groups of letters
-- after hyphens. Only where the name of the command for scores goes on with a hyphen the token is
-- the command for scores.
theorem lex_markupName (lexicon : Lexicon) (front back : Text)
    (hback : back.head?.any Text.isAsciiLetter = true) :
    let taken := back.markupName.takenName
    (∀ stack : Stack, stack.top.context = .markup → ∃ kind,
      (lexicon.lexer.runFrom front.byteSize (Cursor.between front ('\\' :: back))
        stack).tokens.head? = some ⟨kind, '\\' :: taken, front.byteSize⟩) ∧
      ∀ start : Stack, ∀ emission ∈ (lexicon.lexer.lex start (front ++ '\\' :: back)).emissions,
        emission.token.position = front.byteSize → emission.stack.top.context = .markup →
          emission.token.text = '\\' :: taken := by
  intro taken
  have htaken : ('\\' :: back).take (taken.length + 1) = '\\' :: taken := by
    rw [List.take_succ_cons]
    exact congrArg ('\\' :: ·) (List.prefix_iff_eq_take.mp back.takenName_prefix).symm
  have hfirst : ∃ kind, lexicon.lexer.first? .markup (Cursor.between front ('\\' :: back)) =
      some (kind, taken.length + 1) := Lexer.first?_markup_name hback front.getLast?
  constructor
  · intro stack htop
    obtain ⟨kind, hfirst⟩ := hfirst
    rw [← htop] at hfirst
    rw [Lexer.runFrom_of_emitted (Lexer.next_of_claimed hfirst)]
    exact ⟨kind, congrArg some (congrArg (Token.mk kind · front.byteSize) htaken)⟩
  · intro start emission hemission hposition htop
    obtain ⟨kind, hfirst⟩ := hfirst
    rw [← htop] at hfirst
    rw [Lexer.token_of_first? hemission hposition hfirst]
    exact htaken

-- A hyphen that no letter follows is no part of the name.
theorem lex_markupName_with_color :
    let front : Text := "\\markup ".toList
    let back : Text := "with-color-1 a".toList
    let stack := Stack.toplevel.enter (Step.markupFrame 1)
    let run := Lexer.builtin.lex .toplevel (front ++ '\\' :: back)
    back.head?.any Text.isAsciiLetter = true ∧ stack.top.context = .markup ∧
      (∃ kind, (Lexer.builtin.runFrom front.byteSize (Cursor.between front ('\\' :: back))
        stack).tokens.head? = some ⟨kind, "\\with-color".toList, front.byteSize⟩) ∧
      ∃ emission ∈ run.emissions, emission.token.position = front.byteSize ∧
        emission.stack.top.context = .markup ∧ emission.token.text = "\\with-color".toList := by
  intro front back stack run
  obtain ⟨hhead, hrun⟩ := lex_markupName Lexicon.builtin front back rfl
  have hemission : ∃ emission ∈ run.emissions, emission.token.position = front.byteSize ∧
      emission.stack.top.context = .markup := by decide +kernel
  obtain ⟨emission, hmem, hposition, htop⟩ := hemission
  exact ⟨rfl, rfl, hhead stack rfl, emission, hmem, hposition, htop,
    hrun .toplevel emission hmem hposition htop⟩

-- The name score-lines is cut before its hyphen, although a letter follows there.
theorem lex_markup_score_lines :
    let back : Text := "score-lines x".toList
    let run := Lexer.builtin.lex .toplevel ("\\markup ".toList ++ '\\' :: back)
    back.markupName = "score-lines".toList ∧
      ∃ emission ∈ run.emissions, emission.token.position = Text.byteSize "\\markup ".toList ∧
        emission.stack.top.context = .markup ∧ emission.token.text = "\\score".toList := by
  decide +kernel

end ScoreLexer
