import ScoreLexer.Proofs.Lexer.Reading
import ScoreLexer.Proofs.Pattern.Agreement
import ScoreLexer.Proofs.Pattern.Spelling

namespace ScoreLexer

open Pattern Recognizer

def Lexicon.HasWord (lexicon : Lexicon) (categories : List Category) (word : Text) : Prop :=
  word ≠ [] ∧ ∃ category ∈ categories, ∃ listed ∈ lexicon.words category, listed.toList = word

theorem Lexicon.mem_wordsOf_iff {lexicon : Lexicon} {categories : List Category} {word : Text} :
    word ∈ Vocabulary.wordsOf lexicon categories ↔ lexicon.HasWord categories word := by
  refine ⟨Vocabulary.exists_of_mem_wordsOf, ?_⟩
  rintro ⟨hne, category, hcategory, listed, hlisted, rfl⟩
  exact Vocabulary.mem_longestFirst.mpr ⟨List.mem_map_of_mem
    (List.mem_flatMap.mpr ⟨category, hcategory, hlisted⟩), hne⟩

-- No eligible word takes more bytes.
structure Longest (eligible : Text → Prop) (word : Text) : Prop where
  isEligible : eligible word
  byteSize_le : ∀ other, eligible other → other.byteSize ≤ word.byteSize

theorem Longest.congr {first second : Text → Prop} (h : ∀ word, first word ↔ second word)
    {word : Text} : Longest first word ↔ Longest second word := by
  rw [funext fun word => propext (h word)]

def EndsAtEdge (text word : Text) : Prop :=
  ∃ rest, text = word ++ rest ∧ (Cursor.between word rest).atWordEdge = true

-- The character before the place, if any, is no letter, number or underscore.
def StartsWord (front : Text) : Prop :=
  ∀ c ∈ front.getLast?, Text.isAlphanumeric c = false ∧ c ≠ '_'

theorem startsWord_iff {front : Text} (back : Text) :
    StartsWord front ↔ (Cursor.between front back).insideWord = false := by
  unfold StartsWord Cursor.between Cursor.insideWord
  cases front.getLast? <;> simp

theorem Text.byteSize_le_iff {first second text : Text} (hfirst : first <+: text)
    (hsecond : second <+: text) :
    first.byteSize ≤ second.byteSize ↔ first.length ≤ second.length := by
  rcases List.prefix_or_prefix_of_prefix hfirst hsecond with ⟨more, rfl⟩ | ⟨more, rfl⟩
  · rw [byteSize_append, List.length_append]
    omega
  · cases more with
    | nil => simp
    | cons c more =>
      have hpos := c.utf8Size_pos
      rw [byteSize_append, byteSize_cons, List.length_append, List.length_cons]
      omega

theorem Cursor.past?_eq_some_iff {word : Text} {cursor last : Cursor} :
    cursor.past? word = some last ↔
      ∃ rest, cursor.rest = word ++ rest ∧ last = ⟨word.getLast?.or cursor.before, rest⟩ := by
  obtain ⟨before, text⟩ := cursor
  constructor
  · intro h
    obtain rfl : text = word ++ last.rest := prefix_of_past? h
    rw [past?_append] at h
    exact ⟨last.rest, rfl, (Option.some.inj h).symm⟩
  · rintro ⟨rest, rfl, rfl⟩
    exact past?_append word rest before

-- The first success among words in descending order is the longest one, when only words that come
-- next can succeed.
theorem findSome?_eq_some_iff_longest {words : List Text} (h : Descending words)
    {goal : Text → Option Cursor} {text : Text}
    (hbegins : ∀ word, (goal word).isSome → word <+: text) {last : Cursor} :
    words.findSome? goal = some last ↔
      ∃ word, Longest (fun other => other ∈ words ∧ (goal other).isSome) word ∧
        goal word = some last := by
  have hunique : ∀ word other, (goal word).isSome → (goal other).isSome →
      word.length = other.length → word = other := by
    intro word other hword hother hlength
    have hle : word.length ≤ other.length := Nat.le_of_eq hlength
    exact (List.prefix_of_prefix_length_le (hbegins word hword) (hbegins other hother)
      hle).eq_of_length hlength
  rw [findSome?_eq_some_iff_of_descending h hunique]
  constructor
  · rintro ⟨word, hmem, hgoal, hlonger⟩
    have hword : (goal word).isSome := by rw [hgoal]; rfl
    refine ⟨word, ⟨⟨hmem, hword⟩, ?_⟩, hgoal⟩
    rintro other ⟨hother, hsome⟩
    rw [Text.byteSize_le_iff (hbegins other hsome) (hbegins word hword)]
    by_contra hlt
    rw [hlonger other hother (Nat.lt_of_not_le hlt)] at hsome
    simp at hsome
  · rintro ⟨word, ⟨⟨hmem, hword⟩, hlongest⟩, hgoal⟩
    refine ⟨word, hmem, hgoal, fun longer hlonger hlt => ?_⟩
    by_contra hne
    have hsome := Option.isSome_iff_ne_none.mpr hne
    have hle := hlongest longer ⟨hlonger, hsome⟩
    rw [Text.byteSize_le_iff (hbegins longer hsome) (hbegins word hword)] at hle
    omega

namespace Pattern

variable {list : List Text} {before : Option Char} {text rest : Text}

theorem head?_words_iff (h : Descending list) :
    ((words list).ends ⟨before, text⟩).head?.map Cursor.rest = some rest ↔
      ∃ word, text = word ++ rest ∧ Longest (fun other => other ∈ list ∧ other <+: text) word := by
  have hpast (word : Text) : (Cursor.past? word ⟨before, text⟩).isSome ↔ word <+: text := by
    rw [Option.isSome_iff_exists]
    simp only [Cursor.past?_eq_some_iff]
    constructor
    · rintro ⟨_, more, hmore, -⟩
      exact ⟨more, hmore.symm⟩
    · rintro ⟨more, hmore⟩
      exact ⟨_, more, hmore.symm, rfl⟩
  simp only [ends, List.head?_filterMap, Option.map_eq_some_iff,
    findSome?_eq_some_iff_longest h (fun word => (hpast word).mp), hpast, Cursor.past?_eq_some_iff]
  constructor
  · rintro ⟨_, ⟨word, hlongest, more, hsplit, rfl⟩, rfl⟩
    exact ⟨word, hsplit, hlongest⟩
  · rintro ⟨word, hsplit, hlongest⟩
    exact ⟨_, ⟨word, hlongest, rest, hsplit, rfl⟩, rfl⟩

def Behind (behind : Pattern) (before : Option Char) (text word rest : Text) : Prop :=
  ∃ more, text = word ++ more ∧
    (behind.ends ⟨word.getLast?.or before, more⟩).head?.map Cursor.rest = some rest

theorem head?_words_seq_iff (h : Descending list) (behind : Pattern) :
    ((seq (words list) behind).ends ⟨before, text⟩).head?.map Cursor.rest = some rest ↔
      ∃ word, behind.Behind before text word rest ∧
        Longest (fun other => other ∈ list ∧ ∃ rest, behind.Behind before text other rest)
          word := by
  set goal : Text → Option Cursor := fun word =>
    (Cursor.past? word ⟨before, text⟩).bind fun middle => (behind.ends middle).head? with hgoal
  have hends : ((seq (words list) behind).ends ⟨before, text⟩).head? = list.findSome? goal := by
    simp only [ends, List.head?_flatMap]
    rw [← List.head?_filterMap, List.filterMap_filterMap, List.head?_filterMap]
  have hbehind (word rest : Text) :
      (goal word).map Cursor.rest = some rest ↔ behind.Behind before text word rest := by
    simp only [hgoal, Behind, Option.map_eq_some_iff, Option.bind_eq_some_iff,
      Cursor.past?_eq_some_iff]
    constructor
    · rintro ⟨last, ⟨_, ⟨more, hsplit, rfl⟩, hlast⟩, hrest⟩
      exact ⟨more, hsplit, last, hlast, hrest⟩
    · rintro ⟨more, hsplit, last, hlast, hrest⟩
      exact ⟨last, ⟨_, ⟨more, hsplit, rfl⟩, hlast⟩, hrest⟩
  have hsome (word : Text) :
      (goal word).isSome ↔ ∃ rest, behind.Behind before text word rest := by
    rw [← Option.isSome_map (f := Cursor.rest), Option.isSome_iff_exists]
    exact exists_congr (hbehind word)
  have hbegins (word : Text) (hword : (goal word).isSome) : word <+: text := by
    obtain ⟨_, more, hsplit, -⟩ := (hsome word).mp hword
    exact ⟨more, hsplit.symm⟩
  simp only [hends, Option.map_eq_some_iff, findSome?_eq_some_iff_longest h hbegins, hsome,
    ← hbehind _ rest]
  constructor
  · rintro ⟨last, ⟨word, hlongest, hlast⟩, hrest⟩
    exact ⟨word, ⟨last, hlast, hrest⟩, hlongest⟩
  · rintro ⟨word, ⟨last, hlast, hrest⟩, hlongest⟩
    exact ⟨last, ⟨word, hlongest, hlast⟩, hrest⟩

theorem head?_words_edge_iff (h : Descending list) (hne : [] ∉ list) :
    ((seq (words list) edge).ends ⟨before, text⟩).head?.map Cursor.rest = some rest ↔
      ∃ word, text = word ++ rest ∧
        Longest (fun other => other ∈ list ∧ EndsAtEdge text other) word := by
  have hedge (word : Text) (hword : word ∈ list) (rest : Text) :
      edge.Behind before text word rest ↔
        text = word ++ rest ∧ (Cursor.between word rest).atWordEdge = true := by
    have hnonempty : word ≠ [] := fun hnil => hne (hnil ▸ hword)
    have hcursor (more : Text) :
        (⟨word.getLast?.or before, more⟩ : Cursor) = Cursor.between word more := by
      rw [Cursor.between, List.getLast?_eq_some_getLast hnonempty, Option.some_or]
    constructor
    · rintro ⟨more, hsplit, hmore⟩
      rw [hcursor, ends] at hmore
      split at hmore
      · next hat =>
        obtain rfl := Option.some.inj hmore
        exact ⟨hsplit, hat⟩
      · simp at hmore
    · rintro ⟨hsplit, hat⟩
      refine ⟨rest, hsplit, ?_⟩
      rw [hcursor, ends, if_pos hat]
      rfl
  have heligible (other : Text) : (other ∈ list ∧ ∃ rest, edge.Behind before text other rest) ↔
      other ∈ list ∧ EndsAtEdge text other :=
    and_congr_right fun hother => exists_congr (hedge other hother)
  simp only [head?_words_seq_iff h, Longest.congr heligible]
  refine exists_congr fun word => and_congr_left fun hlongest => ?_
  obtain ⟨hword, more, hsplit, hat⟩ := hlongest.isEligible
  rw [hedge word hword]
  refine ⟨And.left, fun hrest => ⟨hrest, ?_⟩⟩
  rwa [← List.append_cancel_left (hsplit.symm.trans hrest)]

theorem head?_words_quote_iff (h : Descending list) :
    ((seq (words list) (word "\"")).ends ⟨before, text⟩).head?.map Cursor.rest = some rest ↔
      ∃ found, text = found ++ '"' :: rest ∧
        Longest (fun other => other ∈ list ∧ other ++ ['"'] <+: text) found := by
  have hquote (found rest : Text) :
      (word "\"").Behind before text found rest ↔ text = found ++ '"' :: rest := by
    constructor
    · rintro ⟨more, hsplit, hmore⟩
      obtain ⟨last, hlast, rfl⟩ := Option.map_eq_some_iff.mp hmore
      obtain ⟨spelled, hspelled, hrest⟩ := exists_spells_of_mem_ends (List.mem_of_mem_head? hlast)
      obtain rfl := List.mem_singleton.mp hspelled
      rw [hsplit]
      exact congrArg (found ++ ·) hrest
    · intro hsplit
      exact ⟨'"' :: rest, hsplit, rfl⟩
  have heligible (other : Text) :
      (other ∈ list ∧ ∃ rest, (word "\"").Behind before text other rest) ↔
        other ∈ list ∧ other ++ ['"'] <+: text := by
    refine and_congr_right fun _ => exists_congr fun rest => ?_
    rw [hquote, List.append_assoc, List.singleton_append]
    exact eq_comm
  rw [head?_words_seq_iff h]
  refine exists_congr fun found => ?_
  rw [hquote, Longest.congr heligible]

theorem head?_mark_iff {mark : String} {c : Char} (hmark : mark.toList = [c]) (inner : Pattern) :
    ((seq (word mark) inner).ends ⟨before, text⟩).head?.map Cursor.rest = some rest ↔
      ∃ more, text = c :: more ∧
        (inner.ends ⟨some c, more⟩).head?.map Cursor.rest = some rest := by
  rw [word, hmark]
  cases text with
  | nil =>
    have hnone : (words [[c]]).ends ⟨before, []⟩ = [] := rfl
    rw [ends, hnone]
    simp
  | cons d text =>
    by_cases hc : c = d
    · subst hc
      have htaken : (words [[c]]).ends ⟨before, c :: text⟩ = [⟨some c, text⟩] := by
        simp [ends, Cursor.past?]
      rw [ends, htaken, List.flatMap_singleton]
      simp
    · have hnone : (words [[c]]).ends ⟨before, d :: text⟩ = [] := by
        simp [ends, Cursor.past?, hc]
      rw [ends, hnone]
      simp [Ne.symm hc]

end Pattern

namespace Lexer

variable {lexer : Lexer} {kind : Kind} {recognizer : Recognizer}

-- The bytes matched between two parts of a text are those before the preferred end of the pattern.
theorem matchAt?_eq_some_iff (h : kind.recognizer? lexer.vocabulary = some recognizer)
    {front back : Text} {size : Nat} :
    lexer.matchAt? kind (front ++ back) front.byteSize = some size ↔
      (recognizer.fromWordStart = true → StartsWord front) ∧
        ∃ rest, (recognizer.pattern.ends ⟨front.getLast?, back⟩).head?.map Cursor.rest =
            some rest ∧ recognizer.guard.allows rest.head? = true ∧
          0 < size ∧ size + rest.byteSize = back.byteSize := by
  have hback : (Cursor.between front back).rest = back := rfl
  rw [matchAt?_append, match?_eq h, startsWord_iff back]
  simp only [Option.map_eq_some_iff, Recognizer.match?_eq_some_iff, hback]
  constructor
  · rintro ⟨_, ⟨hstart, text, last, hlast, hsplit, hne, hguard, rfl⟩, rfl⟩
    rw [hsplit, List.take_left, ← hsplit]
    refine ⟨hstart, last.rest, ⟨last, hlast, rfl⟩, hguard, Text.byteSize_pos hne, ?_⟩
    rw [hsplit, Text.byteSize_append]
  · rintro ⟨hstart, _, ⟨last, hlast, rfl⟩, hguard, hpos, hsize⟩
    obtain ⟨text, -, hsplit⟩ := exists_spells_of_mem_ends (List.mem_of_mem_head? hlast)
    have hsplit : back = text ++ last.rest := hsplit
    have htext : text.byteSize = size := by
      rw [hsplit, Text.byteSize_append] at hsize
      omega
    have hne : text ≠ [] := by
      rintro rfl
      rw [Text.byteSize_nil] at htext
      omega
    refine ⟨text.length, ⟨hstart, text, last, hlast, hsplit, hne, hguard, rfl⟩, ?_⟩
    rw [hsplit, List.take_left, htext]

end Lexer

namespace Kind

def commandLists : List (Kind × List Category) :=
  [(.keyword, [.keywords]), (.command, [.musicCommands]),
   (.articulation, Vocabulary.scriptCategories)]

def bareWordLists : List (Kind × List Category) :=
  [(.contextName, [.contexts]), (.grobName, [.grobs]), (.contextProperty, [.contextProperties]),
   (.clefSpecifier, [.clefs]), (.paperVariable, [.paperVariables]),
   (.headerVariable, [.headerVariables]), (.layoutVariable, [.layoutVariables])]

end Kind

namespace Lexicon

theorem descending_wordsOf (lexicon : Lexicon) (categories : List Category) :
    Descending (Vocabulary.wordsOf lexicon categories) :=
  descending_longestFirst _

variable {lexicon : Lexicon} {categories : List Category} {text rest : Text}

theorem head?_wordsOf_iff {before : Option Char} :
    ((Pattern.words (Vocabulary.wordsOf lexicon categories)).ends
        ⟨before, text⟩).head?.map Cursor.rest = some rest ↔
      ∃ word, text = word ++ rest ∧
        Longest (fun other => lexicon.HasWord categories other ∧ other <+: text) word := by
  rw [Pattern.head?_words_iff (lexicon.descending_wordsOf _)]
  simp only [mem_wordsOf_iff]

theorem head?_wordsOf_edge_iff {before : Option Char} :
    ((seq (Pattern.words (Vocabulary.wordsOf lexicon categories)) edge).ends
        ⟨before, text⟩).head?.map Cursor.rest = some rest ↔
      ∃ word, text = word ++ rest ∧
        Longest (fun other => lexicon.HasWord categories other ∧ EndsAtEdge text other) word := by
  have hne : [] ∉ Vocabulary.wordsOf lexicon categories :=
    fun hmem => (mem_wordsOf_iff.mp hmem).1 rfl
  rw [Pattern.head?_words_edge_iff (lexicon.descending_wordsOf _) hne]
  simp only [mem_wordsOf_iff]

theorem head?_wordsOf_quote_iff {before : Option Char} :
    ((seq (Pattern.words (Vocabulary.wordsOf lexicon categories)) (Pattern.word "\"")).ends
        ⟨before, text⟩).head?.map Cursor.rest = some rest ↔
      ∃ found, text = found ++ '"' :: rest ∧
        Longest (fun other => lexicon.HasWord categories other ∧ other ++ ['"'] <+: text)
          found := by
  rw [Pattern.head?_words_quote_iff (lexicon.descending_wordsOf _)]
  simp only [mem_wordsOf_iff]

variable (lexicon) (front back : Text) (size : Nat)

theorem matchAt?_command {kind : Kind} (hkind : (kind, categories) ∈ Kind.commandLists) :
    lexicon.lexer.matchAt? kind (front ++ back) front.byteSize = some size ↔
      ∃ more, back = '\\' :: more ∧ ∃ word rest : Text, more = word ++ rest ∧
        Longest (fun other => lexicon.HasWord categories other ∧ other <+: more) word ∧
        (∀ c ∈ rest.head?, Text.isAsciiLetter c = false) ∧ size = 1 + word.byteSize := by
  have hrecognizer : kind.recognizer? lexicon.lexer.vocabulary =
      some (commands (Vocabulary.wordsOf lexicon categories)) := by
    simp only [Kind.commandLists, List.mem_cons, List.not_mem_nil, or_false, Prod.mk.injEq] at hkind
    rcases hkind with ⟨rfl, rfl⟩ | ⟨rfl, rfl⟩ | ⟨rfl, rfl⟩ <;> rfl
  have hmark : "\\".toList = ['\\'] := rfl
  have hbackslash : '\\'.utf8Size = 1 := rfl
  rw [Lexer.matchAt?_eq_some_iff hrecognizer]
  simp only [commands, Pattern.head?_mark_iff hmark, head?_wordsOf_iff,
    Guard.allows_notLetter_iff]
  constructor
  · rintro ⟨-, rest, ⟨more, rfl, word, hsplit, hlongest⟩, hletter, -, hsize⟩
    rw [Text.byteSize_cons, hsplit, Text.byteSize_append] at hsize
    exact ⟨more, rfl, word, rest, hsplit, hlongest, hletter, by omega⟩
  · rintro ⟨more, rfl, word, rest, hsplit, hlongest, hletter, rfl⟩
    refine ⟨by simp, rest, ⟨more, rfl, word, hsplit, hlongest⟩, hletter, by omega, ?_⟩
    rw [Text.byteSize_cons, hsplit, Text.byteSize_append]
    omega

theorem matchAt?_bareWord {kind : Kind} (hkind : (kind, categories) ∈ Kind.bareWordLists) :
    lexicon.lexer.matchAt? kind (front ++ back) front.byteSize = some size ↔
      StartsWord front ∧ ∃ word : Text,
        Longest (fun other => lexicon.HasWord categories other ∧ EndsAtEdge back other) word ∧
          size = word.byteSize := by
  have hrecognizer : kind.recognizer? lexicon.lexer.vocabulary =
      some (bareWords (Vocabulary.wordsOf lexicon categories)) := by
    simp only [Kind.bareWordLists, List.mem_cons, List.not_mem_nil, or_false,
      Prod.mk.injEq] at hkind
    rcases hkind with ⟨rfl, rfl⟩ | ⟨rfl, rfl⟩ | ⟨rfl, rfl⟩ | ⟨rfl, rfl⟩ | ⟨rfl, rfl⟩ | ⟨rfl, rfl⟩ |
      ⟨rfl, rfl⟩ <;> rfl
  rw [Lexer.matchAt?_eq_some_iff hrecognizer]
  simp only [bareWords, head?_wordsOf_edge_iff, true_implies]
  refine and_congr_right fun _ => ?_
  constructor
  · rintro ⟨rest, ⟨word, hsplit, hlongest⟩, -, -, hsize⟩
    rw [hsplit, Text.byteSize_append] at hsize
    exact ⟨word, hlongest, by omega⟩
  · rintro ⟨word, hlongest, rfl⟩
    obtain ⟨⟨hne, -⟩, rest, hsplit, -⟩ := hlongest.isEligible
    refine ⟨rest, ⟨word, hsplit, hlongest⟩, rfl, Text.byteSize_pos hne, ?_⟩
    rw [hsplit, Text.byteSize_append]

theorem matchAt?_backSlashedContextName :
    lexicon.lexer.matchAt? .backSlashedContextName (front ++ back) front.byteSize = some size ↔
      ∃ more, back = '\\' :: more ∧ ∃ word : Text,
        Longest (fun other => lexicon.HasWord [.contexts] other ∧ EndsAtEdge more other) word ∧
          size = 1 + word.byteSize := by
  have hrecognizer : Kind.backSlashedContextName.recognizer? lexicon.lexer.vocabulary =
      some (plain (seq (Pattern.word "\\")
        (seq (Pattern.words (Vocabulary.wordsOf lexicon [.contexts])) edge))) := rfl
  have hmark : "\\".toList = ['\\'] := rfl
  have hbackslash : '\\'.utf8Size = 1 := rfl
  rw [Lexer.matchAt?_eq_some_iff hrecognizer]
  simp only [plain, Pattern.head?_mark_iff hmark, head?_wordsOf_edge_iff]
  constructor
  · rintro ⟨-, rest, ⟨more, rfl, word, hsplit, hlongest⟩, -, -, hsize⟩
    rw [Text.byteSize_cons, hsplit, Text.byteSize_append] at hsize
    exact ⟨more, rfl, word, hlongest, by omega⟩
  · rintro ⟨more, rfl, word, hlongest, rfl⟩
    obtain ⟨-, rest, hsplit, -⟩ := hlongest.isEligible
    refine ⟨by simp, rest, ⟨more, rfl, word, hsplit, hlongest⟩, rfl, by omega, ?_⟩
    rw [Text.byteSize_cons, hsplit, Text.byteSize_append]
    omega

theorem matchAt?_repeatSpecifier :
    lexicon.lexer.matchAt? .repeatSpecifier (front ++ back) front.byteSize = some size ↔
      StartsWord front ∧ ∃ word rest : Text, back = word ++ rest ∧
        Longest (fun other => lexicon.HasWord [.repeatTypes] other ∧ other <+: back) word ∧
        (∀ c ∈ rest.head?, Text.isAsciiLetter c = false) ∧ size = word.byteSize := by
  have hrecognizer : Kind.repeatSpecifier.recognizer? lexicon.lexer.vocabulary =
      some { pattern := Pattern.words (Vocabulary.wordsOf lexicon [.repeatTypes])
             fromWordStart := true, guard := .notLetter } := rfl
  rw [Lexer.matchAt?_eq_some_iff hrecognizer]
  simp only [head?_wordsOf_iff, Guard.allows_notLetter_iff, true_implies]
  refine and_congr_right fun _ => ?_
  constructor
  · rintro ⟨rest, ⟨word, hsplit, hlongest⟩, hletter, -, hsize⟩
    rw [hsplit, Text.byteSize_append] at hsize
    exact ⟨word, rest, hsplit, hlongest, hletter, by omega⟩
  · rintro ⟨word, rest, hsplit, hlongest, hletter, rfl⟩
    refine ⟨rest, ⟨word, hsplit, hlongest⟩, hletter,
      Text.byteSize_pos hlongest.isEligible.1.1, ?_⟩
    rw [hsplit, Text.byteSize_append]

theorem matchAt?_repeatStringSpecifier :
    lexicon.lexer.matchAt? .repeatStringSpecifier (front ++ back) front.byteSize = some size ↔
      ∃ more, back = '"' :: more ∧ ∃ word : Text,
        Longest (fun other => lexicon.HasWord [.repeatTypes] other ∧ other ++ ['"'] <+: more)
          word ∧ size = 2 + word.byteSize := by
  have hrecognizer : Kind.repeatStringSpecifier.recognizer? lexicon.lexer.vocabulary =
      some (plain (seq (Pattern.word "\"")
        (seq (Pattern.words (Vocabulary.wordsOf lexicon [.repeatTypes]))
          (Pattern.word "\"")))) := rfl
  have hmark : "\"".toList = ['"'] := rfl
  have hquote : '"'.utf8Size = 1 := rfl
  rw [Lexer.matchAt?_eq_some_iff hrecognizer]
  simp only [plain, Pattern.head?_mark_iff hmark, head?_wordsOf_quote_iff]
  constructor
  · rintro ⟨-, rest, ⟨more, rfl, word, hsplit, hlongest⟩, -, -, hsize⟩
    rw [Text.byteSize_cons, hsplit, Text.byteSize_append, Text.byteSize_cons] at hsize
    exact ⟨more, rfl, word, hlongest, by omega⟩
  · rintro ⟨more, rfl, word, hlongest, rfl⟩
    obtain ⟨-, rest, hsplit⟩ := hlongest.isEligible
    rw [List.append_assoc, List.singleton_append] at hsplit
    refine ⟨by simp, rest, ⟨more, rfl, word, hsplit.symm, hlongest⟩, rfl, by omega, ?_⟩
    rw [Text.byteSize_cons, ← hsplit, Text.byteSize_append, Text.byteSize_cons]
    omega

end Lexicon

-- Words of a lexicon are recognised at a place by what comes there and not by how the lists are
-- ordered. After a backslash the longest word that comes next is the match, if no letter follows it.
-- A word by itself starts where no word is under way, and the longest one that ends at an edge is the
-- match. A kind of repeat starts likewise and must have no letter behind it, or stands between
-- quotation marks.
theorem matchAt?_eq_longest_word (lexicon : Lexicon) (front back : Text) (size : Nat) :
    let found (kind : Kind) := lexicon.lexer.matchAt? kind (front ++ back) front.byteSize
    (∀ kind categories, (kind, categories) ∈ Kind.commandLists →
      (found kind = some size ↔
        ∃ more, back = '\\' :: more ∧ ∃ word rest : Text, more = word ++ rest ∧
          Longest (fun other => lexicon.HasWord categories other ∧ other <+: more) word ∧
          (∀ c ∈ rest.head?, Text.isAsciiLetter c = false) ∧ size = 1 + word.byteSize)) ∧
      (∀ kind categories, (kind, categories) ∈ Kind.bareWordLists →
        (found kind = some size ↔
          StartsWord front ∧ ∃ word : Text,
            Longest (fun other => lexicon.HasWord categories other ∧ EndsAtEdge back other) word ∧
              size = word.byteSize)) ∧
      (found .backSlashedContextName = some size ↔
        ∃ more, back = '\\' :: more ∧ ∃ word : Text,
          Longest (fun other => lexicon.HasWord [.contexts] other ∧ EndsAtEdge more other) word ∧
            size = 1 + word.byteSize) ∧
      (found .repeatSpecifier = some size ↔
        StartsWord front ∧ ∃ word rest : Text, back = word ++ rest ∧
          Longest (fun other => lexicon.HasWord [.repeatTypes] other ∧ other <+: back) word ∧
          (∀ c ∈ rest.head?, Text.isAsciiLetter c = false) ∧ size = word.byteSize) ∧
      (found .repeatStringSpecifier = some size ↔
        ∃ more, back = '"' :: more ∧ ∃ word : Text,
          Longest (fun other => lexicon.HasWord [.repeatTypes] other ∧ other ++ ['"'] <+: more)
            word ∧ size = 2 + word.byteSize) :=
  ⟨fun _ _ hkind => lexicon.matchAt?_command front back size hkind,
    fun _ _ hkind => lexicon.matchAt?_bareWord front back size hkind,
    lexicon.matchAt?_backSlashedContextName front back size,
    lexicon.matchAt?_repeatSpecifier front back size,
    lexicon.matchAt?_repeatStringSpecifier front back size⟩

-- A word with a dot in it, which another word begins and which begins another one.
theorem matchAt?_eq_longest_word_dotted :
    let lexicon : Lexicon := Lexicon.ofWords fun category =>
      if category = .keywords then ["a", "", "a.b", "a", "a.bc"] else []
    (Kind.keyword, [Category.keywords]) ∈ Kind.commandLists ∧
      Longest (fun other => lexicon.HasWord [.keywords] other ∧ other <+: "a.b c".toList)
        "a.b".toList ∧
      lexicon.lexer.matchAt? .keyword "x\\a.b c".toList 1 = some 4 := by
  intro lexicon
  have hkind : (Kind.keyword, [Category.keywords]) ∈ Kind.commandLists := by decide
  have hlongest : Longest
      (fun other => lexicon.HasWord [.keywords] other ∧ other <+: "a.b c".toList)
      "a.b".toList := by
    refine ⟨⟨⟨by decide, .keywords, by decide, "a.b", by decide, rfl⟩, by decide⟩, ?_⟩
    rintro other ⟨⟨-, category, hcategory, listed, hlisted, rfl⟩, hbegins⟩
    obtain rfl := List.mem_singleton.mp hcategory
    have hwords : ∀ listed ∈ lexicon.words .keywords, listed.toList <+: "a.b c".toList →
        Text.byteSize listed.toList ≤ Text.byteSize "a.b".toList := by decide
    exact hwords listed hlisted hbegins
  have hblank : ∀ c ∈ " c".toList.head?, Text.isAsciiLetter c = false := by
    intro c hc
    obtain rfl : ' ' = c := Option.some.inj hc
    rfl
  have hfound := (matchAt?_eq_longest_word lexicon "x".toList "\\a.b c".toList 4).1 .keyword
    [.keywords] hkind
  exact ⟨hkind, hlongest, hfound.mpr ⟨"a.b c".toList, rfl, "a.b".toList, " c".toList, rfl, hlongest,
    hblank, rfl⟩⟩

end ScoreLexer
