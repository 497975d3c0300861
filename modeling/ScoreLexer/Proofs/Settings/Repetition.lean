import ScoreLexer.Command.Basic
import ScoreLexer.Proofs.Lexer.Agreement

namespace ScoreLexer

namespace Lexicon

theorem mem_collect {entries : List (Category × List String)} {category : Category}
    {word : String} :
    word ∈ collect entries category ↔ ∃ entry ∈ entries, entry.1 = category ∧ word ∈ entry.2 := by
  simp [collect, List.mem_flatMap, and_assoc]

theorem markupArity_builtin_of_mem {entry : UInt8 × Category} (hentry : entry ∈ Category.markupArities)
    {command : String} (h : command ∈ Builtin.words entry.2) :
    builtin.markupArity command = entry.1 := by
  have hlists : ∀ entry ∈ Category.markupArities, ∀ command ∈ Builtin.words entry.2,
      builtin.markupArity command = entry.1 := by decide +kernel
  exact hlists entry hentry command h

end Lexicon

namespace Extension

structure Repeats (extension : Extension) : Prop where
  arities : extension.arities = []
  words : ∀ entry ∈ extension.words, ∀ word ∈ entry.2, word ∈ Builtin.words entry.1

theorem repeats_empty : Repeats {} := ⟨rfl, by simp⟩

namespace Repeats

variable {extension : Extension}

theorem addWords (h : extension.Repeats) {category : Category} {words : List String}
    (hwords : ∀ word ∈ words, word ∈ Builtin.words category) :
    (extension.addWords category words).Repeats := by
  refine ⟨h.arities, fun entry hentry => ?_⟩
  rcases List.mem_append.mp hentry with hentry | hentry
  · exact h.words entry hentry
  · obtain rfl := List.mem_singleton.mp hentry
    exact hwords

theorem mem_words (h : extension.Repeats) {category : Category} {word : String}
    (hword : word ∈ Lexicon.collect extension.words category) : word ∈ Builtin.words category := by
  obtain ⟨entry, hentry, rfl, hlisted⟩ := Lexicon.mem_collect.mp hword
  exact h.words entry hentry word hlisted

theorem mem_extend_iff (h : extension.Repeats) {categories : List Category} {word : String} :
    word ∈ categories.flatMap (Lexicon.builtin.extend extension).words ↔
      word ∈ categories.flatMap Lexicon.builtin.words := by
  simp only [List.mem_flatMap, Lexicon.extend, List.mem_append]
  constructor
  · rintro ⟨category, hcategory, hword | hword⟩
    · exact ⟨category, hcategory, hword⟩
    · exact ⟨category, hcategory, h.mem_words hword⟩
  · rintro ⟨category, hcategory, hword⟩
    exact ⟨category, hcategory, .inl hword⟩

theorem markupArity_eq (h : extension.Repeats) (command : String) :
    (Lexicon.builtin.extend extension).markupArity command =
      Lexicon.builtin.markupArity command := by
  have hlookup : extension.arities.lookup command = none := by rw [h.arities]; rfl
  simp only [Lexicon.extend, hlookup]
  cases hlisted : extension.listedArity? command with
  | none => rfl
  | some arity =>
    obtain ⟨entry, hfound, rfl⟩ := Option.map_eq_some_iff.mp hlisted
    have hcontains := List.find?_some hfound
    have hword := h.mem_words (List.contains_iff_mem.mp hcontains)
    exact (Lexicon.markupArity_builtin_of_mem (List.mem_of_find?_eq_some hfound) hword).symm

theorem sameVocabulary (h : extension.Repeats) :
    (Lexicon.builtin.extend extension).SameVocabulary Lexicon.builtin :=
  ⟨h.markupArity_eq, fun _ _ _ _ => h.mem_extend_iff, fun _ _ => h.mem_extend_iff⟩

end Repeats

end Extension

namespace Settings

-- The settings declare no numbers of arguments. What they add are lists of built-in words, each
-- under the name of the category of its words.
structure OnlyRepeat (settings : Settings) : Prop where
  markupArity : settings.markupArity = []
  extraWords : ∀ entry ∈ settings.extraWords, ∃ category, Category.ofName? entry.1 = some category ∧
    ∀ word ∈ entry.2, word ∈ Builtin.words category

theorem exists_foldlM_addWords? {entries : List (String × List String)} {extension : Extension}
    (hextension : extension.Repeats)
    (hentries : ∀ entry ∈ entries, ∃ category, Category.ofName? entry.1 = some category ∧
      ∀ word ∈ entry.2, word ∈ Builtin.words category) :
    ∃ next : Extension, next.Repeats ∧ entries.foldlM (fun extension (category, words) =>
      extension.addWords? category words) extension = .ok next := by
  induction entries generalizing extension with
  | nil => exact ⟨extension, hextension, rfl⟩
  | cons entry entries ih =>
    obtain ⟨⟨category, hcategory, hwords⟩, hlater⟩ := List.forall_mem_cons.mp hentries
    obtain ⟨next, hnext, hfold⟩ := ih (hextension.addWords hwords) hlater
    have hadded : extension.addWords? entry.1 entry.2 =
        .ok (extension.addWords category entry.2) := by
      rw [Extension.addWords?, hcategory]
    refine ⟨next, hnext, ?_⟩
    rw [List.foldlM_cons]
    exact (congrArg (· >>= _) hadded).trans hfold

theorem OnlyRepeat.extension {settings : Settings} (h : settings.OnlyRepeat) :
    ∃ extension : Extension, extension.Repeats ∧ settings.extension = .ok extension := by
  obtain ⟨extension, hextension, hfold⟩ :=
    exists_foldlM_addWords? Extension.repeats_empty h.extraWords
  refine ⟨extension, hextension, ?_⟩
  rw [Settings.extension, hfold, h.markupArity]
  rfl

theorem OnlyRepeat.lexer {settings : Settings} (h : settings.OnlyRepeat) :
    ∃ lexer : Lexer, settings.lexer = .ok lexer ∧
      ∀ (stack : Stack) (text : Text), lexer.lex stack text = Lexer.builtin.lex stack text := by
  unfold Settings.lexer
  split
  · exact ⟨.builtin, rfl, fun _ _ => rfl⟩
  · obtain ⟨extension, hextension, hmade⟩ := h.extension
    refine ⟨(Lexicon.builtin.extend extension).lexer, ?_, hextension.sameVocabulary.lex_eq⟩
    rw [Settings.lexicon, hmade]
    rfl

end Settings

-- Lexing depends on a lexicon only through the sets of its words and the numbers of arguments of
-- markup commands: lexicons that agree on these make the same tokens of every text and leave the
-- same stack. So settings that only repeat built-in words give a lexer that cannot be told from the
-- built-in one.
theorem lex_eq_of_sameVocabulary :
    (∀ first second : Lexicon, first.SameVocabulary second → ∀ (stack : Stack) (text : Text),
        (first.lexer.lex stack text).tokens = (second.lexer.lex stack text).tokens ∧
          (first.lexer.lex stack text).final = (second.lexer.lex stack text).final) ∧
      ∀ settings : Settings, settings.OnlyRepeat → ∃ lexer : Lexer, settings.lexer = .ok lexer ∧
        ∀ (stack : Stack) (text : Text), lexer.lex stack text = Lexer.builtin.lex stack text := by
  refine ⟨?_, fun settings h => h.lexer⟩
  intro first second h stack text
  rw [h.lex_eq stack text]
  exact ⟨rfl, rfl⟩

-- The same words in another order, one of them twice and one of them empty, and a script that has
-- moved to another category. The settings add words that are there and an empty list.
theorem lex_eq_of_sameVocabulary_reordered :
    let first : Lexicon := ⟨fun category =>
      match category with
      | .clefs => ["bass", "treble"]
      | .articulations => ["accent"]
      | _ => [], fun _ => 1⟩
    let second : Lexicon := ⟨fun category =>
      match category with
      | .clefs => ["treble", "", "bass", "treble"]
      | .ornaments => ["accent"]
      | _ => [], fun _ => 1⟩
    let settings : Settings := ⟨.text, [("clefs", []), ("markup-commands-2", ["combine"])], []⟩
    let text : Text := "\x7b \\clef treble c\\accent \x7d".toList
    first.SameVocabulary second ∧
      (first.lexer.lex .toplevel text).tokens = (second.lexer.lex .toplevel text).tokens ∧
      settings.OnlyRepeat ∧
      ∃ lexer : Lexer, settings.lexer = .ok lexer ∧
        (lexer.lex .toplevel text).tokens = (Lexer.builtin.lex .toplevel text).tokens := by
  intro first second settings text
  have hsame : first.SameVocabulary second := by
    refine ⟨fun _ => rfl, fun category hcategory word hword => ?_, fun word hword => ?_⟩
    · cases category <;>
        simp +contextual [first, second, Vocabulary.separateCategories, hword, or_comm] at hcategory ⊢
    · simp [first, second, Vocabulary.scriptCategories]
  have hsettings : settings.OnlyRepeat := by
    refine ⟨rfl, ?_⟩
    simp only [settings, List.forall_mem_cons]
    exact ⟨⟨.clefs, by decide, by simp⟩, ⟨.markupCommands2, by decide, by decide +kernel⟩, by simp⟩
  obtain ⟨hlexicons, hrepeated⟩ := lex_eq_of_sameVocabulary
  obtain ⟨lexer, hlexer, hlex⟩ := hrepeated settings hsettings
  exact ⟨hsame, (hlexicons first second hsame .toplevel text).1, hsettings, lexer, hlexer,
    by rw [hlex]⟩

end ScoreLexer
