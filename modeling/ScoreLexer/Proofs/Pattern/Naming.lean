import ScoreLexer.Proofs.Pattern.Opening
import ScoreLexer.Proofs.Pattern.Taking
import ScoreLexer.Proofs.Text.Ascii

namespace ScoreLexer

structure LongestName (name rest : Text) : Prop where
  ne_nil : name ≠ []
  isLetters : name.all Text.isAsciiLetter = true
  stops : ∀ c ∈ rest.head?, Text.isAsciiLetter c = false

def IsName (word : Text) : Prop := word ≠ [] ∧ word.all Text.isAsciiLetter = true

instance (word : Text) : Decidable (IsName word) := inferInstanceAs (Decidable (_ ∧ _))

namespace LongestName

variable {name rest : Text}

theorem rest_eq (h : LongestName name rest) {word more : Text}
    (hword : word.all Text.isAsciiLetter = true)
    (hmore : ∀ c ∈ more.head?, Text.isAsciiLetter c = false)
    (hsplit : name ++ rest = word ++ more) : more = rest := by
  rw [← Text.dropWhile_append_of_stops hword hmore, ← hsplit,
    Text.dropWhile_append_of_stops h.isLetters h.stops]

theorem exists_letter (h : LongestName name rest) :
    ∃ c tail, name ++ rest = c :: tail ∧ Text.isAsciiLetter c = true := by
  obtain ⟨c, more, rfl⟩ := List.exists_cons_of_ne_nil h.ne_nil
  exact ⟨c, more ++ rest, rfl, (Bool.and_eq_true_iff.mp h.isLetters).1⟩

theorem takeWhile (text : Text) (h : text.head?.any Text.isAsciiLetter = true) :
    LongestName (text.takeWhile Text.isAsciiLetter) (text.dropWhile Text.isAsciiLetter) where
  ne_nil := by
    cases text with
    | nil => simp at h
    | cons c text =>
      have hc : Text.isAsciiLetter c = true := by simpa using h
      rw [List.takeWhile_cons_of_pos hc]
      exact List.cons_ne_nil c _
  isLetters := List.all_takeWhile
  stops := Text.stops_dropWhile Text.isAsciiLetter text

end LongestName

namespace Guard

theorem allows_notLetter_iff {rest : Text} : notLetter.allows rest.head? = true ↔
    ∀ c ∈ rest.head?, Text.isAsciiLetter c = false := by
  cases rest <;> simp [allows]

-- Whether a word, matched under the guard, cannot end inside a command: it does not begin with a
-- backslash, or goes on with a character that is no letter, or is the whole name of a command.
def keepsWord (guard : Guard) : Text → Bool
  | ['\\'] => false
  | '\\' :: c :: tail =>
      !Text.isAsciiLetter c || guard == .notLetter && tail.all Text.isAsciiLetter
  | _ => true

end Guard

namespace Pattern

-- After a backslash the pattern only ends with the name, wherever the guard lets it end. The edge
-- of a word, a guard that refuses a letter, and a run that goes as far as it can all have this
-- effect.
def EndsNames (guard : Guard) (pattern : Pattern) : Prop :=
  ∀ ⦃name rest : Text⦄, LongestName name rest → ∀ last ∈ pattern.ends ⟨some '\\', name ++ rest⟩,
    guard.allows last.rest.head? = true → last.rest = rest

def KeepsNames (guard : Guard) (pattern : Pattern) : Prop :=
  ∀ ⦃name rest : Text⦄, LongestName name rest → ∀ before,
    ∀ last ∈ pattern.ends ⟨before, '\\' :: (name ++ rest)⟩, guard.allows last.rest.head? = true →
      last.rest = rest ∨ last.rest = '\\' :: (name ++ rest)

theorem endsNames_words {list : List Text} (h : ∀ word ∈ list, IsName word) :
    (words list).EndsNames .notLetter := by
  intro name rest hname last hlast hguard
  obtain ⟨word, hword, hpast⟩ := List.mem_filterMap.mp hlast
  exact hname.rest_eq (h word hword).2 (Guard.allows_notLetter_iff.mp hguard)
    (Cursor.prefix_of_past? hpast)

-- A word of letters has its edge where no letter follows, so it is the name.
theorem mem_words_of_mem_ends {list : List Text} (h : ∀ word ∈ list, IsName word)
    {name rest : Text} (hname : LongestName name rest) {last : Cursor}
    (hlast : last ∈ (seq (words list) edge).ends ⟨some '\\', name ++ rest⟩) :
    name ∈ list ∧ last.rest = rest := by
  obtain ⟨middle, hmiddle, hedge⟩ := List.mem_flatMap.mp hlast
  obtain ⟨word, hword, hpast⟩ := List.mem_filterMap.mp hmiddle
  obtain ⟨hne, hletters⟩ := h word hword
  have hsplit : name ++ rest = word ++ middle.rest := Cursor.prefix_of_past? hpast
  simp only [ends] at hedge
  split at hedge
  · next hat =>
    obtain rfl := List.mem_singleton.mp hedge
    have hrest : last.rest = rest := by
      refine hname.rest_eq hletters (fun c hc => ?_) hsplit
      have hmiddle : some last = some ⟨word.getLast?.or (some '\\'), last.rest⟩ := by
        rw [← hpast, hsplit, Cursor.past?_append]
      obtain ⟨d, hd⟩ := Option.isSome_iff_exists.mp (List.getLast?_isSome.mpr hne)
      have hdword : Text.isWordChar d = true :=
        Text.isWordChar_of_isAsciiLetter
          (List.all_eq_true.mp hletters d (List.mem_of_getLast? hd))
      rw [Option.some.inj hmiddle, hd, Cursor.atWordEdge, Option.mem_def.mp hc] at hat
      cases hletter : Text.isAsciiLetter c with
      | false => rfl
      | true => simp [hdword, Text.isWordChar_of_isAsciiLetter hletter] at hat
    rw [hrest] at hsplit
    exact ⟨List.append_cancel_right hsplit ▸ hword, hrest⟩
  · simp at hedge

theorem endsNames_words_edge {list : List Text} (h : ∀ word ∈ list, IsName word) (guard : Guard) :
    (seq (words list) edge).EndsNames guard :=
  fun _ _ hname _ hlast _ => (mem_words_of_mem_ends h hname hlast).2

theorem exists_of_mem_runEnds {accepts : Char → Bool} {text : Text} {found : List Cursor}
    {last : Cursor} (h : last ∈ runEnds accepts text found) :
    last ∈ found ∨ ∃ front, front.all accepts = true ∧ text = front ++ last.rest := by
  induction text generalizing found with
  | nil => exact .inl h
  | cons c rest ih =>
    rw [runEnds] at h
    split at h
    · next hc =>
      rcases ih h with h | ⟨front, hfront, hrest⟩
      · rcases List.mem_cons.mp h with rfl | h
        · exact .inr ⟨[c], by simp [hc], rfl⟩
        · exact .inl h
      · exact .inr ⟨c :: front, by simp [hc, hfront], by rw [hrest, List.cons_append]⟩
    · exact .inl h

theorem endsNames_letters : letters.EndsNames .notLetter := by
  intro name rest hname last hlast hguard
  rcases exists_of_mem_runEnds hlast with hlast | ⟨front, hfront, hsplit⟩
  · simp at hlast
  · exact hname.rest_eq hfront (Guard.allows_notLetter_iff.mp hguard) hsplit

theorem endsNames_oneOf {chars : List Char} (h : chars.all fun c => !Text.isAsciiLetter c)
    (guard : Guard) : (oneOf chars).EndsNames guard := by
  intro name rest hname last hlast _
  obtain ⟨c, tail, htext, hc⟩ := hname.exists_letter
  have hnot : c ∉ chars := by
    intro hmem
    simpa [hc] using List.all_eq_true.mp h c hmem
  rw [htext, oneOf, ends] at hlast
  simp [hnot] at hlast

theorem EndsNames.keepsNames {guard : Guard} {pattern : Pattern} (h : pattern.EndsNames guard) :
    (seq (word "\\") pattern).KeepsNames guard := by
  intro name rest hname before last hlast hguard
  have hword : (word "\\").ends ⟨before, '\\' :: (name ++ rest)⟩ = [⟨some '\\', name ++ rest⟩] :=
    rfl
  rw [ends, hword, List.flatMap_singleton] at hlast
  exact .inl (h hname last hlast hguard)

theorem keepsNames_of_not_opens {pattern : Pattern} (h : pattern.opens '\\' = false)
    (guard : Guard) : pattern.KeepsNames guard := by
  intro name rest _ before last hlast _
  rw [eq_of_mem_ends h hlast]
  exact .inr rfl

theorem keepsNames_bareWords {list : List Text} (h : ∀ word ∈ list, IsName word) (guard : Guard) :
    (seq (words list) edge).KeepsNames guard := by
  have hwords : (words list).opens '\\' = false := by
    rw [opens, List.any_eq_false]
    intro word hword hhead
    obtain ⟨tail, rfl⟩ := List.head?_eq_some_iff.mp (eq_of_beq hhead)
    exact absurd (h _ hword).2 (by simp [Text.isAsciiLetter])
  apply keepsNames_of_not_opens
  rw [opens, hwords, opens, Bool.and_false, Bool.or_false]

theorem KeepsNames.alt {guard : Guard} {first second : Pattern} (hfirst : first.KeepsNames guard)
    (hsecond : second.KeepsNames guard) : (Pattern.alt first second).KeepsNames guard := by
  intro name rest hname before last hlast hguard
  rcases List.mem_append.mp hlast with hlast | hlast
  · exact hfirst hname before last hlast hguard
  · exact hsecond hname before last hlast hguard

theorem keepsNames_anyCommand {names : List String} (h : ∀ name ∈ names, IsName name.toList)
    (guard : Guard) : (anyCommand names).KeepsNames guard := by
  apply EndsNames.keepsNames
  exact endsNames_words_edge (List.forall_mem_map.mpr h) guard

theorem ends_anyCommand_eq_nil {names : List String} (h : ∀ name ∈ names, IsName name.toList)
    {name rest : Text} (hname : LongestName name rest) (hother : name ∉ names.map String.toList)
    (before : Option Char) : (anyCommand names).ends ⟨before, '\\' :: (name ++ rest)⟩ = [] := by
  have hwords : ∀ word ∈ names.map String.toList, IsName word := List.forall_mem_map.mpr h
  have hword : (word "\\").ends ⟨before, '\\' :: (name ++ rest)⟩ = [⟨some '\\', name ++ rest⟩] :=
    rfl
  rw [anyCommand, ends, hword, List.flatMap_singleton, List.eq_nil_iff_forall_not_mem]
  exact fun last hlast => hother (mem_words_of_mem_ends hwords hname hlast).1

theorem keepsNames_words {guard : Guard} {list : List Text}
    (h : list.all guard.keepsWord = true) : (words list).KeepsNames guard := by
  intro name rest hname before last hlast hguard
  obtain ⟨word, hword, hpast⟩ := List.mem_filterMap.mp hlast
  have hkeeps := List.all_eq_true.mp h word hword
  have hsplit := Cursor.prefix_of_past? hpast
  match word with
  | [] => exact .inr hsplit.symm
  | [w] =>
    obtain ⟨rfl, -⟩ := List.cons.inj hsplit
    exact absurd hkeeps Bool.false_ne_true
  | w :: d :: tail =>
    obtain ⟨rfl, htail⟩ := List.cons.inj hsplit
    obtain ⟨c, more, htext, hc⟩ := hname.exists_letter
    obtain ⟨rfl, -⟩ := List.cons.inj (htext.symm.trans htail)
    simp only [Guard.keepsWord, hc, Bool.not_true, Bool.false_or, Bool.and_eq_true,
      beq_iff_eq] at hkeeps
    obtain ⟨rfl, hletters⟩ := hkeeps
    have hword : (c :: tail).all Text.isAsciiLetter = true := by simp [hc, hletters]
    exact .inl (hname.rest_eq hword (Guard.allows_notLetter_iff.mp hguard) htail)

end Pattern

theorem Recognizer.match?_of_keepsNames {recognizer : Recognizer}
    (h : recognizer.pattern.KeepsNames recognizer.guard) {name rest : Text}
    (hname : LongestName name rest) {before : Option Char} {count : Nat}
    (hmatch : recognizer.match? ⟨before, '\\' :: (name ++ rest)⟩ = some count) :
    count = name.length + 1 := by
  unfold match? at hmatch
  split at hmatch
  · simp at hmatch
  · split at hmatch
    · simp at hmatch
    · next last hlast =>
      split at hmatch
      · next hallowed =>
        obtain ⟨hlt, hguard⟩ := Bool.and_eq_true_iff.mp hallowed
        obtain rfl := Option.some.inj hmatch
        have hlt := of_decide_eq_true hlt
        rcases h hname before last (List.mem_of_mem_head? hlast) hguard with hrest | hrest
        · rw [hrest]
          simp only [List.length_cons, List.length_append]
          omega
        · rw [hrest] at hlt
          exact absurd hlt (Nat.lt_irrefl _)
      · simp at hmatch

end ScoreLexer
