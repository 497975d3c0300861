import ScoreLexer.Lexicon.Vocabulary
import ScoreLexer.Proofs.Pattern.Taking

namespace ScoreLexer

def Descending (words : List Text) : Prop :=
  words.Pairwise fun earlier later => later.length ≤ earlier.length

theorem descending_longestFirst (words : List Text) : Descending (Vocabulary.longestFirst words) := by
  have hsorted : (Vocabulary.longestFirst words).Pairwise
      fun earlier later => decide (later.length ≤ earlier.length) = true := by
    apply List.pairwise_mergeSort
    · simp only [decide_eq_true_eq]
      omega
    · simp only [Bool.or_eq_true, decide_eq_true_eq]
      omega
  exact hsorted.imp of_decide_eq_true

theorem findSome?_eq_some_iff_of_descending {β : Type} {words : List Text} (h : Descending words)
    {goal : Text → Option β}
    (hunique : ∀ word other, (goal word).isSome → (goal other).isSome →
      word.length = other.length → word = other) {found : β} :
    words.findSome? goal = some found ↔
      ∃ word ∈ words, goal word = some found ∧
        ∀ longer ∈ words, word.length < longer.length → goal longer = none := by
  induction words with
  | nil => simp
  | cons word words ih =>
    obtain ⟨hfirst, hlater⟩ := List.pairwise_cons.mp h
    cases hword : goal word with
    | none =>
      rw [List.findSome?_cons_of_isNone (by simp [hword]), ih hlater]
      constructor
      · rintro ⟨other, hmem, hother, hlonger⟩
        exact ⟨other, List.mem_cons_of_mem word hmem, hother,
          List.forall_mem_cons.mpr ⟨fun _ => hword, hlonger⟩⟩
      · rintro ⟨other, hmem, hother, hlonger⟩
        have hmem : other ∈ words := by
          rcases List.mem_cons.mp hmem with rfl | hmem
          · simp [hword] at hother
          · exact hmem
        exact ⟨other, hmem, hother, (List.forall_mem_cons.mp hlonger).2⟩
    | some first =>
      rw [List.findSome?_cons_of_isSome (by simp [hword]), hword]
      constructor
      · intro hfound
        obtain rfl := Option.some.inj hfound
        refine ⟨word, List.mem_cons_self, hword, fun longer hmem hlt => ?_⟩
        rcases List.mem_cons.mp hmem with rfl | hmem
        · omega
        · have := hfirst longer hmem
          omega
      · rintro ⟨other, hmem, hother, hlonger⟩
        -- the word itself succeeds, so it is not longer than the longest success
        have hle : word.length ≤ other.length := by
          by_contra hlt
          simp [hlonger word List.mem_cons_self (by omega)] at hword
        have hge : other.length ≤ word.length := by
          rcases List.mem_cons.mp hmem with rfl | hmem
          · exact Nat.le_refl _
          · exact hfirst other hmem
        obtain rfl := hunique word other (by simp [hword]) (by simp [hother])
          (Nat.le_antisymm hle hge)
        rw [← hword, hother]

theorem findSome?_eq_of_descending {β : Type} {first second : List Text}
    (hfirst : Descending first) (hsecond : Descending second)
    (hmem : ∀ word, word ∈ first ↔ word ∈ second) {goal : Text → Option β}
    (hunique : ∀ word other, (goal word).isSome → (goal other).isSome →
      word.length = other.length → word = other) :
    first.findSome? goal = second.findSome? goal := by
  apply Option.ext
  intro found
  rw [findSome?_eq_some_iff_of_descending hfirst hunique,
    findSome?_eq_some_iff_of_descending hsecond hunique]
  simp only [hmem]

-- Words of one length that come next are the same.
theorem Cursor.eq_of_past?_isSome {cursor : Cursor} {word other : Text}
    (hword : (cursor.past? word).isSome) (hother : (cursor.past? other).isSome)
    (hlength : word.length = other.length) : word = other := by
  obtain ⟨last, hlast⟩ := Option.isSome_iff_exists.mp hword
  obtain ⟨last', hlast'⟩ := Option.isSome_iff_exists.mp hother
  have hsame := (prefix_of_past? hlast).symm.trans (prefix_of_past? hlast')
  exact (List.append_inj hsame hlength).1

theorem findSome?_flatMap {α β γ : Type} (items : List α) (parts : α → List β)
    (goal : β → Option γ) :
    (items.flatMap parts).findSome? goal = items.findSome? fun item => (parts item).findSome? goal := by
  rw [← List.head?_filterMap, List.filterMap_flatMap, List.head?_flatMap]
  simp only [List.head?_filterMap]

namespace Pattern

-- Whatever is looked for at the ends of the patterns, it is found at the same end first.
def Agree (first second : Pattern) : Prop :=
  ∀ (cursor : Cursor) (goal : Cursor → Option Cursor),
    (first.ends cursor).findSome? goal = (second.ends cursor).findSome? goal

theorem Agree.refl (pattern : Pattern) : pattern.Agree pattern := fun _ _ => rfl

theorem agree_words {first second : List Text} (hfirst : Descending first)
    (hsecond : Descending second) (hmem : ∀ word, word ∈ first ↔ word ∈ second) :
    (words first).Agree (words second) := by
  intro cursor goal
  simp only [ends, ← List.head?_filterMap, List.filterMap_filterMap]
  rw [List.head?_filterMap, List.head?_filterMap]
  apply findSome?_eq_of_descending hfirst hsecond hmem
  intro word other hword hother
  exact Cursor.eq_of_past?_isSome (Option.isSome_of_isSome_bind hword)
    (Option.isSome_of_isSome_bind hother)

theorem Agree.seq {first second former latter : Pattern} (hfirst : first.Agree second)
    (hlatter : former.Agree latter) : (Pattern.seq first former).Agree (Pattern.seq second latter) := by
  intro cursor goal
  simp only [ends, findSome?_flatMap, hlatter _ goal]
  exact hfirst cursor _

end Pattern

end ScoreLexer
