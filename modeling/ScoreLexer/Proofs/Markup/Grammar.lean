import ScoreLexer.Proofs.Lexer.Argument

namespace ScoreLexer

def isMarkupChar (c : Char) : Bool :=
  !Text.isBlank c && !(['{', '}', '"', '\\', '#', '%'].contains c)

structure MarkupWord where
  text : Text
  text_ne_nil : text ≠ []
  isMarkupChar_text : text.all isMarkupChar = true

-- The name of a markup command: groups of letters with hyphens between them. The name of the
-- command for scores is none of these, and neither is one that goes on with a hyphen after it.
structure CommandName where
  first : Text
  more : List Text
  isLetters : ∀ group ∈ first :: more, group ≠ [] ∧ group.all Text.isAsciiLetter = true
  ne_score : spaced '-' (first :: more) ≠ "score".toList
  not_score_prefix : ¬"score-".toList <+: spaced '-' (first :: more)

namespace CommandName

def text (name : CommandName) : Text := spaced '-' (name.first :: name.more)

theorem text_eq (name : CommandName) :
    name.text = name.first ++ (name.more.map ('-' :: ·)).flatten := spaced_cons _ _ _

theorem first_ne_nil (name : CommandName) : name.first ≠ [] :=
  (name.isLetters name.first List.mem_cons_self).1

theorem isLetter_first (name : CommandName) : ∀ c ∈ name.first, Text.isAsciiLetter c = true :=
  List.all_eq_true.mp (name.isLetters name.first List.mem_cons_self).2

theorem first_ne_score (name : CommandName) : name.first ≠ "score".toList := by
  intro hfirst
  have htext := name.text_eq
  rw [hfirst] at htext
  cases hmore : name.more with
  | nil => exact name.ne_score (htext.trans (by simp [hmore]))
  | cons group groups =>
    refine name.not_score_prefix ⟨group ++ (groups.map ('-' :: ·)).flatten, ?_⟩
    rw [← text, htext, hmore]
    rfl

theorem isLetter_or_hyphen (name : CommandName) :
    ∀ c ∈ name.text, Text.isAsciiLetter c = true ∨ c = '-' := by
  intro c hc
  rw [name.text_eq, List.mem_append, List.mem_flatten] at hc
  rcases hc with hc | ⟨piece, hpiece, hc⟩
  · exact .inl (name.isLetter_first c hc)
  · obtain ⟨group, hgroup, rfl⟩ := List.mem_map.mp hpiece
    rcases List.mem_cons.mp hc with hc | hc
    · exact .inr hc
    · have hletters := (name.isLetters group (List.mem_cons_of_mem _ hgroup)).2
      exact .inl (List.all_eq_true.mp hletters c hc)

end CommandName

mutual

-- How many arguments a command has is given by its name, so markup is only well-formed with respect
-- to the numbers of arguments of a lexicon.
inductive Markup (arity : String → UInt8) : Type where
  | word (word : MarkupWord)
  | quotation (quotation : Quotation)
  | list {count : Nat} (items : Markups arity count)
  | command (name : CommandName) (arguments : Markups arity (arity (String.ofList name.text)).toNat)

inductive Markups (arity : String → UInt8) : Nat → Type where
  | nil : Markups arity 0
  | cons {count : Nat} (first : Markup arity) (more : Markups arity count) :
      Markups arity (count + 1)

end

mutual

def Markup.text {arity : String → UInt8} : Markup arity → Text
  | .word word => word.text
  | .quotation quotation => quotation.text
  | .list items => enclosed ' ' ['{'] items.texts ['}']
  | .command name arguments => spaced ' ' (('\\' :: name.text) :: arguments.texts)

def Markups.texts {arity : String → UInt8} {count : Nat} : Markups arity count → List Text
  | .nil => []
  | .cons first more => first.text :: more.texts

end

mutual

def Markup.kinds {arity : String → UInt8} : Markup arity → List Kind
  | .word _ => [.markupWord]
  | .quotation quotation => quotation.kinds
  | .list items => enclosed .space [.openBracketMarkup] items.kindsOf [.closeBracketMarkup]
  | .command _ arguments => spaced .space ([.markupCommand] :: arguments.kindsOf)

def Markups.kindsOf {arity : String → UInt8} {count : Nat} : Markups arity count → List (List Kind)
  | .nil => []
  | .cons first more => first.kinds :: more.kindsOf

end

theorem Markups.length_texts {arity : String → UInt8} {count : Nat} :
    ∀ markups : Markups arity count, markups.texts.length = count
  | .nil => rfl
  | .cons _ more => congrArg (· + 1) more.length_texts

-- A command of two arguments, the first of them a command of none.
example :
    let arity : String → UInt8 := fun name => if name = "sharp" then 0 else 2
    let sharp : CommandName :=
      ⟨"sharp".toList, [], by decide, by decide, by decide⟩
    let withColor : CommandName :=
      ⟨"with".toList, ["color".toList], by decide, by decide, by decide⟩
    @Markup.text arity
      (.command withColor
        (.cons (.command sharp .nil)
          (.cons (.list (.cons (.word ⟨"a".toList, by decide, by decide⟩) .nil)) .nil))) =
      "\\with-color \\sharp \x7b a \x7d".toList := by
  decide

end ScoreLexer
