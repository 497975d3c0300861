import Mathlib.Order.Bounds.Basic
import ScoreLexer.Lexicon.Extension

namespace ScoreLexer

namespace Lexicon

def Lists (words : Category → List String) (command : String) (arity : UInt8) : Prop :=
  ∃ category, (arity, category) ∈ Category.markupArities ∧ command ∈ words category

-- The lowest number whose list has the command, or the default number when no list has it.
def IsLowestArity (words : Category → List String) (command : String) (arity : UInt8) : Prop :=
  IsLeast {number | Lists words command number} arity ∨
    (∀ number, ¬Lists words command number) ∧ arity = defaultMarkupArity

-- The command takes the default number of arguments unless a list of the lexicon has it.
def KeepsDefault (lexicon : Lexicon) (command : String) : Prop :=
  (∀ number, ¬Lists lexicon.words command number) →
    lexicon.markupArity command = defaultMarkupArity

def firstListed? (words : Category → List String) (command : String)
    (lists : List (UInt8 × Category)) : Option UInt8 :=
  (lists.find? fun entry => (words entry.2).contains command).map Prod.fst

section

variable {words : Category → List String} {command : String}

theorem forall_lists_iff {property : UInt8 → Prop} :
    (∀ number, Lists words command number → property number) ↔
      ∀ entry ∈ Category.markupArities, command ∈ words entry.2 → property entry.1 := by
  constructor
  · intro h entry hentry hmem
    exact h entry.1 ⟨entry.2, hentry, hmem⟩
  · rintro h number ⟨category, hlisted, hmem⟩
    exact h (number, category) hlisted hmem

theorem forall_not_lists_iff : (∀ number, ¬Lists words command number) ↔
    ∀ entry ∈ Category.markupArities, command ∉ words entry.2 :=
  forall_lists_iff

theorem firstListed?_cons (arity : UInt8) (category : Category) (lists : List (UInt8 × Category)) :
    firstListed? words command ((arity, category) :: lists) =
      if command ∈ words category then some arity else firstListed? words command lists := by
  rw [firstListed?, List.find?_cons]
  split <;> simp_all [firstListed?]

theorem firstListed?_eq_none_iff {lists : List (UInt8 × Category)} :
    firstListed? words command lists = none ↔ ∀ entry ∈ lists, command ∉ words entry.2 := by
  simp [firstListed?]

theorem isLeast_of_firstListed? {lists : List (UInt8 × Category)}
    (hsorted : lists.Pairwise fun earlier later => earlier.1 ≤ later.1) {arity : UInt8}
    (h : firstListed? words command lists = some arity) :
    IsLeast {number | ∃ category, (number, category) ∈ lists ∧ command ∈ words category} arity := by
  induction lists with
  | nil => simp [firstListed?] at h
  | cons entry lists ih =>
    obtain ⟨number, category⟩ := entry
    obtain ⟨hfirst, hlater⟩ := List.pairwise_cons.mp hsorted
    rw [firstListed?_cons] at h
    split at h
    · next hmem =>
      obtain rfl := Option.some.inj h
      refine ⟨⟨category, List.mem_cons_self, hmem⟩, ?_⟩
      rintro other ⟨listed, hlisted, -⟩
      rcases List.mem_cons.mp hlisted with heq | hlisted
      · exact UInt8.le_of_eq (congrArg Prod.fst heq).symm
      · exact hfirst _ hlisted
    · next hnot =>
      obtain ⟨⟨listed, hlisted, hmem⟩, hlowest⟩ := ih hlater h
      refine ⟨⟨listed, List.mem_cons_of_mem _ hlisted, hmem⟩, ?_⟩
      rintro other ⟨listed', hlisted', hmem'⟩
      rcases List.mem_cons.mp hlisted' with heq | hlisted'
      · obtain ⟨rfl, rfl⟩ := Prod.mk.inj heq
        exact absurd hmem' hnot
      · exact hlowest ⟨listed', hlisted', hmem'⟩

theorem isLowestArity_firstListed? :
    IsLowestArity words command
      ((firstListed? words command Category.markupArities).getD defaultMarkupArity) := by
  cases hfirst : firstListed? words command Category.markupArities with
  | some arity => exact .inl (isLeast_of_firstListed? (by decide) hfirst)
  | none => exact .inr ⟨forall_not_lists_iff.mpr (firstListed?_eq_none_iff.mp hfirst), rfl⟩

theorem lookup_fill (added : List String) (arity : UInt8) (table : List (String × UInt8)) :
    (added.foldl (fun table word => (word, arity) :: table) table).lookup command =
      if command ∈ added then some arity else table.lookup command := by
  induction added generalizing table with
  | nil => rfl
  | cons word added ih =>
    rw [List.foldl_cons, ih, List.lookup_cons]
    by_cases hmem : command ∈ added
    · simp [hmem]
    · by_cases hword : command = word
      · simp [hword]
      · simp [hmem, hword, beq_eq_false_iff_ne.mpr hword]

theorem lookup_fill_reverse (lists : List (UInt8 × Category)) :
    (lists.reverse.foldl (fun table (arity, category) =>
        (words category).foldl (fun table word => (word, arity) :: table) table)
        []).lookup command =
      firstListed? words command lists := by
  induction lists with
  | nil => rfl
  | cons entry lists ih =>
    obtain ⟨arity, category⟩ := entry
    rw [List.reverse_cons, List.foldl_append, List.foldl_cons, List.foldl_nil, lookup_fill, ih,
      firstListed?_cons]

theorem tabledArity_eq : tabledArity (arityTable words) command =
    (firstListed? words command Category.markupArities).getD defaultMarkupArity := by
  rw [tabledArity, arityTable, lookup_fill_reverse]

theorem searchedArity_eq : searchedArity words command =
    (firstListed? words command
      (Category.markupArities.filter fun entry => entry.1 != defaultMarkupArity)).getD
        defaultMarkupArity := by
  unfold searchedArity firstListed?
  dsimp only
  split
  · next hfound => rw [hfound]; rfl
  · next hfound => rw [hfound]; rfl

theorem isLowestArity_tabledArity :
    IsLowestArity words command (tabledArity (arityTable words) command) :=
  tabledArity_eq ▸ isLowestArity_firstListed?

-- Only the default number is out of the reach of the search.
theorem searchedArity_cases (words : Category → List String) (command : String) :
    IsLeast {number | number ≠ defaultMarkupArity ∧ Lists words command number}
        (searchedArity words command) ∨
      (∀ number ≠ defaultMarkupArity, ¬Lists words command number) ∧
        searchedArity words command = defaultMarkupArity := by
  have hmem (number : UInt8) : (number ≠ defaultMarkupArity ∧ Lists words command number) ↔
      ∃ category, (number, category) ∈
          (Category.markupArities.filter fun entry => entry.1 != defaultMarkupArity) ∧
        command ∈ words category := by
    simp only [Lists, List.mem_filter, bne_iff_ne]
    grind
  simp only [hmem]
  rw [searchedArity_eq]
  cases hfirst : firstListed? words command
      (Category.markupArities.filter fun entry => entry.1 != defaultMarkupArity) with
  | some arity => exact .inl (isLeast_of_firstListed? (by decide) hfirst)
  | none =>
    refine .inr ⟨fun number hnumber hlists => ?_, rfl⟩
    obtain ⟨category, hlisted, hcommand⟩ := (hmem number).mp ⟨hnumber, hlists⟩
    exact firstListed?_eq_none_iff.mp hfirst _ hlisted hcommand

-- The default number is the lowest one and another number lists the command too.
def DefaultAndMore (words : Category → List String) (command : String) : Prop :=
  IsLeast {number | Lists words command number} defaultMarkupArity ∧
    ∃ number, defaultMarkupArity < number ∧ Lists words command number

theorem isLeast_searchedArity (h : DefaultAndMore words command) :
    IsLeast {number | defaultMarkupArity < number ∧ Lists words command number}
      (searchedArity words command) := by
  obtain ⟨⟨-, hlowest⟩, number, hlt, hlists⟩ := h
  rcases searchedArity_cases words command with ⟨⟨hne, hsearched⟩, hleast⟩ | ⟨hnone, -⟩
  · refine ⟨⟨UInt8.lt_of_le_of_ne (hlowest hsearched) hne.symm, hsearched⟩, ?_⟩
    rintro other ⟨hother, hlisted⟩
    exact hleast ⟨(UInt8.ne_of_lt hother).symm, hlisted⟩
  · exact absurd hlists (hnone number (UInt8.ne_of_lt hlt).symm)

theorem isLowestArity_searchedArity_iff :
    IsLowestArity words command (searchedArity words command) ↔ ¬DefaultAndMore words command := by
  constructor
  · intro hlow hmore
    obtain ⟨⟨hlt, hsearched⟩, -⟩ := isLeast_searchedArity hmore
    rcases hlow with ⟨-, hlowest⟩ | ⟨hnone, -⟩
    · exact UInt8.not_le.mpr hlt (hlowest hmore.1.1)
    · exact hnone _ hsearched
  · intro hnot
    rcases searchedArity_cases words command with ⟨⟨hne, hsearched⟩, hleast⟩ | ⟨hnone, heq⟩
    · refine .inl ⟨hsearched, fun number hlists => ?_⟩
      by_cases hnumber : number = defaultMarkupArity
      · -- were the default number lower, the one found would be another number beyond it
        subst hnumber
        refine UInt8.not_lt.mp fun hlt => hnot ⟨⟨hlists, fun other hother => ?_⟩, _, hlt, hsearched⟩
        by_cases hdefault : other = defaultMarkupArity
        · exact UInt8.le_of_eq hdefault.symm
        · exact UInt8.le_trans (UInt8.le_of_lt hlt) (hleast ⟨hdefault, hother⟩)
      · exact hleast ⟨hnumber, hlists⟩
    · rw [heq]
      by_cases hlists : Lists words command defaultMarkupArity
      · refine .inl ⟨hlists, fun number hnumber => ?_⟩
        by_cases hdefault : number = defaultMarkupArity
        · exact UInt8.le_of_eq hdefault.symm
        · exact absurd hnumber (hnone number hdefault)
      · refine .inr ⟨fun number hnumber => ?_, rfl⟩
        by_cases hdefault : number = defaultMarkupArity
        · exact hlists (hdefault ▸ hnumber)
        · exact hnone number hdefault hnumber

theorem IsLowestArity.eq_default {arity : UInt8} (h : IsLowestArity words command arity)
    (hnone : ∀ number, ¬Lists words command number) : arity = defaultMarkupArity := by
  rcases h with ⟨hlists, -⟩ | ⟨-, heq⟩
  · exact absurd hlists (hnone arity)
  · exact heq

end

theorem keepsDefault_ofWords (words : Category → List String) (command : String) :
    (ofWords words).KeepsDefault command := by
  intro hnone
  have hlow : IsLowestArity words command (searchedArity words command) :=
    isLowestArity_searchedArity_iff.mpr fun hmore => hnone _ hmore.1.1
  exact hlow.eq_default hnone

theorem keepsDefault_builtin (command : String) : builtin.KeepsDefault command :=
  fun hnone => isLowestArity_tabledArity.eq_default hnone

-- An extension asks the lexicon below only about commands that it does not list.
theorem markupArity_extend (base : Lexicon) {extension : Extension} {command : String}
    (hundeclared : extension.arities.lookup command = none) :
    (base.extend extension).markupArity command =
      (firstListed? (collect extension.words) command Category.markupArities).getD
        (base.markupArity command) := by
  simp only [extend, hundeclared]
  rfl

theorem isLowestArity_extend {base : Lexicon} {extension : Extension} {command : String}
    (hundeclared : extension.arities.lookup command = none)
    (hbase : base.markupArity command = defaultMarkupArity) :
    IsLowestArity (collect extension.words) command
      ((base.extend extension).markupArity command) := by
  rw [markupArity_extend base hundeclared, hbase]
  exact isLowestArity_firstListed?

theorem KeepsDefault.extend {base : Lexicon} {command : String} (h : base.KeepsDefault command)
    {extension : Extension} (hundeclared : extension.arities.lookup command = none) :
    (base.extend extension).KeepsDefault command := by
  intro hnone
  have hbelow : ∀ number, ¬Lists base.words command number := by
    rintro number ⟨category, hlisted, hmem⟩
    exact hnone number ⟨category, hlisted, List.mem_append_left _ hmem⟩
  have hadded : ∀ number, ¬Lists (collect extension.words) command number := by
    rintro number ⟨category, hlisted, hmem⟩
    exact hnone number ⟨category, hlisted, List.mem_append_right _ hmem⟩
  exact (isLowestArity_extend hundeclared (h hbelow)).eq_default hadded

-- A table filled from the lists, and an extension that adds the lists to a lexicon where the command
-- has one argument, give the lowest number whose list has it, and one when none has. The built-in
-- lexicon, one of given words alone, and what extends them give one argument to a command that they
-- neither list nor declare. A search through the lists finds the lowest number too, unless the list
-- of one has the command as the lowest and not the only one: then it gives the lowest of the others.
theorem markupArity_eq_lowest (words : Category → List String) (command : String) :
    IsLowestArity words command (tabledArity (arityTable words) command) ∧
      builtin.KeepsDefault command ∧ (∀ others, (ofWords others).KeepsDefault command) ∧
      (∀ base : Lexicon, base.KeepsDefault command → ∀ extension : Extension,
        extension.arities.lookup command = none → (base.extend extension).KeepsDefault command) ∧
      (∀ base : Lexicon, base.markupArity command = defaultMarkupArity →
        ∀ extension : Extension, extension.arities.lookup command = none →
          (∀ entry ∈ Category.markupArities, collect extension.words entry.2 = words entry.2) →
            IsLowestArity words command ((base.extend extension).markupArity command)) ∧
      (IsLowestArity words command (searchedArity words command) ↔
        ¬DefaultAndMore words command) ∧
      (DefaultAndMore words command →
        IsLeast {number | defaultMarkupArity < number ∧ Lists words command number}
          (searchedArity words command)) := by
  refine ⟨isLowestArity_tabledArity, keepsDefault_builtin command,
    fun others => keepsDefault_ofWords others command,
    fun base hbase extension hundeclared => hbase.extend hundeclared, ?_,
    isLowestArity_searchedArity_iff, isLeast_searchedArity⟩
  intro base hbase extension hundeclared hadded
  have hlow := isLowestArity_extend hundeclared hbase
  have hsame (number : UInt8) :
      Lists (collect extension.words) command number ↔ Lists words command number := by
    refine exists_congr fun category => and_congr_right fun hlisted => ?_
    rw [hadded _ hlisted]
  simpa only [IsLowestArity, hsame] using hlow

-- A command under one and three arguments, added in the wrong order to a lexicon that declares a
-- number for another command.
theorem markupArity_eq_lowest_twice :
    let words : Category → List String := fun category =>
      if category = .markupCommands1 ∨ category = .markupCommands3 then ["twice"] else []
    let extension : Extension :=
      { words := [(.markupCommands3, ["twice"]), (.markupCommands1, ["twice"])] }
    let base : Lexicon := builtin.extend { arities := [("once", 2)] }
    base.KeepsDefault "twice" ∧ base.markupArity "twice" = defaultMarkupArity ∧
      extension.arities.lookup "twice" = none ∧
      (∀ entry ∈ Category.markupArities, collect extension.words entry.2 = words entry.2) ∧
      IsLowestArity words "twice" ((base.extend extension).markupArity "twice") ∧
      DefaultAndMore words "twice" ∧
      IsLeast {number | defaultMarkupArity < number ∧ Lists words "twice" number}
        (searchedArity words "twice") := by
  intro words extension base
  obtain ⟨-, hbuiltin, -, hkeeps, hextend, -, hsearch⟩ := markupArity_eq_lowest words "twice"
  have hbase : base.KeepsDefault "twice" := hkeeps builtin hbuiltin _ rfl
  have hunlisted : ∀ number, ¬Lists base.words "twice" number :=
    forall_not_lists_iff.mpr (by decide +kernel)
  have hadded : ∀ entry ∈ Category.markupArities,
      collect extension.words entry.2 = words entry.2 := by decide
  have hlowest : ∀ number, Lists words "twice" number → defaultMarkupArity ≤ number :=
    forall_lists_iff.mpr (by decide)
  have hmore : DefaultAndMore words "twice" :=
    ⟨⟨⟨.markupCommands1, by decide, by decide⟩, hlowest⟩, 3, by decide,
      .markupCommands3, by decide, by decide⟩
  have hdefault := hbase hunlisted
  exact ⟨hbase, hdefault, rfl, hadded, hextend base hdefault extension rfl hadded, hmore,
    hsearch hmore⟩

-- A command under one and two arguments has two when it is searched for.
theorem searchedArity_twice_listed :
    let words : Category → List String := fun category =>
      if category = .markupCommands1 ∨ category = .markupCommands2 then ["x"] else []
    IsLowestArity words "x" 1 ∧ searchedArity words "x" = 2 ∧
      ¬IsLowestArity words "x" (searchedArity words "x") := by
  intro words
  have hlists : Lists words "x" 1 := ⟨.markupCommands1, by decide, by decide⟩
  have hlowest : ∀ number, Lists words "x" number → 1 ≤ number :=
    forall_lists_iff.mpr (by decide)
  have hsearched : searchedArity words "x" = 2 := by decide
  refine ⟨.inl ⟨hlists, hlowest⟩, hsearched, ?_⟩
  rw [hsearched]
  rintro (⟨-, hleast⟩ | ⟨hnone, -⟩)
  · exact absurd (hleast hlists) (by decide)
  · exact hnone 1 hlists

end Lexicon

end ScoreLexer
