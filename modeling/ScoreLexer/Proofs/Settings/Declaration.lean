import Mathlib.Tactic.IntervalCases
import ScoreLexer.Proofs.Markup.Tokens
import ScoreLexer.Proofs.Settings.Arities

namespace ScoreLexer

namespace Toml

def arityHeader : Text := "[lexicon.markup_arity]\n".toList

def arityFile (key : Text) (count : Nat) : Text :=
  arityHeader ++ (key ++ " =".toList ++ (' ' :: Nat.toDigits 10 count ++ ['\n']))

theorem ne_of_isBareKeyChar {c : Char} (h : isBareKeyChar c = true) :
    ∀ d ∈ "\"'[#\n\r \t".toList, c ≠ d := by
  have hnone : "\"'[#\n\r \t".toList.all (fun d => !isBareKeyChar d) = true := rfl
  rintro d hd rfl
  have hc := List.all_eq_true.mp hnone c hd
  rw [h] at hc
  exact Bool.false_ne_true hc

section Key

variable {key : Text} (hne : key ≠ []) (hkey : key.all isBareKeyChar = true)

include hne hkey

theorem key?_append_equals (rest : Text) :
    key? (key ++ " =".toList ++ rest) = some (key, " =".toList ++ rest) := by
  have htake : (key ++ " =".toList ++ rest).takeWhile isBareKeyChar = key := by
    rw [List.append_assoc, List.takeWhile_append_of_pos (List.all_eq_true.mp hkey)]
    exact List.append_nil key
  have hdrop : (key ++ " =".toList ++ rest).dropWhile isBareKeyChar = " =".toList ++ rest := by
    rw [List.append_assoc, List.dropWhile_append_of_pos (List.all_eq_true.mp hkey)]
    rfl
  obtain ⟨c, more, rfl⟩ := List.exists_cons_of_ne_nil hne
  have hc := ne_of_isBareKeyChar (List.all_eq_true.mp hkey c List.mem_cons_self)
  unfold key?
  split
  · next heq => exact absurd (List.cons.inj heq).1 (hc '"' (by decide))
  · next heq => exact absurd (List.cons.inj heq).1 (hc '\'' (by decide))
  · rw [htake, hdrop]

theorem path?_append_equals (rest : Text) :
    path? (key ++ " =".toList ++ rest) = some ([key], '=' :: rest) := by
  have hread := key?_append_equals hne hkey rest
  obtain ⟨c, more, rfl⟩ := List.exists_cons_of_ne_nil hne
  have hc := ne_of_isBareKeyChar (List.all_eq_true.mp hkey c List.mem_cons_self)
  have hskip : skipBlank (c :: more ++ " =".toList ++ rest) = c :: more ++ " =".toList ++ rest :=
    List.dropWhile_cons_of_neg (by simp [isBlank, hc ' ' (by decide), hc '\t' (by decide)])
  rw [path?, nestingBound, keys?, hskip, hread]
  rfl

theorem skipSpacing_key (rest : Text) : skipSpacing false (key ++ rest) = some (key ++ rest) := by
  obtain ⟨c, more, rfl⟩ := List.exists_cons_of_ne_nil hne
  have hc := ne_of_isBareKeyChar (List.all_eq_true.mp hkey c List.mem_cons_self)
  rw [List.cons_append]
  unfold skipSpacing
  split
  · next heq => cases heq
  · next heq => exact absurd (List.cons.inj heq).1 (hc '\r' (by decide))
  · next first tail _ heq =>
    obtain ⟨rfl, rfl⟩ := List.cons.inj heq
    simp [isBlank, hc '\n' (by decide), hc '#' (by decide), hc ' ' (by decide),
      hc '\t' (by decide)]

theorem lines?_key {node : Node} {rest back : Text} {nodes after : Nodes} {location : List Text}
    (hvalue : value? 0 (2 * rest.length + 2) (skipBlank rest) = some (node, '\n' :: back))
    (hafter : nodes.assignWithin [key] node location = some after) (fuel : Nat) :
    lines? (fuel + 1) ⟨nodes, location⟩ (key ++ " =".toList ++ rest) =
      lines? fuel ⟨after, location⟩ back := by
  have hspacing := skipSpacing_key hne hkey (" =".toList ++ rest)
  have hpath := path?_append_equals hne hkey rest
  obtain ⟨c, more, rfl⟩ := List.exists_cons_of_ne_nil hne
  have hc := ne_of_isBareKeyChar (List.all_eq_true.mp hkey c List.mem_cons_self)
  rw [← List.append_assoc] at hspacing
  conv => lhs; unfold lines?
  rw [hspacing]
  split
  · next heq => cases heq
  · next heq => cases heq
  · next heq => exact absurd (List.cons.inj (Option.some.inj heq)).1 (hc '[' (by decide))
  · next heq => exact absurd (List.cons.inj (Option.some.inj heq)).1 (hc '[' (by decide))
  · next found _ _ _ heq =>
    obtain rfl := Option.some.inj heq
    simp only [hpath, hvalue, hafter]
    rfl

end Key

def arityNodes (inner : Nodes) : Nodes :=
  [("lexicon".toList, .table .passed [("markup_arity".toList, .table .opened inner)])]

theorem lines?_header (fuel : Nat) (rest : Text) :
    lines? (fuel + 1) {} (arityHeader ++ rest) =
      lines? fuel ⟨arityNodes [], ["lexicon".toList, "markup_arity".toList]⟩ rest := rfl

theorem dropOrderMark_header (rest : Text) :
    dropOrderMark (arityHeader ++ rest) = arityHeader ++ rest := rfl

theorem assignWithin_arityNodes (key : Text) (node : Node) :
    (arityNodes []).assignWithin [key] node ["lexicon".toList, "markup_arity".toList] =
      some (arityNodes [(key, node)]) := rfl

theorem tableOf?_arityNodes {key : Text} (h : key ≠ momentKey) (value : Setting) :
    tableOf? (arityNodes [(key, .scalar value)]) = some (.table [("lexicon".toList,
      .table [("markup_arity".toList, .table [(key, value)])])]) := by
  have hinner : tableOf? [(key, .scalar value)] = some (.table [(key, value)]) := by
    rw [tableOf?, if_neg h]
    rfl
  have houter : tableOf? [("markup_arity".toList, .table .opened [(key, .scalar value)])] =
      some (.table [("markup_arity".toList, .table [(key, value)])]) := by
    rw [tableOf?, if_neg (by decide), Node.toSetting?, hinner]
    rfl
  rw [arityNodes, tableOf?, if_neg (by decide), Node.toSetting?, houter]
  rfl

theorem value?_count {count : Nat} (h : count ≤ 4) :
    value? 0 (2 * (' ' :: Nat.toDigits 10 count ++ ['\n']).length + 2)
      (skipBlank (' ' :: Nat.toDigits 10 count ++ ['\n'])) =
        some (.scalar (.integer count), ['\n']) := by
  interval_cases count <;> rfl

theorem read?_arityFile {key : Text} (hne : key ≠ []) (hkey : key.all isBareKeyChar = true)
    {count : Nat} (hcount : count ≤ 4) :
    read? (arityFile key count) = some [("lexicon".toList,
      .table [("markup_arity".toList, .table [(key, .integer count)])])] := by
  have hmark : key ≠ momentKey := by
    rintro rfl
    exact absurd hkey (by decide)
  have hlines : ∀ fuel, lines? (fuel + 3) {} (arityFile key count) =
      some (arityNodes [(key, .scalar (.integer count))]) := by
    intro fuel
    have hdeclared := lines?_key hne hkey (value?_count hcount)
      (assignWithin_arityNodes key (.scalar (.integer count))) (fuel + 1)
    exact (lines?_header (fuel + 2) _).trans hdeclared
  -- the fuel is the length, and the header alone is long enough
  obtain ⟨fuel, hfuel⟩ : ∃ fuel, (arityFile key count).length + 1 = fuel + 3 := by
    have hheader : arityHeader.length = 23 := by decide
    refine ⟨(arityFile key count).length - 2, ?_⟩
    rw [arityFile, List.length_append, hheader]
    omega
  have hbody : dropOrderMark (arityFile key count) = arityFile key count := dropOrderMark_header _
  have htable := tableOf?_arityNodes hmark (.integer count)
  rw [read?]
  simp only [hbody, hfuel, hlines, Option.bind_eq_bind, Option.bind_some, htable]

end Toml

namespace Settings

theorem ofSetting?_declaration (key : Text) {count : Nat} (h : count < 256) :
    ofSetting? (.table
      [("lexicon".toList, .table [("markup_arity".toList, .table [(key, .integer count)])]),
        ("output".toList, .table [("format".toList, .text "text".toList)])]) =
      some ⟨.text, [], [(String.ofList key, .ofNat count)]⟩ := by
  have hcount : Setting.arity? (.integer count) = some (.ofNat count) := if_pos h
  have hlisted : tableOf? Setting.arity? (.table [(key, .integer count)]) =
      some [(String.ofList key, .ofNat count)] := by
    simp [tableOf?, hcount, sortByKey]
  have hadditions : additions? (.table [("markup_arity".toList, .table [(key, .integer count)])]) =
      some ([], [(String.ofList key, .ofNat count)]) := by
    have hwords : fieldOr? (some []) "extra_words" 0 (tableOf? words?)
        (.table [("markup_arity".toList, .table [(key, .integer count)])]) = some [] := rfl
    rw [additions?, hwords, fieldOr?_of_find? rfl, hlisted]
    rfl
  rw [ofSetting?, fieldOr?_of_find? rfl, hadditions]
  rfl

theorem load?_arityFile {key : Text} (hne : key ≠ []) (hkey : key.all Toml.isBareKeyChar = true)
    {count : Nat} (hcount : count ≤ 4) :
    load? [Toml.arityFile key count] [] =
      some ⟨.text, [], [(String.ofList (Text.lower key), .ofNat count)]⟩ := by
  have hlayer : Setting.addLayer defaults
      [("lexicon".toList, .table [("markup_arity".toList, .table [(key, .integer count)])])] =
      .table
        [("lexicon".toList, .table [("markup_arity".toList,
          .table [(Text.lower key, .integer count)])]),
          ("output".toList, .table [("format".toList, .text "text".toList)])] := rfl
  have hsetting := ofSetting?_declaration (Text.lower key) (show count < 256 by omega)
  rw [← hlayer] at hsetting
  rw [load?, List.mapM_cons, Toml.read?_arityFile hne hkey hcount]
  exact hsetting

theorem lexer_declaration {count : UInt8} (h : count ≤ maxMarkupArity) (name : String) :
    ∃ lexer : Lexer, Settings.lexer ⟨.text, [], [(name, count)]⟩ = .ok lexer ∧
      ∀ command, lexer.markupArity command =
        if command = name then count else Lexicon.builtin.markupArity command := by
  let extension : Extension := ⟨[], [(name, count)]⟩
  have hextension : Settings.extension ⟨.text, [], [(name, count)]⟩ = .ok extension := by
    have hdeclared : Extension.declareArity name count {} = .ok extension :=
      if_neg (UInt8.not_lt.mpr h)
    exact congrArg (· >>= pure) hdeclared
  refine ⟨(Lexicon.builtin.extend extension).lexer, ?_, fun command => ?_⟩
  · rw [Settings.lexer, if_neg (by simp [isPlain]), Settings.lexicon, hextension]
    rfl
  · show (Lexicon.builtin.extend extension).markupArity command = _
    by_cases hname : command = name
    · have hlookup : extension.arities.lookup command = some count := by simp [extension, hname]
      simp only [Lexicon.extend, hlookup, if_pos hname]
    · have hlookup : extension.arities.lookup command = none := by simp [extension, hname]
      have hlisted : extension.listedArity? command = none := rfl
      simp only [Lexicon.extend, hlookup, hlisted, if_neg hname, Option.getD_none]

-- A file gives a command a number of arguments, and nothing layered over it touches the key.
structure Declares (key : Text) (count : UInt8) (file : Text) (later : List Text)
    (overrides : List (Text × Text)) : Prop where
  file : ∃ value : Setting, fileTells? (arityKeys key) file = some (some value) ∧
    value.arity? = some count
  later : ∀ file ∈ later, fileTells? (arityKeys key) file = none
  overrides : ∀ override ∈ overrides, overrideTells? (arityKeys key) override = none

theorem Declares.lastWord? {key : Text} {count : UInt8} {file : Text} {later : List Text}
    {overrides : List (Text × Text)} (h : Declares key count file later overrides)
    (earlier : List Text) : ∃ value : Setting, value.arity? = some count ∧
      Settings.lastWord? (arityKeys key) (earlier ++ file :: later) overrides =
        some (some value) := by
  obtain ⟨⟨value, hvalue, hcount⟩, hlater, hoverrides⟩ := h
  have hsilent : Settings.lastWord? (arityKeys key) later overrides = none := by
    have hnoOverride := List.findSome?_eq_none_iff.mpr fun override h =>
      hoverrides override (List.mem_reverse.mp h)
    have hnoFile := List.findSome?_eq_none_iff.mpr fun file h => hlater file (List.mem_reverse.mp h)
    rw [Settings.lastWord?, hnoOverride, hnoFile, Option.none_or]
  have hspoken : Settings.lastWord? (arityKeys key) [file] [] = some (some value) := by
    simp [Settings.lastWord?, hvalue]
  refine ⟨value, hcount, ?_⟩
  rw [← List.singleton_append, ← List.append_assoc, lastWord?_append, lastWord?_append, hsilent,
    hspoken, Option.none_or, Option.some_or]

theorem Declares.markupArity {key : Text} {count : UInt8} {file : Text} {later : List Text}
    {overrides : List (Text × Text)} (h : Declares key count file later overrides)
    {earlier : List Text} {settings : Settings}
    (hload : load? (earlier ++ file :: later) overrides = some settings) {lexer : Lexer}
    (hlexer : settings.lexer = .ok lexer) : lexer.markupArity (String.ofList key) = count := by
  obtain ⟨value, hcount, hlast⟩ := h.lastWord? earlier
  obtain ⟨root, hroot, hkeys⟩ := exists_root_of_load? hload
  obtain ⟨hvalue, hdistinct⟩ := hkeys (arityKeys key)
  rw [hlast, Option.getD_some] at hvalue
  have hdefaults : defaults.DistinctAlong (arityKeys key) := by
    refine ⟨by decide, fun lexicon hlexicon => ?_⟩
    obtain rfl : .table [] = lexicon := Option.some.inj hlexicon
    exact Setting.distinctAlong_of_entries_eq_nil rfl
  obtain ⟨hmem, hnodup⟩ := mem_markupArity_of_root hroot (hdistinct hdefaults) hvalue hcount
  exact markupArity_of_mem hlexer hnodup hmem

end Settings

theorem Lexer.emissions_markupCommand (lexer : Lexer) (name : CommandName) {stack : Stack}
    (htop : stack.top.context = .markup) {rest : Text} (hrest : NameEnds rest) (position : Nat)
    (before : Option Char) :
    let count := lexer.markupArity (String.ofList name.text)
    ∃ later, (lexer.runFrom position ⟨before, '\\' :: name.text ++ rest⟩ stack).emissions =
      ⟨[], stack, ⟨.markupCommand, '\\' :: name.text, position⟩,
        if count = 0 then stack.endArgument else stack.enter ⟨.markup, count.toNat⟩⟩ :: later := by
  intro count
  have hfirst : lexer.first? stack.top.context ⟨before, '\\' :: name.text ++ rest⟩ =
      some (.markupCommand, ('\\' :: name.text).length) := by
    rw [htop]
    exact first?_markupCommand name hrest before
  have hrun := runFrom_of_emitted (next_of_claimed hfirst) position
  have htake : ('\\' :: name.text ++ rest).take ('\\' :: name.text).length = '\\' :: name.text :=
    List.take_left
  rw [htake, transition_markupCommand lexer name stack] at hrun
  generalize lexer.runFrom (position + _) _ _ = later at hrun
  refine ⟨later.emissions, ?_⟩
  rw [hrun]
  simp only [beq_iff_eq, Step.markupFrame, count]
  rfl

namespace Settings

-- What the names of all commands are made of, that of the command for scores as well.
def IsLettersAndHyphens (name : Text) : Prop := ∀ c ∈ name, Text.isAsciiLetter c = true ∨ c = '-'

namespace IsLettersAndHyphens

variable {name : Text} (h : IsLettersAndHyphens name)

include h

theorem lower_eq : Text.lower name = name.map Char.toLower := by
  refine Text.lower_of_isAscii fun c hc => ?_
  rcases h c hc with hletter | rfl
  · exact Text.isAscii_of_isAsciiLetter hletter
  · decide

theorem isBareKeyChar : name.all Toml.isBareKeyChar = true := by
  refine List.all_eq_true.mpr fun c hc => ?_
  rcases h c hc with hletter | rfl
  · simp [Toml.isBareKeyChar, hletter]
  · decide

-- The file for a command of any name can be loaded. It declares the number of arguments of the
-- command whose name is the same in small letters, and of no other.
theorem exists_lexer_of_arityFile (hne : name ≠ []) {count : Nat} (hcount : count ≤ 4) :
    ∃ settings lexer, load? [Toml.arityFile name count] [] = some settings ∧
      settings.lexer = .ok lexer ∧ ∀ command, lexer.markupArity command =
        if command = String.ofList (name.map Char.toLower) then .ofNat count
        else Lexicon.builtin.markupArity command := by
  have hload := load?_arityFile hne h.isBareKeyChar hcount
  have hbound : UInt8.ofNat count ≤ maxMarkupArity := by
    interval_cases count <;> decide
  obtain ⟨lexer, hlexer, harity⟩ := lexer_declaration hbound (String.ofList (Text.lower name))
  refine ⟨_, lexer, hload, hlexer, fun command => ?_⟩
  rw [harity, h.lower_eq]

end IsLettersAndHyphens

theorem map_toLower_eq_iff (text : Text) :
    text.map Char.toLower = text ↔ text.any Char.isUpper = false := by
  conv => lhs; rhs; rw [← List.map_id text]
  rw [List.map_inj_left, List.any_eq_false]
  refine forall₂_congr fun c _ => ⟨fun h hupper => Text.toLower_ne_of_isUpper hupper h, fun h => ?_⟩
  exact Text.toLower_of_isUpper_eq_false (Bool.eq_false_iff.mpr h)

-- A command that has no capitals in its name is given the number of arguments that the last word in
-- the settings declares for it, and it waits for so many in markup. For a command with capitals a
-- declaration does nothing: its key is kept in small letters.
theorem declared_markupArity {name : Text} (hname : IsLettersAndHyphens name) (hne : name ≠ []) :
    (name.any Char.isUpper = false →
      ∀ (count : UInt8) (earlier later : List Text) (file : Text) (overrides : List (Text × Text))
        (settings : Settings) (lexer : Lexer),
        Declares (Text.lower name) count file later overrides →
        load? (earlier ++ file :: later) overrides = some settings → settings.lexer = .ok lexer →
          lexer.markupArity (String.ofList name) = count ∧
            ∀ (command : CommandName) (stack : Stack) (rest : Text), command.text = name →
              stack.top.context = .markup → NameEnds rest → ∀ position before, ∃ later,
                (lexer.runFrom position ⟨before, '\\' :: name ++ rest⟩ stack).emissions =
                  ⟨[], stack, ⟨.markupCommand, '\\' :: name, position⟩,
                    if count = 0 then stack.endArgument
                    else stack.enter ⟨.markup, count.toNat⟩⟩ :: later) ∧
      ∀ count : Nat, count ≤ 4 →
        ∃ settings lexer, load? [Toml.arityFile name count] [] = some settings ∧
          settings.lexer = .ok lexer ∧
          lexer.markupArity (String.ofList name) =
            if name.any Char.isUpper then Lexicon.builtin.markupArity (String.ofList name)
            else .ofNat count := by
  constructor
  · intro hsmall count earlier later file overrides settings lexer hdeclares hload hlexer
    have hkey : Text.lower name = name :=
      hname.lower_eq.trans ((map_toLower_eq_iff name).mpr hsmall)
    have harity := (hkey ▸ hdeclares).markupArity hload hlexer
    refine ⟨harity, ?_⟩
    rintro command stack rest rfl htop hrest position before
    exact harity ▸ lexer.emissions_markupCommand command htop hrest position before
  · intro count hcount
    obtain ⟨settings, lexer, hload, hlexer, harity⟩ := hname.exists_lexer_of_arityFile hne hcount
    refine ⟨settings, lexer, hload, hlexer, (harity _).trans ?_⟩
    have hown : String.ofList name = String.ofList (name.map Char.toLower) ↔
        name.any Char.isUpper = false := by
      rw [String.ofList_inj, eq_comm, map_toLower_eq_iff]
    cases hcapitals : name.any Char.isUpper with
    | true => exact if_neg fun h => Bool.false_ne_true ((hown.mp h).symm.trans hcapitals)
    | false => exact if_pos (hown.mpr hcapitals)

-- Of three files, the second declares two arguments for a command for which the first declares
-- four, and neither the last nor the override speaks of it.
theorem declared_markupArity_bold :
    let earlier := "[lexicon.markup_arity]\nbold = 4\n".toList
    let file := "[lexicon]\nmarkup_arity = \x7b bold = 2 \x7d\n".toList
    let later := "[output]\nformat = \"json\"\n".toList
    let overrides := [("output.format".toList, "yaml".toList)]
    let lexer := (Lexicon.builtin.extend ⟨[], [("bold", 2)]⟩).lexer
    let stack := Stack.toplevel.enter ⟨.markup, 1⟩
    load? [earlier, file, later] overrides = some ⟨.yaml, [], [("bold", 2)]⟩ ∧
      lexer.markupArity "bold" = 2 ∧
      ∃ later, (lexer.runFrom 0 ⟨none, "\\bold \"a\" b".toList⟩ stack).emissions =
        ⟨[], stack, ⟨.markupCommand, "\\bold".toList, 0⟩, stack.enter ⟨.markup, 2⟩⟩ :: later := by
  intro earlier file later overrides lexer stack
  let name : CommandName := ⟨"bold".toList, [], by decide, by decide, by decide⟩
  have hload : load? [earlier, file, later] overrides = some ⟨.yaml, [], [("bold", 2)]⟩ := by
    decide +kernel
  have hlexer : Settings.lexer ⟨.yaml, [], [("bold", 2)]⟩ = .ok lexer := rfl
  have hdeclares : Declares (Text.lower name.text) 2 file [later] overrides := by
    have hfile : (fileTells? (arityKeys (Text.lower name.text)) file).join.bind Setting.arity? =
        some 2 := by decide +kernel
    have hlater : fileTells? (arityKeys (Text.lower name.text)) later = none := by decide +kernel
    have hoverride : overrideTells? (arityKeys (Text.lower name.text))
        ("output.format".toList, "yaml".toList) = none := by decide +kernel
    obtain ⟨value, hvalue, hcount⟩ := Option.bind_eq_some_iff.mp hfile
    exact ⟨⟨value, Option.join_eq_some_iff.mp hvalue, hcount⟩,
      List.forall_mem_singleton.mpr hlater, List.forall_mem_singleton.mpr hoverride⟩
  have hsmall : name.text.any Char.isUpper = false := rfl
  have hdeclared := declared_markupArity name.isLetter_or_hyphen (List.cons_ne_nil 'b' _)
  obtain ⟨harity, hlexes⟩ := hdeclared.1 hsmall 2 [earlier] [later] file overrides _ lexer hdeclares
    hload hlexer
  have hrest : NameEnds " \"a\" b".toList := by
    have hhead : " \"a\" b".toList.head? = some ' ' := rfl
    constructor
    · rintro c ⟨⟩
      rfl
    · intro more h
      rw [h] at hhead
      exact absurd hhead (show some '-' ≠ some ' ' by decide)
  exact ⟨hload, harity, hlexes name stack " \"a\" b".toList rfl rfl hrest 0 none⟩

-- The built-in command for small capitals cannot be given another number of arguments: in a file
-- that declares two, it still takes one, and the word after that is no markup.
theorem markupArity_smallCaps_undeclared :
    let file := "[lexicon.markup_arity]\nsmallCaps = 2\n".toList
    ∃ settings lexer, load? [file] [] = some settings ∧ settings.lexer = .ok lexer ∧
      lexer.markupArity "smallCaps" = 1 ∧
      (lexer.lex .toplevel "\\markup \\smallCaps a b".toList).tokens.map Token.kind =
        [.markup, .space, .markupCommand, .space, .markupWord, .space, .identifier] :=
  ⟨⟨.text, [], [("smallcaps", 2)]⟩, (Lexicon.builtin.extend ⟨[], [("smallcaps", 2)]⟩).lexer,
    by decide +kernel, rfl, by decide +kernel, by decide +kernel⟩

end Settings

end ScoreLexer
