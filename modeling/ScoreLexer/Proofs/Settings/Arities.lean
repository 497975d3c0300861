import Mathlib.Data.List.Nodup
import ScoreLexer.Command.Basic
import ScoreLexer.Proofs.Settings.Layers
import ScoreLexer.Proofs.Stack.ArgumentCounts

namespace ScoreLexer

theorem Extension.Accepted.addWords? {extension next : Extension} (h : extension.Accepted)
    {category : String} {words : List String}
    (hnext : extension.addWords? category words = .ok next) : next.Accepted := by
  unfold Extension.addWords? at hnext
  split at hnext
  · next found hfound =>
    obtain rfl := Except.ok.inj hnext
    exact h.words found words
  · cases hnext

namespace Settings

theorem accepted_extension {settings : Settings} {extension : Extension}
    (h : settings.extension = .ok extension) : extension.Accepted := by
  obtain ⟨worded, hworded, harities⟩ := exists_of_bind_eq_ok h
  have haccepted : worded.Accepted :=
    of_foldlM_eq_ok _ (fun hstate hnext => hstate.addWords? hnext) .empty hworded
  exact of_foldlM_eq_ok _ (fun hstate hnext => .arity hstate hnext) haccepted harities

theorem eq_of_lexer {settings : Settings} {lexer : Lexer} (h : settings.lexer = .ok lexer) :
    settings.isPlain = true ∧ lexer = .builtin ∨
      ∃ extension, settings.extension = .ok extension ∧
        lexer = (Lexicon.builtin.extend extension).lexer := by
  unfold Settings.lexer at h
  split at h
  · next hplain => exact .inl ⟨hplain, (Except.ok.inj h).symm⟩
  · unfold Settings.lexicon at h
    cases hextension : settings.extension with
    | error error =>
      rw [hextension] at h
      cases h
    | ok extension =>
      rw [hextension] at h
      exact .inr ⟨extension, rfl, (Except.ok.inj h).symm⟩

theorem markupArity_le_of_lexer {settings : Settings} {lexer : Lexer}
    (h : settings.lexer = .ok lexer) (command : String) :
    lexer.markupArity command ≤ maxMarkupArity := by
  obtain ⟨-, rfl⟩ | ⟨extension, hextension, rfl⟩ := eq_of_lexer h
  · exact Lexicon.hasBoundedArities_builtin command
  · have haccepted := accepted_extension hextension
    exact Lexicon.hasBoundedArities_builtin.extend haccepted command

theorem fieldOr?_of_find? {α : Type} {key : String} {record value : Setting}
    (h : Setting.find? key.toList record.entries = some value) (missing : Option α) (place : Nat)
    (read : Setting → Option α) : fieldOr? missing key place read record = read value := by
  cases record with
  | table entries =>
    have hfind : Setting.find? key.toList entries = some value := h
    simp only [fieldOr?, hfind]
    rfl
  | _ => simp [Setting.entries, Setting.find?] at h

theorem exists_of_tableOf? {α : Type} {read : Setting → Option α} {record : Setting}
    {listed : List (String × α)} (h : tableOf? read record = some listed) :
    ∃ found, listed.Perm found ∧ List.Forall₂ (fun entry result =>
      result.1 = String.ofList entry.1 ∧ read entry.2 = some result.2) record.entries found := by
  cases record with
  | table entries =>
    obtain ⟨found, hfound, h⟩ := Option.bind_eq_some_iff.mp h
    obtain rfl := Option.some.inj h
    refine ⟨found, List.mergeSort_perm _ _, (forall₂_of_mapM hfound).imp fun entry result hread => ?_⟩
    obtain ⟨value, hvalue, rfl⟩ := Option.map_eq_some_iff.mp hread
    exact ⟨rfl, hvalue⟩
  | _ => cases h

theorem mem_of_tableOf? {α : Type} {read : Setting → Option α} {record : Setting}
    {listed : List (String × α)} (h : tableOf? read record = some listed) {key : Text}
    {value : Setting} (hvalue : Setting.find? key record.entries = some value) {result : α}
    (hresult : read value = some result) : (String.ofList key, result) ∈ listed := by
  obtain ⟨found, hperm, hall⟩ := exists_of_tableOf? h
  rw [hperm.mem_iff]
  clear hperm
  generalize record.entries = entries at hall hvalue
  induction hall with
  | nil => cases hvalue
  | @cons entry first entries found hfirst _ ih =>
    rw [Setting.find?_cons] at hvalue
    split at hvalue
    · next hkey =>
      obtain rfl := Option.some.inj hvalue
      have heq : first = (String.ofList key, result) :=
        Prod.ext (hkey ▸ hfirst.1) (Option.some.inj (hfirst.2.symm.trans hresult))
      exact heq ▸ List.mem_cons_self
    · exact List.mem_cons_of_mem _ (ih hvalue)

theorem nodup_keys_of_tableOf? {α : Type} {read : Setting → Option α} {record : Setting}
    {listed : List (String × α)} (h : tableOf? read record = some listed)
    (hkeys : (record.entries.map Prod.fst).Nodup) : (listed.map Prod.fst).Nodup := by
  obtain ⟨found, hperm, hall⟩ := exists_of_tableOf? h
  have hnames : found.map Prod.fst = (record.entries.map Prod.fst).map String.ofList := by
    generalize record.entries = entries at hall
    clear hperm
    induction hall with
    | nil => rfl
    | cons hfirst _ ih => rw [List.map_cons, ih, hfirst.1, List.map_cons, List.map_cons]
  rw [(hperm.map Prod.fst).nodup_iff, hnames]
  exact List.Nodup.map (fun _ _ heq => String.ofList_inj.mp heq) hkeys

def arityKeys (key : Text) : List Text := ["lexicon".toList, "markup_arity".toList, key]

theorem mem_markupArity_of_root {root value : Setting} {settings : Settings} {key : Text}
    {count : UInt8} (h : ofSetting? root = some settings)
    (hdistinct : root.DistinctAlong (arityKeys key))
    (hvalue : Setting.scalarAt? (arityKeys key) root = some value) (hcount : value.arity? = some count) :
    (String.ofList key, count) ∈ settings.markupArity ∧
      (settings.markupArity.map Prod.fst).Nodup := by
  obtain ⟨lexicon, hlexicon, hvalue⟩ := Option.bind_eq_some_iff.mp hvalue
  obtain ⟨arities, harities, hvalue⟩ := Option.bind_eq_some_iff.mp hvalue
  obtain ⟨found, hfound, hvalue⟩ := Option.bind_eq_some_iff.mp hvalue
  have hkeys : (arities.entries.map Prod.fst).Nodup :=
    ((hdistinct.2 lexicon hlexicon).2 arities harities).1
  obtain ⟨⟨words, listed⟩, hadditions, h⟩ := Option.bind_eq_some_iff.mp h
  obtain ⟨format, -, h⟩ := Option.bind_eq_some_iff.mp h
  obtain rfl := Option.some.inj h
  rw [fieldOr?_of_find? hlexicon] at hadditions
  obtain ⟨_, -, hadditions⟩ := Option.bind_eq_some_iff.mp hadditions
  obtain ⟨counted, hcounted, hadditions⟩ := Option.bind_eq_some_iff.mp hadditions
  obtain ⟨rfl, rfl⟩ := Prod.mk.inj (Option.some.inj hadditions)
  rw [fieldOr?_of_find? harities] at hcounted
  obtain rfl : found = value := Setting.eq_of_scalar? hvalue
  exact ⟨mem_of_tableOf? hcounted hfound hcount, nodup_keys_of_tableOf? hcounted hkeys⟩

end Settings

namespace Extension

theorem addWords?_arities {extension next : Extension} {category : String} {words : List String}
    (h : extension.addWords? category words = .ok next) : next.arities = extension.arities := by
  unfold Extension.addWords? at h
  split at h
  · obtain rfl := Except.ok.inj h
    rfl
  · cases h

theorem declareArity_arities {extension next : Extension} {command : String} {count : UInt8}
    (h : extension.declareArity command count = .ok next) :
    next.arities = (command, count) :: extension.arities := by
  unfold declareArity at h
  split at h
  · cases h
  · obtain rfl := Except.ok.inj h
    rfl

-- Declarations made one after the other stand in front of each other.
theorem foldlM_declareArity_arities {extension last : Extension} {listed : List (String × UInt8)}
    (h : listed.foldlM (fun (extension : Extension) (command, count) =>
      extension.declareArity command count) extension = .ok last) :
    last.arities = listed.reverse ++ extension.arities := by
  induction listed generalizing extension with
  | nil =>
    obtain rfl := Except.ok.inj h
    rfl
  | cons entry listed ih =>
    rw [List.foldlM_cons] at h
    obtain ⟨next, hnext, hrest⟩ := exists_of_bind_eq_ok h
    rw [ih hrest, declareArity_arities hnext, List.reverse_cons, List.append_assoc]
    rfl

end Extension

theorem lookup_of_nodup_keys {name : String} {count : UInt8} {listed : List (String × UInt8)}
    (hkeys : (listed.map Prod.fst).Nodup) (hmem : (name, count) ∈ listed) :
    listed.lookup name = some count := by
  obtain ⟨front, back, rfl⟩ := List.append_of_mem hmem
  refine List.lookup_eq_some_iff.mpr ⟨front, back, rfl, fun entry hentry => ?_⟩
  rw [bne_iff_ne]
  rintro rfl
  rw [List.map_append, List.map_cons, List.nodup_append] at hkeys
  exact hkeys.2.2 _ (List.mem_map_of_mem hentry) _ List.mem_cons_self rfl

namespace Settings

theorem extension_arities {settings : Settings} {extension : Extension}
    (h : settings.extension = .ok extension) :
    extension.arities = settings.markupArity.reverse := by
  obtain ⟨worded, hworded, hdeclared⟩ := exists_of_bind_eq_ok h
  have hnone : worded.arities = [] :=
    of_foldlM_eq_ok (fun extension : Extension => extension.arities = [])
      (fun hstate hnext => (Extension.addWords?_arities hnext).trans hstate) rfl hworded
  rw [Extension.foldlM_declareArity_arities hdeclared, hnone, List.append_nil]

theorem markupArity_of_mem {settings : Settings} {lexer : Lexer} (h : settings.lexer = .ok lexer)
    {name : String} {count : UInt8} (hkeys : (settings.markupArity.map Prod.fst).Nodup)
    (hmem : (name, count) ∈ settings.markupArity) : lexer.markupArity name = count := by
  obtain ⟨hplain, -⟩ | ⟨extension, hextension, rfl⟩ := eq_of_lexer h
  · obtain ⟨-, hnone⟩ := Bool.and_eq_true_iff.mp hplain
    rw [List.isEmpty_iff.mp hnone] at hmem
    cases hmem
  · have hreverse : (settings.markupArity.reverse.map Prod.fst).Nodup := by
      rw [List.map_reverse, List.nodup_reverse]
      exact hkeys
    have hlookup : extension.arities.lookup name = some count := by
      rw [extension_arities hextension]
      exact lookup_of_nodup_keys hreverse (List.mem_reverse.mpr hmem)
    show (Lexicon.builtin.extend extension).markupArity name = count
    simp only [Lexicon.extend, hlookup]

end Settings

end ScoreLexer
