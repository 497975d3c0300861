import ScoreLexer.Proofs.Loops
import ScoreLexer.Settings.Basic

namespace ScoreLexer

namespace Setting

section Tables

variable {key other : Text} {value : Setting} {table : List (Text × Setting)}

theorem find?_cons (key : Text) (entry : Text × Setting) (table : List (Text × Setting)) :
    find? key (entry :: table) = if key = entry.1 then some entry.2 else find? key table := by
  obtain ⟨first, present⟩ := entry
  rw [find?, List.lookup_cons]
  split <;> simp_all [find?]

theorem find?_insert_self : find? key (insert key value table) = some value := by
  induction table with
  | nil => simp [insert, find?]
  | cons entry table ih =>
    unfold insert
    split
    · rw [find?_cons, if_pos rfl]
    · next hne => rw [find?_cons, if_neg (Ne.symm hne), ih]

theorem find?_insert_of_ne (h : other ≠ key) :
    find? other (insert key value table) = find? other table := by
  induction table with
  | nil => rw [insert, find?_cons, if_neg h]
  | cons entry table ih =>
    unfold insert
    split
    · next heq => rw [find?_cons, find?_cons, heq, if_neg h, if_neg h]
    · rw [find?_cons, find?_cons, ih]

theorem mem_keys_insert :
    other ∈ (insert key value table).map Prod.fst ↔ other = key ∨ other ∈ table.map Prod.fst := by
  induction table with
  | nil => simp [insert]
  | cons entry table ih =>
    unfold insert
    split
    · next heq => simp [heq]
    · simp only [List.map_cons, List.mem_cons, ih]
      exact or_left_comm

theorem nodup_keys_insert (h : (table.map Prod.fst).Nodup) :
    ((insert key value table).map Prod.fst).Nodup := by
  induction table with
  | nil => simp [insert]
  | cons entry table ih =>
    obtain ⟨hentry, htable⟩ := List.nodup_cons.mp h
    unfold insert
    split
    · next heq => exact List.nodup_cons.mpr ⟨heq ▸ hentry, htable⟩
    · next hne =>
      refine List.nodup_cons.mpr ⟨fun hmem => ?_, ih htable⟩
      rcases mem_keys_insert.mp hmem with heq | hmem
      · exact hne heq
      · exact hentry hmem

end Tables

def mergeWith (present : Option Setting) : Setting → Setting
  | .table [] => present.getD (.table [])
  | .table (entry :: incoming) =>
      .table (mergeAll (present.getD .nothing).entries (entry :: incoming))
  | value => value

theorem mergeKey_eq (table : List (Text × Setting)) (name : Text) (value : Setting) :
    mergeKey table name value =
      insert (Text.lower name) (mergeWith (find? (Text.lower name) table) value) table := by
  cases value with
  | table entries => cases entries <;> rfl
  | _ => rfl

-- The value itself, unless it is made of others or is nothing.
def scalar? : Setting → Option Setting
  | .nothing | .list _ | .table _ => none
  | value => some value

theorem eq_of_scalar? {found value : Setting} (h : found.scalar? = some value) : found = value := by
  cases found <;> cases h <;> rfl

def scalarAt? : List Text → Setting → Option Setting
  | [], value => value.scalar?
  | key :: keys, root => (find? key root.entries).bind (scalarAt? keys)

-- What a value says about the setting that some keys lead to in it: nothing, or what stands there
-- once it is merged, if anything. An empty table says nothing.
def tells? : List Text → Setting → Option (Option Setting)
  | _, .table [] => none
  | [], value => some value.scalar?
  | key :: keys, .table entries =>
      entries.reverse.findSome? fun entry =>
        if Text.lower entry.1 = key then tells? keys entry.2 else none
  | _ :: _, _ => some none

def tellsAt? : List Text → List PathPart → Setting → Option (Option Setting)
  | keys, [], value => some (scalarAt? keys value)
  | [], _ :: _, _ => some none
  | _ :: _, .index _ :: _, _ => some none
  | key :: keys, [.key name], value =>
      if Text.lower name = key then tells? keys value else none
  | key :: keys, .key name :: path, value =>
      if Text.lower name = key then tellsAt? keys path value else none

theorem scalarAt?_insert (key : Text) (keys : List Text) (name : Text) (value : Setting)
    (table : List (Text × Setting)) :
    scalarAt? (key :: keys) (.table (insert name value table)) =
      if name = key then scalarAt? keys value else scalarAt? (key :: keys) (.table table) := by
  split
  · next heq =>
    subst heq
    simp [scalarAt?, entries, find?_insert_self]
  · next hne => simp [scalarAt?, entries, find?_insert_of_ne (Ne.symm hne)]

theorem scalarAt?_nothing (keys : List Text) : scalarAt? keys .nothing = none := by
  cases keys <;> rfl

theorem scalarAt?_getD_nothing (keys : List Text) (present : Option Setting) :
    scalarAt? keys (present.getD .nothing) = present.bind (scalarAt? keys) := by
  cases present with
  | none => exact scalarAt?_nothing keys
  | some value => rfl

theorem scalarAt?_entries (key : Text) (keys : List Text) (root : Setting) :
    scalarAt? (key :: keys) (.table root.entries) = scalarAt? (key :: keys) root := rfl

theorem mergeAll_eq_foldl (table incoming : List (Text × Setting)) :
    mergeAll table incoming =
      incoming.foldl (fun table entry => mergeKey table entry.1 entry.2) table := by
  induction incoming generalizing table with
  | nil => rfl
  | cons entry incoming ih => exact ih _

theorem scalarAt?_mergeAll {key : Text} {keys : List Text}
    (hmerge : ∀ present value, scalarAt? keys (mergeWith present value) =
      (tells? keys value).getD (present.bind (scalarAt? keys)))
    (table incoming : List (Text × Setting)) :
    scalarAt? (key :: keys) (.table (mergeAll table incoming)) =
      (incoming.reverse.findSome? fun entry =>
        if Text.lower entry.1 = key then tells? keys entry.2 else none).getD
        (scalarAt? (key :: keys) (.table table)) := by
  rw [mergeAll_eq_foldl]
  refine observe_foldl (fun table => scalarAt? (key :: keys) (.table table)) ?_ incoming table
  intro table entry
  rw [mergeKey_eq, scalarAt?_insert, hmerge]
  by_cases hname : Text.lower entry.1 = key
  · subst hname
    simp [scalarAt?, entries]
  · simp [hname]

theorem scalarAt?_mergeWith (keys : List Text) (present : Option Setting) (value : Setting) :
    scalarAt? keys (mergeWith present value) =
      (tells? keys value).getD (present.bind (scalarAt? keys)) := by
  induction keys generalizing present value with
  | nil =>
    cases value with
    | table entries =>
      cases entries with
      | nil => cases present <;> rfl
      | cons entry incoming => rfl
    | _ => rfl
  | cons key keys ih =>
    cases value with
    | table entries =>
      cases entries with
      | nil => cases present <;> rfl
      | cons entry incoming =>
        rw [mergeWith, scalarAt?_mergeAll ih, scalarAt?_entries, scalarAt?_getD_nothing]
        rfl
    | _ => rfl

theorem scalarAt?_mergeKey (key : Text) (keys : List Text) (root : Setting) (name : Text)
    (value : Setting) :
    scalarAt? (key :: keys) (.table (mergeKey root.entries name value)) =
      (if Text.lower name = key then tells? keys value else none).getD
        (scalarAt? (key :: keys) root) := by
  rw [mergeKey_eq, scalarAt?_insert, scalarAt?_mergeWith]
  by_cases hname : Text.lower name = key
  · subst hname
    simp [scalarAt?]
  · simp [hname, scalarAt?_entries]

theorem scalarAt?_putAt (keys : List Text) (value : Setting) (path : List PathPart)
    (root : Setting) :
    scalarAt? keys (putAt value path root) =
      (tellsAt? keys path value).getD (scalarAt? keys root) := by
  induction path generalizing keys root with
  | nil => cases keys <;> rfl
  | cons part path ih =>
    cases part with
    | index place => cases keys <;> rfl
    | key name =>
      cases keys with
      | nil => cases path <;> rfl
      | cons key keys =>
        cases path with
        | nil => exact scalarAt?_mergeKey key keys root name value
        | cons next path =>
          rw [putAt, scalarAt?_insert, tellsAt?, ih, scalarAt?_getD_nothing]
          by_cases hname : Text.lower name = key
          · subst hname
            simp [scalarAt?]
          · simp [hname, scalarAt?_entries]
          all_goals simp

def DistinctAlong : List Text → Setting → Prop
  | [], _ => True
  | key :: keys, root =>
      (root.entries.map Prod.fst).Nodup ∧
        ∀ value ∈ find? key root.entries, DistinctAlong keys value

theorem distinctAlong_of_entries_eq_nil {keys : List Text} {value : Setting}
    (h : value.entries = []) : value.DistinctAlong keys := by
  cases keys with
  | nil => trivial
  | cons key keys => simp [DistinctAlong, h, find?]

theorem distinctAlong_getD {keys : List Text} {present : Option Setting} {other : Setting}
    (h : ∀ value ∈ present, DistinctAlong keys value) (hother : other.entries = []) :
    (present.getD other).DistinctAlong keys := by
  cases present with
  | none => exact distinctAlong_of_entries_eq_nil hother
  | some value => exact h value rfl

theorem DistinctAlong.insert {key : Text} {keys : List Text} {root value : Setting} {name : Text}
    (h : root.DistinctAlong (key :: keys)) (hvalue : name = key → value.DistinctAlong keys) :
    (Setting.table (Setting.insert name value root.entries)).DistinctAlong (key :: keys) := by
  refine ⟨nodup_keys_insert h.1, fun found hfound => ?_⟩
  rw [entries] at hfound
  by_cases hname : name = key
  · subst hname
    rw [find?_insert_self] at hfound
    exact Option.some.inj hfound ▸ hvalue rfl
  · rw [find?_insert_of_ne (Ne.symm hname)] at hfound
    exact h.2 found hfound

theorem DistinctAlong.mergeAll {key : Text} {keys : List Text}
    (hmerge : ∀ present value, (∀ found ∈ present, DistinctAlong keys found) →
      DistinctAlong keys (mergeWith present value))
    {table : List (Text × Setting)} (h : (Setting.table table).DistinctAlong (key :: keys))
    (incoming : List (Text × Setting)) :
    (Setting.table (Setting.mergeAll table incoming)).DistinctAlong (key :: keys) := by
  rw [mergeAll_eq_foldl]
  refine List.foldlRecOn (motive := fun table => (Setting.table table).DistinctAlong (key :: keys))
    incoming _ h fun table h entry _ => ?_
  rw [mergeKey_eq]
  exact h.insert fun hname => hmerge _ entry.2 (hname ▸ h.2)

theorem distinctAlong_mergeWith {keys : List Text} {present : Option Setting}
    (h : ∀ found ∈ present, DistinctAlong keys found) (value : Setting) :
    (mergeWith present value).DistinctAlong keys := by
  induction keys generalizing present value with
  | nil => trivial
  | cons key keys ih =>
    cases value with
    | table entries =>
      cases entries with
      | nil => exact distinctAlong_getD h rfl
      | cons entry incoming =>
        have hpresent : (present.getD .nothing).DistinctAlong (key :: keys) :=
          distinctAlong_getD h rfl
        exact DistinctAlong.mergeAll (fun present value h => ih h value) hpresent _
    | _ => exact distinctAlong_of_entries_eq_nil rfl

-- Only a whole value put in place of everything could bring a key twice.
theorem DistinctAlong.putAt {keys : List Text} {root : Setting} (h : root.DistinctAlong keys)
    (value : Setting) {path : List PathPart} (hpath : path ≠ []) :
    (Setting.putAt value path root).DistinctAlong keys := by
  induction path generalizing keys root with
  | nil => exact absurd rfl hpath
  | cons part path ih =>
    cases keys with
    | nil => trivial
    | cons key keys =>
      cases part with
      | index place => exact distinctAlong_of_entries_eq_nil rfl
      | key name =>
        have hinner : Text.lower name = key →
            ∀ found ∈ find? (Text.lower name) root.entries, DistinctAlong keys found := by
          rintro rfl
          exact h.2
        cases path with
        | nil =>
          rw [Setting.putAt, mergeKey_eq]
          exact h.insert fun hname => distinctAlong_mergeWith (hinner hname) value
        | cons next path =>
          rw [Setting.putAt]
          · exact h.insert fun hname =>
              ih (distinctAlong_getD (hinner hname) rfl) (List.cons_ne_nil next path)
          · simp

def layerPath (key : Text) : List PathPart := (PathPart.parse? key).getD [.key key]

def layerTells? (keys : List Text) (layer : List (Text × Setting)) : Option (Option Setting) :=
  layer.reverse.findSome? fun entry => tellsAt? keys (layerPath entry.1) entry.2

theorem scalarAt?_addLayer (keys : List Text) (root : Setting) (layer : List (Text × Setting)) :
    scalarAt? keys (addLayer root layer) = (layerTells? keys layer).getD (scalarAt? keys root) :=
  observe_foldl (scalarAt? keys)
    (fun root entry => scalarAt?_putAt keys entry.2 (layerPath entry.1) root) layer root

end Setting

theorem PathPart.ne_nil_of_parse? {text : Text} {path : List PathPart}
    (h : parse? text = some path) : path ≠ [] := by
  unfold parse? at h
  split at h
  · cases h
  · obtain ⟨more, -, rfl⟩ := Option.map_eq_some_iff.mp h
    exact List.cons_ne_nil _ more

namespace Setting

theorem layerPath_ne_nil (key : Text) : layerPath key ≠ [] := by
  unfold layerPath
  cases hparse : PathPart.parse? key with
  | none => exact List.cons_ne_nil _ _
  | some path => exact PathPart.ne_nil_of_parse? hparse

theorem DistinctAlong.addLayer {keys : List Text} {root : Setting} (h : root.DistinctAlong keys)
    (layer : List (Text × Setting)) : (Setting.addLayer root layer).DistinctAlong keys :=
  List.foldlRecOn layer _ h fun _ h entry _ => h.putAt entry.2 (layerPath_ne_nil entry.1)

end Setting

namespace Settings

def fileTells? (keys : List Text) (file : Text) : Option (Option Setting) :=
  (Toml.read? file).bind (Setting.layerTells? keys)

def overrideTells? (keys : List Text) (override : Text × Text) : Option (Option Setting) :=
  (PathPart.parse? override.1).bind fun path => Setting.tellsAt? keys path (.text override.2)

-- That of the last override that says anything about the setting, else that of the last such file.
def lastWord? (keys : List Text) (files : List Text) (overrides : List (Text × Text)) :
    Option (Option Setting) :=
  (overrides.reverse.findSome? (overrideTells? keys)).or (files.reverse.findSome? (fileTells? keys))

theorem lastWord?_append (keys : List Text) (earlier later : List Text)
    (overrides : List (Text × Text)) :
    lastWord? keys (earlier ++ later) overrides =
      (lastWord? keys later overrides).or (lastWord? keys earlier []) := by
  simp [lastWord?, List.findSome?_append, Option.or_assoc]

-- Settings that can be loaded are those of a root in which every setting is what the last word on it
-- says, or else the default.
theorem exists_root_of_load? {files : List Text} {overrides : List (Text × Text)}
    {settings : Settings} (h : load? files overrides = some settings) :
    ∃ root, ofSetting? root = some settings ∧
      ∀ keys, Setting.scalarAt? keys root =
          (lastWord? keys files overrides).getD (Setting.scalarAt? keys defaults) ∧
        (defaults.DistinctAlong keys → root.DistinctAlong keys) := by
  obtain ⟨layers, hlayers, h⟩ := Option.bind_eq_some_iff.mp h
  obtain ⟨paths, hpaths, h⟩ := Option.bind_eq_some_iff.mp h
  refine ⟨_, h, fun keys => ⟨?_, fun hdefaults => ?_⟩⟩
  · have hfiles : layers.reverse.findSome? (Setting.layerTells? keys) =
        files.reverse.findSome? (fileTells? keys) :=
      findSome?_of_forall₂ (List.rel_reverse (forall₂_of_mapM hlayers)) _
    have hoverrides := findSome?_of_forall₂ (List.rel_reverse (forall₂_of_mapM hpaths))
      fun entry => Setting.tellsAt? keys entry.1 (.text entry.2)
    have hlayered := observe_foldl (Setting.scalarAt? keys) (Setting.scalarAt?_addLayer keys)
      layers defaults
    have hroot := observe_foldl (Setting.scalarAt? keys)
      (fun root (entry : List PathPart × Text) =>
        Setting.scalarAt?_putAt keys (.text entry.2) entry.1 root)
      paths (layers.foldl Setting.addLayer defaults)
    rw [hlayered, hfiles, hoverrides] at hroot
    refine hroot.trans ?_
    rw [lastWord?, Option.getD_or]
    congr 2
    funext override
    rw [Option.bind_map]
    rfl
  · have hlayered : (layers.foldl Setting.addLayer defaults).DistinctAlong keys :=
      List.foldlRecOn layers _ hdefaults fun _ h layer _ => h.addLayer layer
    refine List.foldlRecOn paths _ hlayered fun _ h entry hentry => ?_
    obtain ⟨override, -, hoverride⟩ := exists_of_mem_mapM hpaths entry hentry
    obtain ⟨path, hpath, rfl⟩ := Option.map_eq_some_iff.mp hoverride
    exact h.putAt _ (PathPart.ne_nil_of_parse? hpath)

end Settings

end ScoreLexer
