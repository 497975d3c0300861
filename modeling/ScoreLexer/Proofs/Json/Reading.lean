import ScoreLexer.Proofs.Json.Tokens

namespace ScoreLexer.Json

inductive Composed : Json → Prop where
  | null : Composed .null
  | bool (value : Bool) : Composed (.bool value)
  | number (n : Nat) : Composed (.ofNat n)
  | string (text : Text) : Composed (.ofText text)
  | array {items : List Json} (hitems : ∀ item ∈ items, Composed item) : Composed (.array items)
  | object {members : List (Text × Json)}
      (hkeys : ∀ member ∈ members, ∃ key, member.1 = encodeString key)
      (hvalues : ∀ member ∈ members, Composed member.2) : Composed (.object members)

def beginsValue (c : Char) : Bool :=
  Text.isAsciiDigit c || "nft\x22[\x7b".toList.contains c

theorem beginsValue_of_isAsciiDigit {c : Char} (h : Text.isAsciiDigit c = true) :
    beginsValue c = true := by
  simp [beginsValue, h]

theorem ne_of_beginsValue {c other : Char} (h : beginsValue c = true)
    (hother : beginsValue other = false) : c ≠ other := by
  rintro rfl
  simp [h] at hother

theorem skipBlank_of_beginsValue {c : Char} (h : beginsValue c = true) (rest : Text) :
    skipBlank (c :: rest) = c :: rest := by
  have hspace : c ≠ ' ' := ne_of_beginsValue h rfl
  have hline : c ≠ '\n' := ne_of_beginsValue h rfl
  have htab : c ≠ '\t' := ne_of_beginsValue h rfl
  have hreturn : c ≠ '\r' := ne_of_beginsValue h rfl
  simp [skipBlank, hspace, hline, htab, hreturn]

theorem toDigits_head (n : Nat) :
    ∃ c digits, Nat.toDigits 10 n = c :: digits ∧ Text.isAsciiDigit c = true := by
  obtain ⟨c, digits, hcons, -⟩ := toDigits_eq_cons n
  exact ⟨c, digits, hcons, isAsciiDigit_of_mem_toDigits (by rw [hcons]; exact List.mem_cons_self)⟩

theorem Composed.compact_head {json : Json} (h : json.Composed) :
    ∃ c later, json.compact = c :: later ∧ beginsValue c = true := by
  cases h with
  | null => exact ⟨_, _, rfl, rfl⟩
  | bool value => cases value <;> exact ⟨_, _, rfl, rfl⟩
  | number n =>
    obtain ⟨c, digits, hcons, hdigit⟩ := toDigits_head n
    exact ⟨c, digits, by simp [ofNat, compact, hcons], beginsValue_of_isAsciiDigit hdigit⟩
  | string text => exact ⟨_, _, by simp only [ofText, compact, quote]; rfl, rfl⟩
  | array => exact ⟨_, _, by simp only [compact]; rfl, rfl⟩
  | object => exact ⟨_, _, by simp only [compact]; rfl, rfl⟩

def ReadsBack (json : Json) : Prop :=
  ∀ (fuel : Nat) (rest : Text), json.compact.length < fuel → EndsNumber rest →
    value? fuel (json.compact ++ rest) = some (json, rest)

theorem readsBack_ofNat (n : Nat) : (ofNat n).ReadsBack := by
  intro fuel rest hfuel hrest
  obtain ⟨fuel, rfl⟩ := Nat.exists_eq_add_one_of_ne_zero (Nat.ne_zero_of_lt hfuel)
  obtain ⟨c, digits, hcons, hdigit⟩ := toDigits_head n
  have hskip := skipBlank_of_beginsValue (beginsValue_of_isAsciiDigit hdigit) (digits ++ rest)
  have hnumber := number?_toDigits n hrest
  rw [hcons] at hnumber
  have hne {other : Char} (hother : Text.isAsciiDigit other = false) : c ≠ other := by
    rintro rfl
    simp [hdigit] at hother
  have hbrace : c ≠ '\x7b' := hne rfl
  have hbracket : c ≠ '[' := hne rfl
  have hquote : c ≠ '"' := hne rfl
  have hn : c ≠ 'n' := hne rfl
  have ht : c ≠ 't' := hne rfl
  have hf : c ≠ 'f' := hne rfl
  rw [List.cons_append] at hnumber
  simp [ofNat, compact, hcons, value?, hskip, hbrace, hbracket, hquote, hn, ht, hf, hnumber]

theorem readsBack_ofText (text : Text) : (ofText text).ReadsBack := by
  intro fuel rest hfuel _
  obtain ⟨fuel, rfl⟩ := Nat.exists_eq_add_one_of_ne_zero (Nat.ne_zero_of_lt hfuel)
  have hskip := skipBlank_of_beginsValue (c := '"') rfl (encodeString text ++ '"' :: rest)
  simp [ofText, compact, quote, value?, hskip, string?_encodeString]

theorem endsNumber_cons {c : Char}
    (h : Text.isAsciiDigit c = false ∧ c ≠ '.' ∧ c ≠ 'e' ∧ c ≠ 'E') (rest : Text) :
    EndsNumber (c :: rest) := by
  intro other hother
  obtain rfl := Option.some.inj hother
  exact h

-- Every item uses up some fuel, and the text of the items that follow is shorter by as much.
theorem items?_separate {items : List Json} (hne : items ≠ [])
    (hitems : ∀ item ∈ items, item.ReadsBack) (fuel : Nat) (rest : Text)
    (hfuel : (separate [','] (compactItems items)).length + 1 < fuel) :
    items? fuel (separate [','] (compactItems items) ++ ']' :: rest) = some (items, rest) := by
  induction items generalizing fuel with
  | nil => exact absurd rfl hne
  | cons item items ih =>
    obtain ⟨fuel, rfl⟩ := Nat.exists_eq_add_one_of_ne_zero (Nat.ne_zero_of_lt hfuel)
    obtain ⟨hitem, hlater⟩ := List.forall_mem_cons.mp hitems
    cases items with
    | nil =>
      have hparts : separate [','] (compactItems [item]) = item.compact := by
        simp [separate, compactItems]
      rw [hparts] at hfuel ⊢
      have hvalue := hitem fuel (']' :: rest) (by omega) (endsNumber_cons (by decide) rest)
      simp [items?, hvalue, skipBlank]
    | cons next items =>
      have hparts : separate [','] (compactItems (item :: next :: items)) =
          item.compact ++ ',' :: separate [','] (compactItems (next :: items)) := by
        simp [separate, compactItems, List.intercalate_cons_cons]
      rw [hparts, List.length_append, List.length_cons] at hfuel
      have hvalue := hitem fuel
        (',' :: (separate [','] (compactItems (next :: items)) ++ ']' :: rest)) (by omega)
        (endsNumber_cons (by decide) _)
      have hnext := ih (List.cons_ne_nil _ _) hlater fuel (by omega)
      rw [hparts, List.append_assoc, List.cons_append, items?, hvalue]
      simp [skipBlank, hnext]

theorem members?_separate {members : List (Text × Json)} (hne : members ≠ [])
    (hkeys : ∀ member ∈ members, ∃ key, member.1 = encodeString key)
    (hvalues : ∀ member ∈ members, member.2.ReadsBack) (fuel : Nat) (rest : Text)
    (hfuel : (separate [','] (compactMembers members)).length + 1 < fuel) :
    members? fuel (separate [','] (compactMembers members) ++ '\x7d' :: rest) =
      some (members, rest) := by
  induction members generalizing fuel with
  | nil => exact absurd rfl hne
  | cons member members ih =>
    obtain ⟨fuel, rfl⟩ := Nat.exists_eq_add_one_of_ne_zero (Nat.ne_zero_of_lt hfuel)
    obtain ⟨written, value⟩ := member
    simp only [List.forall_mem_cons] at hkeys hvalues
    obtain ⟨⟨key, rfl⟩, hlaterKeys⟩ := hkeys
    obtain ⟨hback, hlater⟩ := hvalues
    cases members with
    | nil =>
      have hparts : separate [','] (compactMembers [(encodeString key, value)]) =
          '"' :: encodeString key ++ '"' :: ':' :: value.compact := by
        simp [separate, compactMembers, quote]
      rw [hparts] at hfuel ⊢
      simp only [List.length_append, List.length_cons] at hfuel
      have hvalue := hback fuel ('\x7d' :: rest) (by omega) (endsNumber_cons (by decide) rest)
      simp [members?, skipBlank, string?_encodeString, hvalue]
    | cons next members =>
      have hparts : separate [','] (compactMembers ((encodeString key, value) :: next :: members)) =
          '"' :: encodeString key ++ '"' :: ':' :: value.compact ++
            ',' :: separate [','] (compactMembers (next :: members)) := by
        obtain ⟨written, following⟩ := next
        simp [separate, compactMembers, quote, List.intercalate_cons_cons]
      rw [hparts] at hfuel ⊢
      simp only [List.length_append, List.length_cons] at hfuel
      have hvalue := hback fuel
        (',' :: (separate [','] (compactMembers (next :: members)) ++ '\x7d' :: rest)) (by omega)
        (endsNumber_cons (by decide) _)
      have hnext := ih (List.cons_ne_nil _ _) hlaterKeys hlater fuel (by omega)
      simp [members?, skipBlank, string?_encodeString, hvalue, hnext]

theorem separate_append_eq_cons {part : Text} {c : Char} {later : Text} (hpart : part = c :: later)
    (parts : List Text) (rest : Text) :
    ∃ following, separate [','] (part :: parts) ++ rest = c :: following := by
  subst hpart
  cases parts with
  | nil => exact ⟨later ++ rest, by simp [separate]⟩
  | cons next parts =>
    exact ⟨later ++ ',' :: separate [','] (next :: parts) ++ rest,
      by simp [separate, List.intercalate_cons_cons]⟩

theorem readsBack_array {items : List Json} (hitems : ∀ item ∈ items, item.Composed)
    (hback : ∀ item ∈ items, item.ReadsBack) : (array items).ReadsBack := by
  intro fuel rest hfuel _
  obtain ⟨fuel, rfl⟩ := Nat.exists_eq_add_one_of_ne_zero (Nat.ne_zero_of_lt hfuel)
  have hopen (later : Text) : skipBlank ('[' :: later) = '[' :: later :=
    skipBlank_of_beginsValue rfl later
  cases items with
  | nil => simp [compact, compactItems, separate, value?, skipBlank]
  | cons item items =>
    have hread := items?_separate (List.cons_ne_nil item items) hback fuel rest
      (by simpa [compact] using hfuel)
    obtain ⟨c, later, hcompact, hc⟩ := (hitems item List.mem_cons_self).compact_head
    obtain ⟨following, hfollowing⟩ :=
      separate_append_eq_cons hcompact (compactItems items) (']' :: rest)
    have hclose : c ≠ ']' := ne_of_beginsValue hc rfl
    rw [compactItems, hfollowing] at hread
    simp [compact, compactItems, hfollowing, value?, hopen, skipBlank_of_beginsValue hc, hclose,
      hread]

theorem readsBack_object {members : List (Text × Json)}
    (hkeys : ∀ member ∈ members, ∃ key, member.1 = encodeString key)
    (hback : ∀ member ∈ members, member.2.ReadsBack) : (object members).ReadsBack := by
  intro fuel rest hfuel _
  obtain ⟨fuel, rfl⟩ := Nat.exists_eq_add_one_of_ne_zero (Nat.ne_zero_of_lt hfuel)
  have hopen (later : Text) : skipBlank ('\x7b' :: later) = '\x7b' :: later :=
    skipBlank_of_beginsValue rfl later
  have hquote (later : Text) : skipBlank ('"' :: later) = '"' :: later :=
    skipBlank_of_beginsValue rfl later
  cases members with
  | nil => simp [compact, compactMembers, separate, value?, skipBlank]
  | cons member members =>
    have hread := members?_separate (List.cons_ne_nil member members) hkeys hback fuel rest
      (by simpa [compact] using hfuel)
    obtain ⟨written, value⟩ := member
    have hmember : quote written ++ ':' :: value.compact =
        '"' :: (written ++ ['"'] ++ ':' :: value.compact) := rfl
    obtain ⟨following, hfollowing⟩ :=
      separate_append_eq_cons hmember (compactMembers members) ('\x7d' :: rest)
    rw [compactMembers, hfollowing] at hread
    simp [compact, compactMembers, hfollowing, value?, hopen, hquote, hread]

theorem Composed.readsBack {json : Json} (h : json.Composed) : json.ReadsBack := by
  induction h with
  | null =>
    intro fuel rest hfuel _
    obtain ⟨fuel, rfl⟩ := Nat.exists_eq_add_one_of_ne_zero (Nat.ne_zero_of_lt hfuel)
    simp [compact, value?, skipBlank]
  | bool value =>
    intro fuel rest hfuel _
    obtain ⟨fuel, rfl⟩ := Nat.exists_eq_add_one_of_ne_zero (Nat.ne_zero_of_lt hfuel)
    cases value <;> simp [compact, value?, skipBlank]
  | number n => exact readsBack_ofNat n
  | string text => exact readsBack_ofText text
  | array hitems ih => exact readsBack_array hitems ih
  | object hkeys hvalues ih => exact readsBack_object hkeys ih

theorem Composed.read?_compact {json : Json} (h : json.Composed) :
    read? json.compact = some (json, []) := by
  have hread := h.readsBack (2 * json.compact.length + 2) [] (by omega) (by simp [EndsNumber])
  rwa [List.append_nil] at hread

end ScoreLexer.Json
