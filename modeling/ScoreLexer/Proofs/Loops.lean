import Mathlib.Data.List.Forall2

namespace ScoreLexer

theorem exists_of_bind_eq_ok {α β ε : Type} {first : Except ε α} {next : α → Except ε β} {last : β}
    (h : first >>= next = .ok last) : ∃ middle, first = .ok middle ∧ next middle = .ok last := by
  cases first with
  | error error => cases h
  | ok middle => exact ⟨middle, rfl, h⟩

theorem of_foldlM_eq_ok {α β ε : Type} {step : β → α → Except ε β} (property : β → Prop)
    (hstep : ∀ {state next : β} {item : α}, property state → step state item = .ok next →
      property next)
    {items : List α} {start last : β} (hstart : property start)
    (h : items.foldlM step start = .ok last) : property last := by
  induction items generalizing start with
  | nil =>
    obtain rfl := Except.ok.inj h
    exact hstart
  | cons item items ih =>
    rw [List.foldlM_cons] at h
    obtain ⟨next, hnext, hrest⟩ := exists_of_bind_eq_ok h
    exact ih (hstep hstart hnext) hrest

theorem mapM_map_of_forall {α β : Type} {encode : α → β} {decode : β → Option α} {items : List α}
    (h : ∀ item ∈ items, decode (encode item) = some item) :
    (items.map encode).mapM decode = some items := by
  induction items with
  | nil => rfl
  | cons item items ih =>
    obtain ⟨hitem, hitems⟩ := List.forall_mem_cons.mp h
    rw [List.map_cons, List.mapM_cons, hitem, ih hitems]
    rfl

theorem forall₂_of_mapM {α β : Type} {decode : α → Option β} {items : List α} {results : List β}
    (h : items.mapM decode = some results) :
    List.Forall₂ (fun item result => decode item = some result) items results := by
  induction items generalizing results with
  | nil =>
    obtain rfl : [] = results := Option.some.inj h
    exact .nil
  | cons item items ih =>
    rw [List.mapM_cons] at h
    obtain ⟨first, hfirst, h⟩ := Option.bind_eq_some_iff.mp h
    obtain ⟨later, hlater, h⟩ := Option.bind_eq_some_iff.mp h
    obtain rfl : first :: later = results := Option.some.inj h
    exact .cons hfirst (ih hlater)

theorem exists_of_mem_mapM {α β : Type} {decode : α → Option β} {items : List α}
    {results : List β} (h : items.mapM decode = some results) :
    ∀ result ∈ results, ∃ item ∈ items, decode item = some result := by
  have hall := forall₂_of_mapM h
  clear h
  induction hall with
  | nil => simp
  | @cons item result items results hfirst _ ih =>
    intro found hfound
    rcases List.mem_cons.mp hfound with rfl | hfound
    · exact ⟨item, List.mem_cons_self, hfirst⟩
    · obtain ⟨earlier, hmem, hdecode⟩ := ih found hfound
      exact ⟨earlier, List.mem_cons_of_mem item hmem, hdecode⟩

theorem findSome?_of_forall₂ {α β γ : Type} {decode : α → Option β} {items : List α}
    {results : List β} (h : List.Forall₂ (fun item result => decode item = some result) items results)
    (found? : β → Option γ) :
    results.findSome? found? = items.findSome? fun item => (decode item).bind found? := by
  induction h with
  | nil => rfl
  | cons hfirst _ ih => rw [List.findSome?_cons, List.findSome?_cons, hfirst, ih, Option.bind_some]

-- Each step decides what is observed or leaves it as it is.
theorem observe_foldl {σ α β : Type} {step : σ → α → σ} (observe : σ → β) {tells? : α → Option β}
    (h : ∀ state item, observe (step state item) = (tells? item).getD (observe state))
    (items : List α) (start : σ) :
    observe (items.foldl step start) = (items.reverse.findSome? tells?).getD (observe start) := by
  induction items generalizing start with
  | nil => rfl
  | cons item items ih =>
    have hitem : [item].findSome? tells? = tells? item := by
      cases htells : tells? item <;> simp [htells]
    rw [List.foldl_cons, ih, h, List.reverse_cons, List.findSome?_append, Option.getD_or, hitem]

end ScoreLexer
