import Mathlib.Algebra.Ring.Int.Defs
import Mathlib.Data.List.Infix
import Mathlib.Data.List.TakeWhile
import ScoreLexer.Document.Indent

namespace ScoreLexer

def balance (kinds : List Kind) : Int := (kinds.map Kind.indentDelta).sum

-- The least balance of the beginnings of a list, the empty one among them.
def lowestBalance (kinds : List Kind) : Int := (kinds.inits.map balance).foldl min 0

def reflectedDepth (kinds : List Kind) : Int := balance kinds - lowestBalance kinds

-- The closers that a line begins with and the blanks among and behind them.
def closersAhead (line : List Kind) : List Kind :=
  line.takeWhile fun kind => kind.isSpace || kind.indentDelta == -1

def openers (kinds : List Kind) : Nat := kinds.countP fun kind => kind.indentDelta == 1

def closers (kinds : List Kind) : Nat := kinds.countP fun kind => kind.indentDelta == -1

theorem Kind.indentDelta_cases (kind : Kind) :
    kind.indentDelta = 1 ∨ kind.indentDelta = -1 ∨ kind.indentDelta = 0 := by
  unfold indentDelta
  split <;> simp

theorem Kind.indentDelta_of_isSpace {kind : Kind} (h : kind.isSpace = true) :
    kind.indentDelta = 0 := by
  cases kind with
  | space | blockCommentSpace => rfl
  | _ => exact absurd h (by decide)

theorem balance_eq_openers_sub_closers (kinds : List Kind) :
    balance kinds = openers kinds - closers kinds := by
  induction kinds with
  | nil => rfl
  | cons kind kinds ih =>
    have hcons : balance (kind :: kinds) = kind.indentDelta + balance kinds := by simp [balance]
    rw [hcons, ih]
    obtain hdelta | hdelta | hdelta := kind.indentDelta_cases <;>
      simp [openers, closers, hdelta] <;> omega

theorem balance_concat (front : List Kind) (kind : Kind) :
    balance (front ++ [kind]) = balance front + kind.indentDelta := by
  simp [balance]

theorem lowestBalance_concat (front : List Kind) (kind : Kind) :
    lowestBalance (front ++ [kind]) =
      min (lowestBalance front) (balance front + kind.indentDelta) := by
  have hinits : (front ++ [kind]).inits = front.inits ++ [front ++ [kind]] := by
    simp [List.inits_append]
  simp [lowestBalance, hinits, balance_concat]

theorem reflectedDepth_concat (front : List Kind) (kind : Kind) :
    reflectedDepth (front ++ [kind]) = max 0 (reflectedDepth front + kind.indentDelta) := by
  rw [reflectedDepth, reflectedDepth, lowestBalance_concat, balance_concat]
  omega

theorem reflectedDepth_nonneg (kinds : List Kind) : 0 ≤ reflectedDepth kinds := by
  induction kinds using List.reverseRecOn with
  | nil => decide
  | append_singleton front kind _ =>
    rw [reflectedDepth_concat]
    omega

theorem cast_foldl_deepen {depth : Nat} {front : List Kind}
    (h : (depth : Int) = reflectedDepth front) (kinds : List Kind) :
    ((kinds.foldl deepen depth : Nat) : Int) = reflectedDepth (front ++ kinds) := by
  induction kinds generalizing depth front with
  | nil => rwa [List.append_nil]
  | cons kind kinds ih =>
    have hstep : ((deepen depth kind : Nat) : Int) = reflectedDepth (front ++ [kind]) := by
      rw [reflectedDepth_concat, ← h, deepen]
      omega
    rw [List.foldl_cons, ih hstep, List.append_assoc, List.singleton_append]

theorem cast_foldl_deepen_toNat (front kinds : List Kind) :
    ((kinds.foldl deepen (reflectedDepth front).toNat : Nat) : Int) =
      reflectedDepth (front ++ kinds) :=
  cast_foldl_deepen (Int.toNat_of_nonneg (reflectedDepth_nonneg front)) kinds

-- Closers at the start of a line are counted against the depth there, and cut off once for all of
-- them. One by one they are cut off each time, which comes to the same.
theorem reflectedDepth_closersAhead (front line : List Kind) :
    reflectedDepth (front ++ closersAhead line) =
      max 0 (reflectedDepth front - leadingClosers line) := by
  induction line generalizing front with
  | nil =>
    have hnonneg := reflectedDepth_nonneg front
    simp only [closersAhead, leadingClosers, List.takeWhile_nil, List.filter_nil, List.append_nil,
      List.length_nil]
    omega
  | cons kind line ih =>
    have hnonneg := reflectedDepth_nonneg front
    have hstep := reflectedDepth_concat front kind
    by_cases hspace : kind.isSpace = true
    · have hahead : closersAhead (kind :: line) = kind :: closersAhead line := by
        simp [closersAhead, hspace]
      have hleading : leadingClosers (kind :: line) = leadingClosers line := by
        simp [leadingClosers, hspace]
      rw [hahead, List.append_cons, ih, hleading, hstep, Kind.indentDelta_of_isSpace hspace]
      omega
    · by_cases hcloser : kind.indentDelta = -1
      · have hahead : closersAhead (kind :: line) = kind :: closersAhead line := by
          simp [closersAhead, hcloser]
        have hleading : leadingClosers (kind :: line) = leadingClosers line + 1 := by
          simp [leadingClosers, hspace, hcloser]
        rw [hahead, List.append_cons, ih, hleading, hstep, hcloser]
        omega
      · have hahead : closersAhead (kind :: line) = [] := by
          simp [closersAhead, hspace, hcloser]
        have hnot : ¬kind.indentDelta < 0 := by
          obtain hdelta | hdelta | hdelta := kind.indentDelta_cases <;> omega
        have hleading : leadingClosers (kind :: line) = 0 := by
          simp [leadingClosers, hspace, hnot]
        rw [hahead, List.append_nil, hleading]
        omega

theorem indentsFrom_append (depth : Nat) (above below : List (List Kind)) :
    indentsFrom depth (above ++ below) =
      indentsFrom depth above ++ indentsFrom (above.flatten.foldl deepen depth) below := by
  induction above generalizing depth with
  | nil => rfl
  | cons line above ih =>
    rw [List.cons_append, indentsFrom, indentsFrom, ih, List.cons_append, List.flatten_cons,
      List.foldl_append]

theorem lineIndents_append_cons (above : List (List Kind)) (line : List Kind)
    (below : List (List Kind)) :
    lineIndents (above ++ line :: below) =
      lineIndents above ++ (reflectedDepth (above.flatten ++ closersAhead line)).toNat ::
        indentsFrom (reflectedDepth (above.flatten ++ line)).toNat below := by
  have hstart : ((0 : Nat) : Int) = reflectedDepth [] := rfl
  have hdepth : ((above.flatten.foldl deepen 0 : Nat) : Int) = reflectedDepth above.flatten :=
    cast_foldl_deepen hstart above.flatten
  have hahead := reflectedDepth_closersAhead above.flatten line
  have hline := cast_foldl_deepen hdepth line
  rw [lineIndents, indentsFrom_append, indentsFrom, lineIndents]
  congr 2
  · omega
  · rw [← hline, Int.toNat_natCast]

theorem reflectedDepth_eq_balance {kinds : List Kind}
    (h : ∀ front, front <+: kinds → 0 ≤ balance front) : reflectedDepth kinds = balance kinds := by
  induction kinds using List.reverseRecOn with
  | nil => rfl
  | append_singleton front kind ih =>
    have hfront : reflectedDepth front = balance front :=
      ih fun earlier hearlier => h earlier (hearlier.trans (List.prefix_append front [kind]))
    have hwhole : 0 ≤ balance (front ++ [kind]) := h _ (List.prefix_refl _)
    rw [reflectedDepth_concat, hfront, ← balance_concat]
    omega

theorem reflectedDepth_stray {front : List Kind} (hfront : reflectedDepth front = 0) {closer : Kind}
    (hcloser : closer.indentDelta = -1) (back : List Kind) :
    reflectedDepth (front ++ closer :: back) = reflectedDepth (front ++ back) := by
  have hstep : reflectedDepth (front ++ [closer]) = 0 := by
    rw [reflectedDepth_concat, hfront, hcloser]
    rfl
  rw [List.append_cons, ← cast_foldl_deepen_toNat (front ++ [closer]), hstep,
    ← cast_foldl_deepen_toNat front, hfront]

theorem reflectedDepth_closersAhead_stray {above front : List Kind}
    (hdepth : reflectedDepth (above ++ front) = 0) {closer : Kind}
    (hcloser : closer.indentDelta = -1) (back : List Kind) :
    reflectedDepth (above ++ closersAhead (front ++ closer :: back)) =
      reflectedDepth (above ++ closersAhead (front ++ back)) := by
  by_cases hall : ∀ kind ∈ front, (kind.isSpace || kind.indentDelta == -1) = true
  · have hahead : closersAhead (front ++ closer :: back) =
        front ++ closer :: closersAhead back := by
      rw [closersAhead, List.takeWhile_append_of_pos hall,
        List.takeWhile_cons_of_pos (by simp [hcloser]), closersAhead]
    have hwithout : closersAhead (front ++ back) = front ++ closersAhead back := by
      rw [closersAhead, List.takeWhile_append_of_pos hall, closersAhead]
    rw [hahead, hwithout, ← List.append_assoc, ← List.append_assoc,
      reflectedDepth_stray hdepth hcloser]
  · -- the closers at the start of the line are over before the stray one
    have hahead (rest : List Kind) : closersAhead (front ++ rest) = closersAhead front := by
      rw [closersAhead, List.takeWhile_append, if_neg, closersAhead]
      intro hlength
      exact hall (List.takeWhile_eq_self_iff.mp
        ((List.takeWhile_prefix _).eq_of_length hlength))
    rw [hahead, hahead]

-- The indent of a line is the depth right behind the closers that it begins with, where the depth
-- is openers less closers above its least value so far. It is that difference itself as long as
-- closers never outnumber openers, and a closer where nothing is open might as well not be there.
theorem lineIndents_eq_reflectedDepth (above : List (List Kind)) (line : List Kind)
    (below : List (List Kind)) :
    let lines := above ++ line :: below
    let seen := above.flatten ++ closersAhead line
    (lineIndents lines).length = lines.length ∧
      (lineIndents lines)[above.length]?.map Int.ofNat = some (reflectedDepth seen) ∧
      0 ≤ reflectedDepth seen ∧
      ((∀ front, front <+: seen → closers front ≤ openers front) →
        (lineIndents lines)[above.length]?.map Int.ofNat =
          some ((openers seen : Int) - closers seen)) ∧
      ∀ front closer back, line = front ++ closer :: back → closer.indentDelta = -1 →
        reflectedDepth (above.flatten ++ front) = 0 →
          lineIndents lines = lineIndents (above ++ (front ++ back) :: below) := by
  intro lines seen
  have hnonneg := reflectedDepth_nonneg seen
  have hindent : (lineIndents lines)[above.length]?.map Int.ofNat = some (reflectedDepth seen) := by
    have hlength : (lineIndents above).length = above.length := length_indentsFrom 0 above
    rw [lineIndents_append_cons, List.getElem?_append_right (by omega), hlength, Nat.sub_self,
      List.getElem?_cons_zero, Option.map_some]
    exact congrArg some (Int.toNat_of_nonneg hnonneg)
  refine ⟨length_indentsFrom 0 lines, hindent, hnonneg, ?_, ?_⟩
  · intro hopen
    have hbalance : ∀ front, front <+: seen → 0 ≤ balance front := by
      intro front hfront
      have := hopen front hfront
      rw [balance_eq_openers_sub_closers]
      omega
    rw [hindent, reflectedDepth_eq_balance hbalance, balance_eq_openers_sub_closers]
  · rintro front closer back rfl hcloser hdepth
    rw [lineIndents_append_cons, lineIndents_append_cons,
      reflectedDepth_closersAhead_stray hdepth hcloser, ← List.append_assoc, ← List.append_assoc,
      reflectedDepth_stray hdepth hcloser]

-- A block that is opened and closed, with a line between that begins with a closer, and a line that
-- begins with a closer where nothing is open any more.
theorem lineIndents_eq_reflectedDepth_stray :
    let above : List (List Kind) :=
      [[.sequentialStart, .simultaneousStart], [.space, .simultaneousEnd, .note]]
    let line : List Kind := [.space, .sequentialEnd]
    let below : List (List Kind) := [[.sequentialEnd, .sequentialStart], [.note]]
    let seen := above.flatten ++ closersAhead line
    (∀ front, front <+: seen → closers front ≤ openers front) ∧
      (lineIndents (above ++ line :: below))[2]?.map Int.ofNat = some 0 ∧
      reflectedDepth ((above ++ [line]).flatten ++ []) = 0 ∧
      lineIndents (above ++ line :: below) =
        lineIndents (above ++ line :: [[.sequentialStart], [.note]]) := by
  intro above line below seen
  have hopen : ∀ front, front <+: seen → closers front ≤ openers front := by
    have hinits : ∀ front ∈ seen.inits, closers front ≤ openers front := by decide
    exact fun front hfront => hinits front ((List.mem_inits front seen).mpr hfront)
  have hzero : reflectedDepth ((above ++ [line]).flatten ++ []) = 0 := by decide
  refine ⟨hopen, (lineIndents_eq_reflectedDepth above line below).2.2.2.1 hopen, hzero, ?_⟩
  exact (lineIndents_eq_reflectedDepth (above ++ [line]) [.sequentialEnd, .sequentialStart]
    [[.note]]).2.2.2.2 [] .sequentialEnd [.sequentialStart] rfl rfl hzero

end ScoreLexer
