import Mathlib.Algebra.Order.BigOperators.Group.List
import Mathlib.Algebra.Order.Ring.Nat
import Mathlib.Data.List.FinRange
import BoardWarden.Proofs.Settings.Expansion

set_option autoImplicit false

namespace BoardWarden.Settings

def settled (steps : List Step) : Span := ⟨(steps.map fun step => step.settle.nanos).sum⟩

namespace PowerRow

def bits (row : PowerRow) : List (Fin 6) :=
  (List.finRange 6).filter fun bit => row.mask.testBit bit.val

/-- The mask has a bit that stands for no rail. -/
def Strays (row : PowerRow) : Prop := ∃ bit, 5 < bit ∧ row.mask.testBit bit = true

def rise (rails : Vector RailId 6) (row : PowerRow) : List Step :=
  (row.bits.dropLast.map fun bit => ⟨rails[bit], Span.zero⟩) ++
    (row.bits.getLast?.map fun bit => ⟨rails[bit], Span.ofMillis row.delayMillis⟩).toList

theorem named_iff (row : PowerRow) : row.named = true ↔ ¬ row.Strays := by
  rw [named, decide_eq_true_iff, Strays, not_exists]
  simp only [not_and]
  change row.mask < 2 ^ 6 ↔ _
  refine ⟨fun below bit beyond set => ?_, fun clear => Nat.lt_pow_two_of_testBit _ fun bit beyond => ?_⟩
  · have high : row.mask < 2 ^ bit := Nat.lt_of_lt_of_le below (Nat.pow_le_pow_right (by decide) beyond)
    rw [Nat.testBit_lt_two_pow high] at set
    cases set
  · exact Bool.eq_false_iff.2 (clear bit beyond)

theorem masked_eq_bits (rails : Vector RailId 6) (row : PowerRow) :
    PowerRows.masked rails row.mask = row.bits.map fun bit => rails[bit] := by
  have listed : rails.toList.zipIdx = (List.finRange 6).map fun bit => (rails[bit], bit.val) := by
    refine List.ext_getElem (by simp) fun i _ _ => ?_
    simp
  rw [PowerRows.masked, listed, List.filter_map, List.map_map]
  rfl

theorem railCount_eq (row : PowerRow) : row.railCount = row.bits.length := by
  have raised := PowerRows.masked_length (Vector.replicate 6 (⟨0⟩ : RailId)) row.mask
  rw [masked_eq_bits, List.length_map] at raised
  exact raised.symm

theorem steps_eq_rise (rails : Vector RailId 6) (row : PowerRow) : row.steps rails = row.rise rails := by
  rw [steps, masked_eq_bits, List.map_map, rise]
  cases last : row.bits.getLast? with
  | none =>
    obtain none : row.bits = [] := List.getLast?_eq_none_iff.1 last
    simp [none, PowerRows.settleLast]
  | some bit =>
    obtain ⟨front, split⟩ := List.getLast?_eq_some_iff.1 last
    simp [split, PowerRows.settleLast]

theorem settled_rise (rails : Vector RailId 6) (row : PowerRow) :
    settled (row.rise rails) = if row.bits = [] then Span.zero else Span.ofMillis row.delayMillis := by
  rw [rise]
  cases last : row.bits.getLast? with
  | none =>
    obtain none : row.bits = [] := List.getLast?_eq_none_iff.1 last
    simp [none, settled, Span.zero]
  | some bit =>
    obtain ⟨front, split⟩ := List.getLast?_eq_some_iff.1 last
    simp [split, settled, Span.zero, Span.ofMillis, Function.comp_def]

end PowerRow

namespace PowerRows

theorem need_eq_sum (rows : List PowerRow) : need rows = (rows.map fun row => row.bits.length).sum := by
  induction rows with
  | nil => rfl
  | cons row rest ih => rw [need, ih, row.railCount_eq, List.map_cons, List.sum_cons]

theorem flatMap_steps (rails : Vector RailId 6) (rows : List PowerRow) :
    rows.flatMap (PowerRow.steps rails) = rows.flatMap (PowerRow.rise rails) := by
  rw [funext (PowerRow.steps_eq_rise rails)]

theorem settled_flatMap (rails : Vector RailId 6) (rows : List PowerRow) :
    settled (rows.flatMap (PowerRow.rise rails)) =
      Span.ofMillis ((rows.filter fun row => row.bits ≠ []).map PowerRow.delayMillis).sum := by
  induction rows with
  | nil => exact congrArg Span.mk (Nat.zero_mul 1000000).symm
  | cons row rest ih =>
    have first := row.settled_rise rails
    simp only [settled, Span.ofMillis, Span.zero, Span.mk.injEq] at first ih ⊢
    rw [List.flatMap_cons, List.map_append, List.sum_append, ih, List.filter_cons]
    by_cases empty : row.bits = []
    · rw [if_pos empty, Span.mk.injEq] at first
      simp only [empty, first, ne_eq, not_true_eq_false, decide_false, Bool.false_eq_true, ↓reduceIte,
        Nat.zero_add]
    · rw [if_neg empty, Span.mk.injEq] at first
      simp only [empty, first, ne_eq, not_false_eq_true, decide_true, ↓reduceIte, List.map_cons,
        List.sum_cons, Nat.add_mul]

theorem checkMasks_error {step : Nat} {rows : List PowerRow} {defect : Defect}
    (refused : checkMasks step rows = .error defect) :
    ∃ before row after, rows = before ++ row :: after ∧ (∀ other ∈ before, ¬ other.Strays) ∧
      row.Strays ∧ defect = .invalidSupplyMask (step + before.length) row.mask := by
  induction rows generalizing step with
  | nil => cases refused
  | cons row rest ih =>
    rw [checkMasks_cons] at refused
    split at refused
    · rename_i named
      obtain ⟨before, stray, after, rfl, known, strays, rfl⟩ := ih refused
      refine ⟨row :: before, stray, after, rfl, ?_, strays, ?_⟩
      · exact List.forall_mem_cons.2 ⟨row.named_iff.1 named, known⟩
      · rw [List.length_cons, Nat.add_assoc, Nat.add_comm 1]
    · rename_i unnamed
      cases refused
      exact ⟨[], row, rest, rfl, List.forall_mem_nil _, not_not.1 (mt row.named_iff.2 unnamed), rfl⟩

theorem push_error {sequence : List Step} {rails : List RailId} {defect : Defect}
    (refused : push sequence rails = .error defect) : defect = .sequenceOverflow := by
  induction rails generalizing sequence with
  | nil => cases refused
  | cons rail rest ih =>
    simp only [push] at refused
    split at refused
    · exact ih refused
    · cases refused
      rfl

theorem pushRow_error {rails : Vector RailId 6} {sequence : List Step} {row : PowerRow}
    {defect : Defect} (refused : pushRow rails sequence row = .error defect) :
    defect = .sequenceOverflow := by
  simp only [pushRow] at refused
  split at refused
  · cases refused
  · rename_i rail rest _
    cases pushed : push sequence (rail :: rest) with
    | ok steps =>
      rw [pushed] at refused
      cases refused
    | error other =>
      rw [pushed] at refused
      cases refused
      exact push_error pushed

theorem foldRows_error {rails : Vector RailId 6} {rows : List PowerRow} {sequence : List Step}
    {defect : Defect} (refused : rows.foldlM (pushRow rails) sequence = .error defect) :
    defect = .sequenceOverflow := by
  induction rows generalizing sequence with
  | nil => cases refused
  | cons row rest ih =>
    rw [List.foldlM_cons] at refused
    cases pushed : pushRow rails sequence row with
    | ok next =>
      rw [pushed] at refused
      exact ih refused
    | error other =>
      rw [pushed] at refused
      cases refused
      exact pushRow_error pushed

/-- What the stored raise order `r` answers for the rails of a slot. -/
inductive Outcome (r : PowerRows) (rails : Vector RailId 6) : Except Defect (List Step) → Prop where
  | tooMany (many : 8 < r.count) : Outcome r rails (.error (.tooManySteps r.count))
  | stray {before : List PowerRow} {row : PowerRow} {after : List PowerRow} (few : r.count ≤ 8)
      (split : r.rows.toList.take r.count = before ++ row :: after)
      (known : ∀ other ∈ before, ¬ other.Strays) (strays : row.Strays) :
      Outcome r rails (.error (.invalidSupplyMask before.length row.mask))
  | overflow (few : r.count ≤ 8) (known : ∀ row ∈ r.rows.toList.take r.count, ¬ row.Strays)
      (full : 24 < ((r.rows.toList.take r.count).map fun row => row.bits.length).sum) :
      Outcome r rails (.error .sequenceOverflow)
  | expands (few : r.count ≤ 8) (known : ∀ row ∈ r.rows.toList.take r.count, ¬ row.Strays)
      (room : ((r.rows.toList.take r.count).map fun row => row.bits.length).sum ≤ 24) :
      Outcome r rails (.ok ((r.rows.toList.take r.count).flatMap (PowerRow.rise rails)))

theorem sequence_outcome_of_checked (r : PowerRows) (rails : Vector RailId 6) (few : r.count ≤ 8)
    (checked : checkMasks 0 r.used = .ok ()) : r.Outcome rails (r.used.foldlM (pushRow rails) []) := by
  have known : ∀ row ∈ r.used, ¬ row.Strays := by
    have named := checkMasks_eq 0 r.used
    rw [checked] at named
    split at named
    · rename_i all
      exact fun row listed => row.named_iff.1 (List.all_eq_true.1 all row listed)
    · cases named
  have built := foldRows_eq rails r.used [] (Nat.zero_le _)
  rw [List.length_nil, Nat.zero_add, List.nil_append, need_eq_sum, flatMap_steps] at built
  cases folded : r.used.foldlM (pushRow rails) [] with
  | ok steps =>
    rw [folded] at built
    split at built
    · rename_i room
      obtain rfl := Option.some.inj built
      exact .expands few known room
    · cases built
  | error defect =>
    rw [folded] at built
    split at built
    · cases built
    · rename_i full
      rw [foldRows_error folded]
      exact .overflow few known (Nat.not_le.1 full)

theorem sequence_answers (r : PowerRows) (rails : Vector RailId 6) :
    r.Outcome rails (r.sequence rails) := by
  have size : r.rows.size = 8 := rfl
  by_cases many : 8 < r.count
  · have refused : r.validate = .error (.tooManySteps r.count) := by
      rw [validate, size, if_pos many]
    rw [sequence, refused]
    exact .tooMany many
  · have few := Nat.not_lt.1 many
    have validated : r.validate = (checkMasks 0 r.used).map fun _ => r.used := by
      rw [validate, size, if_neg many]
      rfl
    cases checked : checkMasks 0 r.used with
    | ok _ =>
      rw [sequence, validated, checked]
      exact r.sequence_outcome_of_checked rails few checked
    | error defect =>
      rw [sequence, validated, checked]
      obtain ⟨before, row, after, split, known, strays, rfl⟩ := checkMasks_error checked
      rw [Nat.zero_add]
      exact .stray few split known strays

theorem sequence_congr {r r' : PowerRows} (count : r'.count = r.count)
    (rows : r'.rows.toList.take r.count = r.rows.toList.take r.count) (rails : Vector RailId 6) :
    r'.sequence rails = r.sequence rails := by
  have size : r'.rows.size = 8 ∧ r.rows.size = 8 := ⟨rfl, rfl⟩
  simp only [sequence, validate, size, count, rows]

/-- A stored raise order is refused for the first thing that is wrong with it, or is the rails of its
rows in turn. Rows that are not in use do not matter, and the sequence settles for the delays of the
rows that raise a rail. -/
theorem sequence_outcome (r : PowerRows) (rails : Vector RailId 6) :
    r.Outcome rails (r.sequence rails) ∧
      (∀ r' : PowerRows, r'.count = r.count →
        (∀ i < r.count, r'.rows.toList[i]? = r.rows.toList[i]?) →
        r'.sequence rails = r.sequence rails) ∧
      ∀ steps, r.sequence rails = .ok steps → settled steps =
        Span.ofMillis (((r.rows.toList.take r.count).filter fun row => row.bits ≠ []).map
          PowerRow.delayMillis).sum := by
  refine ⟨r.sequence_answers rails, fun r' count rows => sequence_congr count ?_ rails,
    fun steps built => ?_⟩
  · refine List.ext_getElem? fun i => ?_
    rw [List.getElem?_take, List.getElem?_take]
    split
    · rename_i inUse
      exact rows i inUse
    · rfl
  · have answer := r.sequence_answers rails
    rw [built] at answer
    cases answer with
    | expands _ _ _ => exact settled_flatMap rails _

def gappyRows : PowerRows :=
  ⟨3, #v[⟨5, 5⟩, ⟨7, 0⟩, ⟨3, 32⟩, ⟨9, 255⟩, ⟨0, 0⟩, ⟨0, 0⟩, ⟨0, 0⟩, ⟨0, 0⟩]⟩

theorem gappy_rows_rise :
    gappyRows.sequence (Vector.ofFn fun bit => ⟨6 + bit.val⟩) =
        .ok [Step.ofMillis 6 0, Step.ofMillis 8 5, Step.ofMillis 11 3] ∧
      settled [Step.ofMillis 6 0, Step.ofMillis 8 5, Step.ofMillis 11 3] = Span.ofMillis 8 := by
  have built : gappyRows.sequence (Vector.ofFn fun bit => ⟨6 + bit.val⟩) =
      .ok [Step.ofMillis 6 0, Step.ofMillis 8 5, Step.ofMillis 11 3] := by rfl
  have total := (sequence_outcome gappyRows _).2.2 _ built
  exact ⟨built, total.trans (by decide)⟩

end PowerRows

end BoardWarden.Settings
