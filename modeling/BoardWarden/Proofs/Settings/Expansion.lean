import BoardWarden.Settings.Expansion

set_option autoImplicit false

namespace BoardWarden.Settings

theorem toOption_map {α β : Type} (x : Except Defect α) (f : α → β) :
    (x.map f).toOption = x.toOption.map f := by
  cases x <;> rfl

namespace PowerRow

def railCount (row : PowerRow) : Nat :=
  (List.range PowerRows.railCount).countP row.mask.testBit

def named (row : PowerRow) : Bool := decide (row.mask < Nat.pow 2 PowerRows.railCount)

def steps (rails : Vector RailId 6) (row : PowerRow) : List Step :=
  PowerRows.settleLast ((PowerRows.masked rails row.mask).map fun rail => ⟨rail, Span.zero⟩)
    (Span.ofMillis row.delayMillis)

end PowerRow

namespace PowerRows

def used (r : PowerRows) : List PowerRow := r.rows.toList.take r.count

def need : List PowerRow → Nat
  | [] => 0
  | row :: rest => row.railCount + need rest

def expansion (r : PowerRows) (rails : Vector RailId 6) : List Step :=
  r.used.flatMap (PowerRow.steps rails)

theorem masked_length (rails : Vector RailId 6) (mask : Nat) :
    (masked rails mask).length = (List.range railCount).countP mask.testBit := by
  have bits : rails.toList.zipIdx.map Prod.snd = List.range railCount := by
    rw [List.zipIdx_map_snd, Vector.length_toList, ← List.range_eq_range']
    rfl
  rw [masked, List.length_map, ← List.countP_eq_length_filter, ← bits, List.countP_map]
  rfl

theorem settleLast_append (sequence : List Step) (first : Step) (rest : List Step) (settle : Span) :
    settleLast (sequence ++ first :: rest) settle =
      sequence ++ settleLast (first :: rest) settle := by
  obtain ⟨front, last, split⟩ : ∃ front last, first :: rest = front ++ [last] :=
    ⟨_, _, (List.dropLast_concat_getLast (List.cons_ne_nil first rest)).symm⟩
  rw [split, ← List.append_assoc]
  simp [settleLast]

theorem settleLast_length (sequence : List Step) (settle : Span) :
    (settleLast sequence settle).length = sequence.length := by
  simp only [settleLast]
  split
  · rfl
  · rename_i step last
    have some : sequence ≠ [] := by
      rintro rfl
      cases last
    have pos := List.length_pos_iff.2 some
    simp only [List.length_append, List.length_dropLast, List.length_cons, List.length_nil]
    omega

theorem steps_length (rails : Vector RailId 6) (row : PowerRow) :
    (row.steps rails).length = row.railCount := by
  rw [PowerRow.steps, settleLast_length, List.length_map, masked_length, PowerRow.railCount]

theorem push_eq (sequence : List Step) (rails : List RailId)
    (room : sequence.length ≤ Step.sequenceLimit) :
    (push sequence rails).toOption =
      if sequence.length + rails.length ≤ Step.sequenceLimit then
        some (sequence ++ rails.map fun rail => ⟨rail, Span.zero⟩)
      else none := by
  induction rails generalizing sequence with
  | nil => simp [push, room, Except.toOption]
  | cons rail rest ih =>
    simp only [push]
    split
    · rename_i more
      have length : (sequence ++ [(⟨rail, Span.zero⟩ : Step)]).length = sequence.length + 1 := by simp
      rw [ih _ (by omega), length]
      simp only [List.length_cons, List.map_cons, List.append_assoc, List.singleton_append,
        Nat.add_assoc, Nat.add_comm 1]
    · rename_i full
      have tooMany : ¬ sequence.length + (rail :: rest).length ≤ Step.sequenceLimit := by
        simp only [List.length_cons]
        omega
      rw [if_neg tooMany]
      rfl

theorem pushRow_eq (rails : Vector RailId 6) (sequence : List Step) (row : PowerRow)
    (room : sequence.length ≤ Step.sequenceLimit) :
    (pushRow rails sequence row).toOption =
      if sequence.length + row.railCount ≤ Step.sequenceLimit then
        some (sequence ++ row.steps rails)
      else none := by
  have count : row.railCount = (masked rails row.mask).length := (masked_length rails row.mask).symm
  rw [count]
  simp only [pushRow, PowerRow.steps]
  cases masked rails row.mask with
  | nil => simp [settleLast, room, Except.toOption]
  | cons rail rest =>
    rw [toOption_map, push_eq sequence (rail :: rest) room]
    split
    · simp only [Option.map_some, List.map_cons, settleLast_append]
    · rfl

theorem foldRows_eq (rails : Vector RailId 6) (rows : List PowerRow) (sequence : List Step)
    (room : sequence.length ≤ Step.sequenceLimit) :
    (rows.foldlM (pushRow rails) sequence).toOption =
      if sequence.length + need rows ≤ Step.sequenceLimit then
        some (sequence ++ rows.flatMap (PowerRow.steps rails))
      else none := by
  -- What is built so far has room: the next row joins it, or all rows together have none.
  induction rows generalizing sequence with
  | nil => simp [room, need, Except.toOption, pure, Except.pure]
  | cons row rest ih =>
    have first := pushRow_eq rails sequence row room
    rw [List.foldlM_cons, need, List.flatMap_cons]
    cases pushed : pushRow rails sequence row with
    | error defect =>
      rw [pushed] at first
      split at first
      · cases first
      · rename_i tooMany
        have more : ¬ sequence.length + (row.railCount + need rest) ≤
            Step.sequenceLimit := by omega
        rw [if_neg more]
        rfl
    | ok next =>
      rw [pushed] at first
      split at first
      · rename_i fits
        obtain rfl : next = sequence ++ row.steps rails := by simpa [Except.toOption] using first
        have length : (sequence ++ row.steps rails).length = sequence.length + row.railCount := by
          rw [List.length_append, steps_length]
        have later := ih (sequence ++ row.steps rails) (by omega)
        rw [length, Nat.add_assoc, List.append_assoc] at later
        exact later
      · cases first

theorem checkMasks_cons (step : Nat) (row : PowerRow) (rest : List PowerRow) :
    checkMasks step (row :: rest) =
      if row.named then checkMasks (step + 1) rest
      else .error (.invalidSupplyMask step row.mask) := by
  by_cases known : row.mask < Nat.pow 2 railCount
  · have named : row.named = true := decide_eq_true known
    rw [named]
    exact if_pos known
  · have named : row.named = false := decide_eq_false known
    rw [named]
    exact if_neg known

theorem checkMasks_eq (step : Nat) (rows : List PowerRow) :
    (checkMasks step rows).toOption = if rows.all PowerRow.named then some () else none := by
  induction rows generalizing step with
  | nil => rfl
  | cons row rest ih =>
    rw [checkMasks_cons, List.all_cons]
    cases row.named with
    | true => exact ih (step + 1)
    | false => rfl

def sound (r : PowerRows) : Bool :=
  decide (r.count ≤ 8) && r.used.all PowerRow.named

theorem validate_eq (r : PowerRows) :
    r.validate.toOption = if r.sound then some r.used else none := by
  simp only [validate, Vector.size, sound]
  split
  · rename_i many
    have missing : ¬ r.count ≤ 8 := by omega
    simp only [missing, decide_false, Bool.false_and, Bool.false_eq_true, ↓reduceIte]
    rfl
  · rename_i few
    have there : r.count ≤ 8 := by omega
    rw [toOption_map]
    change (checkMasks 0 r.used).toOption.map _ = _
    rw [checkMasks_eq]
    simp only [there, decide_true, Bool.true_and]
    split <;> rfl

def fits (r : PowerRows) : Bool :=
  r.sound && decide (need r.used ≤ Step.sequenceLimit)

theorem sequence_eq (r : PowerRows) (rails : Vector RailId 6) :
    (r.sequence rails).toOption = if r.fits then some (r.expansion rails) else none := by
  have checked := r.validate_eq
  have rows := foldRows_eq rails r.used [] (Nat.zero_le _)
  rw [List.length_nil, Nat.zero_add, List.nil_append] at rows
  simp only [sequence, fits]
  cases valid : r.validate with
  | error defect =>
    rw [valid] at checked
    split at checked
    · cases checked
    · rename_i unsound
      simp only [unsound, Bool.false_and, Bool.false_eq_true, ↓reduceIte]
      rfl
  | ok found =>
    rw [valid] at checked
    split at checked
    · rename_i sound
      obtain rfl : found = r.used := by simpa [Except.toOption] using checked
      simp only [sound, Bool.true_and, decide_eq_true_eq]
      exact rows
    · cases checked

end PowerRows

end BoardWarden.Settings
