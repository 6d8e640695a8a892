import Mathlib.Data.List.Rotate
import BoardWarden.Proofs.Cooling.Latch

set_option autoImplicit false

namespace BoardWarden

open Settings (ZoneLimits)

theorem PidLimits.window_pos (l : PidLimits) : 0 < l.window := by
  simp only [window, historyLimit]
  omega

theorem PidLimits.window_le (l : PidLimits) : l.window ≤ historyLimit := Nat.min_le_right _ _

namespace Zone

section Access

def slot (z : Zone) (window : Nat) : Nat := if window ≤ z.cursor then 0 else z.cursor

def write? (errors : List Float32) (slot : Nat) (error : Float32) : Option (List Float32) :=
  if slot < errors.length then some (errors.set slot error) else none

def first? (errors : List Float32) (count : Nat) : Option (List Float32) :=
  if count ≤ errors.length then some (errors.take count) else none

def averageError? (z : Zone) (error : Float32) (window : Nat) : Option (Float32 × Zone) := do
  let errors ← write? z.errors (z.slot window) error
  let entered ← first? errors window
  return (entered.foldl (· + ·) 0.0 / Float32.ofNat window,
    { z with errors, cursor := z.slot window + 1 })

variable {z : Zone} {window : Nat}

theorem slot_lt (positive : 0 < window) : z.slot window < window := by
  simp only [slot]
  split <;> omega

theorem averageError?_eq (positive : 0 < window) (fits : window ≤ z.errors.length) (error : Float32) :
    z.averageError? error window =
      some ((z.pushError error window).meanError window, z.pushError error window) := by
  have written : write? z.errors (z.slot window) error = some (z.errors.set (z.slot window) error) :=
    if_pos (Nat.lt_of_lt_of_le (slot_lt positive) fits)
  have entered : first? (z.errors.set (z.slot window) error) window =
      some ((z.errors.set (z.slot window) error).take window) :=
    if_pos (by rwa [List.length_set])
  simp only [averageError?, written, entered, Option.bind_eq_bind, Option.bind_some]
  rfl

/-- A window that was one wider would leave the slots. -/
example : first? (List.replicate 120 initialError) 121 = none := by decide

end Access

/-- A zone from its start on, whatever happens to it, with the errors of the readings that did not fail.
All its limits meet a condition. -/
inductive Lived (definition : ZoneDefinition) (meets : PidLimits → Prop) :
    List Float32 → Zone → Prop where
  | started : Lived definition meets [] (ofDefinition definition)
  | updated {errors : List Float32} {z z' : Zone} {reading : Option Int} {l : PidLimits} {answer : Update}
      (lived : Lived definition meets errors z) (limits : meets l)
      (update : z.update reading l = .ok (answer, z')) :
      Lived definition meets (errors ++ reading.toList.map z.error) z'
  | observed {errors : List Float32} {z : Zone} (lived : Lived definition meets errors z)
      (reading : Option Int) : Lived definition meets errors (z.observe reading)
  | calibrated {errors : List Float32} {z : Zone} (lived : Lived definition meets errors z)
      (l : ZoneLimits) : Lived definition meets errors (z.applyLimits l)
  | disabled {errors : List Float32} {z : Zone} (lived : Lived definition meets errors z) :
      Lived definition meets errors z.disable

section Slots

variable {z z' : Zone} {errors : List Float32} {window : Nat}

/-- An update enters the error of a reading, and nothing where the reading failed. -/
theorem update_errors {reading : Option Int} {l : PidLimits} {answer : Update}
    (h : z.update reading l = .ok (answer, z')) :
    let entered := reading.elim z fun celsius => z.pushError (z.error celsius) l.window
    z'.errors = entered.errors ∧ z'.cursor = entered.cursor := by
  cases reading with
  | none =>
    cases h
    exact ⟨rfl, rfl⟩
  | some celsius =>
    simp only [update] at h
    repeat' split at h
    all_goals
      cases h
      try exact ⟨rfl, rfl⟩

theorem Lived.room {definition : ZoneDefinition} {meets : PidLimits → Prop}
    (lived : Lived definition meets errors z) : z.errors.length = PidLimits.historyLimit := by
  induction lived with
  | started => exact List.length_replicate
  | @updated _ z _ reading l _ _ _ update ih =>
    rw [(update_errors update).1]
    cases reading with
    | none => exact ih
    | some celsius => exact List.length_set.trans ih
  | observed _ _ ih | calibrated _ _ ih | disabled _ ih => exact ih

/-- What a window holds that has been of this width from the start: in the slots in turn, the latest of
the errors, with initial ones before them. -/
structure Windowed (window : Nat) (errors : List Float32) (z : Zone) : Prop where
  room : z.errors.length = PidLimits.historyLimit
  next : z.slot window = errors.length % window
  slots : ∀ i, errors.length ≤ i → i < errors.length + window →
    z.errors[i % window]? = (List.replicate window initialError ++ errors)[i]?

theorem Windowed.of_same (h : Windowed window errors z) (same : z'.errors = z.errors)
    (cursor : z'.cursor = z.cursor) : Windowed window errors z' where
  room := by rw [same, h.room]
  next := by rw [slot, cursor, ← h.next, slot]
  slots := by rw [same]; exact h.slots

theorem windowed_started (definition : ZoneDefinition) (fits : window ≤ PidLimits.historyLimit) :
    Windowed window [] (ofDefinition definition) where
  room := List.length_replicate
  next := by simp [slot, ofDefinition]
  slots i _ near := by
    have near' : i < window := by simpa using near
    have inside : i < PidLimits.historyLimit := Nat.lt_of_lt_of_le near' fits
    simp [ofDefinition, Nat.mod_eq_of_lt near', inside, near']

theorem mod_ne_of_near {i n : Nat} (above : n < i) (near : i < n + window) : i % window ≠ n % window := by
  intro same
  have turns : window ∣ i - n := Nat.dvd_of_mod_eq_zero (Nat.sub_mod_eq_zero_of_mod_eq same)
  have far := Nat.le_of_dvd (by omega) turns
  omega

theorem mod_succ_wraps (positive : 0 < window) (n : Nat) :
    (if window ≤ n % window + 1 then 0 else n % window + 1) = (n + 1) % window := by
  have below := Nat.mod_lt n positive
  rw [← Nat.mod_add_mod]
  split
  · have full : n % window + 1 = window := by omega
    rw [full, Nat.mod_self]
  · exact (Nat.mod_eq_of_lt (by omega)).symm

theorem Windowed.push (h : Windowed window errors z) (positive : 0 < window)
    (fits : window ≤ PidLimits.historyLimit) (error : Float32) :
    Windowed window (errors ++ [error]) (z.pushError error window) where
  room := List.length_set.trans h.room
  next := by
    have cursor : (z.pushError error window).cursor = errors.length % window + 1 := by
      rw [← h.next]
      rfl
    rw [slot, cursor, mod_succ_wraps positive, List.length_append, List.length_singleton]
  slots i late near := by
    have pushed : (z.pushError error window).errors = z.errors.set (errors.length % window) error := by
      rw [← h.next]
      rfl
    rw [List.length_append, List.length_singleton] at late near
    rw [pushed, ← List.append_assoc]
    -- The new error is the last of a turn. It takes the slot of the one that falls out of the window.
    by_cases latest : i = errors.length + window
    · subst latest
      have inside : errors.length % window < z.errors.length := by
        rw [h.room]
        exact Nat.lt_of_lt_of_le (Nat.mod_lt _ positive) fits
      rw [Nat.add_mod_right, List.getElem?_set_self inside, List.getElem?_append_right (by simp; omega)]
      simp [Nat.add_comm]
    · rw [List.getElem?_set_ne (mod_ne_of_near (by omega) (by omega)).symm,
        List.getElem?_append_left (by simp; omega)]
      exact h.slots i (by omega) (by omega)

theorem Lived.windowed {definition : ZoneDefinition} {count : Nat}
    (lived : Lived definition (fun l => l.history = count) errors z) :
    Windowed (min (max count 1) PidLimits.historyLimit) errors z := by
  have positive : 0 < min (max count 1) PidLimits.historyLimit := by
    simp only [PidLimits.historyLimit]
    omega
  have fits : min (max count 1) PidLimits.historyLimit ≤ PidLimits.historyLimit := Nat.min_le_right _ _
  induction lived with
  | started => exact windowed_started definition fits
  | @updated errors z _ reading l _ _ same update ih =>
    obtain ⟨slots, cursor⟩ := update_errors update
    cases reading with
    | none =>
      rw [Option.toList_none, List.map_nil, List.append_nil]
      exact ih.of_same slots cursor
    | some celsius =>
      subst same
      exact (ih.push positive fits (z.error celsius)).of_same slots cursor
  | observed _ _ ih | calibrated _ _ ih | disabled _ ih => exact ih.of_same rfl rfl

namespace Windowed

variable (h : Windowed window errors z)

include h

/-- From the slot of the next error on, the window reads as the latest errors in their order. -/
theorem rotated (fits : window ≤ PidLimits.historyLimit) :
    (z.errors.take window).rotate errors.length =
      List.replicate (window - errors.length) initialError ++ errors.drop (errors.length - window) := by
  have width : (z.errors.take window).length = window := by
    rw [List.length_take, h.room, Nat.min_eq_left fits]
  have stream : List.replicate (window - errors.length) initialError ++
      errors.drop (errors.length - window) =
        (List.replicate window initialError ++ errors).drop errors.length := by
    rw [List.drop_append, List.drop_replicate, List.length_replicate]
  rw [stream]
  refine List.ext_getElem? fun k => ?_
  by_cases inside : k < window
  · rw [List.getElem?_rotate (by rwa [width]), width, List.getElem?_take_of_lt
      (Nat.mod_lt _ (by omega)), List.getElem?_drop, Nat.add_comm k]
    exact h.slots _ (by omega) (by omega)
  · rw [List.getElem?_eq_none (by rw [List.length_rotate, width]; omega),
      List.getElem?_eq_none (by simp; omega)]

theorem holds (fits : window ≤ PidLimits.historyLimit) : (z.errors.take window).Perm
    (errors.drop (errors.length - window) ++ List.replicate (window - errors.length) initialError) := by
  have read := h.rotated fits
  exact (List.rotate_perm _ errors.length).symm.trans (read ▸ List.perm_append_comm)

theorem latest {i : Nat} (entered : i < errors.length) (recent : errors.length ≤ i + window) :
    z.errors[i % window]? = errors[i]? := by
  rw [← Nat.add_mod_right, h.slots _ recent (by omega), List.getElem?_append_right (by simp)]
  simp

theorem unwritten {slot : Nat} (free : errors.length ≤ slot) (inside : slot < window) :
    z.errors[slot]? = some initialError := by
  rw [← Nat.mod_eq_of_lt inside, h.slots slot free (by omega),
    List.getElem?_append_left (by simpa using inside)]
  simp [inside]

end Windowed

end Slots

/-- Whatever limits the updates of a zone have had, the next one finds every slot in range. Where all had the
same count of errors, the slots of the window hold the latest errors, each in its turn, and initial ones
where there are not enough. A failed reading leaves the slots as they are. -/
theorem window_holds_latest (definition : ZoneDefinition) :
    (∀ meets errors z, Lived definition meets errors z → ∀ (l : PidLimits) (error : Float32),
      z.averageError? error l.window =
        some ((z.pushError error l.window).meanError l.window, z.pushError error l.window)) ∧
    (∀ count errors z, Lived definition (fun l => l.history = count) errors z →
      let window := min (max count 1) PidLimits.historyLimit
      (∀ i, i < errors.length → errors.length ≤ i + window → z.errors[i % window]? = errors[i]?) ∧
      (∀ slot, errors.length ≤ slot → slot < window → z.errors[slot]? = some initialError) ∧
      (z.errors.take window).Perm (errors.drop (errors.length - window) ++
        List.replicate (window - errors.length) initialError)) ∧
    ∀ (z : Zone) (l : PidLimits), ∃ x, z.update none l = .ok (⟨100, false⟩, x) ∧
      x.errors = z.errors ∧ x.cursor = z.cursor := by
  refine ⟨fun _ errors z lived l error => ?_, fun count errors z lived => ?_,
    fun z l => ⟨_, rfl, rfl, rfl⟩⟩
  · exact averageError?_eq l.window_pos (lived.room ▸ l.window_le) error
  · have held := lived.windowed
    exact ⟨fun _ => held.latest, fun _ => held.unwritten, held.holds (Nat.min_le_right _ _)⟩

/-- Four readings in a window of three, with a failed one after the first. The next window is as wide as
there are slots. -/
theorem window_of_three :
    let three : PidLimits := ⟨1.0, 10.0, 25.0, 3⟩
    let wide : PidLimits := ⟨1.0, 10.0, 25.0, 1000⟩
    ∃ z, Lived warning (fun l => l.history = 3) [8.0, 5.0, -5.0, 3.0] z ∧ three.history = 3 ∧
      z.errors[0]? = some (3.0 : Float32) ∧ z.errors[1]? = some (5.0 : Float32) ∧
      z.errors[2]? = some (-5.0 : Float32) ∧ (z.averageError? 1.0 wide.window).isSome := by
  intro three wide
  have order : three.InOrder := by decide +kernel
  have step : ∀ (errors : List Float32) (z : Zone) (reading : Option Int),
      Lived warning (fun l => l.history = 3) errors z → z.definition = warning →
      ∃ z', Lived warning (fun l => l.history = 3)
        (errors ++ reading.toList.map (ofDefinition warning).error) z' ∧ z'.definition = warning := by
    intro errors z reading lived same
    obtain ⟨⟨answer, z'⟩, updated⟩ := z.update_total reading three order
    have error : z.error = (ofDefinition warning).error := by
      funext celsius
      rw [Zone.error, same, Zone.error, ofDefinition]
    exact ⟨z', error ▸ lived.updated rfl updated,
      (z.update_definition z' reading three answer updated).trans same⟩
  obtain ⟨_, lived, same⟩ := step _ _ (some 63) .started rfl
  obtain ⟨_, lived, same⟩ := step _ _ none lived same
  obtain ⟨_, lived, same⟩ := step _ _ (some 60) lived same
  obtain ⟨_, lived, same⟩ := step _ _ (some 50) lived same
  obtain ⟨z, lived, same⟩ := step _ _ (some 58) lived same
  have errors : [] ++ (some 63).toList.map (ofDefinition warning).error ++
      (none : Option Int).toList.map (ofDefinition warning).error ++
      (some 60).toList.map (ofDefinition warning).error ++
      (some 50).toList.map (ofDefinition warning).error ++
      (some 58).toList.map (ofDefinition warning).error = [8.0, 5.0, -5.0, 3.0] := by decide +kernel
  rw [errors] at lived
  obtain ⟨inRange, held, _⟩ := window_holds_latest warning
  obtain ⟨latest, _⟩ := held 3 _ z lived
  refine ⟨z, lived, rfl, latest 3 (by decide) (by decide), latest 1 (by decide) (by decide),
    latest 2 (by decide) (by decide), ?_⟩
  rw [inRange _ _ z lived wide 1.0]
  rfl

end Zone

end BoardWarden
