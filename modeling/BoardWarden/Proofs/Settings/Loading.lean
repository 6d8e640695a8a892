import BoardWarden.Cooling.Basic
import BoardWarden.Fan.Bank
import BoardWarden.Proofs.Journal
import BoardWarden.Proofs.Settings.Expansion

set_option autoImplicit false

namespace BoardWarden

namespace Settings

def fanRecord (store : Store) (fan : Nat) : Option FanLimits :=
  match store .motherboard (.fanLimits fan) with
  | some (.fanLimits l) => if l.valid then some l else none
  | _ => none

def zoneRecord (store : Store) (zone : Nat) : Option ZoneLimits :=
  match store .motherboard (.zoneLimits zone) with
  | some (.zoneLimits l) => if l.valid && decide (l.zone = zone) then some l else none
  | _ => none

/-- Whether a record can be put to use under its tag. -/
def usable : Tag → Record → Bool
  | .mcuFlags, .mcuFlags _ => true
  | .powerRows, .powerRows rows => rows.fits
  | .fanLimits _, .fanLimits l => l.valid
  | .zoneLimits zone, .zoneLimits l => l.valid && decide (l.zone = zone)
  | _, _ => false

def refused (store : Store) (look : BoardUnit × Tag) : Option Tag :=
  match store look.1 look.2 with
  | none => none
  | some record => if usable look.2 record then none else some look.2

def refusals (store : Store) (time : Instant) (looks : List (BoardUnit × Tag)) : List Note :=
  (looks.filterMap (refused store)).map fun tag => ⟨.configRejected tag, .none, time⟩

theorem refusals_append (store : Store) (time : Instant) (looks later : List (BoardUnit × Tag)) :
    refusals store time (looks ++ later) = refusals store time looks ++ refusals store time later := by
  rw [refusals, List.filterMap_append, List.map_append]
  rfl

theorem fanRecord_valid {store : Store} {fan : Nat} {l : FanLimits}
    (h : fanRecord store fan = some l) : l.valid = true := by
  simp only [fanRecord] at h
  split at h
  · split at h
    · rename_i valid
      cases h
      exact valid
    · cases h
  · cases h

theorem zoneRecord_valid {store : Store} {zone : Nat} {l : ZoneLimits}
    (h : zoneRecord store zone = some l) : l.valid = true ∧ l.zone = zone := by
  simp only [zoneRecord] at h
  split at h
  · split at h
    · rename_i fits
      cases h
      simpa using fits
    · cases h
  · cases h

theorem zoneRecord_ordered {store : Store} {zone : Nat} {l : ZoneLimits}
    (h : zoneRecord store zone = some l) : l.thresholds.ordered = true := by
  have valid := (zoneRecord_valid h).1
  simp only [ZoneLimits.valid, Bool.and_eq_true] at valid
  exact valid.1.1.1.1

end Settings

open Settings (Store Tag BoardUnit fanRecord zoneRecord usable refused refusals)

namespace FanBank

def looks (first count : Nat) : List (BoardUnit × Tag) :=
  (List.range' first count).map fun fan => (.motherboard, .fanLimits fan)

theorem loadChannels_cons (store : Store) (time : Instant) (first : Nat) (c : FanChannel)
    (rest : List FanChannel) (j : Journal) :
    loadChannels store time first (c :: rest) j =
      let others := loadChannels store time (first + 1) rest
        (j.enterAll (refusals store time [(.motherboard, .fanLimits first)]))
      ({ c with limits := (fanRecord store first).getD c.limits } :: others.1, others.2) := by
  simp only [loadChannels, fanRecord, refusals, List.filterMap_cons, refused, List.filterMap_nil]
  cases store .motherboard (.fanLimits first) with
  | none => rfl
  | some record =>
    cases record with
    | fanLimits l =>
      cases valid : l.valid <;>
        simp only [usable, valid, Bool.false_eq_true, ↓reduceIte] <;> rfl
    | _ => rfl

theorem loadChannels_eq (store : Store) (time : Instant) (first : Nat) (channels : List FanChannel)
    (j : Journal) : loadChannels store time first channels j =
      (channels.mapIdx fun n c => { c with limits := (fanRecord store (first + n)).getD c.limits },
        j.enterAll (refusals store time (looks first channels.length))) := by
  induction channels generalizing first j with
  | nil => rfl
  | cons c rest ih =>
    have next : ∀ n, first + 1 + n = first + (n + 1) := fun n => by omega
    have split : looks first (c :: rest).length =
        [(.motherboard, .fanLimits first)] ++ looks (first + 1) rest.length := by
      simp [looks, List.range'_succ]
    rw [loadChannels_cons, ih, split, Settings.refusals_append, Journal.enterAll_append, List.mapIdx_cons]
    simp only [next, Nat.add_zero]

end FanBank

namespace Cooling

def looks (first count : Nat) : List (BoardUnit × Tag) :=
  (List.range' first count).map fun zone => (.motherboard, .zoneLimits zone)

theorem calibrated_limits (zone : Nat) (z : Zone) (l : Settings.ZoneLimits) :
    (calibrated zone z (.zoneLimits l)).toOption =
      if l.valid && decide (l.zone = zone) then some (z.applyLimits l) else none := by
  simp only [calibrated, Settings.ZoneLimits.validate]
  cases l.valid with
  | false => rfl
  | true =>
    by_cases named : l.zone = zone
    · simp only [named, ↓reduceIte, decide_true, Bool.and_self]
      rfl
    · simp only [named, ↓reduceIte, decide_false, Bool.and_false, Bool.false_eq_true]
      rfl

theorem calibrate_cons (store : Store) (time : Instant) (first : Nat) (z : Zone) (rest : List Zone)
    (j : Journal) : calibrate store time first (z :: rest) j =
      let others := calibrate store time (first + 1) rest
        (j.enterAll (refusals store time [(.motherboard, .zoneLimits first)]))
      ((zoneRecord store first).elim z z.applyLimits :: others.1, others.2) := by
  simp only [calibrate, zoneRecord, refusals, List.filterMap_cons, refused, List.filterMap_nil]
  cases store .motherboard (.zoneLimits first) with
  | none => rfl
  | some record =>
    cases record with
    | zoneLimits l =>
      have outcome := calibrated_limits first z l
      simp only [usable, Option.map_some]
      cases done : calibrated first z (.zoneLimits l) with
      | ok zone =>
        rw [done] at outcome
        split at outcome
        · rename_i fits
          obtain rfl : zone = z.applyLimits l := by simpa [Except.toOption] using outcome
          simp only [fits, ↓reduceIte]
          rfl
        · cases outcome
      | error defect =>
        rw [done] at outcome
        split at outcome
        · cases outcome
        · rename_i unfit
          simp only [unfit, Bool.false_eq_true, ↓reduceIte]
          rfl
    | _ => rfl

theorem calibrate_eq (store : Store) (time : Instant) (first : Nat) (zones : List Zone)
    (j : Journal) : calibrate store time first zones j =
      (zones.mapIdx fun n z => (zoneRecord store (first + n)).elim z z.applyLimits,
        j.enterAll (refusals store time (looks first zones.length))) := by
  induction zones generalizing first j with
  | nil => rfl
  | cons z rest ih =>
    have next : ∀ n, first + 1 + n = first + (n + 1) := fun n => by omega
    have split : looks first (z :: rest).length =
        [(.motherboard, .zoneLimits first)] ++ looks (first + 1) rest.length := by
      simp [looks, List.range'_succ]
    rw [calibrate_cons, ih, split, Settings.refusals_append, Journal.enterAll_append, List.mapIdx_cons]
    simp only [next, Nat.add_zero]

end Cooling

end BoardWarden
