import BoardWarden.Proofs.Controller.Order
import BoardWarden.Proofs.Power.Views
import BoardWarden.Proofs.Settings.Loading

set_option autoImplicit false

namespace BoardWarden

structure Tuning where
  thresholds : Settings.Thresholds
  weight : UInt8
  kp : Float32
  ki : Float32

def ZoneDefinition.tuning (d : ZoneDefinition) : Tuning := ⟨d.thresholds, d.weight, d.kp, d.ki⟩

def Settings.ZoneLimits.tuning (l : Settings.ZoneLimits) : Tuning :=
  ⟨l.thresholds, l.weight, l.kp, l.ki⟩

def Event.rejected? : Event → Option Settings.Tag
  | .configRejected tag => some tag
  | _ => none

def rejectedBy (notes : List Note) : List Settings.Tag :=
  notes.filterMap fun note => note.event.rejected?

def Journal.rejected (j : Journal) : List Settings.Tag := rejectedBy j.notes

namespace Settings

theorem rejectedBy_refusals (store : Store) (time : Instant) (looks : List (BoardUnit × Tag)) :
    rejectedBy (refusals store time looks) = looks.filterMap (refused store) := by
  rw [rejectedBy, refusals, List.filterMap_map]
  exact List.filterMap_some

end Settings

open Settings (Store Tag BoardUnit McuFlags FanLimits fanRecord zoneRecord refused refusals)

namespace Cooling

theorem checkPresence_definition (store : Store) (z : Zone) :
    (checkPresence store z).definition.tuning = z.definition.tuning := by
  simp only [checkPresence]
  repeat' split
  all_goals rfl

def tuned (store : Store) (n : Nat) (z : Zone) : Zone :=
  (zoneRecord store n).elim (checkPresence store z) (checkPresence store z).applyLimits

theorem tuned_tuning (store : Store) (n : Nat) (z : Zone) :
    (tuned store n z).definition.tuning =
      ((zoneRecord store n).map Settings.ZoneLimits.tuning).getD z.definition.tuning := by
  rw [tuned]
  cases zoneRecord store n with
  | none => exact checkPresence_definition store z
  | some l => rfl

/-- Notes that no record is to blame for. -/
def weightNotes (zones : List Zone) (time : Instant) : List Note :=
  if (coolingZones zones).all fun z => z.definition.weight = 0 then
    [⟨.coolingWeightZero, .none, time⟩]
  else []

theorem loadConfig_eq (c : Cooling) (store : Store) (time : Instant) (j : Journal) :
    c.loadConfig store time j =
      ({ c with zones := c.zones.mapIdx (tuned store) },
        j.enterAll (refusals store time (looks 0 c.zones.length) ++
          weightNotes (c.zones.mapIdx (tuned store)) time)) := by
  have zones : (c.zones.map (checkPresence store)).mapIdx
      (fun n z => (zoneRecord store (0 + n)).elim z z.applyLimits) = c.zones.mapIdx (tuned store) := by
    apply List.ext_getElem?
    intro n
    simp only [List.getElem?_mapIdx, List.getElem?_map, Option.map_map, Nat.zero_add]
    rfl
  simp only [loadConfig, calibrate_eq, zones, List.length_map, Journal.enterAll_append, weightNotes]
  split <;> rfl

end Cooling

theorem FanBank.loadLimits_eq (b : FanBank) (store : Store) (time : Instant) (j : Journal) :
    b.loadLimits store time j =
      ({ b with
          channels := b.channels.mapIdx fun n c => { c with limits := (fanRecord store n).getD c.limits } },
        j.enterAll (refusals store time (looks 0 b.channels.length))) := by
  simp only [loadLimits, loadChannels_eq, Nat.zero_add]

theorem FanBank.ofCount_stored (store : Store) (count : Nat) (l : FanLimits) (config : FanConfig) :
    (((ofCount count l config).channels.mapIdx fun n c =>
        { c with limits := (fanRecord store n).getD c.limits }).map FanChannel.limits) =
      (List.range (min count limit)).map fun n => (fanRecord store n).getD l := by
  apply List.ext_getElem?
  intro n
  simp only [ofCount, List.getElem?_map, List.getElem?_mapIdx, List.getElem?_replicate]
  split
  · rename_i inside
    rw [List.getElem?_range inside]
    rfl
  · rename_i outside
    rw [List.getElem?_eq_none (by rw [List.length_range]; exact Nat.le_of_not_lt outside)]
    rfl

theorem Cooling.ofDefinitions_stored (store : Store) (definitions : List ZoneDefinition)
    (config : CoolingConfig) :
    (((ofDefinitions definitions config).zones.mapIdx (tuned store)).map
        fun z => z.definition.tuning) =
      (definitions.take zoneLimit).mapIdx fun n d =>
        ((zoneRecord store n).map Settings.ZoneLimits.tuning).getD d.tuning := by
  apply List.ext_getElem?
  intro n
  simp only [ofDefinitions, List.getElem?_map, List.getElem?_mapIdx, Option.map_map,
    Function.comp_def, tuned_tuning]
  rfl

namespace Controller

variable {σ : Type}

def slotLooks (daughterboard : Option DaughterboardRails) : List (BoardUnit × Tag) :=
  (daughterboard.map fun d => (.daughterboard d.slot, .powerRows)).toList

def storedGroup (store : Store) (daughterboard : Option DaughterboardRails)
    (builtIn : Option (List Step)) : Option (List Step) :=
  match daughterboard with
  | none => builtIn
  | some d =>
    match store (.daughterboard d.slot) .powerRows with
    | none => builtIn
    | some (.powerRows rows) => if rows.fits then some (rows.expansion d.rails) else none
    | some _ => none

theorem loadDaughterboard_eq (c : Controller σ) (store : Store) (time : Instant) :
    c.loadDaughterboard store time =
      { c.withJournal (c.journal.enterAll (refusals store time (slotLooks c.daughterboard))) with
        sequencer := c.sequencer.setDaughterboard
          (storedGroup store c.daughterboard c.sequencer.plan.daughterboard) } := by
  obtain ⟨rig, sequencer, cooling, fans, agenda, config, flags, supply, slot, mark⟩ := c
  simp only [loadDaughterboard, slotLooks, storedGroup]
  cases slot with
  | none => rfl
  | some d =>
    simp only [Option.bind_some, storedSequence, Option.map_some, Option.toList_some, refusals,
      List.filterMap_cons, refused, List.filterMap_nil]
    cases store (.daughterboard d.slot) .powerRows with
    | none => rfl
    | some record =>
      cases record with
      | powerRows rows =>
        simp only [Option.map_some, rows.sequence_eq, Settings.usable]
        by_cases fits : rows.fits = true <;> simp only [fits, Bool.false_eq_true, ↓reduceIte] <;> rfl
      | _ => rfl

def flagNotes (store : Store) (time : Instant) : List Note :=
  match store .motherboard .mcuFlags with
  | none => [⟨.configDefaulted .mcuFlags, .none, time⟩]
  | some _ => refusals store time [(.motherboard, .mcuFlags)]

def flagsOf (store : Store) : McuFlags :=
  match store .motherboard .mcuFlags with
  | some (.mcuFlags flags) => flags
  | _ => McuFlags.builtIn

theorem storedFlags_eq (store : Store) (time : Instant) (j : Journal) :
    storedFlags store time j = (flagsOf store, j.enterAll (flagNotes store time)) := by
  simp only [storedFlags, flagsOf, flagNotes, refusals, List.filterMap_cons, refused,
    List.filterMap_nil]
  cases store .motherboard .mcuFlags with
  | none => rfl
  | some record => cases record <;> rfl

theorem rejectedBy_flagNotes (store : Store) (time : Instant) :
    rejectedBy (flagNotes store time) = [(.motherboard, .mcuFlags)].filterMap (refused store) := by
  simp only [flagNotes]
  cases held : store .motherboard .mcuFlags with
  | none => simp [rejectedBy, Event.rejected?, refused, held]
  | some record => exact Settings.rejectedBy_refusals store time _

def loadNotes (c : Controller σ) (store : Store) (time : Instant) : List Note :=
  flagNotes store time ++ refusals store time (slotLooks c.daughterboard) ++
    (refusals store time (Cooling.looks 0 c.cooling.zones.length) ++
      Cooling.weightNotes (c.cooling.zones.mapIdx (Cooling.tuned store)) time) ++
    refusals store time (FanBank.looks 0 c.fans.channels.length)

def looks (c : Controller σ) : List (BoardUnit × Tag) :=
  [(.motherboard, .mcuFlags)] ++ slotLooks c.daughterboard ++
    Cooling.looks 0 c.cooling.zones.length ++ FanBank.looks 0 c.fans.channels.length

theorem rejectedBy_loadNotes (c : Controller σ) (store : Store) (time : Instant) :
    rejectedBy (c.loadNotes store time) = c.looks.filterMap (refused store) := by
  have weight : ∀ zones, rejectedBy (Cooling.weightNotes zones time) = [] := by
    intro zones
    simp only [Cooling.weightNotes]
    split <;> rfl
  have append : ∀ notes later : List Note,
      rejectedBy (notes ++ later) = rejectedBy notes ++ rejectedBy later :=
    fun _ _ => List.filterMap_append
  simp only [loadNotes, looks, append, rejectedBy_flagNotes, Settings.rejectedBy_refusals, weight,
    List.append_nil, List.filterMap_append]

theorem loadNotes_length (c : Controller σ) (store : Store) (time : Instant) :
    (c.loadNotes store time).length ≤ 3 + c.cooling.zones.length + c.fans.channels.length := by
  have refused : ∀ looks, (refusals store time looks).length ≤ looks.length := by
    intro looks
    rw [refusals, List.length_map]
    exact List.length_filterMap_le _ _
  have flags : (flagNotes store time).length ≤ 1 := by
    simp only [flagNotes]
    split
    · exact Nat.le_refl 1
    · exact refused _
  have weight : ∀ zones, (Cooling.weightNotes zones time).length ≤ 1 := by
    intro zones
    simp only [Cooling.weightNotes]
    split <;> simp
  have slot : (slotLooks c.daughterboard).length ≤ 1 := by
    cases c.daughterboard <;> simp [slotLooks]
  have slots := refused (slotLooks c.daughterboard)
  have zones := refused (Cooling.looks 0 c.cooling.zones.length)
  have fans := refused (FanBank.looks 0 c.fans.channels.length)
  have weights := weight (c.cooling.zones.mapIdx (Cooling.tuned store))
  simp only [Cooling.looks, FanBank.looks, List.length_map, List.length_range'] at zones fans
  simp only [loadNotes, Cooling.looks, FanBank.looks, List.length_append]
  omega

theorem loadSettings_eq (c : Controller σ) (store : Store) (time : Instant) :
    c.loadSettings store time =
      { c.withJournal (c.journal.enterAll (c.loadNotes store time)) with
        flags := flagsOf store
        sequencer := c.sequencer.setDaughterboard
          (storedGroup store c.daughterboard c.sequencer.plan.daughterboard)
        cooling := { c.cooling with zones := c.cooling.zones.mapIdx (Cooling.tuned store) }
        fans :=
          { c.fans with
            channels := c.fans.channels.mapIdx fun n channel =>
              { channel with limits := (fanRecord store n).getD channel.limits } } } := by
  simp only [loadSettings, storedFlags_eq, loadDaughterboard_eq, Cooling.loadConfig_eq,
    FanBank.loadLimits_eq, loadNotes, Journal.enterAll_append]
  rfl

section Journal

variable [Board σ]

theorem status_journal (b : RailBank) (rail : RailId) (p : Plant σ) :
    (b.status rail p).2.journal = p.journal :=
  congrArg (fun seen : RailStatus × Plant σ => seen.2.journal)
    ((View.journal σ).status p.journal p b rail)

theorem adoptLive_journal (r : Rig σ) : r.adoptLive.plant.journal = r.plant.journal := by
  unfold Rig.adoptLive
  generalize r.rails.rails = rails
  induction rails generalizing r with
  | nil => rfl
  | cons rail rest ih => exact (ih _).trans (status_journal r.rails rail r.plant)

theorem chipsetInit_journal (m : Sequencer) (rails : RailBank) (reset : ResetFlags)
    (autoboot : Bool) (p : Plant σ) :
    (m.chipsetInit rails reset autoboot p).2.journal = p.journal := by
  have looked : (Sequencer.compositeGood { m with state := .g3 } rails p).2.journal = p.journal :=
    congrArg (fun seen : Bool × Plant σ => seen.2.journal)
      ((View.journal σ).compositeGood p.journal p { m with state := .g3 } rails)
  simp only [Sequencer.chipsetInit]
  split
  · split <;> exact looked
  · split <;> rfl

theorem setFans_journal (on : Bool) (fans : List FanId) (b : FanBank) (p : Plant σ) :
    (setFans on fans b p).2.journal = p.journal := by
  induction fans generalizing b p with
  | nil => rfl
  | cons fan rest ih =>
    have first : (b.setEnabled fan on p).2.journal = p.journal := by
      simp only [FanBank.setEnabled]
      repeat' split
      all_goals rfl
    exact (ih _ _).trans first

end Journal

variable [Board σ]

theorem init_loaded (c : Controller σ) (store : Store) (reset : ResetFlags) :
    let loaded := ({ c with rig := c.rig.adoptLive } : Controller σ).loadSettings store c.now
    let started := c.init store reset
    started.fans.limits = loaded.fans.limits ∧ started.cooling = loaded.cooling ∧
      started.sequencer.plan = loaded.sequencer.plan ∧ started.flags = loaded.flags ∧
      started.journal = loaded.journal := by
  intro loaded started
  let begun := loaded.sequencer.chipsetInit loaded.rig.rails reset loaded.flags.autoboot loaded.plant
  have plan : begun.1.plan = loaded.sequencer.plan :=
    (loaded.sequencer.chipsetInit_fields _ reset _ loaded.plant).1
  have silent : begun.2.journal = loaded.journal := chipsetInit_journal _ _ reset _ loaded.plant
  let ready : Controller σ := { loaded.withPlant begun.2 with sequencer := begun.1 }
  have ended : started = if ready.powerState = .s0 then ready.enableFans true else ready := rfl
  rw [ended]
  split
  · exact ⟨setFans_limits true _ _ _, rfl, plan, rfl, (setFans_journal true _ _ _).trans silent⟩
  · exact ⟨rfl, rfl, plan, rfl, silent⟩

section Fresh

variable (layout : BoardLayout) (fanCount : Nat) (config : ControllerConfig) (board : σ)
  (store : Store) (reset : ResetFlags)

theorem init_limits :
    ((fresh layout fanCount config board).init store reset).fans.limits =
      (List.range (min fanCount FanBank.limit)).map
        fun n => (fanRecord store n).getD config.fanLimits := by
  obtain ⟨limits, -⟩ := (fresh layout fanCount config board).init_loaded store reset
  rw [loadSettings_eq] at limits
  exact limits.trans (FanBank.ofCount_stored store fanCount config.fanLimits config.fan)

theorem init_tunings :
    (((fresh layout fanCount config board).init store reset).cooling.zones.map
        fun z => z.definition.tuning) =
      (layout.zones.take Cooling.zoneLimit).mapIdx fun n d =>
        ((zoneRecord store n).map Settings.ZoneLimits.tuning).getD d.tuning := by
  obtain ⟨-, cooling, -⟩ := (fresh layout fanCount config board).init_loaded store reset
  rw [loadSettings_eq] at cooling
  rw [cooling]
  exact Cooling.ofDefinitions_stored store layout.zones config.cooling

omit [Board σ] in
theorem fresh_zones : (fresh layout fanCount config board).cooling.zones.length ≤ Cooling.zoneLimit := by
  change ((layout.zones.take Cooling.zoneLimit).map Zone.ofDefinition).length ≤ _
  rw [List.length_map, List.length_take]
  exact Nat.min_le_left _ _

omit [Board σ] in
theorem fresh_channels : (fresh layout fanCount config board).fans.channels.length ≤ FanBank.limit := by
  change (List.replicate (min fanCount FanBank.limit) (FanChannel.fresh config.fanLimits)).length ≤ _
  rw [List.length_replicate]
  exact Nat.min_le_right _ _

theorem init_rejected :
    ((fresh layout fanCount config board).init store reset).journal.rejected =
      (fresh layout fanCount config board).looks.filterMap (refused store) := by
  let built := fresh layout fanCount config board
  let adopted : Controller σ := { built with rig := built.rig.adoptLive }
  obtain ⟨-, -, -, -, journal⟩ := built.init_loaded store reset
  rw [loadSettings_eq] at journal
  have empty : adopted.journal = Journal.fresh := adoptLive_journal built.rig
  have room : adopted.journal.entries.length + (adopted.loadNotes store built.now).length ≤
      adopted.journal.capacity := by
    have few : (adopted.loadNotes store built.now).length ≤
        3 + built.cooling.zones.length + built.fans.channels.length :=
      adopted.loadNotes_length store built.now
    have zones : built.cooling.zones.length ≤ 16 := fresh_zones layout fanCount config board
    have channels : built.fans.channels.length ≤ 4 := fresh_channels layout fanCount config board
    rw [empty]
    change 0 + _ ≤ 64
    omega
  have entered : (built.init store reset).journal.notes = adopted.loadNotes store built.now := by
    refine (congrArg Journal.notes journal).trans
      ((Journal.enterAll_notes _ adopted.journal room).trans ?_)
    rw [empty]
    rfl
  exact (congrArg rejectedBy entered).trans (adopted.rejectedBy_loadNotes store built.now)

/-- No store can break a controller whose built-in limits are in order. Each fan and each zone ends
with its own record if that can be used and with its built-in limits if not, the daughterboard has
the stored order if that can be used, and the journal rejects exactly the records that are there and
of no use. -/
theorem settings_cannot_break (fans : config.fanLimits.valid = true)
    (zones : ∀ d ∈ layout.zones, d.thresholds.ordered = true) :
    let built := fresh layout fanCount config board
    let started := built.init store reset
    (started.fans.limits = (List.range (min fanCount FanBank.limit)).map
        fun n => (fanRecord store n).getD config.fanLimits) ∧
      (∀ l ∈ started.fans.limits, l.valid = true) ∧
      (started.cooling.zones.map fun z => z.definition.tuning) =
        (layout.zones.take Cooling.zoneLimit).mapIdx (fun n d =>
          ((zoneRecord store n).map Settings.ZoneLimits.tuning).getD d.tuning) ∧
      (∀ z ∈ started.cooling.zones, z.definition.thresholds.ordered = true) ∧
      started.sequencer.plan.daughterboard =
        storedGroup store layout.daughterboard layout.plan.daughterboard ∧
      started.flags = flagsOf store ∧
      started.journal.rejected = built.looks.filterMap (refused store) := by
  intro built started
  have limits := init_limits layout fanCount config board store reset
  have tunings := init_tunings layout fanCount config board store reset
  obtain ⟨-, -, plan, flags, -⟩ := built.init_loaded store reset
  rw [loadSettings_eq] at plan flags
  refine ⟨limits, ?_, tunings, ?_, congrArg PowerPlan.daughterboard plan, flags,
    init_rejected layout fanCount config board store reset⟩
  · intro l listed
    rw [limits] at listed
    obtain ⟨n, -, rfl⟩ := List.mem_map.1 listed
    cases record : fanRecord store n with
    | none => exact fans
    | some stored => exact Settings.fanRecord_valid record
  · intro z listed
    have tuned := List.mem_map_of_mem (f := fun z : Zone => z.definition.tuning) listed
    rw [tunings] at tuned
    obtain ⟨n, inside, tuned⟩ := List.mem_mapIdx.1 tuned
    refine (congrArg (fun t : Tuning => t.thresholds.ordered) tuned).symm.trans ?_
    cases record : zoneRecord store n with
    | none => exact zones _ (List.mem_of_mem_take (List.getElem_mem inside))
    | some stored => exact Settings.zoneRecord_ordered record

end Fresh

def mixedStore : Store
  | .motherboard, .mcuFlags => some (.mcuFlags ⟨true, false⟩)
  | .motherboard, .fanLimits 0 => some (.fanLimits ⟨1000, 2000, 9000⟩)
  | .motherboard, .fanLimits 1 => some (.fanLimits ⟨9000, 2000, 1000⟩)
  | .motherboard, .zoneLimits 0 => some (.mcuFlags ⟨true, false⟩)
  | .motherboard, .zoneLimits 1 => some (.zoneLimits ⟨1, ⟨40, 90, 85, 95⟩, 50, 1.0, 0.1⟩)
  | .daughterboard 0, .powerRows => some (.powerRows ⟨8, Vector.replicate 8 ⟨1, 0x3f⟩⟩)
  | _, _ => none

theorem carrier_loads_mixed_store :
    let started := carrier.init mixedStore ⟨false, true, false, false⟩
    started.fans.limits = [⟨1000, 2000, 9000⟩, FanLimits.builtIn] ∧
      (started.cooling.zones.map fun z => z.definition.tuning) =
        Carrier.zones.map ZoneDefinition.tuning ∧
      started.sequencer.plan.daughterboard = none ∧
      started.flags = ⟨true, false⟩ ∧
      started.journal.rejected = [.powerRows, .zoneLimits 0, .zoneLimits 1, .fanLimits 1] := by
  intro started
  obtain ⟨fans, -, zones, -, group, flags, journal⟩ :=
    settings_cannot_break Carrier.layout Carrier.fanCount ControllerConfig.builtIn Carrier.bench
      mixedStore ⟨false, true, false, false⟩ (by decide) (by decide)
  exact ⟨fans, zones, group, flags, journal⟩

end Controller

end BoardWarden
