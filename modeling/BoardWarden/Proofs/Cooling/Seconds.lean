import BoardWarden.Bench.Basic
import BoardWarden.Carrier
import BoardWarden.Proofs.Answers
import BoardWarden.Proofs.Cooling.Tick

set_option autoImplicit false

namespace BoardWarden

structure Second (σ : Type) where
  inputs : CoolingInputs
  time : Instant
  board : σ

namespace Zone

theorem update_definition (z z' : Zone) (reading : Option Int) (l : PidLimits) (answer : Update)
    (h : z.update reading l = .ok (answer, z')) : z'.definition = z.definition := by
  cases reading with
  | none =>
    cases h
    rfl
  | some celsius =>
    simp only [update] at h
    repeat' split at h
    all_goals
      cases h
      try rfl

def sensed (z : Zone) (celsius : Option Int) : Zone := if z.cooling then z.observe celsius else z

theorem sensed_definition (z : Zone) (celsius : Option Int) :
    (z.sensed celsius).definition = z.definition := by
  rw [sensed]
  split <;> rfl

end Zone

namespace Cooling

def definitions (c : Cooling) : List ZoneDefinition := c.zones.map Zone.definition

theorem updateZones_definitions (l : PidLimits) (time : Instant) (first : Nat)
    (readings : List (Zone × Option Int)) (j j' : Journal) (zones : List Zone)
    (updated : updateZones l time first readings j = .ok (zones, j')) :
    zones.map Zone.definition = readings.map fun reading => reading.1.definition := by
  induction readings generalizing first j j' zones with
  | nil =>
    cases updated
    rfl
  | cons reading rest ih =>
    obtain ⟨z, reading⟩ := reading
    simp only [updateZones] at updated
    split at updated
    · split at updated
      · cases updated
      · rename_i answer z' one
        split at updated
        · cases updated
        · rename_i others
          cases updated
          simp only [List.map_cons, ih _ _ _ _ others, z.update_definition z' reading l answer one]
    · split at updated
      · cases updated
      · rename_i others
        cases updated
        simp only [List.map_cons, ih _ _ _ _ others]

variable {σ : Type}

theorem followDemand_definitions (c d : Cooling) (inputs : CoolingInputs)
    (readings : List (Zone × Option Int)) (time : Instant) (p p' : Plant σ) (demand : Option Nat)
    (read : c.zones = readings.map Prod.fst)
    (h : c.followDemand inputs readings time p = .ok (demand, d, p')) :
    d.definitions = c.definitions := by
  simp only [followDemand] at h
  split at h
  · split at h
    · cases h
    · rename_i zones journal updated
      simp only [Except.ok.injEq, Prod.mk.injEq] at h
      obtain ⟨_, rfl, _⟩ := h
      have kept := updateZones_definitions _ _ _ _ _ _ _ updated
      simp only [definitions, kept, read, List.map_map, Function.comp_def]
  · simp only [Except.ok.injEq, Prod.mk.injEq] at h
    obtain ⟨_, rfl, _⟩ := h
    rfl

variable [Board σ]

def sense : List ZoneDefinition → σ → List (Option Int)
  | [], _ => []
  | z :: rest, b =>
    if z.cooling then
      let kelvin := Board.readKelvin z.sensor b
      kelvin.1.toOption.map celsiusOfKelvin :: sense rest kelvin.2
    else none :: sense rest b

theorem sense_length (definitions : List ZoneDefinition) (b : σ) :
    (sense definitions b).length = definitions.length := by
  induction definitions generalizing b with
  | nil => rfl
  | cons z rest ih =>
    simp only [sense]
    split
    · exact congrArg (· + 1) (ih _)
    · exact congrArg (· + 1) (ih _)

theorem readZones_sense (time : Instant) (zones : List Zone) (p : Plant σ) :
    (readZones time zones p).1 =
      (zones.zip (sense (zones.map Zone.definition) p.board)).map fun turn =>
        (turn.1.sensed turn.2, turn.2) := by
  induction zones generalizing p with
  | nil => rfl
  | cons z rest ih =>
    by_cases cools : z.cooling = true
    · have sensed : ∀ celsius, z.sensed celsius = z.observe celsius := fun _ => if_pos cools
      have defined : z.definition.cooling = true := cools
      cases read : (Board.readKelvin z.definition.sensor p.board).1 with
      | ok kelvin =>
        have read' : (p.readKelvin z.definition.sensor).1 = .ok kelvin := read
        simp only [readZones, cools, ↓reduceIte, read', List.map_cons, sense, defined, read,
          List.zip_cons_cons, sensed]
        exact congrArg _ (ih _)
      | error fault =>
        have read' : (p.readKelvin z.definition.sensor).1 = .error fault := read
        simp only [readZones, cools, ↓reduceIte, read', List.map_cons, sense, defined, read,
          List.zip_cons_cons, sensed]
        exact congrArg _ (ih _)
    · have sensed : ∀ celsius, z.sensed celsius = z := fun _ => if_neg cools
      have defined : ¬ z.definition.cooling = true := cools
      simp only [readZones, cools, Bool.false_eq_true, ↓reduceIte, List.map_cons, sense, defined,
        List.zip_cons_cons, sensed]
      exact congrArg _ (ih _)

theorem readZones_definitions (time : Instant) (zones : List Zone) (p : Plant σ) :
    (readZones time zones p).1.map (fun reading => reading.1.definition) =
      zones.map Zone.definition := by
  let turns := zones.zip (sense (zones.map Zone.definition) p.board)
  have whole : turns.map Prod.fst = zones :=
    List.map_fst_zip (Nat.le_of_eq (by rw [sense_length, List.length_map]))
  rw [readZones_sense, List.map_map]
  calc turns.map (fun turn => (turn.1.sensed turn.2).definition)
      = turns.map (fun turn => turn.1.definition) := by simp only [Zone.sensed_definition]
    _ = (turns.map Prod.fst).map Zone.definition := List.map_map.symm
    _ = zones.map Zone.definition := by rw [whole]

theorem readZones_at (time : Instant) (zones : List Zone) (p : Plant σ) (zone : Nat)
    (reading : Zone × Option Int) :
    (readZones time zones p).1[zone]? = some reading ↔ ∃ z celsius, zones[zone]? = some z ∧
      (sense (zones.map Zone.definition) p.board)[zone]? = some celsius ∧
      reading = (z.sensed celsius, celsius) := by
  rw [readZones_sense, List.getElem?_map, Option.map_eq_some_iff]
  constructor
  · rintro ⟨⟨z, celsius⟩, turn, rfl⟩
    obtain ⟨known, read⟩ := List.getElem?_zip_eq_some.1 turn
    exact ⟨z, celsius, known, read, rfl⟩
  · rintro ⟨z, celsius, known, read, rfl⟩
    exact ⟨(z, celsius), List.getElem?_zip_eq_some.2 ⟨known, read⟩, rfl⟩

def HotAt (definitions : List ZoneDefinition) (readings : List (Option Int)) (zone : Nat) : Prop :=
  ∃ (z : ZoneDefinition) (celsius : Int), definitions[zone]? = some z ∧
    readings[zone]? = some (some celsius) ∧ z.cooling = true ∧ z.thresholds.critical ≤ celsius

def AllCool (definitions : List ZoneDefinition) (readings : List (Option Int)) : Prop :=
  ∀ (zone : Nat) (z : ZoneDefinition), definitions[zone]? = some z → z.cooling = true →
    ∃ celsius, readings[zone]? = some (some celsius) ∧ celsius < z.thresholds.warning

section Readings

variable (time : Instant) (zones : List Zone) (p : Plant σ)

theorem readZones_hot (zone : Nat) :
    (∃ reading, (readZones time zones p).1[zone]? = some reading ∧ isCritical reading = true) ↔
      HotAt (zones.map Zone.definition) (sense (zones.map Zone.definition) p.board) zone := by
  constructor
  · rintro ⟨reading, turn, critical⟩
    obtain ⟨z, answer, known, read, rfl⟩ := (readZones_at time zones p zone reading).1 turn
    obtain ⟨celsius, rfl, cools, hot⟩ := (isCritical_iff _ _).1 critical
    rw [Zone.cooling, Zone.sensed_definition] at cools
    rw [Zone.sensed_definition] at hot
    exact ⟨z.definition, celsius, by rw [List.getElem?_map, known]; rfl, read, cools, hot⟩
  · rintro ⟨definition, celsius, known, read, cools, hot⟩
    rw [List.getElem?_map, Option.map_eq_some_iff] at known
    obtain ⟨z, known, rfl⟩ := known
    refine ⟨_, (readZones_at time zones p zone _).2 ⟨z, some celsius, known, read, rfl⟩, ?_⟩
    refine (isCritical_iff _ _).2 ⟨celsius, rfl, ?_, ?_⟩
    · rwa [Zone.cooling, Zone.sensed_definition]
    · rwa [Zone.sensed_definition]

theorem readZones_lowest (zone : Nat) :
    (readZones time zones p).1.findIdx? isCritical = some zone ↔
      HotAt (zones.map Zone.definition) (sense (zones.map Zone.definition) p.board) zone ∧
        ∀ lower < zone,
          ¬ HotAt (zones.map Zone.definition) (sense (zones.map Zone.definition) p.board) lower := by
  simp only [← readZones_hot time, List.findIdx?_eq_some_iff_getElem]
  constructor
  · rintro ⟨inside, hot, first⟩
    refine ⟨⟨_, List.getElem?_eq_getElem inside, hot⟩, ?_⟩
    rintro lower lt ⟨reading, turn, hot'⟩
    obtain ⟨_, rfl⟩ := List.getElem?_eq_some_iff.1 turn
    exact first lower lt hot'
  · rintro ⟨⟨reading, turn, hot⟩, first⟩
    obtain ⟨inside, rfl⟩ := List.getElem?_eq_some_iff.1 turn
    exact ⟨inside, hot, fun lower lt hot' =>
      first lower lt ⟨_, List.getElem?_eq_getElem (Nat.lt_trans lt inside), hot'⟩⟩

theorem isCool_iff (z : Zone) (reading : Option Int) : isCool (z, reading) = true ↔
    (z.cooling = true → ∃ celsius, reading = some celsius ∧
      celsius < z.definition.thresholds.warning) := by
  cases reading with
  | none => simp [isCool]
  | some celsius => cases cools : z.cooling <;> simp [isCool, cools]

theorem readZones_cool : (readZones time zones p).1.all isCool = true ↔
    AllCool (zones.map Zone.definition) (sense (zones.map Zone.definition) p.board) := by
  simp only [List.all_eq_true, List.mem_iff_getElem?]
  constructor
  · intro cool zone definition known cools
    rw [List.getElem?_map, Option.map_eq_some_iff] at known
    obtain ⟨z, known, rfl⟩ := known
    have inside : zone < (sense (zones.map Zone.definition) p.board).length := by
      rw [sense_length, List.length_map]
      exact (List.getElem?_eq_some_iff.1 known).1
    have read := List.getElem?_eq_getElem inside
    have turn := (readZones_at time zones p zone _).2 ⟨z, _, known, read, rfl⟩
    obtain ⟨celsius, same, below⟩ := (isCool_iff _ _).1 (cool _ ⟨zone, turn⟩)
      (by rwa [Zone.cooling, Zone.sensed_definition])
    rw [Zone.sensed_definition] at below
    exact ⟨celsius, read.trans (congrArg some same), below⟩
  · rintro cool reading ⟨zone, turn⟩
    obtain ⟨z, answer, known, read, rfl⟩ := (readZones_at time zones p zone reading).1 turn
    refine (isCool_iff _ _).2 fun cools => ?_
    rw [Zone.cooling, Zone.sensed_definition] at cools
    obtain ⟨celsius, read', below⟩ :=
      cool zone z.definition (by rw [List.getElem?_map, known]; rfl) cools
    rw [Zone.sensed_definition]
    exact ⟨celsius, Option.some.inj (read.symm.trans read'), below⟩

end Readings

theorem tick_answers (c d : Cooling) (inputs : CoolingInputs) (time : Instant) (p p' : Plant σ)
    (tick : CoolingTick) (h : c.tick inputs time p = .ok (tick, d, p')) :
    tick.critical = (if c.inShutdown || inputs.chipsetHardOff then none
      else (readZones time c.zones p).1.findIdx? isCritical) ∧
    tick.recovery = recovery? c.inShutdown ((readZones time c.zones p).1.all isCool) inputs ∧
    d.inShutdown = (tick.critical.isSome || (c.inShutdown && tick.recovery.isNone)) ∧
    d.definitions = c.definitions := by
  have observed : ({ c with zones := (readZones time c.zones p).1.map Prod.fst } : Cooling).definitions =
      c.definitions := by
    rw [definitions, List.map_map]
    exact readZones_definitions time c.zones p
  simp only [Cooling.tick] at h
  split at h
  · rename_i zone found
    have clear : (c.inShutdown || inputs.chipsetHardOff) = false := by
      cases blocked : c.inShutdown || inputs.chipsetHardOff with
      | false => rfl
      | true => simp [blocked] at found
    simp only [Except.ok.injEq] at h
    obtain ⟨rfl, rfl, _⟩ := h
    rw [Bool.or_eq_false_iff] at clear
    exact ⟨found.symm, by simp [recovery?, clear.1], rfl, observed⟩
  · rename_i none
    split at h
    · cases h
    · rename_i demand followed q followed_eq
      have kept := (followDemand_keeps _ _ _ _ _ _ _ _ followed_eq).1
      have same := (followDemand_definitions _ _ _ _ _ _ _ _ rfl followed_eq).trans observed
      split at h
      · rename_i quiet
        simp only [Except.ok.injEq, Prod.mk.injEq] at h
        obtain ⟨rfl, rfl, _⟩ := h
        exact ⟨none.symm, quiet.symm, by simpa using kept, same⟩
      · rename_i recovery recovered
        simp only [Except.ok.injEq, Prod.mk.injEq] at h
        obtain ⟨rfl, rfl, _⟩ := h
        exact ⟨none.symm, recovered.symm, by simp [clearShutdown], same⟩

def seen {α σ : Type} (outcome : Except Halt (α × Cooling × Plant σ)) :
    Except Halt (α × Cooling × Journal) :=
  outcome.map fun (a, d, p) => (a, d, p.journal)

def second (c : Cooling) (s : Second σ) (j : Journal) :
    Except Halt (CoolingTick × Cooling × Journal) :=
  seen (c.tick s.inputs s.time ⟨s.board, j⟩)

/-- Ticks in turn. Only the journal is carried on, so each second has a board of its own. -/
def run : List (Second σ) → Cooling → Journal → Except Halt (List CoolingTick × Cooling × Journal)
  | [], c, j => .ok ([], c, j)
  | s :: rest, c, j =>
    match c.second s j with
    | .error halt => .error halt
    | .ok (tick, d, j) =>
      match run rest d j with
      | .error halt => .error halt
      | .ok (ticks, e, j) => .ok (tick :: ticks, e, j)

theorem second_tick {c d : Cooling} {s : Second σ} {j j' : Journal} {tick : CoolingTick}
    (h : c.second s j = .ok (tick, d, j')) :
    ∃ p, c.tick s.inputs s.time ⟨s.board, j⟩ = .ok (tick, d, p) := by
  simp only [second] at h
  cases ticked : c.tick s.inputs s.time ⟨s.board, j⟩ with
  | error halt =>
    rw [ticked] at h
    cases h
  | ok answer =>
    rw [ticked] at h
    cases h
    exact ⟨answer.2.2, rfl⟩

theorem run_cons {c e : Cooling} {s : Second σ} {rest : List (Second σ)} {j k : Journal}
    {ticks : List CoolingTick} (h : run (s :: rest) c j = .ok (ticks, e, k)) :
    ∃ tick others d j', c.second s j = .ok (tick, d, j') ∧ run rest d j' = .ok (others, e, k) ∧
      ticks = tick :: others := by
  simp only [run] at h
  split at h
  · cases h
  · rename_i tick d j' first
    split at h
    · cases h
    · rename_i others e' k' later
      cases h
      exact ⟨tick, others, d, j', first, later, rfl⟩

theorem run_total (seconds : List (Second σ)) (c : Cooling) (j : Journal)
    (bounds : c.config.pid.InOrder) : ∃ answer, run seconds c j = .ok answer := by
  induction seconds generalizing c j with
  | nil => exact ⟨_, rfl⟩
  | cons s rest ih =>
    obtain ⟨⟨tick, d, p⟩, ticked⟩ := c.tick_total s.inputs s.time ⟨s.board, j⟩ bounds
    have kept := c.tick_config d s.inputs s.time _ p tick ticked
    obtain ⟨⟨ticks, e, j'⟩, later⟩ := ih d p.journal (by rwa [kept])
    simp only [run, second, seen, ticked, Except.map, later]
    exact ⟨_, rfl⟩

theorem run_definitions {seconds : List (Second σ)} {c d : Cooling} {j k : Journal}
    {ticks : List CoolingTick} (h : run seconds c j = .ok (ticks, d, k)) :
    d.definitions = c.definitions := by
  induction seconds generalizing c j ticks with
  | nil =>
    cases h
    rfl
  | cons s rest ih =>
    obtain ⟨tick, others, e, j', first, later, _⟩ := run_cons h
    obtain ⟨p, ticked⟩ := second_tick first
    exact (ih later).trans (c.tick_answers e s.inputs s.time _ p tick ticked).2.2.2

def carrierSecond (inputs : CoolingInputs) (ap board rf : Except SensorFault Nat) : Second Bench :=
  ⟨inputs, Instant.zero, (Bench.fresh 0 Instant.zero 0).change
    { temperatures := [(⟨0⟩, ap), (⟨1⟩, board), (⟨2⟩, rf)] }⟩

end Cooling

end BoardWarden
