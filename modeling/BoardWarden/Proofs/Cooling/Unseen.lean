import Mathlib.Data.List.Forall2
import BoardWarden.Proofs.Cooling.Seconds

set_option autoImplicit false

namespace BoardWarden.Cooling

variable {σ τ : Type} [Board σ] [Board τ]

def answers : List SensorId → σ → List (Except SensorFault Nat)
  | [], _ => []
  | sensor :: rest, b =>
    let kelvin := Board.readKelvin sensor b
    kelvin.1 :: answers rest kelvin.2

def coolingSensors (definitions : List ZoneDefinition) : List SensorId :=
  (definitions.filter ZoneDefinition.cooling).map ZoneDefinition.sensor

/-- Where a reading leaves the board as it is, each sensor may be asked by itself. -/
theorem answers_eq_map (unmoved : ∀ sensor (b : σ), (Board.readKelvin sensor b).2 = b)
    (sensors : List SensorId) (b : σ) :
    answers sensors b = sensors.map fun sensor => (Board.readKelvin sensor b).1 := by
  induction sensors with
  | nil => rfl
  | cons sensor rest ih => simp only [answers, unmoved, ih, List.map_cons]

theorem readZones_alike (time : Instant) (zones : List Zone) (p : Plant σ) (q : Plant τ)
    (journal : p.journal = q.journal)
    (alike : answers (coolingSensors (zones.map Zone.definition)) p.board =
      answers (coolingSensors (zones.map Zone.definition)) q.board) :
    (readZones time zones p).1 = (readZones time zones q).1 ∧
      (readZones time zones p).2.journal = (readZones time zones q).2.journal := by
  induction zones generalizing p q with
  | nil => exact ⟨rfl, journal⟩
  | cons z rest ih =>
    by_cases cools : z.cooling = true
    · have defined : z.definition.cooling = true := cools
      have listed : coolingSensors ((z :: rest).map Zone.definition) =
          z.definition.sensor :: coolingSensors (rest.map Zone.definition) := by
        simp only [List.map_cons, coolingSensors, List.filter_cons, defined, ↓reduceIte]
      rw [listed] at alike
      obtain ⟨here, later⟩ := List.cons.inj alike
      have here' : (p.readKelvin z.definition.sensor).1 = (q.readKelvin z.definition.sensor).1 := here
      simp only [readZones, cools, ↓reduceIte, here']
      split
      · obtain ⟨others, kept⟩ := ih (p.readKelvin z.definition.sensor).2
          (q.readKelvin z.definition.sensor).2 journal later
        exact ⟨by rw [others], kept⟩
      · obtain ⟨others, kept⟩ := ih
          ((p.readKelvin z.definition.sensor).2.noteAt (.sensorReadFailed z.definition.sensor) time)
          ((q.readKelvin z.definition.sensor).2.noteAt (.sensorReadFailed z.definition.sensor) time)
          (congrArg (fun j : Journal => j.record _ _ _) journal) later
        exact ⟨by rw [others], kept⟩
    · have defined : ¬ z.definition.cooling = true := cools
      have listed : coolingSensors ((z :: rest).map Zone.definition) =
          coolingSensors (rest.map Zone.definition) := by
        simp only [List.map_cons, coolingSensors, List.filter_cons, defined,
          Bool.false_eq_true, ↓reduceIte]
      rw [listed] at alike
      obtain ⟨others, kept⟩ := ih p q journal alike
      simp only [readZones, cools, Bool.false_eq_true, ↓reduceIte]
      exact ⟨by rw [others], kept⟩

omit [Board σ] [Board τ] in
theorem seen_cases {α : Type} {a : Except Halt (α × Cooling × Plant σ)}
    {b : Except Halt (α × Cooling × Plant τ)} (same : seen a = seen b) :
    (∃ halt, a = .error halt ∧ b = .error halt) ∨
      ∃ x d p q, a = .ok (x, d, p) ∧ b = .ok (x, d, q) ∧ p.journal = q.journal := by
  cases a with
  | error halt =>
    cases b with
    | error halt' =>
      cases same
      exact .inl ⟨halt, rfl, rfl⟩
    | ok _ => cases same
  | ok answer =>
    cases b with
    | error _ => cases same
    | ok answer' =>
      obtain ⟨x, d, p⟩ := answer
      obtain ⟨x', d', q⟩ := answer'
      simp only [seen, Except.map, Except.ok.injEq, Prod.mk.injEq] at same
      obtain ⟨rfl, rfl, journal⟩ := same
      exact .inr ⟨x, d, p, q, rfl, rfl, journal⟩

omit [Board σ] [Board τ] in
theorem followDemand_alike (c : Cooling) (inputs : CoolingInputs)
    (readings : List (Zone × Option Int)) (time : Instant) (p : Plant σ) (q : Plant τ)
    (journal : p.journal = q.journal) :
    seen (c.followDemand inputs readings time p) = seen (c.followDemand inputs readings time q) := by
  simp only [followDemand, journal]
  split
  · split <;> rfl
  · simp only [seen, Except.map, journal]

theorem second_alike (c : Cooling) (s : Second σ) (s' : Second τ) (inputs : s.inputs = s'.inputs)
    (time : s.time = s'.time) (alike : answers (coolingSensors c.definitions) s.board =
      answers (coolingSensors c.definitions) s'.board) (j : Journal) :
    c.second s j = c.second s' j := by
  obtain ⟨readings, journal⟩ := readZones_alike s.time c.zones (⟨s.board, j⟩ : Plant σ)
    (⟨s'.board, j⟩ : Plant τ) rfl alike
  let read := readZones s.time c.zones (⟨s.board, j⟩ : Plant σ)
  have followed := followDemand_alike { c with zones := read.1.map Prod.fst } s.inputs read.1 s.time
    read.2 (readZones s.time c.zones (⟨s'.board, j⟩ : Plant τ)).2 journal
  simp only [second, tick, ← inputs, ← time, ← readings]
  split
  · simp only [seen, enterShutdown, Except.map, Plant.recordAt, journal]
  · rcases seen_cases followed with ⟨halt, left, right⟩ | ⟨demand, d, p, q, left, right, kept⟩
    · simp only [read] at left right
      simp only [left, right, seen, Except.map]
    · simp only [read] at left right
      simp only [left, right]
      split
      · simp only [seen, Except.map, kept]
      · simp only [seen, Except.map, Plant.noteAt, Plant.recordAt, kept]

/-- Two runs whose cooling zones read the same are the same, whatever else the sensors say. -/
theorem run_alike (c : Cooling) (j : Journal) (seconds : List (Second σ))
    (seconds' : List (Second τ))
    (alike : List.Forall₂ (fun s s' => s.inputs = s'.inputs ∧ s.time = s'.time ∧
      answers (coolingSensors c.definitions) s.board =
        answers (coolingSensors c.definitions) s'.board) seconds seconds') :
    run seconds c j = run seconds' c j := by
  generalize kept : c.definitions = definitions at alike
  induction alike generalizing c j with
  | nil => rfl
  | @cons s s' _ _ first _ ih =>
    obtain ⟨inputs, time, same⟩ := first
    have turn := second_alike c s s' inputs time (by rw [kept]; exact same) j
    simp only [run, ← turn]
    split
    · rfl
    · rename_i tick d j' done
      obtain ⟨p, ticked⟩ := second_tick done
      rw [ih d j' ((c.tick_answers d _ _ _ p tick ticked).2.2.2.trans kept)]

/-- The carrier without its daughterboard. The sensor of the daughterboard may be hot or may fail;
the AP that gets too hot in the second tick is reported all the same. -/
theorem carrier_unseen :
    let c := ((ofDefinitions Carrier.zones CoolingConfig.builtIn).loadConfig Settings.Store.empty
      Instant.zero Journal.fresh).1
    let on : CoolingInputs := ⟨true, true, false, true⟩
    let warm : Except SensorFault Nat := .ok 320
    let seconds := [carrierSecond on warm warm (.ok 400), carrierSecond on (.ok 365) warm (.ok 250)]
    let seconds' :=
      [carrierSecond on warm warm (.error .notPowered), carrierSecond on (.ok 365) warm (.ok 400)]
    run seconds c Journal.fresh = run seconds' c Journal.fresh ∧
      ∃ ticks d j, run seconds' c Journal.fresh = .ok (ticks, d, j) ∧
        ticks.map CoolingTick.critical = [none, some 0] := by
  intro c on warm seconds seconds'
  have sensors : coolingSensors c.definitions = [⟨0⟩, ⟨1⟩] := by decide +kernel
  have unmoved : ∀ sensor (b : Bench), (Board.readKelvin sensor b).2 = b := fun _ _ => rfl
  have alike : ∀ inputs ap board rf rf', answers (coolingSensors c.definitions)
      (carrierSecond inputs ap board rf).board = answers (coolingSensors c.definitions)
        (carrierSecond inputs ap board rf').board := by
    intro inputs ap board rf rf'
    rw [sensors, answers_eq_map unmoved, answers_eq_map unmoved]
    rfl
  have same := run_alike c Journal.fresh seconds seconds'
    (.cons ⟨rfl, rfl, alike _ _ _ _ _⟩ (.cons ⟨rfl, rfl, alike _ _ _ _ _⟩ .nil))
  obtain ⟨⟨ticks, d, j⟩, ran, critical⟩ : ∃ done, run seconds' c Journal.fresh = .ok done ∧
      done.1.map CoolingTick.critical = [none, some 0] := by
    decide +kernel
  exact ⟨same, ticks, d, j, ran, critical⟩

end BoardWarden.Cooling
