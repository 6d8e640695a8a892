import BoardWarden.Proofs.Cooling.Seconds

set_option autoImplicit false

namespace BoardWarden

inductive Report where
  | critical (zone : Nat)
  | recovery (recovery : Recovery)
  deriving DecidableEq

def Report.isCritical : Report → Bool
  | critical _ => true
  | recovery _ => false

namespace CoolingTick

def reports (tick : CoolingTick) : List Report :=
  (tick.critical.map Report.critical).toList ++ (tick.recovery.map Report.recovery).toList

end CoolingTick

namespace Cooling

theorem recovery_eq_some (inShutdown cool : Bool) (inputs : CoolingInputs) (recovery : Recovery) :
    recovery? inShutdown cool inputs = some recovery ↔ inShutdown = true ∧ cool = true ∧
      ((inputs.chipsetOn = true ∧ recovery = .resumed) ∨
        (inputs.chipsetOn = false ∧ inputs.recoveryAllowed = true ∧ recovery = .restartAp)) := by
  simp only [recovery?]
  cases inShutdown <;> cases cool <;> cases inputs.chipsetOn <;> cases inputs.recoveryAllowed <;>
    simp [eq_comm]

variable {σ : Type} [Board σ]

/-- A tick reports nothing and keeps the flag, or it makes one report, which turns the flag. -/
theorem second_reports {c d : Cooling} {s : Second σ} {j k : Journal} {tick : CoolingTick}
    (h : c.second s j = .ok (tick, d, k)) :
    (tick.reports = [] ∧ d.inShutdown = c.inShutdown) ∨
      ∃ report, tick.reports = [report] ∧ c.inShutdown = !report.isCritical ∧
        d.inShutdown = report.isCritical := by
  obtain ⟨p, ticked⟩ := second_tick h
  rcases tick_cases c d _ _ _ p tick ticked with
    ⟨critical, none, clear, _, set⟩ | ⟨none, recovery, set, _, clear⟩ | ⟨none, none', kept⟩
  · obtain ⟨zone, critical⟩ := Option.isSome_iff_exists.1 critical
    exact .inr ⟨.critical zone, by simp [CoolingTick.reports, critical, none], clear, set⟩
  · obtain ⟨recovery, reported⟩ := Option.isSome_iff_exists.1 recovery
    exact .inr ⟨.recovery recovery, by simp [CoolingTick.reports, reported, none], set, clear⟩
  · exact .inl ⟨by simp [CoolingTick.reports, none, none'], kept⟩

theorem run_single {seconds : List (Second σ)} {c d : Cooling} {j k : Journal}
    {ticks : List CoolingTick} (h : run seconds c j = .ok (ticks, d, k)) :
    ∀ tick ∈ ticks, tick.critical = none ∨ tick.recovery = none := by
  induction seconds generalizing c j ticks with
  | nil =>
    cases h
    exact List.forall_mem_nil _
  | cons s rest ih =>
    obtain ⟨tick, others, e, j', first, later, rfl⟩ := run_cons h
    obtain ⟨p, ticked⟩ := second_tick first
    refine List.forall_mem_cons.2 ⟨?_, ih later⟩
    rcases tick_cases c e _ _ _ p tick ticked with ⟨_, none, _⟩ | ⟨none, _⟩ | ⟨none, _⟩
    · exact .inr none
    · exact .inl none
    · exact .inl none

theorem run_reports {seconds : List (Second σ)} {c d : Cooling} {j k : Journal}
    {ticks : List CoolingTick} (h : run seconds c j = .ok (ticks, d, k)) :
    (∀ (i : Nat) (report : Report), (ticks.flatMap CoolingTick.reports)[i]? = some report →
        (report.isCritical = true ↔ (i % 2 = 0 ↔ c.inShutdown = false))) ∧
      d.inShutdown = (match (ticks.flatMap CoolingTick.reports).getLast? with
        | none => c.inShutdown
        | some report => report.isCritical) := by
  -- The flag carries the induction: a report turns it and moves the later reports by one place.
  induction seconds generalizing c j ticks with
  | nil =>
    cases h
    exact ⟨fun i report none => by simp at none, rfl⟩
  | cons s rest ih =>
    obtain ⟨tick, others, e, j', first, later, rfl⟩ := run_cons h
    obtain ⟨turns, flag⟩ := ih later
    rw [List.flatMap_cons]
    rcases second_reports first with ⟨silent, kept⟩ | ⟨report, reported, before, after⟩
    · rw [silent, List.nil_append, ← kept]
      exact ⟨turns, flag⟩
    · rw [reported, List.singleton_append]
      refine ⟨fun i other found => ?_, ?_⟩
      · cases i with
        | zero =>
          obtain rfl : report = other := by simpa using found
          cases turn : report.isCritical <;> simp [before, turn]
        | succ i =>
          have turn := turns i other found
          rw [after] at turn
          rw [turn, before]
          cases report.isCritical <;> simp <;> omega
      · rw [flag, after, List.getLast?_cons]
        cases (others.flatMap CoolingTick.reports).getLast? <;> rfl

theorem second_exact {c d : Cooling} {s : Second σ} {j k : Journal} {tick : CoolingTick}
    (h : c.second s j = .ok (tick, d, k)) :
    (∀ zone, tick.critical = some zone ↔ c.inShutdown = false ∧ s.inputs.chipsetHardOff = false ∧
      HotAt c.definitions (sense c.definitions s.board) zone ∧
        ∀ lower < zone, ¬ HotAt c.definitions (sense c.definitions s.board) lower) ∧
    ∀ recovery, tick.recovery = some recovery ↔ c.inShutdown = true ∧
      AllCool c.definitions (sense c.definitions s.board) ∧
        ((s.inputs.chipsetOn = true ∧ recovery = .resumed) ∨
          (s.inputs.chipsetOn = false ∧ s.inputs.recoveryAllowed = true ∧
            recovery = .restartAp)) := by
  obtain ⟨p, ticked⟩ := second_tick h
  obtain ⟨critical, recovered, _⟩ := c.tick_answers d _ _ _ p tick ticked
  have lowest := readZones_lowest s.time c.zones (⟨s.board, j⟩ : Plant σ)
  have cool := readZones_cool s.time c.zones (⟨s.board, j⟩ : Plant σ)
  refine ⟨fun zone => ?_, fun recovery => ?_⟩
  · rw [critical, ← and_assoc, ← Bool.or_eq_false_iff]
    cases blocked : c.inShutdown || s.inputs.chipsetHardOff with
    | true => simp
    | false =>
      rw [if_neg Bool.false_ne_true, lowest zone]
      exact (and_iff_right rfl).symm
  · rw [recovered, recovery_eq_some, cool]
    rfl

/-- Over any run of ticks critical reports and recoveries take turns, a critical report first, and
the flag of the thermal shutdown is up from each critical report to the next recovery. The tick that
follows names the lowest cooling zone at or above its critical threshold just in case the flag is
down and the chipset is not hard off; it reports a recovery just in case the flag is up, every
cooling zone was read below its warning threshold, and the AP is on or may be restarted. -/
theorem reports_alternate (c : Cooling) (calm : c.inShutdown = false) (j : Journal)
    (seconds : List (Second σ)) :
    (∀ ticks d k, run seconds c j = .ok (ticks, d, k) →
      let reports := ticks.flatMap CoolingTick.reports
      (∀ tick ∈ ticks, tick.critical = none ∨ tick.recovery = none) ∧
      (∀ (i : Nat) (report : Report), reports[i]? = some report →
        (report.isCritical = true ↔ i % 2 = 0)) ∧
      (d.inShutdown = true ↔ ∃ zone, reports.getLast? = some (.critical zone)) ∧
      ∀ (s : Second σ) tick e j', d.second s k = .ok (tick, e, j') →
        let readings := sense c.definitions s.board
        (∀ zone, tick.critical = some zone ↔ d.inShutdown = false ∧
          s.inputs.chipsetHardOff = false ∧ HotAt c.definitions readings zone ∧
            ∀ lower < zone, ¬ HotAt c.definitions readings lower) ∧
        ∀ recovery, tick.recovery = some recovery ↔ d.inShutdown = true ∧
          AllCool c.definitions readings ∧
            ((s.inputs.chipsetOn = true ∧ recovery = .resumed) ∨
              (s.inputs.chipsetOn = false ∧ s.inputs.recoveryAllowed = true ∧
                recovery = .restartAp))) ∧
      (c.config.pid.InOrder → ∃ answer, run seconds c j = .ok answer) := by
  refine ⟨fun ticks d k ran => ?_, run_total seconds c j⟩
  obtain ⟨turns, flag⟩ := run_reports ran
  intro reports
  refine ⟨run_single ran, fun i report found => ?_, ?_, fun s tick e j' next => ?_⟩
  · simpa [calm] using turns i report found
  · rw [flag]
    change _ ↔ ∃ zone, (ticks.flatMap CoolingTick.reports).getLast? = some (.critical zone)
    cases (ticks.flatMap CoolingTick.reports).getLast? with
    | none => simp [calm]
    | some report => cases report <;> simp [Report.isCritical]
  · rw [← run_definitions ran]
    exact second_exact next

/-- The board gets too hot with nobody following the demand, cools down while the AP is off, and gets
too hot again; the AP, hotter still, is named instead. -/
theorem carrier_reports :
    let c := ofDefinitions Carrier.zones CoolingConfig.builtIn
    let off : CoolingInputs := ⟨false, false, false, true⟩
    let on : CoolingInputs := ⟨true, true, false, true⟩
    let warm : Except SensorFault Nat := .ok 313
    let seconds := [carrierSecond off warm (.ok 370) warm, carrierSecond off warm (.ok 370) warm,
      carrierSecond off warm warm warm, carrierSecond on (.ok 365) (.ok 370) warm]
    c.inShutdown = false ∧ ∃ ticks d k, run seconds c Journal.fresh = .ok (ticks, d, k) ∧
      ticks.flatMap CoolingTick.reports =
        [.critical 1, .recovery .restartAp, .critical 0] ∧
      d.inShutdown = true ∧
      ∀ tick e j, d.second (carrierSecond on warm warm warm) k = .ok (tick, e, j) →
        tick.recovery = some .resumed := by
  intro c off on warm seconds
  obtain ⟨⟨ticks, d, k⟩, ran, told⟩ : ∃ done, run seconds c Journal.fresh = .ok done ∧
      done.1.flatMap CoolingTick.reports = [.critical 1, .recovery .restartAp, .critical 0] := by
    decide +kernel
  obtain ⟨_, _, flag, next⟩ := (reports_alternate c rfl Journal.fresh seconds).1 ticks d k ran
  have lasts : d.inShutdown = true := flag.2 ⟨0, by rw [told]; rfl⟩
  refine ⟨rfl, ticks, d, k, ran, told, lasts, fun tick e j ticked => ?_⟩
  have cool : AllCool c.definitions (sense c.definitions (carrierSecond on warm warm warm).board) :=
    (readZones_cool Instant.zero c.zones
      (⟨(carrierSecond on warm warm warm).board, Journal.fresh⟩ : Plant Bench)).1 (by decide +kernel)
  exact ((next _ tick e j ticked).2 .resumed).2 ⟨lasts, cool, .inl ⟨rfl, rfl⟩⟩

end Cooling

end BoardWarden
