import BoardWarden.Proofs.Cooling.Alarm
import BoardWarden.Proofs.Cooling.Seconds

set_option autoImplicit false

namespace BoardWarden

open Settings (Thresholds)

/-- Some reading was at the warning threshold or above, and no later one was below that and below the
hysteresis threshold. -/
def Settings.Thresholds.Warned (t : Thresholds) (readings : List (Option Int)) : Prop :=
  ∃ before celsius rest, readings = before ++ some celsius :: rest ∧ t.warning ≤ celsius ∧
    ∀ later, some later ∈ rest → t.warning ≤ later ∨ t.hysteresis ≤ later

namespace Settings.Thresholds

variable {t : Thresholds} {readings : List (Option Int)}

theorem not_warned_nil : ¬ t.Warned [] := by
  rintro ⟨before, celsius, rest, cut, _⟩
  simp at cut

theorem warned_append (reading : Option Int) : t.Warned (readings ++ [reading]) ↔
    (∃ celsius, reading = some celsius ∧ t.warning ≤ celsius) ∨
      (t.Warned readings ∧
        ∀ later, reading = some later → t.warning ≤ later ∨ t.hysteresis ≤ later) := by
  constructor
  · rintro ⟨before, celsius, rest, cut, warm, held⟩
    rcases List.eq_nil_or_concat rest with rfl | ⟨rest, last, rfl⟩
    · obtain ⟨_, same⟩ := List.append_inj' cut rfl
      exact .inl ⟨celsius, by simpa using same, warm⟩
    · have cut' : readings ++ [reading] = (before ++ some celsius :: rest) ++ [last] := by
        simpa using cut
      obtain ⟨rfl, same⟩ := List.append_inj' cut' rfl
      obtain rfl : reading = last := by simpa using same
      exact .inr ⟨⟨before, celsius, rest, rfl, warm, fun later old => held later (by simp [old])⟩,
        fun later same => held later (by simp [same])⟩
  · rintro (⟨celsius, rfl, warm⟩ | ⟨⟨before, celsius, rest, rfl, warm, held⟩, last⟩)
    · exact ⟨readings, celsius, [], rfl, warm, fun later none => by cases none⟩
    · refine ⟨before, celsius, rest ++ [reading], by simp, warm, fun later listed => ?_⟩
      rcases List.mem_append.1 listed with old | new
      · exact held later old
      · exact last later (List.mem_singleton.1 new).symm

theorem warned_fail : t.Warned (readings ++ [none]) ↔ t.Warned readings := by
  simp [warned_append]

theorem warned_read (celsius : Int) : t.Warned (readings ++ [some celsius]) ↔
    t.warning ≤ celsius ∨ (t.hysteresis ≤ celsius ∧ t.Warned readings) := by
  by_cases warm : t.warning ≤ celsius <;> simp [warned_append, warm, and_comm]

end Settings.Thresholds

namespace Zone

def Remembers (z : Zone) (readings : List (Option Int)) : Prop :=
  z.tending = true ↔ z.definition.thresholds.Warned readings

variable {z z' : Zone} {readings : List (Option Int)}

theorem Remembers.alarmed_iff (h : z.Remembers readings) (celsius : Int) :
    z.Alarmed (some celsius) ↔ z.definition.thresholds.Warned (readings ++ [some celsius]) := by
  have latch : z.tending = true ↔ z.definition.thresholds.Warned readings := h
  rw [Thresholds.warned_read, ← latch]
  simp [Alarmed]

/-- Whether an update sets the latch, what it answers, and the requirement that it leaves. -/
theorem update_latch {reading : Option Int} {l : PidLimits} {answer : Update}
    (h : z.update reading l = .ok (answer, z')) :
    z'.tending = reading.elim z.tending z.latchAfter ∧
    answer.latched = (!z.tending && z'.tending) ∧
    (z'.tending = true ∨ reading = none → z'.requirement = 100 ∧ answer.demand = 100) := by
  cases reading with
  | none =>
    cases h
    exact ⟨rfl, by simp, fun _ => ⟨rfl, rfl⟩⟩
  | some celsius =>
    simp only [update] at h
    split at h
    · rename_i set
      cases h
      exact ⟨rfl, by simp [set], fun _ => ⟨percent_full, percent_full⟩⟩
    · rename_i clear
      split at h
      · cases h
      · cases h
        exact ⟨rfl, by simp [clear], fun held => by simp [clear] at held⟩

theorem Remembers.update (h : z.Remembers readings) {reading : Option Int} {l : PidLimits}
    {answer : Update} (updated : z.update reading l = .ok (answer, z')) :
    z'.Remembers (readings ++ [reading]) := by
  have latch := (update_latch updated).1
  have kept := z.update_definition z' reading l answer updated
  rw [Remembers, latch, kept]
  cases reading with
  | none => exact h.trans Thresholds.warned_fail.symm
  | some celsius => exact (z.alarmed_some celsius).symm.trans (h.alarmed_iff celsius)

theorem update_answers_iff (z : Zone) (reading : Option Int) (l : PidLimits) :
    (∃ answer z', z.update reading l = .ok (answer, z')) ↔ (z.Alarmed reading ∨ l.InOrder) := by
  constructor
  · rintro ⟨answer, z', updated⟩
    refine Decidable.or_iff_not_imp_right.2 fun disorder => Classical.byContradiction fun calm => ?_
    rw [z.update_stuck reading l disorder calm] at updated
    cases updated
  · rintro (alarmed | order)
    · obtain ⟨answer, z', updated, _⟩ := z.update_alarmed reading l alarmed
      exact ⟨answer, z', updated⟩
    · obtain ⟨⟨answer, z'⟩, updated⟩ := z.update_total reading l order
      exact ⟨answer, z', updated⟩

def run : List (Option Int × PidLimits) → Zone → Except Halt Zone
  | [], z => .ok z
  | turn :: rest, z =>
    match z.update turn.1 turn.2 with
    | .error halt => .error halt
    | .ok (_, z) => run rest z

theorem run_cons {turn : Option Int × PidLimits} {rest : List (Option Int × PidLimits)}
    (h : run (turn :: rest) z = .ok z') :
    ∃ answer y, z.update turn.1 turn.2 = .ok (answer, y) ∧ run rest y = .ok z' := by
  simp only [run] at h
  split at h
  · cases h
  · rename_i answer y updated
    exact ⟨answer, y, updated, h⟩

theorem run_split {before rest : List (Option Int × PidLimits)} (h : run (before ++ rest) z = .ok z') :
    ∃ y, run before z = .ok y ∧ run rest y = .ok z' := by
  induction before generalizing z with
  | nil => exact ⟨z, rfl, h⟩
  | cons turn before ih =>
    obtain ⟨answer, y, updated, later⟩ := run_cons h
    simp only [run, updated]
    exact ih later

theorem run_definition {turns : List (Option Int × PidLimits)} (ran : run turns z = .ok z') :
    z'.definition = z.definition := by
  induction turns generalizing z with
  | nil =>
    cases ran
    rfl
  | cons turn rest ih =>
    obtain ⟨answer, y, updated, later⟩ := run_cons ran
    exact (ih later).trans (z.update_definition y _ _ answer updated)

theorem Remembers.run (h : z.Remembers readings) {turns : List (Option Int × PidLimits)}
    (ran : run turns z = .ok z') : z'.Remembers (readings ++ turns.map Prod.fst) := by
  induction turns generalizing z readings with
  | nil =>
    cases ran
    simpa using h
  | cons turn rest ih =>
    obtain ⟨answer, y, updated, later⟩ := run_cons ran
    simpa using ih (h.update updated) later

theorem Remembers.run_iff (h : z.Remembers readings) (turns : List (Option Int × PidLimits)) :
    (∃ z', Zone.run turns z = .ok z') ↔
      ∀ before celsius l rest, turns = before ++ (some celsius, l) :: rest →
        z.definition.thresholds.Warned (readings ++ (before.map Prod.fst ++ [some celsius])) ∨
          l.InOrder := by
  induction turns generalizing z readings with
  | nil => exact ⟨fun _ before celsius l rest cut => by simp at cut, fun _ => ⟨z, rfl⟩⟩
  | cons turn rest ih =>
    obtain ⟨reading, l⟩ := turn
    constructor
    · rintro ⟨z', ran⟩ before celsius l' rest' cut
      obtain ⟨answer, y, updated, later⟩ := run_cons ran
      cases before with
      | nil =>
        obtain ⟨rfl, rfl⟩ := Prod.mk.inj (List.cons.inj cut).1
        refine ((z.update_answers_iff _ _).1 ⟨answer, y, updated⟩).imp_left fun alarmed => ?_
        exact (h.alarmed_iff celsius).1 alarmed
      | cons first before =>
        obtain ⟨rfl, tail⟩ := List.cons.inj cut
        have here := (ih (h.update updated)).1 ⟨z', later⟩ before celsius l' rest' tail
        rw [z.update_definition y reading l answer updated] at here
        simpa using here
    · intro bounded
      have answers : z.Alarmed reading ∨ l.InOrder := by
        cases reading with
        | none => exact .inl (.inl rfl)
        | some celsius =>
          refine (bounded [] celsius l rest rfl).imp_left fun warned => ?_
          exact (h.alarmed_iff celsius).2 warned
      obtain ⟨answer, y, updated⟩ := (z.update_answers_iff reading l).2 answers
      simp only [Zone.run, updated]
      refine (ih (h.update updated)).2 fun before celsius l' rest' cut => ?_
      rw [z.update_definition y reading l answer updated]
      simpa using bounded ((reading, l) :: before) celsius l' rest' (by rw [cut]; rfl)

/-- From a clear latch on, a run ends unless a reading that leaves the latch clear meets an integral
whose bounds are out of order. The latch is then set just in case some reading was at the warning
threshold or above and no later one fell below both thresholds. A failed reading never moves it, an
update tells when it sets it, and one that leaves it set, or that follows a failed reading, asks for full
cooling. -/
theorem latch_is_hysteresis (z : Zone) (clear : z.tending = false)
    (turns : List (Option Int × PidLimits)) :
    ((∃ z', run turns z = .ok z') ↔
      ∀ before celsius l rest, turns = before ++ (some celsius, l) :: rest →
        z.definition.thresholds.Warned (before.map Prod.fst ++ [some celsius]) ∨ l.InOrder) ∧
    ∀ z', run turns z = .ok z' →
      (z'.tending = true ↔ z.definition.thresholds.Warned (turns.map Prod.fst)) ∧
      ∀ before reading l rest, turns = before ++ (reading, l) :: rest →
        ∃ y answer x, run before z = .ok y ∧ y.update reading l = .ok (answer, x) ∧
          run rest x = .ok z' ∧ (reading = none → x.tending = y.tending) ∧
          (answer.latched = true ↔ y.tending = false ∧ x.tending = true) ∧
          (x.tending = true ∨ reading = none → x.requirement = 100 ∧ answer.demand = 100) := by
  have start : z.Remembers [] := by
    simp only [Remembers, clear, Bool.false_eq_true, Thresholds.not_warned_nil]
  refine ⟨start.run_iff turns, fun z' ran => ⟨?_, fun before reading l rest cut => ?_⟩⟩
  · have remembered := start.run ran
    rwa [Remembers, run_definition ran] at remembered
  · subst cut
    obtain ⟨y, reached, onward⟩ := run_split ran
    obtain ⟨answer, x, updated, later⟩ := run_cons onward
    obtain ⟨latch, latched, full⟩ := update_latch updated
    refine ⟨y, answer, x, reached, updated, later, fun failed => ?_, ?_, full⟩
    · subst failed
      exact latch
    · rw [latched, Bool.and_eq_true, Bool.not_eq_true']

def warning : ZoneDefinition := ⟨"zone", ⟨0⟩, ⟨55, 80, 85, 95⟩, true, 25, 2.5, 0.5, none⟩

theorem warning_latches :
    let z := ofDefinition warning
    let disordered : PidLimits := ⟨1.0, 10.0, -25.0, 1⟩
    let turns := [(some 86, disordered), (some 82, disordered), (none, disordered)]
    z.tending = false ∧ ¬ disordered.InOrder ∧ ∃ z', run turns z = .ok z' ∧ z'.tending = true ∧
      z'.requirement = 100 ∧ warning.thresholds.Warned [some 86, some 82, none] := by
  intro z disordered turns
  have disorder : ¬ disordered.InOrder := by decide +kernel
  obtain ⟨ends, left⟩ := latch_is_hysteresis z rfl turns
  have warned : ∀ rest : List (Option Int), (∀ later, some later ∈ rest → 80 ≤ later) →
      warning.thresholds.Warned (some 86 :: rest) :=
    fun rest held => ⟨[], 86, rest, rfl, by decide, fun later old => .inr (held later old)⟩
  obtain ⟨z', ran⟩ := ends.2 fun before celsius l rest cut => by
    left
    match before, cut with
    | [], cut =>
      obtain rfl : 86 = celsius := by simpa using congrArg (·.1) (List.cons.inj cut).1
      exact warned [] (by simp)
    | [_], cut =>
      obtain ⟨rfl, tail⟩ := List.cons.inj cut
      obtain rfl : 82 = celsius := by simpa using congrArg (·.1) (List.cons.inj tail).1
      exact warned [some 82] (by simp)
    | _ :: _ :: before, cut => cases before <;> simp [turns] at cut
  obtain ⟨latch, turn⟩ := left z' ran
  obtain ⟨_, answer, x, _, _, later, _, _, full⟩ :=
    turn [(some 86, disordered), (some 82, disordered)] none disordered [] rfl
  cases later
  have readings := warned [some 82, none] (by simp)
  exact ⟨rfl, disorder, z', ran, latch.2 readings, (full (.inr rfl)).1, readings⟩

end Zone

end BoardWarden
