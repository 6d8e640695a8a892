import BoardWarden.Proofs.Emulator.Deeds

set_option autoImplicit false

/-!
Runs of a session. The loop of a run ends by its own test: a pass that does not end it moves the clock
or the next second on, or it leaves a forced shutdown due that the next pass takes. The seconds are
ticked in turn, none before its time and none left out.
-/

namespace BoardWarden

namespace Controller

variable {σ : Type} [Board σ]

theorem poll_leaves {good : σ → Prop} (clock : KeepsTime good) (c : Controller σ)
    (fine : good c.board) (action : DeferredAction) (deadline : Instant) :
    (c.pollDeferred.2.agenda.deadline? action = some deadline →
        c.pollDeferred.2.now.micros < deadline.micros) ∧
      (c.agenda.deadline? action = some deadline → deadline.micros ≤ c.now.micros →
        c.pollDeferred.2.agenda.isPending action = false) := by
  obtain ⟨served, polls, _⟩ := c.runDue_polls DeferredAction.all.length c.agenda.size_le
  exact ⟨(polls.orderly clock fine).idle action deadline,
    c.runDue_does clock _ fine c.agenda.size_le action deadline⟩

theorem stepPower_agenda {good : σ → Prop} (clock : KeepsTime good) (c : Controller σ)
    (fine : good c.board) :
    c.stepPower.agenda = c.agenda ∨
      c.agenda.isPending .thermalForceShutdown = true ∧ ∃ deadline,
        c.stepPower.agenda.deadline? .thermalForceShutdown = some deadline ∧
          deadline.micros ≤ c.stepPower.now.micros := by
  have worked : c.work.agenda = c.agenda := c.serviceFaults_fields.2.2.2.2.1
  have called : Called c.board c.work.board :=
    c.serviceFaults_called.trans (c.serviceFaults.2.sequencer.handle_called _)
  have pulled : c.work.pullThermalForward.board = c.work.board :=
    congrArg (fun r => r.plant.board) c.work.pullThermalForward_fields.2.1
  obtain ⟨_, later⟩ := clock.called (pulled ▸ (clock.called fine called).1)
    (c.work.pullThermalForward.switchFans_called c.powerState)
  rw [pulled] at later
  rw [stepPower_work, (switchFans_fields _ _).2.2.2]
  by_cases pulls : c.work.powerState = .g3 ∧ c.work.agenda.isPending .thermalForceShutdown = true
  · have agenda : c.work.pullThermalForward.agenda =
        (c.work.agenda.reschedule .thermalForceShutdown c.work.now Span.zero).reschedule
          .thermalFanOverride c.work.now c.work.config.cooling.overrideOffset := by
      simp only [pullThermalForward, pulls, decide_true, Bool.and_self, ↓reduceIte]
    refine .inr ⟨worked ▸ pulls.2, c.work.now.after Span.zero, ?_, ?_⟩
    · rw [agenda]
      simp only [Agenda.reschedule, pulls.2, ↓reduceIte]
      split <;> simp [Agenda.schedule, Agenda.deadline?_set_of_ne]
    · exact Nat.le_trans (Nat.min_le_left _ _) later
  · have agenda : c.work.pullThermalForward = c.work := by
      simp only [pullThermalForward]
      rw [if_neg (by simpa using pulls)]
    rw [agenda, worked]
    exact .inl rfl

end Controller

namespace Emulator

inductive Seconds (s : Session) : List Instant → Session → Prop where
  | early (before : s.now.micros < s.nextTick.micros) : Seconds s [] s
  | due {c : Controller World} (tick : CoolingTick) (come : s.nextTick.micros ≤ s.now.micros)
      (ticked : (s.controller.withBoard s.world.spinFans).tickSecond = .ok (tick, c)) :
      Seconds s [s.now] { s with controller := c, nextTick := s.nextTick.after Session.tick }

inductive Turn (stop : Instant) (s : Session) : Bool → List Instant → Session → Prop where
  | stopped (late : stop.micros ≤ s.stepControl.now.micros) : Turn stop s true [] s.stepControl
  | moved (early : s.stepControl.now.micros < stop.micros)
      (busy : s.stepControl.controller.isSteady = false) (moved : s.stepControl.now ≠ s.now) :
      Turn stop s false [] s.stepControl
  | idled (early : s.stepControl.now.micros < stop.micros)
      (busy : s.stepControl.controller.isSteady = false) (still : s.stepControl.now = s.now) :
      Turn stop s false [] (s.stepControl.withWorld
        (s.stepControl.world.advanceTo (s.stepControl.now.after Session.idleStep)))
  | slept {own : List Instant} {later : Session} (early : s.stepControl.now.micros < stop.micros)
      (steady : s.stepControl.controller.isSteady = true)
      (seconds : Seconds (s.stepControl.withWorld
        (s.stepControl.world.advanceTo (s.stepControl.wake stop))) own later) :
      Turn stop s (s.stepControl.wake stop = stop && decide (stop.micros ≤ later.now.micros)) own later

inductive Passes (stop : Instant) : Session → List Instant → Session → Prop where
  | last {s later : Session} {own : List Instant} (turn : Turn stop s true own later) :
      Passes stop s own later
  | more {s later last : Session} {own others : List Instant} (turn : Turn stop s false own later)
      (rest : Passes stop later others last) : Passes stop s (own ++ others) last

namespace Session

theorem seconds_iff (s later : Session) :
    s.tickIfDue = .ok later ↔ ∃ own, Seconds s own later := by
  by_cases come : s.nextTick.micros ≤ s.now.micros
  · simp only [tickIfDue, come, ↓reduceIte]
    constructor
    · intro answer
      split at answer
      · cases answer
      · rename_i tick c ticked
        cases answer
        exact ⟨_, .due tick come ticked⟩
    · rintro ⟨own, seconds⟩
      cases seconds with
      | early before => omega
      | due tick _ ticked => simp only [ticked]
  · simp only [tickIfDue, come, ↓reduceIte]
    constructor
    · rintro ⟨⟩
      exact ⟨_, .early (Nat.not_le.1 come)⟩
    · rintro ⟨own, seconds⟩
      cases seconds with
      | early => rfl
      | due _ come' => exact absurd come' come

theorem turn_iff (stop : Instant) (s later : Session) (ended : Bool) :
    pass stop s = .ok (ended, later) ↔ ∃ own, Turn stop s ended own later := by
  by_cases late : stop.micros ≤ s.stepControl.now.micros
  · simp only [pass, late, ↓reduceIte]
    constructor
    · rintro ⟨⟩
      exact ⟨_, .stopped late⟩
    · rintro ⟨own, turn⟩
      cases turn with
      | stopped => rfl
      | moved early | idled early | slept early => omega
  · have early := Nat.not_le.1 late
    simp only [pass, late, ↓reduceIte]
    cases steady : s.stepControl.controller.isSteady with
    | false =>
      by_cases still : s.stepControl.now = s.now
      · simp only [still, Bool.not_false, ↓reduceIte]
        constructor
        · rintro ⟨⟩
          rw [← still]
          exact ⟨_, .idled early steady still⟩
        · rintro ⟨own, turn⟩
          cases turn with
          | stopped => omega
          | moved _ _ moved => exact absurd still moved
          | idled => rw [still]
          | slept _ steady' => simp [steady] at steady'
      · simp only [still, Bool.not_false, ↓reduceIte]
        constructor
        · rintro ⟨⟩
          exact ⟨_, .moved early steady still⟩
        · rintro ⟨own, turn⟩
          cases turn with
          | stopped => omega
          | moved => rfl
          | idled _ _ still' => exact absurd still' still
          | slept _ steady' => simp [steady] at steady'
    | true =>
      simp only [Bool.not_true, Bool.false_eq_true, ↓reduceIte]
      constructor
      · intro answer
        split at answer
        · cases answer
        · rename_i ticked come
          obtain ⟨own, seconds⟩ := (seconds_iff _ _).1 come
          cases answer
          exact ⟨own, .slept early steady seconds⟩
      · rintro ⟨own, turn⟩
        cases turn with
        | stopped => omega
        | moved _ busy | idled _ busy => simp [steady] at busy
        | slept _ _ seconds =>
          simp only [(seconds_iff _ _).2 ⟨own, seconds⟩]

def pulled (s : Session) : Bool :=
  s.controller.agenda.thermalForceShutdown.any fun deadline => deadline.micros ≤ s.now.micros

theorem pulled_later {s : Session} {w : World} (later : s.now.micros ≤ (s.withWorld w).now.micros)
    (pulled : s.pulled = true) : (s.withWorld w).pulled = true := by
  obtain ⟨deadline, armed, due⟩ := (Option.any_eq_true _ _).1 pulled
  exact (Option.any_eq_true _ _).2
    ⟨deadline, armed, decide_eq_true (Nat.le_trans (of_decide_eq_true due) later)⟩

def left (stop : Instant) (s : Session) : Nat :=
  (stop.micros - s.now.micros) + (stop.micros - s.nextTick.micros)

def rank (stop : Instant) (s : Session) : Nat := 2 * s.left stop + if s.pulled then 0 else 1

theorem rank_lt_of_left {stop : Instant} {s later : Session} (closer : later.left stop < s.left stop) :
    later.rank stop < s.rank stop := by
  simp only [rank]
  split <;> split <;> omega

theorem rank_lt_of_pulled {stop : Instant} {s later : Session} (near : later.left stop ≤ s.left stop)
    (before : s.pulled = false) (after : later.pulled = true) : later.rank stop < s.rank stop := by
  simp only [rank, before, after, Bool.false_eq_true, ↓reduceIte]
  omega

theorem rank_lt_passBound (s : Session) (stop : Instant) : s.rank stop < s.passBound stop := by
  simp only [rank, left, passBound]
  split <;> omega

theorem advanceTo_now (s : Session) (time : Instant) :
    (s.withWorld (s.world.advanceTo time)).now.micros = max s.now.micros time.micros := by
  change (s.world.advanceTo time).time.micros = max s.world.time.micros time.micros
  simp only [World.advanceTo]
  split
  · exact (Nat.max_eq_right (Nat.le_of_lt ‹_›)).symm
  · exact (Nat.max_eq_left (Nat.not_lt.1 ‹_›)).symm

theorem wake_le (s : Session) (stop : Instant) :
    (s.wake stop).micros ≤ min s.nextTick.micros stop.micros := by
  simp only [wake]
  split
  · exact Nat.le_refl _
  · exact Nat.min_le_left _ _

/-- A session wakes for the next second, for the end of the run, for an action, or at once for one that
is due. -/
theorem wake_cases (s : Session) (stop : Instant) :
    (s.wake stop).micros = min s.nextTick.micros stop.micros ∨
      s.now.micros < (s.wake stop).micros ∨
      ∃ action deadline, s.controller.agenda.deadline? action = some deadline ∧
        deadline.micros ≤ s.now.micros ∧ (s.wake stop).micros = s.now.micros := by
  simp only [wake]
  split
  · exact .inl rfl
  · rename_i deadline next
    obtain ⟨action, armed⟩ := Agenda.nextDeadline_armed next
    by_cases due : deadline.micros ≤ s.now.micros
    · by_cases first : s.now.micros ≤ min s.nextTick.micros stop.micros
      · refine .inr (.inr ⟨action, deadline, armed, due, ?_⟩)
        change min _ (max _ _) = _
        omega
      · refine .inl ?_
        change min _ (max _ _) = _
        omega
    · change min _ (max _ _) = _ ∨ _ < min _ (max _ _) ∨ _
      omega

@[simp] theorem stepControl_nextTick (s : Session) : s.stepControl.nextTick = s.nextTick := by
  simp only [stepControl]

@[simp] theorem withWorld_nextTick (s : Session) (w : World) :
    (s.withWorld w).nextTick = s.nextTick := by
  simp only [withWorld]

section Sound

variable {s : Session} (sound : Sound s.controller)

include sound

theorem stepControl_sound :
    Sound s.stepControl.controller ∧ s.now.micros ≤ s.stepControl.now.micros := by
  obtain ⟨_, ⟨⟩, sound', later⟩ := sound.deed .poll trivial
  obtain ⟨_, ⟨⟩, sound'', later'⟩ := sound'.deed .step trivial
  exact ⟨sound'', Nat.le_trans later later'⟩

theorem advanceTo_sound (time : Instant) (fits : time.micros ≤ Instant.last) :
    Sound (s.withWorld (s.world.advanceTo time)).controller :=
  sound.withBoard
    (Nat.le_trans (Nat.le_of_eq (s.advanceTo_now time)) (Nat.max_le.2 ⟨sound.inTime, fits⟩))

/-- If the clock stands still, an action that is due after a step was made due by the step, and the
forced shutdown was not due before. -/
theorem stepControl_due {action : DeferredAction} {deadline : Instant}
    (armed : s.stepControl.controller.agenda.deadline? action = some deadline)
    (due : deadline.micros ≤ s.stepControl.now.micros)
    (still : s.stepControl.now.micros ≤ s.now.micros) :
    s.pulled = false ∧ s.stepControl.pulled = true := by
  obtain ⟨_, ⟨⟩, sound', later⟩ := sound.deed .poll trivial
  have leaves := s.controller.poll_leaves World.keepsTime sound.inTime
  rcases s.controller.pollDeferred.2.stepPower_agenda World.keepsTime sound'.inTime with
    same | ⟨pending, moved, rearmed, due'⟩
  · have idle := (leaves action deadline).1 (same ▸ armed)
    have read : s.now.micros ≤ s.controller.pollDeferred.2.now.micros := later
    omega
  · constructor
    · refine Bool.eq_false_iff.2 fun pulled => ?_
      obtain ⟨deadline, armed, due⟩ := Option.any_eq_true _ _ |>.1 pulled
      have gone := (leaves .thermalForceShutdown deadline).2 armed (of_decide_eq_true due)
      rw [pending] at gone
      cases gone
    · exact Option.any_eq_true _ _ |>.2 ⟨moved, rearmed, decide_eq_true due'⟩

end Sound

end Session

namespace Seconds

variable {s later : Session} {own : List Instant}

theorem sound (seconds : Seconds s own later) (sound : Sound s.controller) :
    Sound later.controller ∧ s.now.micros ≤ later.now.micros := by
  cases seconds with
  | early => exact ⟨sound, Nat.le_refl _⟩
  | due tick _ ticked =>
    have spun : Sound (s.controller.withBoard s.world.spinFans) := sound.withBoard sound.inTime
    obtain ⟨tick', c', ticked', sound', later⟩ := spun.second
    rw [ticked] at ticked'
    cases ticked'
    exact ⟨sound', later⟩

theorem total (s : Session) (sound : Sound s.controller) : ∃ own later, Seconds s own later := by
  by_cases come : s.nextTick.micros ≤ s.now.micros
  · have spun : Sound (s.controller.withBoard s.world.spinFans) := sound.withBoard sound.inTime
    obtain ⟨tick, c, ticked, _⟩ := spun.second
    exact ⟨_, _, .due tick come ticked⟩
  · exact ⟨_, _, .early (Nat.not_le.1 come)⟩

end Seconds

namespace Turn

variable {stop : Instant} {s later : Session} {ended : Bool} {own : List Instant}

theorem total (stop : Instant) (fits : stop.micros ≤ Instant.last) (s : Session)
    (sound : Sound s.controller) : ∃ ended own later, Turn stop s ended own later := by
  obtain ⟨sound', _⟩ := Session.stepControl_sound sound
  by_cases late : stop.micros ≤ s.stepControl.now.micros
  · exact ⟨_, _, _, .stopped late⟩
  · have early := Nat.not_le.1 late
    cases steady : s.stepControl.controller.isSteady with
    | false =>
      by_cases still : s.stepControl.now = s.now
      · exact ⟨_, _, _, .idled early steady still⟩
      · exact ⟨_, _, _, .moved early steady still⟩
    | true =>
      have wakes := s.stepControl.wake_le stop
      obtain ⟨own, later, seconds⟩ := Seconds.total _
        (Session.advanceTo_sound sound' (s.stepControl.wake stop) (by omega))
      exact ⟨_, _, _, .slept early steady seconds⟩

theorem sound (turn : Turn stop s ended own later) (sound : Sound s.controller)
    (fits : stop.micros ≤ Instant.last) :
    Sound later.controller ∧ s.now.micros ≤ later.now.micros := by
  obtain ⟨sound', later'⟩ := Session.stepControl_sound sound
  cases turn with
  | stopped | moved => exact ⟨sound', later'⟩
  | idled =>
    refine ⟨Session.advanceTo_sound sound' _ (Nat.min_le_right _ _), ?_⟩
    rw [Session.advanceTo_now]
    omega
  | slept _ _ seconds =>
    have wakes := s.stepControl.wake_le stop
    obtain ⟨sound'', later''⟩ := seconds.sound (Session.advanceTo_sound sound' _ (by omega))
    rw [Session.advanceTo_now] at later''
    exact ⟨sound'', by omega⟩

theorem ends (turn : Turn stop s true own later) : stop.micros ≤ later.now.micros := by
  generalize same : true = ended at turn
  cases turn with
  | stopped late => exact late
  | moved | idled => cases same
  | slept =>
    simp only [Bool.true_eq, Bool.and_eq_true, decide_eq_true_eq] at same
    exact same.2

theorem ticks (turn : Turn stop s ended own later) :
    own = [] ∧ later.nextTick = s.nextTick ∨
      ∃ time, own = [time] ∧ s.nextTick.micros ≤ time.micros ∧
        later.nextTick = s.nextTick.after Session.tick := by
  cases turn with
  | stopped | moved | idled => simp
  | slept _ _ seconds =>
    cases seconds with
    | early => simp
    | due _ come =>
      simp only [Session.withWorld_nextTick, Session.stepControl_nextTick] at come ⊢
      exact .inr ⟨_, rfl, come, trivial⟩

theorem falls (turn : Turn stop s false own later) (sound : Sound s.controller)
    (fits : stop.micros ≤ Instant.last) : later.rank stop < s.rank stop := by
  obtain ⟨sound', forward⟩ := Session.stepControl_sound sound
  generalize same : false = ended at turn
  cases turn with
  | stopped => cases same
  | moved early _ moved =>
    have passes : s.now.micros ≠ s.stepControl.now.micros := fun still =>
      moved (congrArg Instant.mk still.symm)
    refine Session.rank_lt_of_left ?_
    simp only [Session.left, Session.stepControl_nextTick]
    omega
  | idled early _ still =>
    refine Session.rank_lt_of_left ?_
    have ahead : (s.stepControl.now.after Session.idleStep).micros =
        min (s.stepControl.now.micros + 1000) Instant.last := rfl
    simp only [Session.left, Session.advanceTo_now, Session.withWorld_nextTick,
      Session.stepControl_nextTick, ahead]
    omega
  | slept early _ seconds =>
    have wakes := s.stepControl.wake_le stop
    have woken := s.stepControl.advanceTo_now (s.stepControl.wake stop)
    obtain ⟨_, onward⟩ := seconds.sound (Session.advanceTo_sound sound' _ (by omega))
    have unfinished : (s.stepControl.wake stop).micros ≠ stop.micros ∨
        later.now.micros < stop.micros := by
      rcases Bool.and_eq_false_iff.1 same.symm with awake | before
      · exact .inl fun reached => of_decide_eq_false awake (congrArg Instant.mk reached)
      · exact .inr (Nat.not_le.1 (of_decide_eq_false before))
    rw [Session.stepControl_nextTick] at wakes
    cases seconds with
    | due tick come =>
      refine Session.rank_lt_of_left ?_
      have ahead : (s.nextTick.after Session.tick).micros =
          min (s.nextTick.micros + 1000000) Instant.last := rfl
      simp only [Session.withWorld_nextTick, Session.stepControl_nextTick] at come onward unfinished
      simp only [Session.left, Session.withWorld_nextTick, Session.stepControl_nextTick, ahead]
      omega
    | early before =>
      simp only [Session.withWorld_nextTick, Session.stepControl_nextTick] at before
      have near : Session.left stop (s.stepControl.withWorld
            (s.stepControl.world.advanceTo (s.stepControl.wake stop))) =
          (stop.micros - max s.stepControl.now.micros (s.stepControl.wake stop).micros) +
            (stop.micros - s.nextTick.micros) := by
        simp only [Session.left, woken, Session.withWorld_nextTick, Session.stepControl_nextTick]
      rcases s.stepControl.wake_cases stop with first | ahead | ⟨action, deadline, armed, due, now⟩
      · rw [Session.stepControl_nextTick] at first
        omega
      · refine Session.rank_lt_of_left ?_
        simp only [Session.left] at near ⊢
        omega
      · -- Nothing was slept. If the step took no time either, the action is one that the step itself
        -- made due, and the next pass takes it.
        by_cases still : s.stepControl.now.micros ≤ s.now.micros
        · obtain ⟨before, after⟩ := Session.stepControl_due sound armed due still
          refine Session.rank_lt_of_pulled ?_ before ?_
          · simp only [Session.left] at near ⊢
            omega
          · refine Session.pulled_later ?_ after
            rw [woken]
            exact Nat.le_max_left _ _
        · refine Session.rank_lt_of_left ?_
          simp only [Session.left] at near ⊢
          omega

end Turn

theorem Session.runWithin_ends {stop : Instant} (fits : stop.micros ≤ Instant.last) (fuel : Nat)
    (s : Session) (sound : Sound s.controller) (enough : s.rank stop < fuel) :
    ∃ own last, runWithin stop fuel s = .ok last ∧ Passes stop s own last := by
  induction fuel generalizing s with
  | zero => omega
  | succ fuel ih =>
    obtain ⟨ended, own, later, turn⟩ := Turn.total stop fits s sound
    have passed := (turn_iff stop s later ended).2 ⟨own, turn⟩
    cases ended with
    | true =>
      refine ⟨own, later, ?_, .last turn⟩
      simp only [runWithin, passed]
    | false =>
      have lower := turn.falls sound fits
      obtain ⟨others, last, ran, rest⟩ := ih later (turn.sound sound fits).1 (by omega)
      refine ⟨own ++ others, last, ?_, .more turn rest⟩
      simp only [runWithin, passed, ran]

theorem Session.runFor_ends (s : Session) (sound : Sound s.controller) (span : Span) :
    ∃ own last, s.runFor span = .ok last ∧ Passes (s.now.after span) s own last :=
  runWithin_ends (Nat.min_le_right _ _) _ s sound (s.rank_lt_passBound _)

theorem Passes.ends {stop : Instant} {s last : Session} {own : List Instant}
    (passes : Passes stop s own last) : stop.micros ≤ last.now.micros := by
  induction passes with
  | last turn => exact turn.ends
  | more _ _ ih => exact ih

end Emulator

end BoardWarden
