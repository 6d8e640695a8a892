import BoardWarden.Proofs.Power.Train
import BoardWarden.Proofs.Power.Waits
import BoardWarden.Proofs.Rail.Closure
import BoardWarden.Proofs.Rail.Writes

set_option autoImplicit false

/-!
What raising one rail comes to on a board whose time passes in sleep alone: the answer, the book, the
note in the journal and the board itself. The wait for the feedback looks at the board at the poll
instants up to the first that is not before the deadline, and the rail is on just in case one of
these looks finds it live.
-/

namespace BoardWarden

/-- Looks leave the board as it is, and only a sleep takes time, just its span. -/
structure Punctual (σ : Type) [Board σ] : Prop where
  looks : RailBank.LooksOnly σ
  drives : ∀ line level (b : σ), Board.now (Board.driveLine line level b).2 = Board.now b
  sleeps : ∀ span (b : σ), Board.now (Board.sleep span b) = (Board.now b).after span

theorem Clocked.punctual {σ : Type} [Board σ] (clocked : Clocked σ) (looks : RailBank.LooksOnly σ) :
    Punctual σ where
  looks := looks
  drives line level b := clocked.still (.driveLine line level) b (fun _ same => by cases same)
  sleeps := clocked.sleeps

theorem Punctual.settled_fits {σ : Type} [Board σ] (punctual : Punctual σ) (p : Plant σ) (line : Line)
    (level : Bool) (settle : Span) (fits : p.now.micros ≤ Instant.last) :
    (if settle = Span.zero then (p.driveLine line level).2
      else (p.driveLine line level).2.sleep settle).now.micros ≤ Instant.last := by
  split
  · exact Nat.le_trans (Nat.le_of_eq (congrArg Instant.micros (punctual.drives line level p.board)))
      fits
  · exact Nat.le_trans (Nat.le_of_eq (congrArg Instant.micros (punctual.sleeps settle _)))
      (Nat.min_le_right _ _)

namespace RailBank

def Booked (b : RailBank) : Prop := b.states.length = b.table.length

theorem ofTable_booked (table : List Rail) (timing : RailTiming) : (ofTable table timing).Booked := by
  simp [Booked, ofTable]

theorem Within.booked {touched : List RailId} {b b' : RailBank} (w : Within touched b b')
    (booked : b.Booked) : b'.Booked := by
  rw [Booked, w.size, w.table]
  exact booked

theorem Booked.state? {b : RailBank} (booked : b.Booked) {rail : RailId} {row : Rail}
    (hrow : b.row? rail = some row) : ∃ state, b.state? rail = some state := by
  obtain ⟨listed, _⟩ := List.getElem?_eq_some_iff.1 hrow
  have entered : rail.index < b.states.length := booked ▸ listed
  exact ⟨_, List.getElem?_eq_getElem entered⟩

theorem Booked.unknown {b : RailBank} (booked : b.Booked) {rail : RailId}
    (missing : b.row? rail = none) : b.state? rail = none := by
  have past : b.table.length ≤ rail.index := List.getElem?_eq_none_iff.1 missing
  exact List.getElem?_eq_none_iff.2 (booked ▸ past)

end RailBank

variable {σ : Type} [Board σ]

section Looks

variable (looks : RailBank.LooksOnly σ)

include looks

theorem RailBank.status_plant (b : RailBank) (rail : RailId) (p : Plant σ) :
    (b.status rail p).2 = p := by
  obtain ⟨calls, notes, same, _, entered⟩ := b.status_does rail p
  have untold : notes = [] := List.eq_nil_iff_forall_not_mem.2 fun note listed => by
    cases entered note listed
  subst untold
  have board := b.status_board looks rail p
  rw [same] at board ⊢
  exact congrArg (Plant.mk · p.journal) board

theorem Rig.status_rig (r : Rig σ) (rail : RailId) : (r.status rail).2 = r := by
  rw [Rig.status, RailBank.status_plant looks]

theorem Rig.voltage_rig (r : Rig σ) (rail : RailId) : (r.voltage rail).2 = r := by
  have same : (r.rails.voltage rail r.plant).2 = r.plant := by
    simp only [RailBank.voltage]
    split
    · rfl
    · split
      · exact congrArg (Plant.mk · r.plant.journal) (looks.2 _ _)
      · rfl
  rw [Rig.voltage, same]

end Looks

namespace Plant

def polled (poll : Span) : Nat → Plant σ → Plant σ
  | 0, p => p
  | count + 1, p => polled poll count (p.sleep poll)

theorem polled_micros (punctual : Punctual σ) (poll : Span) (count : Nat) (p : Plant σ)
    (fits : p.now.micros ≤ Instant.last) :
    (p.polled poll count).now.micros = min (p.now.micros + count * poll.micros) Instant.last := by
  induction count generalizing p with
  | zero => simp only [polled, Nat.zero_mul, Nat.add_zero, Nat.min_eq_left fits]
  | succ count ih =>
    have moved : (p.sleep poll).now.micros = min (p.now.micros + poll.micros) Instant.last :=
      congrArg Instant.micros (punctual.sleeps poll p.board)
    rw [polled, ih (p.sleep poll) (by omega), moved, Nat.succ_mul]
    omega

/-- There is a first poll that is not before the deadline, at most one interval after it. -/
theorem polled_reaches (punctual : Punctual σ) (poll : Span) (counts : 1 ≤ poll.micros)
    (timeout : Span) (p : Plant σ) (fits : p.now.micros ≤ Instant.last) :
    ∃ last, (∀ k < last, (p.polled poll k).now.micros < (p.now.after timeout).micros) ∧
      (p.now.after timeout).micros ≤ (p.polled poll last).now.micros ∧
      (p.polled poll last).now.micros ≤ p.now.micros + timeout.micros + poll.micros ∧
      last ≤ (p.now.after timeout).micros - p.now.micros := by
  let deadline := (p.now.after timeout).micros
  let turns := deadline - p.now.micros
  have instants := fun k => p.polled_micros punctual poll k fits
  have before : deadline ≤ Instant.last := Nat.min_le_right _ _
  have allowed : deadline ≤ p.now.micros + timeout.micros := Nat.min_le_left _ _
  have reached : deadline ≤ (p.polled poll turns).now.micros := by
    have far : turns ≤ turns * poll.micros := Nat.le_mul_of_pos_right turns counts
    rw [instants]
    omega
  have some_late : ∃ k, deadline ≤ (p.polled poll k).now.micros := ⟨turns, reached⟩
  have early : ∀ k < Nat.find some_late, (p.polled poll k).now.micros < deadline :=
    fun k below => Nat.not_le.1 (Nat.find_min some_late below)
  refine ⟨Nat.find some_late, early, Nat.find_spec some_late, ?_, Nat.find_min' some_late reached⟩
  rw [instants]
  cases found : Nat.find some_late with
  | zero => omega
  | succ n =>
    have previous := early n (found ▸ Nat.lt_succ_self n)
    rw [instants] at previous
    rw [Nat.succ_mul]
    omega

end Plant

namespace RailBank

def LiveAt (b : RailBank) (rail : RailId) (start : Plant σ) (k : Nat) : Prop :=
  (b.status rail (start.polled b.timing.poll k)).1 = .on

instance (b : RailBank) (rail : RailId) (start : Plant σ) (k : Nat) :
    Decidable (b.LiveAt rail start k) := inferInstanceAs (Decidable (_ = _))

/-- The wait for a rail from `start`, and what it comes to: `last` is the first of the poll instants
that is not before the deadline. -/
structure Awaits (b : RailBank) (rail : RailId) (timeout : Span) (start : Plant σ) (last : Nat)
    (done : Except RailError Unit × Rig σ) : Prop where
  instants : ∀ k, (start.polled b.timing.poll k).now.micros =
    min (start.now.micros + k * b.timing.poll.micros) Instant.last
  early : ∀ k < last, (start.polled b.timing.poll k).now.micros < (start.now.after timeout).micros
  late : (start.now.after timeout).micros ≤ (start.polled b.timing.poll last).now.micros
  soon : (start.polled b.timing.poll last).now.micros ≤
    start.now.micros + timeout.micros + b.timing.poll.micros
  /-- The wait ends by its own test, however many turns it is given. -/
  ends : ∃ k ≤ last, (b.LiveAt rail start k ∨ k = last) ∧ ∀ turns, last ≤ turns →
    Rig.awaitOn rail (start.now.after timeout) turns ⟨start, b.setState rail .turningOn⟩ =
      ⟨start.polled b.timing.poll k, b.setState rail .turningOn⟩
  ok_iff : done.1 = .ok () ↔ ∃ k ≤ last, b.LiveAt rail start k
  confirmed : ∀ k ≤ last, b.LiveAt rail start k → (∀ i < k, ¬ b.LiveAt rail start i) →
    done = (.ok (), ⟨(start.polled b.timing.poll k).note (.supplyOn rail), b.setState rail .on⟩)
  live : done.1 = .ok () → (done.2.status rail).1 = .on
  expired : (∀ k ≤ last, ¬ b.LiveAt rail start k) →
    done = (.error (.powerGoodTimeout rail),
      ⟨(start.polled b.timing.poll last).record (.supplyFailed rail)
        (.rail .pgTimeout (b.voltage rail (start.polled b.timing.poll last)).1),
        b.setState rail .pgTimeout⟩)

end RailBank

namespace Rig

theorem paused (r : Rig σ) (count : Nat) : (fun r : Rig σ => r.sleep r.rails.timing.poll)^[count] r =
    ⟨r.plant.polled r.rails.timing.poll count, r.rails⟩ := by
  induction count generalizing r with
  | zero => rfl
  | succ count ih => exact ih (r.sleep r.rails.timing.poll)

theorem awaitOn_stops (looks : RailBank.LooksOnly σ) (rail : RailId) (deadline : Instant) (r : Rig σ)
    {last k : Nat} (stop : Stops (r.rails.LiveAt rail r.plant) last k)
    (early : ∀ i < last, (r.plant.polled r.rails.timing.poll i).now.micros < deadline.micros)
    (late : deadline.micros ≤ (r.plant.polled r.rails.timing.poll last).now.micros) (turns : Nat)
    (enough : last ≤ turns) :
    awaitOn rail deadline turns r = ⟨r.plant.polled r.rails.timing.poll k, r.rails⟩ := by
  have paused := r.paused
  rw [awaitOn_eq_poll, poll_stops _ _ _ stop turns enough, paused k]
  · exact status_rig looks _ rail
  · intro i
    rw [paused i]
    exact status_rig looks _ rail
  · intro i
    rw [paused i]
    exact decide_eq_true_iff
  · intro i below
    rw [paused i]
    exact decide_eq_false (Nat.not_le.2 (early i below))
  · rw [paused last]
    exact decide_eq_true late

theorem confirmOn_stopped (looks : RailBank.LooksOnly σ) (r : Rig σ) (rail : RailId)
    (timeout : Span) (q : Plant σ)
    (stopped : awaitOn rail (r.plant.now.after timeout)
      ((r.plant.now.after timeout).micros - r.plant.now.micros) r = ⟨q, r.rails⟩) :
    r.confirmOn rail timeout =
      if (r.rails.status rail q).1 = .on then
        (.ok (), ⟨q.note (.supplyOn rail), r.rails.setState rail .on⟩)
      else (.error (.powerGoodTimeout rail),
        ⟨q.record (.supplyFailed rail) (.rail .pgTimeout (r.rails.voltage rail q).1),
          r.rails.setState rail .pgTimeout⟩) := by
  let marked : Rig σ := ⟨q, r.rails.setState rail .pgTimeout⟩
  have rest : (Rig.status ⟨q, r.rails⟩ rail).2 = ⟨q, r.rails⟩ := Rig.status_rig looks _ rail
  have sampled : (marked.voltage rail).2 = marked := Rig.voltage_rig looks _ rail
  simp only [confirmOn, stopped, rest]
  change (if (r.rails.status rail q).1 = .on then _ else
    (_, Rig.record (marked.voltage rail).2 _ (.rail .pgTimeout (marked.voltage rail).1))) = _
  rw [sampled]
  rfl

theorem confirmOn_awaits (punctual : Punctual σ) (b : RailBank) (rail : RailId) (timeout : Span)
    (start : Plant σ) (fits : start.now.micros ≤ Instant.last)
    (counts : 1 ≤ b.timing.poll.micros) :
    ∃ last, b.Awaits rail timeout start last
      (confirmOn ⟨start, b.setState rail .turningOn⟩ rail timeout) := by
  obtain ⟨last, early, late, soon, soonest⟩ :=
    start.polled_reaches punctual b.timing.poll counts timeout fits
  obtain ⟨k, stop⟩ := Stops.exists_stop (b.LiveAt rail start) last
  have ends : ∀ turns, last ≤ turns → awaitOn rail (start.now.after timeout) turns
      ⟨start, b.setState rail .turningOn⟩ =
        ⟨start.polled b.timing.poll k, b.setState rail .turningOn⟩ := fun turns enough =>
    awaitOn_stops punctual.looks rail _ ⟨start, b.setState rail .turningOn⟩ stop early late turns enough
  have outcome : confirmOn ⟨start, b.setState rail .turningOn⟩ rail timeout =
      if b.LiveAt rail start k then
        (.ok (), ⟨(start.polled b.timing.poll k).note (.supplyOn rail), b.setState rail .on⟩)
      else (.error (.powerGoodTimeout rail),
        ⟨(start.polled b.timing.poll k).record (.supplyFailed rail)
          (.rail .pgTimeout (b.voltage rail (start.polled b.timing.poll k)).1),
          b.setState rail .pgTimeout⟩) := by
    rw [confirmOn_stopped punctual.looks _ rail timeout _ (ends _ soonest)]
    simp only [RailBank.setState_setState]
    rfl
  refine ⟨last, fun k => start.polled_micros punctual b.timing.poll k fits, early, late, soon,
    ⟨k, stop.within, stop.passes_or_last, ends⟩, ?_, fun k' bound live least => ?_, ?_,
    fun dead => ?_⟩
  · rw [outcome, ← stop.passes_iff]
    split
    · rename_i live
      exact iff_of_true rfl live
    · rename_i dead
      exact iff_of_false (fun never => by cases never) dead
  · obtain rfl := stop.eq_first bound live least
    rw [outcome, if_pos live]
  · rw [outcome]
    split
    · rename_i live
      exact fun _ => (RailBank.status_journal (b.setState rail .on) rail
        (start.polled b.timing.poll k) _).trans live
    · exact fun never => by cases never
  · obtain rfl := stop.eq_last dead
    rw [outcome, if_neg (dead k stop.within)]

theorem failTurnOn_marked (r : Rig σ) (rail : RailId) (state : RailState) (error : RailError) :
    (r.setState rail state).failTurnOn rail error = r.failTurnOn rail error := by
  simp only [failTurnOn, setState, RailBank.setState_setState]

theorem watch_powered (r : Rig σ) (rail : RailId) (row : Rail) :
    r.watch.Powered rail row ↔ r.Powered rail row := by
  have seen := congrArg Prod.fst ((View.unwatch σ).status () r.watch.plant r.rails row.parent)
  have same : (r.status row.parent).1 = (r.watch.status row.parent).1 := seen
  rw [Powered, Powered, same]

theorem control_powered (looks : RailBank.LooksOnly σ) {r : Rig σ} {rail : RailId} {row : Rail}
    (hrow : r.rails.row? rail = some row) (powered : r.Powered rail row) :
    r.control rail true =
      ((RailBank.drive rail row true r.plant).1,
        ⟨(RailBank.drive rail row true r.plant).2, r.rails⟩) := by
  simp only [control, RailBank.control, hrow, RailBank.status_plant looks]
  split
  · rename_i child
    have live : (r.rails.status row.parent r.plant).1 = .on :=
      powered.resolve_left (by simpa using child)
    rw [if_pos live]
  · rfl

theorem control_refused (looks : RailBank.LooksOnly σ) {r : Rig σ} {rail : RailId} {row : Rail}
    (hrow : r.rails.row? rail = some row) (powered : r.Powered rail row) {fault : LineFault}
    (failed : (r.plant.driveLine row.enable.line (row.enable.level true)).1 = .error fault) :
    r.control rail true = (.error (.controlFailed rail),
      ⟨(r.plant.driveLine row.enable.line (row.enable.level true)).2, r.rails⟩) := by
  rw [control_powered looks hrow powered]
  simp only [RailBank.drive, failed]

theorem control_accepted (looks : RailBank.LooksOnly σ) {r : Rig σ} {rail : RailId} {row : Rail}
    (hrow : r.rails.row? rail = some row) (powered : r.Powered rail row)
    (taken : (r.plant.driveLine row.enable.line (row.enable.level true)).1 = .ok ()) :
    r.control rail true = (.ok (),
      ⟨(r.plant.driveLine row.enable.line (row.enable.level true)).2, r.rails⟩) := by
  rw [control_powered looks hrow powered]
  simp only [RailBank.drive, taken]

theorem settled_eq (settle : Span) (p : Plant σ) (rails : RailBank) :
    (if settle = Span.zero then (⟨p, rails⟩ : Rig σ) else Rig.sleep ⟨p, rails⟩ settle) =
      ⟨if settle = Span.zero then p else p.sleep settle, rails⟩ := by
  split <;> rfl

section Attempt

variable (looks : RailBank.LooksOnly σ) {r : Rig σ} {rail : RailId} {row : Rail} {state : RailState}
  (settle timeout : Span) (entered : r.rails.state? rail = some state) (down : state ≠ .on)
  (hrow : r.rails.row? rail = some row)

include looks entered down hrow

theorem powerOn_unpowered (unpowered : ¬ r.Powered rail row) : r.powerOn rail settle timeout =
    (.error (.parentNotReady rail),
      (r.setState rail .turnOnFailed).record (.supplyParentOff rail) (.rail .turnOnFailed none)) := by
  have attempt := powerOn_attempt settle timeout entered down
  rw [control_unpowered (r := r.setState rail .turningOn) hrow unpowered, Rig.status_rig looks]
    at attempt
  exact attempt.trans (congrArg (Prod.mk _) (r.failTurnOn_marked rail .turningOn _))

theorem powerOn_refused (powered : r.Powered rail row) {fault : LineFault}
    (failed : (r.plant.driveLine row.enable.line (row.enable.level true)).1 = .error fault) :
    r.powerOn rail settle timeout = (.error (.controlFailed rail),
      ⟨(r.plant.driveLine row.enable.line (row.enable.level true)).2.record (.supplyFailed rail)
        (.rail .turnOnFailed none), r.rails.setState rail .turnOnFailed⟩) := by
  have attempt := powerOn_attempt settle timeout entered down
  rw [control_refused looks (r := r.setState rail .turningOn) hrow powered failed] at attempt
  exact attempt.trans (congrArg (Prod.mk _) (failTurnOn_marked ⟨_, r.rails⟩ rail .turningOn _))

theorem powerOn_accepted (powered : r.Powered rail row)
    (taken : (r.plant.driveLine row.enable.line (row.enable.level true)).1 = .ok ()) :
    let driven := (r.plant.driveLine row.enable.line (row.enable.level true)).2
    r.powerOn rail settle timeout =
      confirmOn ⟨if settle = Span.zero then driven else driven.sleep settle,
        r.rails.setState rail .turningOn⟩ rail timeout := by
  have attempt := powerOn_attempt settle timeout entered down
  rw [control_accepted looks (r := r.setState rail .turningOn) hrow powered taken] at attempt
  exact attempt.trans (congrArg (confirmOn · rail timeout)
    (settled_eq settle _ (r.rails.setState rail .turningOn)))

end Attempt

end Rig

theorem Bench.looksOnly : RailBank.LooksOnly Bench := ⟨fun _ _ => rfl, fun _ _ => rfl⟩

theorem Bench.punctual : Punctual Bench := clocked.punctual looksOnly

namespace Carrier

def rig : Rig Bench :=
  ⟨⟨bench, Journal.fresh⟩, RailBank.ofTable rails RailTiming.builtIn⟩

def powered : Rig Bench := (rig.powerOn ⟨0⟩ Span.zero (Span.ofMillis 50)).2

end Carrier

end BoardWarden
