import BoardWarden.Proofs.Rail.Book
import BoardWarden.Proofs.Rail.Deeds
import BoardWarden.Proofs.Rail.Tape

set_option autoImplicit false

namespace BoardWarden

namespace RailBank

def write? (b : RailBank) (on : Bool) (rail : RailId) : Option (Line × Bool) :=
  (b.row? rail).map fun row => (row.enable.line, row.enable.level on)

theorem write?_some {b : RailBank} {rail : RailId} {row : Rail} (on : Bool)
    (hrow : b.row? rail = some row) :
    b.write? on rail = some (row.enable.line, row.enable.level on) := by
  simp only [write?, hrow, Option.map_some]

theorem write?_none {b : RailBank} {rail : RailId} (on : Bool) (missing : b.row? rail = none) :
    b.write? on rail = none := by
  simp only [write?, missing, Option.map_none]

theorem write?_congr {b b' : RailBank} (same : b'.table = b.table) (on : Bool) (rail : RailId) :
    b'.write? on rail = b.write? on rail := by
  simp only [write?, row?_congr same]

def writes (b : RailBank) (on : Bool) (rails : List RailId) : List (Line × Bool) :=
  rails.filterMap (b.write? on)

theorem writes_cons (b : RailBank) (on : Bool) (rail : RailId) (rest : List RailId) :
    b.writes on (rail :: rest) = (b.write? on rail).toList ++ b.writes on rest := by
  cases switched : b.write? on rail <;> simp [writes, switched]

theorem writes_congr {b b' : RailBank} (same : b'.table = b.table) (on : Bool)
    (rails : List RailId) : b'.writes on rails = b.writes on rails := by
  simp only [writes, funext (write?_congr same on)]

theorem mem_writes {b : RailBank} {on : Bool} {rails : List RailId} {write : Line × Bool} :
    write ∈ b.writes on rails ↔ ∃ rail ∈ rails, ∃ row, b.row? rail = some row ∧
      write = (row.enable.line, row.enable.level on) := by
  simp only [writes, write?, List.mem_filterMap, Option.map_eq_some_iff, @eq_comm _ write]

end RailBank

namespace Call

def writes (calls : List Call) : List (Line × Bool) := calls.filterMap drives

theorem writes_append (calls later : List Call) :
    writes (calls ++ later) = writes calls ++ writes later := List.filterMap_append

theorem writes_nil_of_still {calls : List Call} (still : ∀ call ∈ calls, call.drives = none) :
    writes calls = [] := List.filterMap_eq_nil_iff.2 still

end Call

variable {σ : Type} [Board σ]

/-- `p'` is what became of `p` by calls with these writes and by notes of these events. -/
def Shows (writes : List (Line × Bool)) (events : List Event) (p p' : Plant σ) : Prop :=
  ∃ calls notes, p' = p.after calls notes ∧ Call.writes calls = writes ∧
    notes.map Note.event = events

namespace Shows

variable {writes writes' : List (Line × Bool)} {events events' : List Event} {p p' p'' : Plant σ}

theorem none (p : Plant σ) : Shows [] [] p p := ⟨[], [], rfl, rfl, rfl⟩

theorem trans (h : Shows writes events p p') (h' : Shows writes' events' p' p'') :
    Shows (writes ++ writes') (events ++ events') p p'' := by
  obtain ⟨calls, notes, rfl, written, entered⟩ := h
  obtain ⟨calls', notes', rfl, written', entered'⟩ := h'
  refine ⟨_, _, p.after_after calls calls' notes notes', ?_, ?_⟩
  · rw [Call.writes_append, written, written']
  · rw [List.map_append, entered, entered']

theorem telling (h : Shows writes [] p p') (h' : Shows [] events p' p'') :
    Shows writes events p p'' := by
  simpa only [List.append_nil, List.nil_append] using h.trans h'

theorem write (p : Plant σ) (line : Line) (level : Bool) :
    Shows [(line, level)] [] p (p.driveLine line level).2 :=
  ⟨[.driveLine line level], [], rfl, rfl, rfl⟩

theorem record (p : Plant σ) (event : Event) (reading : Reading) :
    Shows [] [event] p (p.record event reading) :=
  ⟨[], [⟨event, reading, p.now⟩], rfl, rfl, rfl⟩

theorem of_wait (h : Does .wait p p') : Shows [] [] p p' := by
  obtain ⟨calls, notes, rfl, called, entered⟩ := h
  have untold : notes = [] := List.eq_nil_iff_forall_not_mem.2 fun note listed => by
    cases entered note listed
  subst untold
  exact ⟨calls, [], rfl,
    Call.writes_nil_of_still fun call listed => Call.still_of_waits (called call listed), rfl⟩

theorem of_look (h : Does .look p p') : Shows [] [] p p' := of_wait (h.mono Scope.look_wait)

end Shows

namespace RailBank

theorem control_release_shows (b : RailBank) (rail : RailId) (p : Plant σ) :
    Shows (b.write? false rail).toList [] p (b.control rail false p).2 := by
  simp only [control]
  split
  · rename_i missing
    rw [write?_none false missing]
    exact .none p
  · rename_i row hrow
    rw [write?_some false hrow]
    exact .write p row.enable.line (row.enable.level false)

end RailBank

namespace Rig

theorem demote_shows (r : Rig σ) (rail : RailId) :
    Shows (r.rails.write? false rail).toList [.supplyFault rail] r.plant
      (r.demote rail).plant := by
  let sample := (r.setState rail .fault).voltage rail
  let noted := sample.2.record (.supplyFault rail) (.rail .fault sample.1)
  have sampled : Shows [] [] r.plant sample.2.plant :=
    .of_look ((r.setState rail .fault).voltage_does rail)
  have told := sampled.trans (.record sample.2.plant (.supplyFault rail) (.rail .fault sample.1))
  have released := noted.rails.control_release_shows rail noted.plant
  exact told.trans released

theorem demoteFaulted_shows (rails : List RailId) (r : Rig σ) :
    Shows (r.rails.writes false (demoteFaulted rails r).1)
      ((demoteFaulted rails r).1.map .supplyFault) r.plant (demoteFaulted rails r).2.plant := by
  induction rails generalizing r with
  | nil => exact .none r.plant
  | cons rail rest ih =>
    have looked : Shows [] [] r.plant (r.status rail).2.plant := .of_look (r.status_does rail)
    simp only [demoteFaulted]
    split
    · split
      · have demoted := looked.trans ((r.status rail).2.demote_shows rail)
        have others := ih ((r.status rail).2.demote rail)
        rw [RailBank.writes_cons]
        exact demoted.trans others
      · exact looked.trans (ih (r.status rail).2)
    · exact ih r

def Powered (r : Rig σ) (rail : RailId) (row : Rail) : Prop :=
  row.parent = rail ∨ (r.status row.parent).1 = .on

theorem control_unpowered {r : Rig σ} {rail : RailId} {row : Rail}
    (hrow : r.rails.row? rail = some row) (unpowered : ¬ r.Powered rail row) :
    r.control rail true = (.error (.parentNotReady rail), (r.status row.parent).2) := by
  obtain ⟨child, dead⟩ := not_or.1 unpowered
  have dead' : (r.rails.status row.parent r.plant).1 ≠ .on := dead
  simp [control, RailBank.control, status, hrow, child, dead']

theorem control_powered_shows {r : Rig σ} {rail : RailId} {row : Rail}
    (hrow : r.rails.row? rail = some row) (powered : r.Powered rail row) :
    Shows [(row.enable.line, row.enable.level true)] [] r.plant (r.control rail true).2.plant := by
  have driven := fun p : Plant σ => Shows.write p row.enable.line (row.enable.level true)
  simp only [control, RailBank.control, hrow]
  split
  · rename_i child
    have live : (r.rails.status row.parent r.plant).1 = .on :=
      powered.resolve_left (by simpa using child)
    rw [if_pos live]
    exact (Shows.of_look (r.status_does row.parent)).trans (driven _)
  · exact driven r.plant

theorem confirmOn_shows (r : Rig σ) (rail : RailId) (timeout : Span) :
    ∃ event, Shows [] [event] r.plant (r.confirmOn rail timeout).2.plant := by
  let deadline := r.plant.now.after timeout
  let waited := awaitOn rail deadline (deadline.micros - r.plant.now.micros) r
  have looked : Shows [] [] r.plant (waited.status rail).2.plant :=
    .of_wait ((awaitOn_does rail deadline _ r).trans
      ((waited.status_does rail).mono Scope.look_wait))
  simp only [confirmOn]
  split
  · exact ⟨.supplyOn rail, looked.trans (.record _ (.supplyOn rail) .none)⟩
  · let marked := (waited.status rail).2.setState rail .pgTimeout
    have sampled := looked.trans (.of_look (marked.voltage_does rail))
    exact ⟨.supplyFailed rail, sampled.trans (.record _ (.supplyFailed rail) _)⟩

theorem failTurnOn_shows (r : Rig σ) (rail : RailId) (error : RailError) :
    ∃ events, Shows [] events r.plant (r.failTurnOn rail error).plant :=
  ⟨_, .record r.plant _ _⟩

theorem powerOn_rests {r : Rig σ} {rail : RailId} (settle timeout : Span)
    (rests : r.rails.state? rail = none ∨ r.rails.state? rail = some .on) :
    (r.powerOn rail settle timeout).2 = r := by
  rcases rests with missing | on
  · simp only [powerOn, missing]
  · simp only [powerOn, on]

theorem powerOn_after_control {r : Rig σ} {rail : RailId} {state : RailState}
    (settle timeout : Span) (entered : r.rails.state? rail = some state) (down : state ≠ .on)
    {writes : List (Line × Bool)} (switched : Shows writes [] r.plant
      ((r.setState rail .turningOn).control rail true).2.plant) :
    ∃ events, Shows writes events r.plant (r.powerOn rail settle timeout).2.plant := by
  rw [powerOn_attempt settle timeout entered down]
  split
  · rename_i error _
    obtain ⟨events, failed⟩ := failTurnOn_shows
      ((r.setState rail .turningOn).control rail true).2 rail error
    exact ⟨events, switched.telling failed⟩
  · let raised := ((r.setState rail .turningOn).control rail true).2
    let settled : Rig σ := if settle = Span.zero then raised else raised.sleep settle
    have rests : Shows [] [] raised.plant settled.plant := by
      simp only [settled]
      split
      · exact .none _
      · exact .of_wait (.call _ (.sleep settle) rfl)
    obtain ⟨event, confirmed⟩ := settled.confirmOn_shows rail timeout
    exact ⟨[event], switched.telling (rests.trans confirmed)⟩

theorem powerOn_powered_shows {r : Rig σ} {rail : RailId} {state : RailState} {row : Rail}
    (settle timeout : Span) (entered : r.rails.state? rail = some state) (down : state ≠ .on)
    (hrow : r.rails.row? rail = some row) (powered : r.Powered rail row) :
    ∃ events, Shows [(row.enable.line, row.enable.level true)] events r.plant
      (r.powerOn rail settle timeout).2.plant :=
  powerOn_after_control settle timeout entered down
    (control_powered_shows (r := r.setState rail .turningOn) hrow powered)

theorem powerOn_unpowered_shows {r : Rig σ} {rail : RailId} {state : RailState} {row : Rail}
    (settle timeout : Span) (entered : r.rails.state? rail = some state) (down : state ≠ .on)
    (hrow : r.rails.row? rail = some row) (unpowered : ¬ r.Powered rail row) :
    ∃ events, Shows [] events r.plant (r.powerOn rail settle timeout).2.plant := by
  refine powerOn_after_control settle timeout entered down ?_
  rw [control_unpowered (r := r.setState rail .turningOn) hrow unpowered]
  exact .of_look ((r.setState rail .turningOn).status_does row.parent)

theorem powerOn_shows (r : Rig σ) (rail : RailId) (settle timeout : Span) :
    ∃ writes events, Shows writes events r.plant (r.powerOn rail settle timeout).2.plant ∧
      writes.Sublist (r.rails.write? true rail).toList := by
  have resting : r.rails.state? rail = none ∨ r.rails.state? rail = some .on →
      Shows [] [] r.plant (r.powerOn rail settle timeout).2.plant := fun rests => by
    rw [powerOn_rests settle timeout rests]
    exact .none r.plant
  cases entered : r.rails.state? rail with
  | none => exact ⟨[], [], resting (.inl entered), List.nil_sublist _⟩
  | some state =>
    by_cases on : state = .on
    · exact ⟨[], [], resting (.inr (on ▸ entered)), List.nil_sublist _⟩
    cases hrow : r.rails.row? rail with
    | none =>
      have unknown : Shows [] [] r.plant ((r.setState rail .turningOn).control rail true).2.plant := by
        have missing : (r.setState rail .turningOn).rails.row? rail = none := hrow
        simp only [control, RailBank.control, missing]
        exact .none _
      obtain ⟨events, seen⟩ := powerOn_after_control settle timeout entered on unknown
      exact ⟨[], events, seen, List.nil_sublist _⟩
    | some row =>
      by_cases powered : r.Powered rail row
      · obtain ⟨events, seen⟩ := powerOn_powered_shows settle timeout entered on hrow powered
        refine ⟨_, events, seen, ?_⟩
        rw [RailBank.write?_some true hrow]
        exact List.Sublist.refl _
      · obtain ⟨events, seen⟩ := powerOn_unpowered_shows settle timeout entered on hrow powered
        exact ⟨[], events, seen, List.nil_sublist _⟩

theorem raise_shows (timeout : Span) (steps : List Step) (r : Rig σ) :
    ∃ writes events, Shows writes events r.plant (raise timeout steps r).2.plant ∧
      writes.Sublist (r.rails.writes true (railsOf steps)) := by
  induction steps generalizing r with
  | nil => exact ⟨[], [], .none r.plant, List.nil_sublist _⟩
  | cons step rest ih =>
    obtain ⟨writes, events, first, raised⟩ := r.powerOn_shows step.rail step.settle timeout
    simp only [raise, railsOf_cons, RailBank.writes_cons]
    split
    · exact ⟨_, _, first.trans (.record _ (.sequenceFailed step.rail) .none), by
        simpa using raised.trans (List.sublist_append_left _ _)⟩
    · obtain ⟨writes', events', others, raised'⟩ := ih (r.powerOn step.rail step.settle timeout).2
      rw [RailBank.writes_congr (r.powerOn_within step.rail step.settle timeout).table] at raised'
      exact ⟨_, _, first.trans others, raised.append raised'⟩

theorem verify_shows (steps : List Step) (r : Rig σ) :
    ∃ events, Shows [] events r.plant (verify steps r).2.plant := by
  induction steps generalizing r with
  | nil => exact ⟨[], .none r.plant⟩
  | cons step rest ih =>
    have looked : Shows [] [] r.plant (r.status step.rail).2.plant := .of_look (r.status_does step.rail)
    simp only [verify]
    split
    · obtain ⟨events, others⟩ := ih (r.status step.rail).2
      exact ⟨events, looked.trans others⟩
    · let marked := (r.status step.rail).2.setState step.rail .fault
      obtain ⟨events, others⟩ := ih (marked.note (.sequenceFailed step.rail))
      have told := looked.trans (.record marked.plant (.sequenceFailed step.rail) .none)
      exact ⟨_, told.trans others⟩

theorem sequenceOnWithin_shows (r : Rig σ) (steps : List Step) (timeout : Span) :
    ∃ writes events, Shows writes events r.plant (r.sequenceOnWithin steps timeout).2.plant ∧
      writes.Sublist (r.rails.writes true (railsOf steps)) := by
  obtain ⟨writes, events, raised, sub⟩ := raise_shows timeout steps r
  simp only [sequenceOnWithin]
  split
  · exact ⟨writes, events, raised, sub⟩
  · obtain ⟨events', verified⟩ := verify_shows steps (raise timeout steps r).2
    exact ⟨_, _, raised.trans verified, by simpa using sub⟩

end Rig

/-- A watched board has the calls on its tape, latest first, and is otherwise the board itself. -/
theorem Plant.watched_after (p : Plant (Watched σ)) (calls : List Call) (notes : List Note) :
    (p.after calls notes).board.tape.map Prod.fst =
        calls.reverse ++ p.board.tape.map Prod.fst ∧
      (p.after calls notes).board.board = calls.foldl Call.run p.board.board := by
  induction calls generalizing p with
  | nil => exact ⟨rfl, rfl⟩
  | cons call rest ih =>
    obtain ⟨tape, board⟩ := ih { p with board := call.run p.board }
    simp only [Watched.run_call, Watched.enter] at tape board
    simp only [Plant.after, List.foldl_cons, Watched.run_call, Watched.enter] at tape board ⊢
    exact ⟨by rw [tape]; simp, board⟩

namespace Rig

variable {α : Type}

omit [Board σ] in
def watch (r : Rig σ) : Rig (Watched σ) := ⟨r.plant.watch, r.rails⟩

def calls (act : View.Act α) (r : Rig σ) : List Call :=
  ((act r.watch).2.plant.board.tape.map Prod.fst).reverse

def writes (act : View.Act α) (r : Rig σ) : List (Line × Bool) := Call.writes (r.calls act)

theorem watch_act (act : View.Act α) {r : Rig σ}
    (mirrored : (View.unwatch σ).Mirrors act r.watch) :
    act r = ((act r.watch).1, (View.unwatch σ).rig () (act r.watch).2) := by
  obtain ⟨_, _, kept⟩ := mirrored
  exact kept ()

theorem calls_of_after {act : View.Act α} {r : Rig σ} {calls : List Call} {notes : List Note}
    (same : (act r.watch).2.plant = r.watch.plant.after calls notes) : r.calls act = calls := by
  have tape := (r.watch.plant.watched_after calls notes).1
  rw [← same] at tape
  rw [Rig.calls, tape, List.reverse_append, List.reverse_reverse]
  exact List.nil_append calls

theorem writes_of_shows (act : View.Act α) {r : Rig σ} {writes : List (Line × Bool)}
    {events : List Event} (seen : Shows writes events r.watch.plant (act r.watch).2.plant) :
    r.writes act = writes := by
  obtain ⟨calls, notes, same, written, _⟩ := seen
  rw [Rig.writes, calls_of_after same, written]

/-- The notes that an act enters, whatever the journal holds. -/
def Enters (act : View.Act α) (r : Rig σ) (notes : List Note) : Prop :=
  ∀ j, (act ((View.journal σ).rig j r)).2.plant.journal = j.enterAll notes

theorem enters_of_shows {act : View.Act α} {r : Rig σ} (writes : List (Line × Bool))
    {events : List Event} (mirrored : (View.journal σ).Mirrors act r)
    (seen : ∀ j, Shows writes events (r.plant.withJournal j)
      (act ((View.journal σ).rig j r)).2.plant) :
    ∃ notes, r.Enters act notes ∧ notes.map Note.event = events := by
  obtain ⟨notes, _, kept⟩ := mirrored
  have entered : r.Enters act notes := fun j => congrArg (fun done => done.2.plant.journal) (kept j)
  -- A journal with room to spare shows that these are the notes of the events.
  obtain ⟨calls, notes', same, _, told⟩ := seen (.ofCapacity (events.length + 1))
  have room : notes'.length = events.length := by rw [← told, List.length_map]
  have alike : notes' = notes := Journal.enterAll_cancel (.ofCapacity (events.length + 1))
    (by simp [Journal.ofCapacity, room]) ((congrArg Plant.journal same).symm.trans (entered _))
  exact ⟨notes, entered, alike ▸ told⟩

end Rig

end BoardWarden
