import BoardWarden.Proofs.Journal
import BoardWarden.Proofs.Rail.Book

set_option autoImplicit false

/-!
What the program makes of a plant does not depend on parts that it never looks at. A view shows the
plants over one board as plants over another, and whatever is done to a plant is done alike to what
is seen of it. The journal is such a part, since it is only ever written; so is anything that a board
may keep besides what it answers.
-/

namespace BoardWarden

def Event.forced? : Event → Option ShutdownReason
  | .forcedShutdown reason => some reason
  | _ => none

def forcedBy (notes : List Note) : List ShutdownReason :=
  notes.filterMap fun note => note.event.forced?

theorem forcedBy_append (notes notes' : List Note) :
    forcedBy (notes ++ notes') = forcedBy notes ++ forcedBy notes' := List.filterMap_append

/-- A way to see plants over `σ` as plants over `τ`. The index stands for what is seen of the journal,
and each note moves it on. -/
structure View (σ τ ι : Type) [Board σ] [Board τ] where
  see : ι → Plant σ → Plant τ
  enter : ι → Note → ι
  now : ∀ i p, (see i p).now = p.now
  sleep : ∀ i p span, (see i p).sleep span = see i (p.sleep span)
  readLine : ∀ i p line, (see i p).readLine line = ((p.readLine line).1, see i (p.readLine line).2)
  driveLine : ∀ i p line level,
    (see i p).driveLine line level = ((p.driveLine line level).1, see i (p.driveLine line level).2)
  readMillivolts : ∀ i p channel, (see i p).readMillivolts channel =
    ((p.readMillivolts channel).1, see i (p.readMillivolts channel).2)
  notify : ∀ i p event, (see i p).notify event = see i (p.notify event)
  setApReset : ∀ i p asserted, (see i p).setApReset asserted = see i (p.setApReset asserted)
  setIdleSleep : ∀ i p allowed, (see i p).setIdleSleep allowed = see i (p.setIdleSleep allowed)
  recordAt : ∀ i p event reading time, (see i p).recordAt event reading time =
    see (enter i ⟨event, reading, time⟩) (p.recordAt event reading time)

def Plant.withJournal {σ : Type} (p : Plant σ) (j : Journal) : Plant σ := { p with journal := j }

def View.journal (σ : Type) [Board σ] : View σ σ Journal where
  see j p := p.withJournal j
  enter := Journal.enter
  now _ _ := rfl
  sleep _ _ _ := rfl
  readLine _ _ _ := rfl
  driveLine _ _ _ _ := rfl
  readMillivolts _ _ _ := rfl
  notify _ _ _ := rfl
  setApReset _ _ _ := rfl
  setIdleSleep _ _ _ := rfl
  recordAt _ _ _ _ _ := rfl

namespace View

variable {σ τ ι : Type} [Board σ] [Board τ] (v : View σ τ ι)

def rig (i : ι) (r : Rig σ) : Rig τ := ⟨v.see i r.plant, r.rails⟩

def enters (i : ι) (notes : List Note) : ι := notes.foldl v.enter i

theorem enters_append (i : ι) (notes notes' : List Note) :
    v.enters i (notes ++ notes') = v.enters (v.enters i notes) notes' := List.foldl_append

section Looks

variable (i : ι) (p : Plant σ)

theorem enabled (row : Rail) : RailBank.enabled row (v.see i p) =
    ((RailBank.enabled row p).1, v.see i (RailBank.enabled row p).2) := by
  simp only [RailBank.enabled, v.readLine]

theorem confirmed (row : Rail) : RailBank.confirmed row (v.see i p) =
    ((RailBank.confirmed row p).1, v.see i (RailBank.confirmed row p).2) := by
  simp only [RailBank.confirmed]
  split
  · rfl
  · simp only [v.readMillivolts]
  · simp only [v.readLine]

theorem status (b : RailBank) (rail : RailId) : b.status rail (v.see i p) =
    ((b.status rail p).1, v.see i (b.status rail p).2) := by
  simp only [RailBank.status]
  split
  · rfl
  · simp only [v.enabled, v.confirmed]
    split <;> rfl

theorem voltage (b : RailBank) (rail : RailId) : b.voltage rail (v.see i p) =
    ((b.voltage rail p).1, v.see i (b.voltage rail p).2) := by
  simp only [RailBank.voltage]
  split
  · rfl
  · split
    · simp only [v.readMillivolts]
    · rfl

theorem drive (rail : RailId) (row : Rail) (on : Bool) : RailBank.drive rail row on (v.see i p) =
    ((RailBank.drive rail row on p).1, v.see i (RailBank.drive rail row on p).2) := by
  simp only [RailBank.drive, v.driveLine]

theorem control (b : RailBank) (rail : RailId) (on : Bool) : b.control rail on (v.see i p) =
    ((b.control rail on p).1, v.see i (b.control rail on p).2) := by
  simp only [RailBank.control]
  split
  · rfl
  · simp only [v.status, v.drive]
    repeat' split
    all_goals rfl

theorem allOn (b : RailBank) (steps : List Step) : b.allOn steps (v.see i p) =
    ((b.allOn steps p).1, v.see i (b.allOn steps p).2) := by
  induction steps generalizing p with
  | nil => rfl
  | cons step rest ih =>
    simp only [RailBank.allOn, v.status, ih]
    split <;> rfl

end Looks

abbrev Act (α : Type) := {σ : Type} → [Board σ] → Rig σ → α × Rig σ

variable {α β : Type} {r : Rig σ}

/-- What is seen of the rig after `f` is what `f` makes of what is seen before, with the notes
entered. -/
def Keeps (f : Act α) (r : Rig σ) (notes : List Note) : Prop :=
  ∀ i, f (v.rig i r) = ((f r).1, v.rig (v.enters i notes) (f r).2)

def Mirrors (f : Act α) (r : Rig σ) : Prop := ∃ notes, forcedBy notes = [] ∧ v.Keeps f r notes

variable {v}

theorem Keeps.bind {f : Act α} {g : α → Act β} {notes notes' : List Note} (h : v.Keeps f r notes)
    (h' : v.Keeps (g (f r).1) (f r).2 notes') :
    v.Keeps (fun r => g (f r).1 (f r).2) r (notes ++ notes') := by
  intro i
  have first : f (v.rig i r) = ((f r).1, v.rig (v.enters i notes) (f r).2) := h i
  have second := h' (v.enters i notes)
  simp only [first]
  rwa [← enters_append] at second

theorem Mirrors.bind {f : Act α} {g : α → Act β} (h : v.Mirrors f r)
    (h' : v.Mirrors (g (f r).1) (f r).2) : v.Mirrors (fun r => g (f r).1 (f r).2) r := by
  obtain ⟨notes, silent, kept⟩ := h
  obtain ⟨notes', silent', kept'⟩ := h'
  refine ⟨notes ++ notes', ?_, kept.bind kept'⟩
  rw [forcedBy_append, silent, silent', List.append_nil]

theorem Mirrors.plain {f : Act α} (h : ∀ i, f (v.rig i r) = ((f r).1, v.rig i (f r).2)) :
    v.Mirrors f r := ⟨[], rfl, h⟩

theorem Mirrors.rest (a : α) : v.Mirrors (fun r => (a, r)) r := .plain fun _ => rfl

theorem Mirrors.answer {f : Act α} (h : v.Mirrors f r) (b : β) :
    v.Mirrors (fun r => (b, (f r).2)) r := h.bind (g := fun _ => fun r => (b, r)) (.rest b)

theorem Mirrors.attempt {f : Act (Except RailError Unit)} {e : RailError → Act β} {g : Act β}
    (h : v.Mirrors f r) (failed : ∀ error, v.Mirrors (e error) (f r).2)
    (done : v.Mirrors g (f r).2) :
    v.Mirrors (fun r => match (f r).1 with
      | .error error => e error (f r).2
      | .ok () => g (f r).2) r := by
  obtain ⟨notes, silent, kept⟩ := h
  cases answer : (f r).1 with
  | error error =>
    obtain ⟨notes', silent', kept'⟩ := failed error
    refine ⟨notes ++ notes', by rw [forcedBy_append, silent, silent', List.append_nil], fun i => ?_⟩
    simp only [kept i, answer, enters_append]
    exact kept' (v.enters i notes)
  | ok _ =>
    obtain ⟨notes', silent', kept'⟩ := done
    refine ⟨notes ++ notes', by rw [forcedBy_append, silent, silent', List.append_nil], fun i => ?_⟩
    simp only [kept i, answer, enters_append]
    exact kept' (v.enters i notes)

theorem Mirrors.congr {f g : Act α} (h : v.Mirrors g r) (here : f r = g r)
    (seen : ∀ i, f (v.rig i r) = g (v.rig i r)) : v.Mirrors f r := by
  obtain ⟨notes, silent, kept⟩ := h
  refine ⟨notes, silent, fun i => ?_⟩
  change f (v.rig i r) = ((f r).1, v.rig (v.enters i notes) (f r).2)
  rw [seen, here]
  exact kept i

variable (v) (r)

theorem record_mirrors (event : Event) (reading : Reading) (silent : event.forced? = none) :
    v.Mirrors (fun r => ((), r.record event reading)) r := by
  refine ⟨[⟨event, reading, r.plant.now⟩], by simp [forcedBy, silent], fun i => ?_⟩
  have seen : (v.see i r.plant).record event reading =
      v.see (v.enter i ⟨event, reading, r.plant.now⟩) (r.plant.record event reading) := by
    rw [Plant.record, v.now]
    exact v.recordAt i r.plant event reading r.plant.now
  simp only [rig, Rig.record, enters, List.foldl_cons, List.foldl_nil, seen]

theorem note_mirrors (event : Event) (silent : event.forced? = none) :
    v.Mirrors (fun r => ((), r.note event)) r := v.record_mirrors r event .none silent

theorem status_rig (i : ι) (rail : RailId) :
    (v.rig i r).status rail = ((r.status rail).1, v.rig i (r.status rail).2) := by
  simp only [Rig.status, rig, v.status]

theorem sleep_rig (i : ι) (span : Span) : (v.rig i r).sleep span = v.rig i (r.sleep span) := by
  simp only [Rig.sleep, rig, v.sleep]

theorem awaitOn_rig (i : ι) (rail : RailId) (deadline : Instant) (fuel : Nat) :
    Rig.awaitOn rail deadline fuel (v.rig i r) = v.rig i (Rig.awaitOn rail deadline fuel r) := by
  induction fuel generalizing r with
  | zero => simp only [Rig.awaitOn, v.status_rig]
  | succ fuel ih =>
    have now : (v.rig i (r.status rail).2).plant.now = (r.status rail).2.plant.now := v.now i _
    have rails : (v.rig i (r.status rail).2).rails = (r.status rail).2.rails := rfl
    simp only [Rig.awaitOn, v.status_rig, now, rails, v.sleep_rig, ih]
    split <;> rfl

theorem status_mirrors (rail : RailId) : v.Mirrors (fun r => r.status rail) r :=
  .plain fun i => v.status_rig r i rail

theorem control_mirrors (rail : RailId) (on : Bool) : v.Mirrors (fun r => r.control rail on) r :=
  .plain fun i => by simp only [Rig.control, rig, v.control]

theorem voltage_mirrors (rail : RailId) : v.Mirrors (fun r => r.voltage rail) r :=
  .plain fun i => by simp only [Rig.voltage, rig, v.voltage]

theorem setState_mirrors (rail : RailId) (state : RailState) :
    v.Mirrors (fun r => ((), r.setState rail state)) r := .plain fun _ => rfl

theorem settle_mirrors (settle : Span) :
    v.Mirrors (fun r => ((), if settle = Span.zero then r else r.sleep settle)) r := by
  by_cases none : settle = Span.zero
  · simp only [none, ↓reduceIte]
    exact .rest ()
  · simp only [none, ↓reduceIte]
    exact .plain fun i => by rw [v.sleep_rig]

theorem confirmOn_mirrors (rail : RailId) (timeout : Span) :
    v.Mirrors (fun r => r.confirmOn rail timeout) r := by
  have waited : v.Mirrors (fun r => (Rig.awaitOn rail (r.plant.now.after timeout)
      ((r.plant.now.after timeout).micros - r.plant.now.micros) r).status rail) r := by
    refine .plain fun i => ?_
    have now : (v.rig i r).plant.now = r.plant.now := v.now i r.plant
    simp only [now, v.awaitOn_rig, v.status_rig]
  have entered : ∀ r : Rig σ, v.Mirrors (fun r =>
      ((), (r.setState rail .on).note (.supplyOn rail))) r := fun r =>
    (v.setState_mirrors r rail .on).bind (g := fun _ => fun r => ((), r.note (.supplyOn rail)))
      (v.note_mirrors _ (.supplyOn rail) rfl)
  have failed : ∀ r : Rig σ, v.Mirrors (fun r =>
      let sample := (r.setState rail .pgTimeout).voltage rail
      ((), sample.2.record (.supplyFailed rail) (.rail .pgTimeout sample.1))) r := fun r =>
    ((v.setState_mirrors r rail .pgTimeout).bind (g := fun _ => fun r => r.voltage rail)
      (v.voltage_mirrors _ rail)).bind
        (g := fun sample => fun r => ((), r.record (.supplyFailed rail) (.rail .pgTimeout sample)))
        (v.record_mirrors _ (.supplyFailed rail) _ rfl)
  refine waited.bind (β := Except RailError Unit) (g := fun live => fun r =>
    if live = .on then (.ok (), (r.setState rail .on).note (.supplyOn rail))
    else
      let sample := (r.setState rail .pgTimeout).voltage rail
      (.error (.powerGoodTimeout rail),
        sample.2.record (.supplyFailed rail) (.rail .pgTimeout sample.1))) ?_
  split
  · exact (entered _).answer _
  · exact (failed _).answer _

theorem failTurnOn_mirrors (rail : RailId) (error : RailError) :
    v.Mirrors (fun r => ((), r.failTurnOn rail error)) r := by
  have entered : ∀ event : Event, event.forced? = none → v.Mirrors (fun r =>
      ((), (r.setState rail .turnOnFailed).record event (.rail .turnOnFailed none))) r :=
    fun event silent => (v.setState_mirrors r rail .turnOnFailed).bind
      (g := fun _ => fun r => ((), r.record event (.rail .turnOnFailed none)))
      (v.record_mirrors _ event _ silent)
  cases error with
  | parentNotReady _ => exact entered (.supplyParentOff rail) rfl
  | unknown _ | controlFailed _ | powerGoodTimeout _ | regressed _ | sequenceTooLong =>
    exact entered (.supplyFailed rail) rfl

theorem powerOn_mirrors (rail : RailId) (settle timeout : Span) :
    v.Mirrors (fun r => r.powerOn rail settle timeout) r := by
  have attempted := ((v.setState_mirrors r rail .turningOn).bind
    (g := fun _ => fun r => r.control rail true) (v.control_mirrors _ rail true)).attempt
      (e := fun error => fun r => (.error error, r.failTurnOn rail error))
      (g := fun r => (if settle = Span.zero then r else r.sleep settle).confirmOn rail timeout)
      (fun error => (v.failTurnOn_mirrors _ rail error).answer _)
      ((v.settle_mirrors _ settle).bind (g := fun _ => fun r => r.confirmOn rail timeout)
        (v.confirmOn_mirrors _ rail timeout))
  cases entered : r.rails.state? rail with
  | none =>
    exact (Mirrors.rest (.error (.unknown rail))).congr (by simp only [Rig.powerOn, entered])
      fun i => by simp only [Rig.powerOn, rig, entered]
  | some state =>
    by_cases on : state = .on
    · rw [on] at entered
      exact (Mirrors.rest (.ok ())).congr (by simp only [Rig.powerOn, entered])
        fun i => by simp only [Rig.powerOn, rig, entered]
    · exact attempted.congr (Rig.powerOn_attempt settle timeout entered on)
        fun i => Rig.powerOn_attempt settle timeout entered on

theorem powerOff_mirrors (rail : RailId) : v.Mirrors (fun r => r.powerOff rail) r := by
  cases listed : r.rails.row? rail with
  | none =>
    exact (Mirrors.rest (.error (.unknown rail))).congr (by simp only [Rig.powerOff, listed])
      fun i => by simp only [Rig.powerOff, rig, listed]
  | some row =>
    have lowered := (v.setState_mirrors r rail .off).bind
      (g := fun _ => fun r => r.control rail false) (v.control_mirrors _ rail false)
    exact lowered.congr (by simp only [Rig.powerOff, listed])
      fun i => by simp only [Rig.powerOff, rig, listed]

theorem raise_mirrors (timeout : Span) (steps : List Step) :
    v.Mirrors (fun r => Rig.raise timeout steps r) r := by
  induction steps generalizing r with
  | nil => exact .rest _
  | cons step rest ih =>
    exact (v.powerOn_mirrors r step.rail step.settle timeout).attempt
      (e := fun error => fun r => (.error error, r.note (.sequenceFailed step.rail)))
      (g := fun r => Rig.raise timeout rest r)
      (fun _ => (v.note_mirrors _ (.sequenceFailed step.rail) rfl).answer _) (ih _)

theorem verify_mirrors (steps : List Step) : v.Mirrors (fun r => Rig.verify steps r) r := by
  induction steps generalizing r with
  | nil => exact .rest _
  | cons step rest ih =>
    refine (v.status_mirrors r step.rail).bind (β := Except RailError Unit)
      (g := fun live => fun r =>
        if live = .on then Rig.verify rest r
        else
          (.error (.regressed step.rail),
            (Rig.verify rest ((r.setState step.rail .fault).note (.sequenceFailed step.rail))).2)) ?_
    split
    · exact ih _
    · have marked := (v.setState_mirrors (r.status step.rail).2 step.rail .fault).bind
        (g := fun _ => fun r => ((), r.note (.sequenceFailed step.rail)))
        (v.note_mirrors _ (.sequenceFailed step.rail) rfl)
      exact (marked.bind (g := fun _ => fun r => Rig.verify rest r) (ih _)).answer _

theorem sequenceOnWithin_mirrors (steps : List Step) (timeout : Span) :
    v.Mirrors (fun r => r.sequenceOnWithin steps timeout) r :=
  (v.raise_mirrors r timeout steps).attempt (β := Except RailError Unit)
    (e := fun error => fun r => (.error error, r))
    (g := fun r => Rig.verify steps r) (fun _ => .rest _) (v.verify_mirrors _ steps)

theorem sequenceOn_mirrors (steps : List Step) : v.Mirrors (fun r => r.sequenceOn steps) r := by
  have timeout : v.Mirrors (fun r => (r.rails.timing.stepTimeout, r)) r := .plain fun _ => rfl
  exact timeout.bind (g := fun timeout => fun r => r.sequenceOnWithin steps timeout)
    (v.sequenceOnWithin_mirrors r steps r.rails.timing.stepTimeout)

theorem lower_mirrors (steps : List Step) : v.Mirrors (fun r => Rig.lower steps r) r := by
  induction steps generalizing r with
  | nil => exact .rest _
  | cons step rest ih =>
    have lowered := (v.powerOff_mirrors r step.rail).attempt
      (e := fun error => fun r => (.error error, (Rig.lower rest r).2))
      (g := fun r => Rig.lower rest r) (fun _ => (ih _).answer _) (ih _)
    refine lowered.congr ?_ fun i => ?_
    · simp only [Rig.lower]
      cases (r.powerOff step.rail).1 <;> rfl
    · simp only [Rig.lower]
      cases ((v.rig i r).powerOff step.rail).1 <;> rfl

theorem sequenceOff_mirrors (steps : List Step) : v.Mirrors (fun r => r.sequenceOff steps) r :=
  v.lower_mirrors r steps.reverse

end View

theorem RailBank.status_journal {σ : Type} [Board σ] (bank : RailBank) (rail : RailId) (p : Plant σ)
    (j : Journal) : (bank.status rail (⟨p.board, j⟩ : Plant σ)).1 = (bank.status rail p).1 := by
  have seen := congrArg Prod.fst ((View.journal σ).status j p bank rail)
  exact seen

end BoardWarden
