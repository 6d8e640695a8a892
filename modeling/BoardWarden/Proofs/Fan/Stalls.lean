import BoardWarden.Proofs.Fan.Outputs

set_option autoImplicit false

/-!
A fan that stands still over any run of seconds. The check finds no edge, voids the period and marks the
channel as stopped; the control step of the same second then takes the mark away again, so the next
check reports the same stall once more.
-/

namespace BoardWarden

variable {σ : Type} [Board σ]

/-- To void a period reaches its own tachometer alone, and no duty reaches any. -/
structure Tachometers (σ : Type) [Board σ] : Prop where
  clears : ∀ fan (b : σ), Board.tach fan (Board.clearPeriod fan b) = (Board.tach fan b).clearPeriod
  apart : ∀ fan other (b : σ), other ≠ fan →
    Board.tach other (Board.clearPeriod fan b) = Board.tach other b
  duty : ∀ fan other percent (b : σ), Board.tach other (Board.setDuty fan percent b) = Board.tach other b

def Plant.Enters {α : Type} (part : Plant σ → α × Plant σ) (p : Plant σ) (notes : List Note) : Prop :=
  ∀ j : Journal, part (p.withJournal j) = ((part p).1, (part p).2.withJournal (j.enterAll notes))

namespace Plant.Enters

variable {α β : Type} {part : Plant σ → α × Plant σ} {p : Plant σ} {notes notes' : List Note}

omit [Board σ] in
theorem unique (h : Enters part p notes) (h' : Enters part p notes') : notes = notes' :=
  Journal.enterAll_injective fun j => congrArg (·.2.journal) ((h j).symm.trans (h' j))

omit [Board σ] in
theorem trans (next : α → Plant σ → β × Plant σ) (h : Enters part p notes)
    (h' : Enters (next (part p).1) (part p).2 notes') :
    Enters (fun p => next (part p).1 (part p).2) p (notes ++ notes') := by
  intro j
  simp only [h j, h' (j.enterAll notes), Journal.enterAll_append]

end Plant.Enters

def stallsOf (fan : FanId) (notes : List Note) : List Note :=
  notes.filter fun note => note.event = .fanStalled fan

theorem stallsOf_append (fan : FanId) (notes notes' : List Note) :
    stallsOf fan (notes ++ notes') = stallsOf fan notes ++ stallsOf fan notes' := List.filter_append ..

structure FanChannel.Driven (c : FanChannel) : Prop where
  enabled : c.enabled = true
  mode : c.mode = .rpm
  target : c.target ≠ 0
  duty : c.duty ≠ 0

namespace FanChannel

def standing (c : FanChannel) (band : Nat) : FanStatus :=
  if min c.target maxSigned ≤ min band maxSigned then .locked
  else if 100 ≤ c.duty then .frustrated
  else .changing

theorem standing_ne (c : FanChannel) (band : Nat) : c.standing band ≠ .stopped := by
  simp only [standing]
  repeat' split
  all_goals decide

theorem correction_rising (band size duty : Nat) :
    correction band size duty = if size ≤ band then .hold else if 100 ≤ duty then .saturated
      else .move (min (duty + dutyStep size) 100) := by
  have above : ¬ (size : Int) < -(band : Int) := by omega
  simp only [correction, Int.natAbs_natCast, Int.ofNat_lt, above, ↓reduceIte]
  by_cases within : size ≤ band
  · rw [if_neg (Nat.not_lt.2 within), if_pos within]
  · rw [if_pos (Nat.not_le.1 within), if_neg within]

theorem Driven.idle {c : FanChannel} (driven : c.Driven) : c.idle true = false := by
  simp [FanChannel.idle, driven.enabled, driven.duty, driven.target]

structure Corrected (c : FanChannel) (band : Nat) (d : FanChannel) : Prop where
  driven : d.Driven
  status : d.status = c.standing band
  edges : d.lastEdges = c.lastEdges
  rises : c.duty ≤ d.duty

end FanChannel

namespace FanBank

open Plant (Enters)

def ReportsOwn (step : FanId → FanChannel → Plant σ → FanChannel × Plant σ) : Prop :=
  ∀ fan c p, ∃ notes, Enters (step fan c) p notes ∧ ∀ other, other ≠ fan → stallsOf other notes = []

omit [Board σ] in
theorem stepChannels_enters {step : FanId → FanChannel → Plant σ → FanChannel × Plant σ}
    (reports : ReportsOwn step) (first : Nat) (channels : List FanChannel) (p : Plant σ) :
    ∃ notes, Enters (stepChannels step first channels) p notes ∧
      (∀ fan : FanId, fan.index < first → stallsOf fan notes = []) ∧
      ∀ i c own, channels[i]? = some c →
        Enters (step ⟨first + i⟩ c) (stepChannels step first (channels.take i) p).2 own →
        stallsOf ⟨first + i⟩ notes = stallsOf ⟨first + i⟩ own := by
  induction channels generalizing first p with
  | nil => exact ⟨[], fun j => rfl, fun _ _ => rfl, fun i c own none => by cases none⟩
  | cons head rest ih =>
    obtain ⟨mine, entered, others⟩ := reports ⟨first⟩ head p
    obtain ⟨later, entered', before, at_fan⟩ := ih (first + 1) (step ⟨first⟩ head p).2
    refine ⟨mine ++ later, fun j => ?_, fun fan below => ?_, fun i c own hc held => ?_⟩
    · simp only [stepChannels, entered j, entered' (j.enterAll mine), Journal.enterAll_append]
    · rw [stallsOf_append, others fan fun same => by simp [same] at below,
        before fan (Nat.lt_succ_of_lt below), List.append_nil]
    · cases i with
      | zero =>
        obtain rfl : head = c := by simpa using hc
        obtain rfl := entered.unique held
        rw [stallsOf_append, before ⟨first + 0⟩ (Nat.lt_succ_self first), List.append_nil]
      | succ i =>
        have index : first + 1 + i = first + (i + 1) := by omega
        have same := at_fan i c own hc
        rw [index] at same
        rw [stallsOf_append, others _ (by simp), List.nil_append]
        exact same held

omit [Board σ] in
theorem ticked_enters {step : FanId → FanChannel → Plant σ → FanChannel × Plant σ}
    (reports : ReportsOwn step) (b : FanBank) (p : Plant σ) {fan : FanId} {c : FanChannel}
    (hc : b.channel? fan = some c) {own : List Note}
    (held : Enters (step fan c) (stepChannels step 0 (b.channels.take fan.index) p).2 own) :
    ∃ notes, Enters (stepChannels step 0 b.channels) p notes ∧
      stallsOf fan notes = stallsOf fan own := by
  obtain ⟨notes, entered, _, told⟩ := stepChannels_enters reports 0 b.channels p
  have here := told fan.index c own hc
  rw [Nat.zero_add] at here
  exact ⟨notes, entered, here held⟩

theorem checkChannel_enters (fan : FanId) (powered : Bool) (time : Instant) (c : FanChannel)
    (p : Plant σ) : Enters (checkChannel fan powered time c) p
      (if c.idle powered = false ∧ (p.tach fan).edges = c.lastEdges ∧ c.status ≠ .stopped then
        [⟨.fanStalled fan, .fan c.duty 0, time⟩]
      else []) := by
  intro j
  have tach : (p.withJournal j).tach fan = p.tach fan := rfl
  simp only [checkChannel, tach]
  cases c.idle powered <;> by_cases still : (p.tach fan).edges = c.lastEdges <;>
    by_cases stopped : c.status = .stopped <;>
    simp [still, stopped] <;> rfl

theorem controlChannel_enters (config : FanConfig) (fan : FanId) (time : Instant) (c : FanChannel)
    (p : Plant σ) : ∃ notes, Enters (controlChannel config fan time c) p notes ∧
      ∀ other, stallsOf other notes = [] := by
  have tach : ∀ j, (p.withJournal j).tach fan = p.tach fan := fun _ => rfl
  let actual := c.measured config (p.tach fan).period
  by_cases rests : c.uncontrolled = true
  · refine ⟨[], fun j => ?_, fun _ => rfl⟩
    simp only [controlChannel, rests, ↓reduceIte]
    rfl
  · cases step : FanChannel.correction (min config.band maxSigned) (c.speedError actual) c.duty with
    | hold | move duty =>
      refine ⟨[], fun j => ?_, fun _ => rfl⟩
      simp only [controlChannel, rests, tach, actual, step, Bool.false_eq_true, ↓reduceIte]
      rfl
    | saturated =>
      by_cases known : c.status = .frustrated
      · refine ⟨[], fun j => ?_, fun _ => rfl⟩
        simp only [controlChannel, rests, tach, actual, step, known, Bool.false_eq_true, ↓reduceIte]
        rfl
      · refine ⟨[⟨.fanFrustrated fan, .fan c.duty actual, time⟩], fun j => ?_, fun other => rfl⟩
        simp only [controlChannel, rests, tach, actual, step, known, Bool.false_eq_true, ↓reduceIte]
        rfl

theorem checkChannel_still {c : FanChannel} (driven : c.Driven) (fan : FanId) (time : Instant)
    (p : Plant σ) (still : (p.tach fan).edges = c.lastEdges) :
    (checkChannel fan true time c p).1 = { c with status := .stopped } ∧
      (checkChannel fan true time c p).2.board = (p.clearPeriod fan).board := by
  simp only [checkChannel, driven.idle, still, Bool.false_eq_true, ↓reduceIte]
  split
  · rename_i stopped
    rw [← stopped]
    exact ⟨rfl, rfl⟩
  · exact ⟨rfl, rfl⟩

theorem controlChannel_still (tachs : Tachometers σ) {c : FanChannel} (driven : c.Driven)
    (stopped : c.status = .stopped) (config : FanConfig) (fan : FanId) (time : Instant) (p : Plant σ)
    (void : (p.tach fan).period = 0) :
    let done := controlChannel config fan time c p
    c.Corrected config.band done.1 ∧ (done.2.tach fan).period = 0 := by
  have controlled : c.uncontrolled = false := by
    simp [FanChannel.uncontrolled, driven.enabled, driven.mode]
  have actual : c.measured config (p.tach fan).period = 0 := by simp [FanChannel.measured, void]
  let size := min c.target maxSigned
  have error : c.speedError 0 = (size : Int) := by
    simp only [FanChannel.speedError, FanChannel.gap, FanChannel.liveTarget, driven.enabled, stopped,
      ↓reduceIte, reduceCtorEq, size]
    omega
  have step := FanChannel.correction_rising (min config.band maxSigned) size c.duty
  have status : c.standing config.band = if size ≤ min config.band maxSigned then .locked
      else if 100 ≤ c.duty then .frustrated else .changing := rfl
  simp only [controlChannel, controlled, actual, error, step, Bool.false_eq_true, ↓reduceIte]
  by_cases near : size ≤ min config.band maxSigned
  · rw [if_pos near] at status
    simp only [near, ↓reduceIte]
    exact ⟨⟨⟨driven.enabled, driven.mode, driven.target, driven.duty⟩, status.symm, rfl,
      Nat.le_refl _⟩, void⟩
  · rw [if_neg near] at status
    by_cases full : 100 ≤ c.duty
    · rw [if_pos full] at status
      simp only [near, full, stopped, reduceCtorEq, ↓reduceIte]
      exact ⟨⟨⟨driven.enabled, driven.mode, driven.target, driven.duty⟩, status.symm, rfl,
        Nat.le_refl _⟩, void⟩
    · rw [if_neg full] at status
      have rises : c.duty ≤ min (c.duty + FanChannel.dutyStep size) 100 := by omega
      have duty : min (c.duty + FanChannel.dutyStep size) 100 ≠ 0 := by
        have driven := driven.duty
        omega
      simp only [near, full, ↓reduceIte]
      refine ⟨⟨⟨driven.enabled, driven.mode, driven.target, duty⟩, status.symm, rfl, rises⟩, ?_⟩
      rw [← void]
      exact congrArg TachCapture.period (tachs.duty fan fan _ p.board)

theorem checkChannel_apart (tachs : Tachometers σ) (powered : Bool) (time : Instant) (fan : FanId)
    (c : FanChannel) (p : Plant σ) (other : FanId) (apart : other ≠ fan) :
    (checkChannel fan powered time c p).2.tach other = p.tach other := by
  have cleared := tachs.apart fan other p.board apart
  simp only [checkChannel]
  repeat' split
  all_goals first
    | rfl
    | exact cleared

theorem controlChannel_tach (tachs : Tachometers σ) (config : FanConfig) (time : Instant)
    (fan : FanId) (c : FanChannel) (p : Plant σ) (other : FanId) :
    (controlChannel config fan time c p).2.tach other = p.tach other := by
  simp only [controlChannel]
  repeat' split
  all_goals first
    | rfl
    | exact tachs.duty fan other _ p.board

theorem checkChannel_reportsOwn (powered : Bool) (time : Instant) :
    ReportsOwn fun fan c (p : Plant σ) => checkChannel fan powered time c p := by
  refine fun fan c p => ⟨_, checkChannel_enters fan powered time c p, fun other apart => ?_⟩
  split
  · simp [stallsOf, Ne.symm apart]
  · rfl

def work (b : FanBank) (time : Instant) (p : Plant σ) : FanBank × Plant σ :=
  let checked := b.healthTick true time p
  checked.1.controlTick true time checked.2

theorem healthTick_still (tachs : Tachometers σ) {b : FanBank} {fan : FanId} {c : FanChannel}
    (hc : b.channel? fan = some c) (driven : c.Driven) (time : Instant) (p : Plant σ)
    (still : (p.tach fan).edges = c.lastEdges) :
    let done := b.healthTick true time p
    done.1.channel? fan = some { c with status := .stopped } ∧ (done.2.tach fan).period = 0 ∧
      ∃ notes, Enters (b.healthTick true time) p notes ∧
        stallsOf fan notes =
          if c.status = .stopped then [] else [⟨.fanStalled fan, .fan c.duty 0, time⟩] := by
  obtain ⟨before, channel, after⟩ :=
    ticked_at Plant.tach (checkChannel_apart tachs true time) b p hc
  let q := (stepChannels (fun fan c p => checkChannel fan true time c p) 0
    (b.channels.take fan.index) p).2
  have still' : (q.tach fan).edges = c.lastEdges := (congrArg TachCapture.edges before).trans still
  obtain ⟨marked, board⟩ := checkChannel_still driven fan time q still'
  obtain ⟨notes, entered, told⟩ := ticked_enters (checkChannel_reportsOwn true time) b p hc
    (checkChannel_enters fan true time c q)
  refine ⟨channel.trans (congrArg some marked), ?_, notes, fun j => ?_, ?_⟩
  · refine (congrArg TachCapture.period after).trans ?_
    refine (congrArg (fun b => (Board.tach fan b).period) board).trans ?_
    exact congrArg TachCapture.period (tachs.clears fan q.board)
  · simp only [healthTick, entered j]
  · rw [told]
    by_cases stopped : c.status = .stopped
    · simp [stopped, stallsOf]
    · simp [stopped, still', driven.idle, stallsOf]

theorem controlTick_still (tachs : Tachometers σ) {b : FanBank} {fan : FanId} {c : FanChannel}
    (hc : b.channel? fan = some c) (driven : c.Driven) (stopped : c.status = .stopped)
    (time : Instant) (p : Plant σ) (void : (p.tach fan).period = 0) :
    let done := b.controlTick true time p
    ∃ d notes, done.1.channel? fan = some d ∧ c.Corrected b.config.band d ∧
      (done.2.tach fan).period = 0 ∧ Enters (b.controlTick true time) p notes ∧
      stallsOf fan notes = [] := by
  obtain ⟨before, channel, after⟩ := ticked_at Plant.tach
    (fun fan c p other _ => controlChannel_tach tachs b.config time fan c p other) b p hc
  let q := (stepChannels (fun fan c p => controlChannel b.config fan time c p) 0
    (b.channels.take fan.index) p).2
  have void' : (q.tach fan).period = 0 := (congrArg TachCapture.period before).trans void
  obtain ⟨corrected, void''⟩ := controlChannel_still tachs driven stopped b.config fan time q void'
  obtain ⟨own, held, silent⟩ := controlChannel_enters b.config fan time c q
  have reports : ReportsOwn fun fan c (p : Plant σ) => controlChannel b.config fan time c p :=
    fun fan c p => by
      obtain ⟨notes, entered, silent⟩ := controlChannel_enters b.config fan time c p
      exact ⟨notes, entered, fun other _ => silent other⟩
  obtain ⟨notes, entered, told⟩ := ticked_enters reports b p hc held
  refine ⟨_, notes, channel, corrected, (congrArg TachCapture.period after).trans void'', fun j => ?_,
    told.trans (silent fan)⟩
  simp only [controlTick, ↓reduceIte, entered j]

theorem work_still (tachs : Tachometers σ) {b : FanBank} {fan : FanId} {c : FanChannel}
    (hc : b.channel? fan = some c) (driven : c.Driven) (time : Instant) (p : Plant σ)
    (still : (p.tach fan).edges = c.lastEdges) :
    let done := b.work time p
    ∃ d notes, done.1.channel? fan = some d ∧ c.Corrected b.config.band d ∧
      done.1.measured fan done.2 = 0 ∧ Enters (b.work time) p notes ∧
      stallsOf fan notes =
        if c.status = .stopped then [] else [⟨.fanStalled fan, .fan c.duty 0, time⟩] := by
  obtain ⟨marked, void, notes, entered, told⟩ := healthTick_still tachs hc driven time p still
  obtain ⟨d, notes', channel, corrected, void', entered', silent⟩ := controlTick_still tachs marked
    ⟨driven.enabled, driven.mode, driven.target, driven.duty⟩ rfl time _ void
  refine ⟨d, notes ++ notes', channel, ?_, ?_, ?_, ?_⟩
  · exact ⟨corrected.driven, corrected.status, corrected.edges, corrected.rises⟩
  · have found : (b.work time p).1.channel? fan = some d := channel
    have none : ((b.work time p).2.tach fan).period = 0 := void'
    simp [measured, found, FanChannel.measured, none]
  · exact entered.trans (fun b p => b.controlTick true time p) entered'
  · rw [stallsOf_append, told, silent, List.append_nil]

structure FanSecond (σ : Type) where
  plant : Plant σ
  time : Instant

def after (b : FanBank) (seconds : List (FanSecond σ)) : FanBank :=
  seconds.foldl (fun b s => (b.work s.time s.plant).1) b

def Logs (b : FanBank) : List (FanSecond σ) → List Note → Prop
  | [], notes => notes = []
  | s :: rest, notes => ∃ own later, notes = own ++ later ∧ Enters (b.work s.time) s.plant own ∧
      (b.work s.time s.plant).1.Logs rest later

theorem Logs.unique {b : FanBank} {seconds : List (FanSecond σ)} {notes notes' : List Note}
    (h : b.Logs seconds notes) (h' : b.Logs seconds notes') : notes = notes' := by
  induction seconds generalizing b notes notes' with
  | nil => exact h.trans h'.symm
  | cons s rest ih =>
    obtain ⟨own, later, rfl, entered, logged⟩ := h
    obtain ⟨own', later', rfl, entered', logged'⟩ := h'
    rw [entered.unique entered', ih logged logged']

/-- A second in which a fan that is to turn is measured as standing still. -/
def StandsStill (b : FanBank) (fan : FanId) (s : FanSecond σ) : Prop :=
  let done := b.work s.time s.plant
  ∃ d e, b.channel? fan = some d ∧ done.1.channel? fan = some e ∧ done.1.measured fan done.2 = 0 ∧
    d.Corrected b.config.band e

theorem seconds_still (tachs : Tachometers σ) (seconds : List (FanSecond σ)) {b : FanBank}
    {fan : FanId} {c : FanChannel} (hc : b.channel? fan = some c) (driven : c.Driven)
    (silent : ∀ s ∈ seconds, (s.plant.tach fan).edges = c.lastEdges) :
    (∀ before s rest, seconds = before ++ s :: rest → (b.after before).StandsStill fan s) ∧
      ∃ notes, b.Logs seconds notes ∧ (stallsOf fan notes).map Note.time =
        (if c.status = .stopped then seconds.tail else seconds).map FanSecond.time := by
  induction seconds generalizing b c with
  | nil => exact ⟨fun before s rest cut => by simp at cut, [], rfl, by simp [stallsOf]⟩
  | cons s rest ih =>
    obtain ⟨still, others⟩ := List.forall_mem_cons.1 silent
    obtain ⟨d, own, hd, corrected, standing, entered, told⟩ :=
      work_still tachs hc driven s.time s.plant still
    obtain ⟨later, notes, logged, times⟩ := ih hd corrected.driven
      fun s listed => (others s listed).trans corrected.edges.symm
    have marked : d.status ≠ .stopped := corrected.status ▸ c.standing_ne _
    refine ⟨fun before s' rest' cut => ?_, own ++ notes, ⟨own, notes, rfl, entered, logged⟩, ?_⟩
    · cases before with
      | nil =>
        obtain ⟨rfl, rfl⟩ := List.cons.inj cut
        exact ⟨c, d, hc, hd, standing, corrected⟩
      | cons first before =>
        obtain ⟨rfl, tail⟩ := List.cons.inj cut
        exact later before s' rest' tail
    · rw [if_neg marked] at times
      rw [stallsOf_append, List.map_append, times, told]
      split <;> rfl

/-- A fan that stands still is measured at zero, and its stall is reported again each second. The
status that a second leaves is never that of a stopped fan, so the next check takes the stall for a new
one; only a channel that was already marked before the first of these seconds is spared the first
report. There is one report just in case the fan turns again before there is another check to make
it. -/
theorem stall_repeats (tachs : Tachometers σ) (b : FanBank) (fan : FanId) (c : FanChannel)
    (hc : b.channel? fan = some c) (driven : c.Driven) (seconds : List (FanSecond σ))
    (silent : ∀ s ∈ seconds, (s.plant.tach fan).edges = c.lastEdges) :
    (∀ before s rest, seconds = before ++ s :: rest →
      let found := b.after before
      let done := found.work s.time s.plant
      ∃ d e, found.channel? fan = some d ∧ done.1.channel? fan = some e ∧
        done.1.measured fan done.2 = 0 ∧ e.status = d.standing found.config.band ∧
        e.status ≠ .stopped ∧ e.Driven ∧ d.duty ≤ e.duty) ∧
      ∃ notes, (∀ notes', b.Logs seconds notes' ↔ notes' = notes) ∧
        (stallsOf fan notes).map Note.time =
          (if c.status = .stopped then seconds.tail else seconds).map FanSecond.time ∧
        ((stallsOf fan notes).length = 1 ↔ seconds.length = if c.status = .stopped then 2 else 1) := by
  obtain ⟨still, notes, logged, times⟩ := seconds_still tachs seconds hc driven silent
  refine ⟨fun before s rest cut => ?_, notes, fun notes' => ?_, times, ?_⟩
  · obtain ⟨d, e, hd, he, standing, corrected⟩ := still before s rest cut
    exact ⟨d, e, hd, he, standing, corrected.status, corrected.status ▸ d.standing_ne _,
      corrected.driven, corrected.rises⟩
  · exact ⟨fun logged' => logged'.unique logged, fun same => same ▸ logged⟩
  · have count := congrArg List.length times
    rw [List.length_map, List.length_map] at count
    rw [count]
    split
    · rw [List.length_tail]
      omega
    · rfl

end FanBank

theorem Bench.tachometers : Tachometers Bench where
  clears fan b := by
    change (b.tachs.modify fan.index TachCapture.clearPeriod).getD fan.index TachCapture.fresh = _
    change _ = (b.tachs.getD fan.index TachCapture.fresh).clearPeriod
    by_cases inside : fan.index < b.tachs.size
    · simp [Array.getD_eq_getD_getElem?, inside, Array.getElem_modify]
    · simp only [Array.getD_eq_getD_getElem?, Array.getElem?_modify,
        Array.getElem?_eq_none (Nat.not_lt.1 inside)]
      rfl
  apart fan other b apart := by
    change (b.tachs.modify fan.index TachCapture.clearPeriod).getD other.index TachCapture.fresh = _
    change _ = b.tachs.getD other.index TachCapture.fresh
    simp [Array.getD_eq_getD_getElem?, Array.getElem?_modify, FanBank.index_ne (Ne.symm apart)]
  duty _ _ _ _ := rfl

namespace FanBank

def stuck : FanChannel :=
  { FanChannel.fresh Settings.FanLimits.builtIn with
    enabled := true
    duty := 40
    target := 8000
    status := .changing }

def stuckSecond (seconds : Nat) : FanSecond Bench :=
  ⟨⟨Carrier.bench, Journal.fresh⟩, ⟨seconds * 1000000⟩⟩

theorem carrier_stalls_on :
    let b : FanBank := ⟨[stuck], FanConfig.builtIn⟩
    let seconds := [stuckSecond 2, stuckSecond 3]
    stuck.Driven ∧ (∀ s ∈ seconds, (s.plant.tach ⟨0⟩).edges = stuck.lastEdges) ∧
      (∃ e, (b.after seconds).channel? ⟨0⟩ = some e ∧ e.status ≠ .stopped) ∧
      ∃ notes, (∀ notes', b.Logs seconds notes' ↔ notes' = notes) ∧
        (stallsOf ⟨0⟩ notes).map Note.time = [⟨2000000⟩, ⟨3000000⟩] := by
  intro b seconds
  have driven : stuck.Driven := ⟨rfl, rfl, by decide, by decide⟩
  have silent : ∀ s ∈ seconds, (s.plant.tach ⟨0⟩).edges = stuck.lastEdges :=
    List.forall_mem_cons.2 ⟨rfl, List.forall_mem_singleton.2 rfl⟩
  obtain ⟨still, notes, logs, times, _⟩ :=
    stall_repeats Bench.tachometers b ⟨0⟩ stuck rfl driven seconds silent
  obtain ⟨_, e, _, he, _, _, turning, _⟩ := still [stuckSecond 2] (stuckSecond 3) [] rfl
  exact ⟨driven, silent, ⟨e, he, turning⟩, notes, logs, times⟩

def stallOps : List (FanOp Bench) :=
  [.enable ⟨0⟩ true, .duty ⟨0⟩ 30, .target ⟨0⟩ 8000,
    .outside (Carrier.bench.onTach ⟨0⟩ (·.spin 20000)) Journal.fresh,
    .health true ⟨1000000⟩, .control true ⟨1000000⟩, .health true ⟨2000000⟩, .control true ⟨2000000⟩,
    .health true ⟨3000000⟩, .control true ⟨3000000⟩]

theorem carrier_reports_twice :
    ∃ b p c, FanOp.run stallOps (ofCount 1 Settings.FanLimits.builtIn FanConfig.builtIn)
        (⟨Carrier.bench, Journal.fresh⟩ : Plant Bench).watch = .ok (b, p) ∧
      b.channel? ⟨0⟩ = some c ∧ (c.enabled = true ∧ c.mode = .rpm ∧ c.target ≠ 0 ∧ c.duty ≠ 0) ∧
      b.measured ⟨0⟩ p = 0 ∧ c.status = .changing ∧
      (stallsOf ⟨0⟩ p.journal.notes).map Note.time = [⟨2000000⟩, ⟨3000000⟩] := by
  obtain ⟨⟨b, p⟩, ran, c, seen⟩ :
      ∃ done, FanOp.run stallOps (ofCount 1 Settings.FanLimits.builtIn FanConfig.builtIn)
          (⟨Carrier.bench, Journal.fresh⟩ : Plant Bench).watch = .ok done ∧
        ∃ c, done.1.channel? ⟨0⟩ = some c ∧
          (c.enabled = true ∧ c.mode = .rpm ∧ c.target ≠ 0 ∧ c.duty ≠ 0) ∧
          done.1.measured ⟨0⟩ done.2 = 0 ∧ c.status = .changing ∧
          (stallsOf ⟨0⟩ done.2.journal.notes).map Note.time = [⟨2000000⟩, ⟨3000000⟩] := by
    decide +kernel
  exact ⟨b, p, c, ran, seen⟩

end FanBank

end BoardWarden
