import BoardWarden.Rail.Supervision

set_option autoImplicit false

namespace BoardWarden

namespace RailBank

/-- `b'` differs from `b` at most in the entries of the rails in `touched`. -/
structure Within (touched : List RailId) (b b' : RailBank) : Prop where
  table : b'.table = b.table
  size : b'.states.length = b.states.length
  timing : b'.timing = b.timing
  kept : ∀ rail, rail ∉ touched → b'.state? rail = b.state? rail

theorem Within.refl (touched : List RailId) (b : RailBank) : Within touched b b :=
  ⟨rfl, rfl, rfl, fun _ _ => rfl⟩

theorem Within.trans {touched : List RailId} {b c d : RailBank}
    (h : Within touched b c) (h' : Within touched c d) : Within touched b d :=
  ⟨h'.table.trans h.table, h'.size.trans h.size, h'.timing.trans h.timing,
    fun rail hr => (h'.kept rail hr).trans (h.kept rail hr)⟩

theorem Within.mono {touched others : List RailId} {b b' : RailBank}
    (h : Within touched b b') (sub : touched ⊆ others) : Within others b b' :=
  ⟨h.table, h.size, h.timing, fun rail hr => h.kept rail fun hm => hr (sub hm)⟩

theorem row?_congr {b b' : RailBank} (h : b'.table = b.table) (rail : RailId) :
    b'.row? rail = b.row? rail := by
  simp only [row?, h]

theorem status_congr {σ : Type} [Board σ] {b b' : RailBank} (same : b'.table = b.table)
    (rail : RailId) (p : Plant σ) : b'.status rail p = b.status rail p := by
  simp only [status, row?_congr same]

theorem setState_within (b : RailBank) (rail : RailId) (state : RailState) :
    Within [rail] b (b.setState rail state) where
  table := rfl
  size := by simp [setState]
  timing := rfl
  kept other hr := by
    have hne : rail.index ≠ other.index := by
      intro he
      cases rail; cases other
      simp_all
    simp [state?, setState, List.getElem?_set_ne hne]

theorem setState_setState (b : RailBank) (rail : RailId) (s t : RailState) :
    (b.setState rail s).setState rail t = b.setState rail t := by
  simp [setState]

theorem state?_setState_self (b : RailBank) (rail : RailId) (state : RailState)
    (h : (b.state? rail).isSome) : (b.setState rail state).state? rail = some state := by
  have hlt : rail.index < b.states.length := by simpa [state?] using h
  simp [state?, setState, hlt]

theorem setState_same (b : RailBank) (rail : RailId) (state : RailState)
    (h : b.state? rail = some state) : b.setState rail state = b := by
  obtain ⟨hlt, heq⟩ := List.getElem?_eq_some_iff.1 h
  have hset : b.states.set rail.index state = b.states := by
    rw [← heq, List.set_getElem_self]
  simp only [setState, hset]

theorem setState_missing (b : RailBank) (rail : RailId) (state : RailState)
    (h : b.state? rail = none) : b.setState rail state = b := by
  have hle : b.states.length ≤ rail.index := by simpa [state?] using h
  simp only [setState, List.set_eq_of_length_le hle]

theorem state?_setState (b : RailBank) (rail other : RailId) (state : RailState) :
    (b.setState rail state).state? other =
      if rail = other then (b.state? other).map fun _ => state else b.state? other := by
  split
  · rename_i same
    subst same
    cases held : b.state? rail with
    | none => rw [setState_missing b rail state held, held, Option.map_none]
    | some old => exact b.state?_setState_self rail state (by simp [held])
  · rename_i apart
    exact (b.setState_within rail state).kept other fun hm => apart (List.mem_singleton.1 hm).symm

end RailBank

namespace Rig

open RailBank (Within)

variable {σ : Type} [Board σ]

@[simp] theorem status_rails (r : Rig σ) (rail : RailId) : (r.status rail).2.rails = r.rails := rfl

@[simp] theorem voltage_rails (r : Rig σ) (rail : RailId) : (r.voltage rail).2.rails = r.rails := rfl

@[simp] theorem control_rails (r : Rig σ) (rail : RailId) (on : Bool) :
    (r.control rail on).2.rails = r.rails := rfl

@[simp] theorem sleep_rails (r : Rig σ) (span : Span) : (r.sleep span).rails = r.rails := rfl

@[simp] theorem note_rails (r : Rig σ) (event : Event) : (r.note event).rails = r.rails := rfl

@[simp] theorem record_rails (r : Rig σ) (event : Event) (reading : Reading) :
    (r.record event reading).rails = r.rails := rfl

omit [Board σ] in
@[simp] theorem setState_rails (r : Rig σ) (rail : RailId) (state : RailState) :
    (r.setState rail state).rails = r.rails.setState rail state := rfl

@[simp] theorem awaitOn_rails (rail : RailId) (deadline : Instant) (fuel : Nat) (r : Rig σ) :
    (awaitOn rail deadline fuel r).rails = r.rails := by
  induction fuel generalizing r with
  | zero => rfl
  | succ fuel ih =>
    simp only [awaitOn]
    split
    · rfl
    · rw [ih]; rfl

@[simp] theorem demote_rails (r : Rig σ) (rail : RailId) :
    (r.demote rail).rails = r.rails.setState rail .fault := rfl

theorem confirmOn_rails (r : Rig σ) (rail : RailId) (timeout : Span) :
    ∃ state, (r.confirmOn rail timeout).2.rails = r.rails.setState rail state ∧
      ((r.confirmOn rail timeout).1 = .ok () → state = .on) := by
  simp only [confirmOn]
  split
  · exact ⟨.on, by simp, fun _ => rfl⟩
  · exact ⟨.pgTimeout, by simp, fun hok => by cases hok⟩

/-- Raising a rail writes its entry only, and enters it as on whenever it succeeds. -/
theorem powerOn_attempt {r : Rig σ} {rail : RailId} {state : RailState} (settle timeout : Span)
    (entered : r.rails.state? rail = some state) (down : state ≠ .on) :
    r.powerOn rail settle timeout =
      match ((r.setState rail .turningOn).control rail true).1 with
      | .error error =>
        (.error error, ((r.setState rail .turningOn).control rail true).2.failTurnOn rail error)
      | .ok () =>
        (if settle = Span.zero then ((r.setState rail .turningOn).control rail true).2
          else ((r.setState rail .turningOn).control rail true).2.sleep settle).confirmOn
            rail timeout := by
  rw [powerOn]
  split
  · rename_i missing
    rw [missing] at entered
    cases entered
  · rename_i on
    rw [on] at entered
    cases entered
    exact absurd rfl down
  · rfl

theorem powerOn_rails (r : Rig σ) (rail : RailId) (settle timeout : Span) :
    ∃ state, (r.powerOn rail settle timeout).2.rails = r.rails.setState rail state ∧
      ((r.powerOn rail settle timeout).1 = .ok () → state = .on ∧ (r.rails.state? rail).isSome) := by
  unfold powerOn
  split
  · rename_i h
    exact ⟨.off, (RailBank.setState_missing _ _ _ h).symm, fun hok => by cases hok⟩
  · rename_i h
    exact ⟨.on, (RailBank.setState_same _ _ _ h).symm, fun _ => ⟨rfl, by simp [h]⟩⟩
  · rename_i state _ h
    dsimp only
    split
    · exact ⟨.turnOnFailed, RailBank.setState_setState _ _ _ _, fun hok => by cases hok⟩
    · obtain ⟨next, hs, hon⟩ := confirmOn_rails
        (if settle = Span.zero then ((r.setState rail .turningOn).control rail true).2
          else ((r.setState rail .turningOn).control rail true).2.sleep settle) rail timeout
      refine ⟨next, ?_, fun hok => ⟨hon hok, by simp [h]⟩⟩
      rw [hs]
      split <;> exact RailBank.setState_setState _ _ _ _

theorem powerOn_within (r : Rig σ) (rail : RailId) (settle timeout : Span) :
    Within [rail] r.rails (r.powerOn rail settle timeout).2.rails := by
  obtain ⟨state, hs, _⟩ := powerOn_rails r rail settle timeout
  rw [hs]
  exact RailBank.setState_within _ _ _

theorem powerOn_on (r : Rig σ) (rail : RailId) (settle timeout : Span)
    (h : (r.powerOn rail settle timeout).1 = .ok ()) :
    (r.powerOn rail settle timeout).2.rails.state? rail = some .on := by
  obtain ⟨state, hs, hon⟩ := powerOn_rails r rail settle timeout
  obtain ⟨rfl, hsome⟩ := hon h
  rw [hs]
  exact RailBank.state?_setState_self _ _ _ hsome

theorem powerOff_within (r : Rig σ) (rail : RailId) :
    Within [rail] r.rails (r.powerOff rail).2.rails := by
  unfold powerOff
  split
  · exact Within.refl _ _
  · exact RailBank.setState_within _ _ _

theorem powerOff_off (r : Rig σ) (rail : RailId) (hrow : (r.rails.row? rail).isSome)
    (hstate : (r.rails.state? rail).isSome) :
    (r.powerOff rail).2.rails.state? rail = some .off := by
  obtain ⟨row, hrow⟩ := Option.isSome_iff_exists.1 hrow
  simp only [powerOff, hrow]
  exact RailBank.state?_setState_self _ _ _ hstate

end Rig

def railsOf (steps : List Step) : List RailId := steps.map Step.rail

@[simp] theorem railsOf_nil : railsOf [] = [] := rfl

@[simp] theorem railsOf_cons (step : Step) (rest : List Step) :
    railsOf (step :: rest) = step.rail :: railsOf rest := rfl

theorem railsOf_tail (step : Step) (rest : List Step) :
    railsOf rest ⊆ railsOf (step :: rest) := List.subset_cons_self _ _

theorem railsOf_reverse (steps : List Step) : railsOf steps.reverse = (railsOf steps).reverse := by
  simp [railsOf]

namespace RailBank

def Entered (p : RailState → Prop) (rails : List RailId) (b : RailBank) : Prop :=
  ∀ rail ∈ rails, ∃ state, b.state? rail = some state ∧ p state

theorem Entered.mono {p q : RailState → Prop} {rails : List RailId} {b : RailBank}
    (h : Entered p rails b) (hpq : ∀ state, p state → q state) : Entered q rails b := by
  intro rail hr
  obtain ⟨state, hs, hp⟩ := h rail hr
  exact ⟨state, hs, hpq state hp⟩

theorem Entered.within {p : RailState → Prop} {rails touched : List RailId} {b b' : RailBank}
    (h : Entered p rails b) (w : Within touched b b') (apart : ∀ rail ∈ rails, rail ∉ touched) :
    Entered p rails b' := by
  intro rail hr
  obtain ⟨state, hs, hp⟩ := h rail hr
  exact ⟨state, (w.kept rail (apart rail hr)).trans hs, hp⟩

theorem entered_append {p : RailState → Prop} {rails others : List RailId} {b : RailBank} :
    Entered p (rails ++ others) b ↔ Entered p rails b ∧ Entered p others b := by
  simp only [Entered, List.mem_append]
  constructor
  · intro h
    exact ⟨fun rail hr => h rail (.inl hr), fun rail hr => h rail (.inr hr)⟩
  · rintro ⟨h, h'⟩ rail (hr | hr)
    · exact h rail hr
    · exact h' rail hr

def Knows (rails : List RailId) (b : RailBank) : Prop :=
  ∀ rail ∈ rails, (b.row? rail).isSome ∧ (b.state? rail).isSome

theorem Knows.within {rails touched : List RailId} {b b' : RailBank}
    (h : Knows rails b) (w : Within touched b b') : Knows rails b' := by
  intro rail hr
  obtain ⟨hrow, hstate⟩ := h rail hr
  refine ⟨by rwa [row?_congr w.table], ?_⟩
  have hlt : rail.index < b.states.length := by simpa [state?] using hstate
  simpa [state?, w.size] using hlt

theorem Knows.sub {rails others : List RailId} {b : RailBank}
    (h : Knows others b) (sub : rails ⊆ others) : Knows rails b :=
  fun rail hr => h rail (sub hr)

def Down (rails : List RailId) (b : RailBank) : Prop :=
  ∀ rail ∈ rails, Knows [rail] b → b.state? rail = some .off

theorem Down.sub {rails others : List RailId} {b : RailBank} (h : Down others b)
    (sub : rails ⊆ others) : Down rails b := fun rail hr => h rail (sub hr)

theorem down_append {rails others : List RailId} {b : RailBank} :
    Down (rails ++ others) b ↔ Down rails b ∧ Down others b := List.forall_mem_append

theorem Down.entered {rails : List RailId} {b : RailBank} (h : Down rails b) (known : Knows rails b) :
    Entered (· = .off) rails b :=
  fun rail hr => ⟨.off, h rail hr (known.sub (by simpa using hr)), rfl⟩

theorem Within.known {touched : List RailId} {b b' : RailBank} (w : Within touched b b')
    {rails : List RailId} (known : Knows rails b') : Knows rails b := by
  intro rail hr
  obtain ⟨hrow, hstate⟩ := known rail hr
  refine ⟨by rwa [← row?_congr w.table], ?_⟩
  have hlt : rail.index < b'.states.length := by simpa [state?] using hstate
  simpa [state?, ← w.size] using hlt

theorem Down.within {rails touched : List RailId} {b b' : RailBank} (h : Down rails b)
    (w : Within touched b b') (apart : ∀ rail ∈ rails, rail ∉ touched) : Down rails b' :=
  fun rail hr known => (w.kept rail (apart rail hr)).trans (h rail hr (w.known known))

end RailBank

namespace Rig

open RailBank (Within Entered Knows Down)

variable {σ : Type} [Board σ]

theorem raise_within (timeout : Span) (steps : List Step) (r : Rig σ) :
    Within (railsOf steps) r.rails (raise timeout steps r).2.rails := by
  induction steps generalizing r with
  | nil => exact Within.refl _ _
  | cons step rest ih =>
    have head : Within (railsOf (step :: rest)) r.rails _ :=
      (powerOn_within r step.rail step.settle timeout).mono (by simp)
    simp only [raise]
    split
    · exact head
    · exact head.trans ((ih _).mono (railsOf_tail step rest))

theorem raise_on (timeout : Span) (steps : List Step) (r : Rig σ)
    (h : (raise timeout steps r).1 = .ok ()) :
    Entered (· = .on) (railsOf steps) (raise timeout steps r).2.rails := by
  induction steps generalizing r with
  | nil => intro rail hr; simp at hr
  | cons step rest ih =>
    simp only [raise] at h ⊢
    split at h
    · cases h
    · rename_i hok
      have tail := ih _ h
      intro rail hr
      by_cases hlater : rail ∈ railsOf rest
      · exact tail rail hlater
      · obtain rfl : rail = step.rail := by simpa [hlater] using hr
        refine ⟨.on, ?_, rfl⟩
        rw [(raise_within timeout rest _).kept _ hlater]
        exact powerOn_on _ _ _ _ hok

theorem verify_within (steps : List Step) (r : Rig σ) :
    Within (railsOf steps) r.rails (verify steps r).2.rails := by
  induction steps generalizing r with
  | nil => exact Within.refl _ _
  | cons step rest ih =>
    simp only [verify]
    split
    · exact (ih (r.status step.rail).2).mono (railsOf_tail step rest)
    · have mark : Within (railsOf (step :: rest)) r.rails _ :=
        (RailBank.setState_within r.rails step.rail .fault).mono (by simp)
      have tail := ih (((r.status step.rail).2.setState step.rail .fault).note
        (.sequenceFailed step.rail))
      exact mark.trans (tail.mono (railsOf_tail step rest))

theorem verify_rails (steps : List Step) (r : Rig σ) (h : (verify steps r).1 = .ok ()) :
    (verify steps r).2.rails = r.rails := by
  induction steps generalizing r with
  | nil => rfl
  | cons step rest ih =>
    simp only [verify] at h ⊢
    split at h
    · rename_i hon
      rw [if_pos hon]
      exact ih _ h
    · cases h

theorem sequenceOnWithin_within (r : Rig σ) (steps : List Step) (timeout : Span) :
    Within (railsOf steps) r.rails (r.sequenceOnWithin steps timeout).2.rails := by
  have raised := raise_within timeout steps r
  simp only [sequenceOnWithin]
  split
  · exact raised
  · exact raised.trans (verify_within steps _)

theorem sequenceOnWithin_on (r : Rig σ) (steps : List Step) (timeout : Span)
    (h : (r.sequenceOnWithin steps timeout).1 = .ok ()) :
    Entered (· = .on) (railsOf steps) (r.sequenceOnWithin steps timeout).2.rails := by
  simp only [sequenceOnWithin] at h ⊢
  split at h
  · cases h
  · rename_i hok
    rw [verify_rails _ _ h]
    exact raise_on timeout steps r hok

theorem lower_within (steps : List Step) (r : Rig σ) :
    Within (railsOf steps) r.rails (lower steps r).2.rails := by
  induction steps generalizing r with
  | nil => exact Within.refl _ _
  | cons step rest ih =>
    have head : Within (railsOf (step :: rest)) r.rails _ :=
      (powerOff_within r step.rail).mono (by simp)
    exact head.trans ((ih _).mono (railsOf_tail step rest))

theorem lower_down (steps : List Step) (r : Rig σ) :
    (lower steps r).2.rails.Down (railsOf steps) := by
  induction steps generalizing r with
  | nil => intro rail hr; simp at hr
  | cons step rest ih =>
    have tail := lower_within rest (r.powerOff step.rail).2
    intro rail hr known
    by_cases hlater : rail ∈ railsOf rest
    · exact ih (r.powerOff step.rail).2 rail hlater known
    · obtain rfl : rail = step.rail := by simpa [hlater] using hr
      obtain ⟨hrow, hstate⟩ :=
        (powerOff_within r step.rail).known (tail.known known) step.rail (by simp)
      exact (tail.kept _ hlater).trans (powerOff_off r _ hrow hstate)

theorem sequenceOff_within (r : Rig σ) (steps : List Step) :
    Within (railsOf steps) r.rails (r.sequenceOff steps).2.rails :=
  (lower_within steps.reverse r).mono (by simp [railsOf_reverse])

theorem sequenceOff_down (r : Rig σ) (steps : List Step) :
    (r.sequenceOff steps).2.rails.Down (railsOf steps) :=
  (lower_down steps.reverse r).sub (by simp [railsOf_reverse])

theorem sequenceOff_off (r : Rig σ) (steps : List Step) (known : Knows (railsOf steps) r.rails) :
    Entered (· = .off) (railsOf steps) (r.sequenceOff steps).2.rails :=
  (r.sequenceOff_down steps).entered (known.within (r.sequenceOff_within steps))

/-- A fault check turns entries that were on into faults, and reports that it did. -/
theorem demoteFaulted_entries (rails : List RailId) (r : Rig σ) :
    Within rails r.rails (demoteFaulted rails r).2.rails ∧
      ∀ rail, (demoteFaulted rails r).2.rails.state? rail = r.rails.state? rail ∨
        (r.rails.state? rail = some .on ∧
          (demoteFaulted rails r).2.rails.state? rail = some .fault ∧
          (demoteFaulted rails r).1 ≠ []) := by
  induction rails generalizing r with
  | nil => exact ⟨Within.refl _ _, fun _ => .inl rfl⟩
  | cons first rest ih =>
    simp only [demoteFaulted]
    split
    · rename_i hon
      split
      · obtain ⟨w, entries⟩ := ih ((r.status first).2.demote first)
        have mark := RailBank.setState_within r.rails first .fault
        refine ⟨(mark.mono (by simp)).trans (w.mono (by simp)), ?_⟩
        intro rail
        by_cases hr : rail = first
        · subst hr
          have hf : ((r.status rail).2.demote rail).rails.state? rail = some .fault :=
            RailBank.state?_setState_self _ _ _ (by simp [hon])
          rcases entries rail with he | ⟨he, _⟩
          · exact .inr ⟨hon, he.trans hf, by simp⟩
          · rw [hf] at he; cases he
        · have hk : ((r.status first).2.demote first).rails.state? rail = r.rails.state? rail :=
            mark.kept rail (by simpa using hr)
          rcases entries rail with he | ⟨he, hfault, _⟩
          · exact .inl (he.trans hk)
          · exact .inr ⟨hk ▸ he, hfault, by simp⟩
      · obtain ⟨w, entries⟩ := ih (r.status first).2
        exact ⟨w.mono (by simp), entries⟩
    · obtain ⟨w, entries⟩ := ih r
      exact ⟨w.mono (by simp), entries⟩

end Rig

end BoardWarden
