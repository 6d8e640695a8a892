import BoardWarden.Proofs.Controller.Calls
import BoardWarden.Proofs.Power.Waits

set_option autoImplicit false

namespace BoardWarden

variable {σ : Type} [Board σ]

theorem KeepsTime.called {good : σ → Prop} (clock : KeepsTime good) {b b' : σ} (fine : good b)
    (h : Called b b') : good b' ∧ (Board.now b).micros ≤ (Board.now b').micros := by
  induction h with
  | none => exact ⟨fine, Nat.le_refl _⟩
  | next call _ ih =>
    exact ⟨clock.lasts _ call ih.1, Nat.le_trans ih.2 (clock.forward _ call ih.1)⟩

namespace Controller

theorem runDue_disarms (count : Nat) (c : Controller σ) (action : DeferredAction)
    (idle : c.agenda.isPending action = false) :
    (runDue count c).2.agenda.isPending action = false := by
  induction count generalizing c with
  | zero => exact idle
  | succ count ih =>
    simp only [runDue]
    split
    · exact idle
    · rename_i taken agenda found
      obtain ⟨rfl, _⟩ := Agenda.takeExpired_spec _ _ _ _ found
      refine ih _ ?_
      rw [runAction_agenda]
      by_cases same : action = taken
      · subst same
        simp [Agenda.isPending]
      · rwa [Agenda.isPending_set_of_ne _ same]

/-- As many turns as there are armed actions do everything that was due at the start. -/
theorem runDue_does {good : σ → Prop} (clock : KeepsTime good) (count : Nat) (c : Controller σ)
    (fine : good c.board) (enough : c.agenda.size ≤ count) (action : DeferredAction)
    (deadline : Instant) (armed : c.agenda.deadline? action = some deadline)
    (due : deadline.micros ≤ c.now.micros) :
    (runDue count c).2.agenda.isPending action = false := by
  -- Each turn takes an armed action off, so the turns that are left do for those still armed.
  induction count generalizing c with
  | zero =>
    have fewer := c.agenda.size_set_none action (by rw [Agenda.isPending, armed]; rfl)
    omega
  | succ count ih =>
    obtain ⟨⟨taken, agenda⟩, found⟩ := Option.isSome_iff_exists.1 (c.agenda.takeExpired_isSome armed due)
    obtain ⟨rfl, other, held, _⟩ := Agenda.takeExpired_spec _ _ _ _ found
    have fewer := c.agenda.size_set_none taken (by rw [Agenda.isPending, held]; rfl)
    let d : Controller σ := { c with agenda := c.agenda.set taken none }
    have kept : (d.runAction taken).agenda = c.agenda.set taken none := d.runAction_agenda taken
    simp only [runDue, found]
    by_cases same : action = taken
    · subst same
      apply runDue_disarms
      rw [runAction_agenda]
      simp [Agenda.isPending]
    · obtain ⟨fine', later⟩ := clock.called fine (d.runAction_called taken)
      refine ih (d.runAction taken) fine' (by rw [kept]; omega) ?_ (Nat.le_trans due later)
      rw [kept, Agenda.deadline?_set_of_ne _ same, armed]

end Controller

end BoardWarden
