import BoardWarden.Proofs.Rail.Supply

set_option autoImplicit false

namespace BoardWarden

variable {σ : Type} [Board σ]

structure Agree (b b' : σ) : Prop where
  line : ∀ line, (Board.readLine line b').1 = (Board.readLine line b).1
  channel : ∀ channel, (Board.readMillivolts channel b').1 = (Board.readMillivolts channel b).1

namespace Agree

theorem refl (b : σ) : Agree b b := ⟨fun _ => rfl, fun _ => rfl⟩

theorem trans {a b c : σ} (h : Agree a b) (h' : Agree b c) : Agree a c :=
  ⟨fun line => (h'.line line).trans (h.line line),
    fun channel => (h'.channel channel).trans (h.channel channel)⟩

end Agree

def Call.passive : Call → Bool
  | sleep _ | driveLine _ _ => false
  | _ => true

def Placid (σ : Type) [Board σ] : Prop :=
  ∀ (call : Call) (b : σ), call.passive = true → Agree b (call.run b)

namespace RailBank

theorem enabled_agree (row : Rail) {p q : Plant σ} (h : Agree p.board q.board) :
    (enabled row q).1 = (enabled row p).1 := by
  have line := h.line row.enable.line
  simp only [enabled, Plant.readLine, line]

theorem confirmed_agree (row : Rail) {p q : Plant σ} (h : Agree p.board q.board) :
    (confirmed row q).1 = (confirmed row p).1 := by
  simp only [confirmed]
  split
  · rfl
  · rename_i channel _ _
    simp only [Plant.readMillivolts, h.channel channel]
  · rename_i line _
    simp only [Plant.readLine, h.line line]

variable (placid : Placid σ)

include placid

theorem enabled_keeps (row : Rail) (p : Plant σ) : Agree p.board (enabled row p).2.board :=
  placid (.readLine row.enable.line) p.board rfl

theorem confirmed_keeps (row : Rail) (p : Plant σ) : Agree p.board (confirmed row p).2.board := by
  simp only [confirmed]
  split
  · exact .refl _
  · rename_i channel _ _
    exact placid (.readMillivolts channel) p.board rfl
  · rename_i line _
    exact placid (.readLine line) p.board rfl

theorem status_keeps (b : RailBank) (rail : RailId) (p : Plant σ) :
    Agree p.board (b.status rail p).2.board := by
  simp only [status]
  split
  · exact .refl _
  · rename_i row _
    split
    · exact (enabled_keeps placid row p).trans (confirmed_keeps placid row _)
    · exact enabled_keeps placid row p

theorem status_agree (b : RailBank) (rail : RailId) {p q : Plant σ} (h : Agree p.board q.board) :
    (b.status rail q).1 = (b.status rail p).1 := by
  simp only [status]
  split
  · rfl
  · rename_i row _
    have looked : Agree (enabled row p).2.board (enabled row q).2.board :=
      ⟨fun line => ((enabled_keeps placid row q).line line).trans
          ((h.line line).trans ((enabled_keeps placid row p).line line).symm),
        fun channel => ((enabled_keeps placid row q).channel channel).trans
          ((h.channel channel).trans ((enabled_keeps placid row p).channel channel).symm)⟩
    rw [enabled_agree row h, confirmed_agree row looked]
    split <;> rfl

theorem allOn_keeps (b : RailBank) (steps : List Step) (p : Plant σ) :
    Agree p.board (b.allOn steps p).2.board := by
  induction steps generalizing p with
  | nil => exact .refl _
  | cons step rest ih =>
    have looked := status_keeps placid b step.rail p
    simp only [allOn]
    split
    · exact looked.trans (ih _)
    · exact looked

theorem allOn_iff (b : RailBank) (steps : List Step) (p : Plant σ) :
    (b.allOn steps p).1 = true ↔ ∀ rail ∈ railsOf steps, (b.status rail p).1 = .on := by
  induction steps generalizing p with
  | nil => simp [allOn]
  | cons step rest ih =>
    have looked := status_keeps placid b step.rail p
    simp only [allOn, railsOf_cons, List.forall_mem_cons]
    split
    · rename_i live
      rw [ih]
      refine ⟨fun others => ⟨live, fun rail hr => ?_⟩, fun all rail hr => ?_⟩
      · exact (status_agree placid b rail looked).symm.trans (others rail hr)
      · exact (status_agree placid b rail looked).trans (all.2 rail hr)
    · rename_i dead
      exact ⟨fun never => (by cases never), fun all => absurd all.1 dead⟩

end RailBank

theorem Rig.adoptLive_keeps (placid : Placid σ) (r : Rig σ) :
    Agree r.plant.board r.adoptLive.plant.board ∧ r.adoptLive.rails.table = r.rails.table := by
  unfold adoptLive
  generalize r.rails.rails = rails
  induction rails generalizing r with
  | nil => exact ⟨.refl _, rfl⟩
  | cons rail rest ih =>
    have entered : ∀ state, Agree r.plant.board ((r.status rail).2.setState rail state).plant.board :=
      fun _ => RailBank.status_keeps placid r.rails rail r.plant
    exact ⟨(entered _).trans (ih _).1, (ih _).2⟩

end BoardWarden
