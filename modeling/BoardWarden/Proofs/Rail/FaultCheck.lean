import BoardWarden.Proofs.Power.Views
import BoardWarden.Proofs.Rail.Demotion
import BoardWarden.Proofs.Rail.Teardown

set_option autoImplicit false

namespace BoardWarden

variable {σ : Type} [Board σ]

namespace RailBank

/-- On a `good` board, releasing one of the rails is not seen on the lines of the others, neither on
the enable line nor on the feedback. -/
structure Independent (bank : RailBank) (rails : List RailId) (good : σ → Prop) : Prop
    extends Spares bank rails good where
  feedback : ∀ rail ∈ rails, ∀ row, bank.row? rail = some row → ∀ other row',
    bank.row? other = some row' → other ≠ rail → ∀ b, good b →
      (confirmed row' (⟨row.release.run b, Journal.fresh⟩ : Plant σ)).1 =
        (confirmed row' (⟨b, Journal.fresh⟩ : Plant σ)).1

theorem Independent.congr {bank bank' : RailBank} (same : bank'.table = bank.table)
    {rails : List RailId} {good : σ → Prop} (apart : bank.Independent rails good) :
    bank'.Independent rails good where
  lasts rail listed row hrow := apart.lasts rail listed row (row?_congr same rail ▸ hrow)
  apart rail listed row hrow other listed' :=
    apart.apart rail listed row (row?_congr same rail ▸ hrow) other (same ▸ listed')
  feedback rail listed row hrow other row' hrow' :=
    apart.feedback rail listed row (row?_congr same rail ▸ hrow) other row'
      (row?_congr same other ▸ hrow')

theorem status_eq (looks : LooksOnly σ) {bank : RailBank} {rail : RailId} {row : Rail}
    (hrow : bank.row? rail = some row) (p : Plant σ) : (bank.status rail p).1 =
      if (enabled row p).1 then if (confirmed row p).1 then .on else .fault else .off := by
  have board : (enabled row p).2.board = p.board := looks.1 _ _
  simp only [status, hrow]
  split
  · rw [confirmed_congr row _ _ board]
  · rfl

theorem Independent.status (looks : LooksOnly σ) {bank : RailBank} {rails : List RailId}
    {good : σ → Prop} (apart : bank.Independent rails good) (distinct : bank.Distinct)
    {part : List RailId} (sub : part ⊆ rails) {rail : RailId} (spared : rail ∉ part) {p p' : Plant σ}
    (fine : good p.board) (board : p'.board = (bank.releases part).foldl Call.run p.board) :
    (bank.status rail p').1 = (bank.status rail p).1 := by
  cases hrow : bank.row? rail with
  | none => simp only [RailBank.status, hrow]
  | some row =>
    have line : (Board.readLine row.enable.line p'.board).1 =
        (Board.readLine row.enable.line p.board).1 := by
      rw [board]
      refine apart.reading sub (row?_mem hrow) (fun other tried row' hrow' same => spared ?_) fine
      exact distinct other row' rail row hrow' hrow same ▸ tried
    have feedback : (confirmed row p').1 = (confirmed row p).1 := by
      have kept := releases_keep part (I := fun b => good b ∧
          (confirmed row (⟨b, Journal.fresh⟩ : Plant σ)).1 = (confirmed row p).1)
        (fun other tried row' hrow' b held =>
          ⟨apart.lasts other (sub tried) row' hrow' b held.1,
            (apart.feedback other (sub tried) row' hrow' rail row hrow
              (fun same => spared (same ▸ tried)) b held.1).trans held.2⟩)
        (List.Subset.refl part) ⟨fine, confirmed_congr row _ _ rfl⟩
      exact (confirmed_congr row _ _ board).trans kept.2
    have enable : (enabled row p').1 = (enabled row p).1 := by
      simp only [enabled, Plant.readLine, line]
    rw [status_eq looks hrow, status_eq looks hrow, enable, feedback]

end RailBank

namespace Rig

theorem demoteFaulted_states (rails : List RailId) (r : Rig σ) (rail : RailId) :
    (demoteFaulted rails r).2.rails.state? rail =
      if rail ∈ (demoteFaulted rails r).1 then some .fault else r.rails.state? rail := by
  induction rails generalizing r with
  | nil => simp [demoteFaulted]
  | cons first rest ih =>
    simp only [demoteFaulted]
    split
    · rename_i on
      split
      · have entry : ((r.status first).2.demote first).rails.state? rail =
            if first = rail then (r.rails.state? rail).map fun _ => .fault
              else r.rails.state? rail := r.rails.state?_setState first rail .fault
        rw [ih, entry]
        by_cases same : first = rail
        · subst same
          simp [on]
        · simp [same, Ne.symm same]
      · exact ih _
    · exact ih r

theorem demoteFaulted_rows (rails : List RailId) (r : Rig σ) :
    ∀ rail ∈ (demoteFaulted rails r).1, ∃ row, r.rails.row? rail = some row := by
  induction rails generalizing r with
  | nil => exact List.forall_mem_nil _
  | cons first rest ih =>
    simp only [demoteFaulted]
    split
    · split
      · rename_i faulted
        exact List.forall_mem_cons.2 ⟨RailBank.status_fault_row faulted, ih _⟩
      · exact ih _
    · exact ih r

section Looks

variable (looks : RailBank.LooksOnly σ)

include looks

theorem demote_board (r : Rig σ) {rail : RailId} {row : Rail}
    (hrow : r.rails.row? rail = some row) :
    (r.demote rail).plant.board = row.release.run r.plant.board := by
  have hrow' : (r.rails.setState rail .fault).row? rail = some row := hrow
  simp only [demote, voltage_rig looks, control, RailBank.control, record, setState, hrow',
    Bool.false_and, Bool.false_eq_true, ↓reduceIte]
  rfl

/-- The releases of the rails that it demotes are all that a check changes on the board. -/
theorem demoteFaulted_board (rails : List RailId) (r : Rig σ) :
    (demoteFaulted rails r).2.plant.board =
      (r.rails.releases (demoteFaulted rails r).1).foldl Call.run r.plant.board := by
  induction rails generalizing r with
  | nil => rfl
  | cons rail rest ih =>
    simp only [demoteFaulted, r.status_rig looks]
    split
    · split
      · rename_i faulted
        obtain ⟨row, hrow⟩ := RailBank.status_fault_row faulted
        rw [ih, r.demote_board looks hrow, RailBank.releases_cons, hrow]
        rfl
      · exact ih r
    · exact ih r

theorem demoteFaulted_none {rails : List RailId} {r : Rig σ} (sound : ∀ rail ∈ rails,
    r.rails.state? rail = some .on → (r.status rail).1 ≠ .fault) : (demoteFaulted rails r).1 = [] := by
  induction rails with
  | nil => rfl
  | cons rail rest ih =>
    obtain ⟨first, others⟩ := List.forall_mem_cons.1 sound
    simp only [demoteFaulted, r.status_rig looks]
    split
    · rename_i on
      rw [if_neg (first on)]
      exact ih others
    · exact ih others

end Looks

def unasked (r : Rig σ) : Rig σ := { r with rails := { r.rails with faultCheckPending := false } }

def turn (r : Rig σ) (earlier : List RailId) : Rig σ := (demoteFaulted earlier r.unasked).2

section Turn

variable {r : Rig σ} {earlier later : List RailId} {rail : RailId}
  (split : r.rails.rails = earlier ++ rail :: later)

include split

theorem runFaultCheck_mem : rail ∈ r.runFaultCheck.1 ↔
    r.rails.state? rail = some .on ∧ ((r.turn earlier).status rail).1 = .fault := by
  have once := r.rails.rails_nodup
  change rail ∈ (demoteFaulted r.rails.rails r.unasked).1 ↔ _
  rw [split] at once ⊢
  exact demoteFaulted_mem once

theorem found_split : ∃ rest, r.runFaultCheck.1 = (demoteFaulted earlier r.unasked).1 ++ rest ∧
    rest ⊆ rail :: later := by
  refine ⟨(demoteFaulted (rail :: later) (r.turn earlier)).1, ?_, (demoteFaulted_sublist _ _).subset⟩
  change (demoteFaulted r.rails.rails r.unasked).1 = _
  rw [split, demoteFaulted_append]
  rfl

theorem found_earlier : r.runFaultCheck.1.filter (·.index < rail.index) =
    (demoteFaulted earlier r.unasked).1 := by
  obtain ⟨rest, found, sub⟩ := found_split split
  obtain ⟨_, after, apart⟩ := List.pairwise_append.1 (split ▸ r.rails.rails_ordered)
  have low : ∀ other ∈ (demoteFaulted earlier r.unasked).1, other.index < rail.index :=
    fun other listed =>
      apart other ((demoteFaulted_sublist _ _).subset listed) rail List.mem_cons_self
  have high : ∀ other ∈ rest, ¬ other.index < rail.index := by
    intro other listed
    rcases List.mem_cons.1 (sub listed) with rfl | later
    · exact Nat.lt_irrefl _
    · exact Nat.lt_asymm ((List.pairwise_cons.1 after).1 other later)
  rw [found, List.filter_append, List.filter_eq_self.2 (by simpa using low),
    List.filter_eq_nil_iff.2 (by simpa using high), List.append_nil]

theorem turn_board (looks : RailBank.LooksOnly σ) : (r.turn earlier).plant.board =
    (r.rails.releases (r.runFaultCheck.1.filter (·.index < rail.index))).foldl Call.run
      r.plant.board := by
  rw [found_earlier split]
  exact demoteFaulted_board looks earlier r.unasked

end Turn

theorem runFaultCheck_shows (r : Rig σ) : Shows (r.rails.writes false r.runFaultCheck.1)
    (r.runFaultCheck.1.map .supplyFault) r.plant r.runFaultCheck.2.plant :=
  demoteFaulted_shows r.rails.rails r.unasked

theorem watch_found (r : Rig σ) : r.watch.runFaultCheck.1 = r.runFaultCheck.1 :=
  (congrArg Prod.fst (watch_act (fun r => r.runFaultCheck)
    ((View.unwatch σ).runFaultCheck_mirrors r.watch))).symm

theorem runFaultCheck_writes (r : Rig σ) :
    (r.writes fun r => r.runFaultCheck) = r.rails.writes false r.runFaultCheck.1 := by
  rw [← r.watch_found]
  exact writes_of_shows _ r.watch.runFaultCheck_shows

theorem runFaultCheck_enters (r : Rig σ) : ∃ notes, r.Enters (fun r => r.runFaultCheck) notes ∧
    notes.map Note.event = r.runFaultCheck.1.map .supplyFault := by
  refine enters_of_shows (r.rails.writes false r.runFaultCheck.1)
    ((View.journal σ).runFaultCheck_mirrors r) fun j => ?_
  obtain ⟨_, _, kept⟩ := (View.journal σ).runFaultCheck_mirrors r
  have same : r.runFaultCheck.1 = _ := (congrArg Prod.fst (kept j)).symm
  rw [same]
  exact ((View.journal σ).rig j r).runFaultCheck_shows

theorem runFaultCheck_states (r : Rig σ) (rail : RailId) :
    r.runFaultCheck.2.rails.state? rail =
      if rail ∈ r.runFaultCheck.1 then some .fault else r.rails.state? rail :=
  demoteFaulted_states r.rails.rails r.unasked rail

theorem runFaultCheck_subset (r : Rig σ) : r.runFaultCheck.1 ⊆ r.rails.rails :=
  (demoteFaulted_sublist r.rails.rails r.unasked).subset

/-- A rail that the check has left alone is as live after the check as at its turn. -/
theorem runFaultCheck_spares (looks : RailBank.LooksOnly σ) {r : Rig σ} {good : σ → Prop}
    (distinct : r.rails.Distinct) (apart : r.rails.Independent r.rails.rails good)
    (fine : good r.plant.board) {earlier later : List RailId} {rail : RailId}
    (split : r.rails.rails = earlier ++ rail :: later) (spared : rail ∉ r.runFaultCheck.1) :
    (r.runFaultCheck.2.status rail).1 = ((r.turn earlier).status rail).1 := by
  obtain ⟨rest, found, _⟩ := found_split split
  have whole := r.runFaultCheck_subset
  rw [found] at whole spared
  have before : (r.turn earlier).plant.board = _ := demoteFaulted_board looks earlier r.unasked
  have fine' : good (r.turn earlier).plant.board :=
    before ▸ apart.lasting (List.Subset.trans (List.subset_append_left _ _) whole) fine
  have after : r.runFaultCheck.2.plant.board =
      (r.rails.releases rest).foldl Call.run (r.turn earlier).plant.board := by
    have done : r.runFaultCheck.2.plant.board =
        (r.rails.releases r.runFaultCheck.1).foldl Call.run r.plant.board :=
      demoteFaulted_board looks r.rails.rails r.unasked
    rw [done, found, RailBank.releases_append, List.foldl_append, before]
    rfl
  have same := apart.status looks distinct (List.Subset.trans (List.subset_append_right _ _) whole)
    (fun listed => spared (List.mem_append_right _ listed)) fine' after
  have table := (demoteFaulted_entries r.rails.rails r.unasked).1.table
  have table' := (demoteFaulted_entries earlier r.unasked).1.table
  calc (r.runFaultCheck.2.status rail).1
      = (r.rails.status rail r.runFaultCheck.2.plant).1 :=
        congrArg Prod.fst (RailBank.status_congr table rail _)
    _ = (r.rails.status rail (r.turn earlier).plant).1 := same
    _ = ((r.turn earlier).status rail).1 :=
        (congrArg Prod.fst (RailBank.status_congr table' rail _)).symm

theorem runFaultCheck_again (looks : RailBank.LooksOnly σ) {r : Rig σ} {good : σ → Prop}
    (distinct : r.rails.Distinct) (apart : r.rails.Independent r.rails.rails good)
    (fine : good r.plant.board) : r.runFaultCheck.2.runFaultCheck.1 = [] := by
  have same : r.runFaultCheck.2.rails.rails = r.rails.rails :=
    congrArg (fun count => (List.range count).map RailId.mk)
      (demoteFaulted_entries r.rails.rails r.unasked).1.size
  refine demoteFaulted_none looks (r := r.runFaultCheck.2.unasked) fun rail listed on faulted => ?_
  rw [same] at listed
  obtain ⟨earlier, later, split⟩ := List.append_of_mem listed
  have entered : r.runFaultCheck.2.rails.state? rail = some .on := on
  rw [runFaultCheck_states] at entered
  split at entered
  · cases entered
  · rename_i spared
    have turned := runFaultCheck_spares looks distinct apart fine split spared
    exact spared ((runFaultCheck_mem split).2 ⟨entered, turned.symm.trans faulted⟩)

end Rig

end BoardWarden
