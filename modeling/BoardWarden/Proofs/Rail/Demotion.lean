import BoardWarden.Proofs.Rail.Closure
import BoardWarden.Proofs.Rail.Deeds

set_option autoImplicit false

namespace BoardWarden

namespace RailBank

theorem rails_ordered (bank : RailBank) :
    bank.rails.Pairwise fun earlier later => earlier.index < later.index :=
  List.pairwise_map.2 List.pairwise_lt_range

theorem rails_nodup (bank : RailBank) : bank.rails.Nodup := bank.rails_ordered.imp fun lt same => by
  rw [same] at lt
  exact Nat.lt_irrefl _ lt

inductive Releases (bank : RailBank) : List RailId → List Call → Prop where
  | none : Releases bank [] []
  | still {gone : List RailId} {calls : List Call} (call : Call)
      (silent : call.drives = Option.none) (rest : Releases bank gone calls) :
      Releases bank gone (call :: calls)
  | release {rail : RailId} {row : Rail} {gone : List RailId} {calls : List Call}
      (hrow : bank.row? rail = some row) (rest : Releases bank gone calls) :
      Releases bank (rail :: gone)
        (.driveLine row.enable.line (row.enable.level false) :: calls)

namespace Releases

variable {bank : RailBank} {gone : List RailId} {calls : List Call}

theorem later (h : bank.Releases gone calls) (before : List Call)
    (silent : ∀ call ∈ before, call.drives = Option.none) :
    bank.Releases gone (before ++ calls) := by
  induction before with
  | nil => exact h
  | cons call rest ih =>
    obtain ⟨first, others⟩ := List.forall_mem_cons.1 silent
    exact .still call first (ih others)

theorem initial (h : bank.Releases gone calls) {before after : List Call}
    (split : before ++ after = calls) :
    ∃ cut rest, cut ++ rest = gone ∧ bank.Releases cut before ∧ bank.Releases rest after := by
  induction h generalizing before with
  | none =>
    obtain ⟨rfl, rfl⟩ := List.append_eq_nil_iff.1 split
    exact ⟨[], [], rfl, .none, .none⟩
  | @still gone calls call silent whole ih =>
    cases before with
    | nil =>
      obtain rfl : after = call :: calls := split
      exact ⟨[], gone, rfl, .none, .still call silent whole⟩
    | cons first before =>
      obtain ⟨rfl, tail⟩ := List.cons.inj split
      obtain ⟨cut, rest, same, released, left⟩ := ih tail
      exact ⟨cut, rest, same, .still _ silent released, left⟩
  | @release rail row gone calls hrow whole ih =>
    cases before with
    | nil =>
      obtain rfl : after = .driveLine row.enable.line (row.enable.level false) :: calls := split
      exact ⟨[], rail :: gone, rfl, .none, .release hrow whole⟩
    | cons first before =>
      obtain ⟨rfl, tail⟩ := List.cons.inj split
      obtain ⟨cut, rest, same, released, left⟩ := ih tail
      exact ⟨rail :: cut, rest, congrArg _ same, .release hrow released, left⟩

/-- Each rail has its release among the calls, after those of the rails before it. -/
theorem split (h : bank.Releases gone calls) {earlier later : List RailId} {rail : RailId}
    (split : gone = earlier ++ rail :: later) :
    ∃ row before after, bank.row? rail = some row ∧
      calls = before ++ .driveLine row.enable.line (row.enable.level false) :: after ∧
      bank.Releases earlier before := by
  induction h generalizing earlier with
  | none => simp at split
  | still call silent _ ih =>
    obtain ⟨row, before, after, hrow, rfl, released⟩ := ih split
    exact ⟨row, call :: before, after, hrow, rfl, .still call silent released⟩
  | @release _ row _ calls hrow _ ih =>
    cases earlier with
    | nil =>
      obtain ⟨rfl, _⟩ := List.cons.inj split
      exact ⟨row, [], calls, hrow, rfl, .none⟩
    | cons _ earlier =>
      obtain ⟨rfl, tail⟩ := List.cons.inj split
      obtain ⟨row, before, after, hrow', rfl, released⟩ := ih tail
      exact ⟨row, _ :: before, after, hrow', rfl, .release hrow released⟩

end Releases

/-- The enable line of the rail was written when the rails of `gone` were released. -/
def Released (bank : RailBank) (gone : List RailId) (rail : RailId) : Prop :=
  ∃ row row', bank.row? rail = some row ∧ (∃ other ∈ gone, bank.row? other = some row') ∧
    row'.enable.line = row.enable.line

variable {σ : Type} [Board σ] {bank : RailBank} {good : σ → Prop}

theorem Releases.lasts (obeys : bank.Obedient good) {gone : List RailId} {calls : List Call}
    (h : bank.Releases gone calls) {b : σ} (fine : good b) : good (calls.foldl Call.run b) := by
  induction h generalizing b with
  | none => exact fine
  | still call silent _ ih => exact ih (obeys.still call b silent fine).1
  | release hrow _ ih => exact ih (obeys.lasts _ (row?_mem hrow) _ b fine)

theorem Releases.spared (obeys : bank.Obedient good) {gone : List RailId} {calls : List Call}
    (h : bank.Releases gone calls) {b : σ} (fine : good b) {rail : RailId} {row : Rail}
    (hrow : bank.row? rail = some row) (spared : ¬ bank.Released gone rail) :
    row.Asserted (calls.foldl Call.run b) ↔ row.Asserted b := by
  induction h generalizing b with
  | none => exact Iff.rfl
  | still call silent _ ih =>
    obtain ⟨fine', same⟩ := obeys.still call b silent fine
    refine (ih fine' spared).trans ?_
    rw [Rail.Asserted, same row (row?_mem hrow), Rail.Asserted]
  | @release other row' _ _ hrow' _ ih =>
    have apart : row.enable.line ≠ row'.enable.line := fun same =>
      spared ⟨row, row', hrow, ⟨other, List.mem_cons_self, hrow'⟩, same.symm⟩
    have spared' : ¬ bank.Released _ rail := fun ⟨row, row', hrow, ⟨r, listed, hrow'⟩, same⟩ =>
      spared ⟨row, row', hrow, ⟨r, List.mem_cons_of_mem _ listed, hrow'⟩, same⟩
    refine (ih (obeys.lasts row' (row?_mem hrow') _ b fine) spared').trans ?_
    rw [Rail.Asserted, Rail.Asserted]
    exact iff_of_eq (congrArg (· = _)
      (obeys.apart row' (row?_mem hrow') row (row?_mem hrow) apart _ b fine))

theorem Releases.asserted (obeys : bank.Obedient good) (distinct : bank.Distinct)
    {gone : List RailId} {calls : List Call} (h : bank.Releases gone calls) {b : σ} (fine : good b)
    {rail : RailId} {row : Rail} (hrow : bank.row? rail = some row) :
    row.Asserted (calls.foldl Call.run b) ↔ row.Asserted b ∧ rail ∉ gone := by
  induction h generalizing b with
  | none => simp
  | still call silent _ ih =>
    obtain ⟨fine', same⟩ := obeys.still call b silent fine
    refine (ih fine').trans (and_congr_left fun _ => ?_)
    rw [Rail.Asserted, same row (row?_mem hrow), Rail.Asserted]
  | @release other row' gone _ hrow' _ ih =>
    refine (ih (obeys.lasts row' (row?_mem hrow') _ b fine)).trans ?_
    rw [asserted_driven obeys distinct fine hrow' hrow false, List.mem_cons, not_or]
    split
    · rename_i same
      simp [same]
    · rename_i apart
      exact and_congr_right fun _ => (and_iff_right apart).symm

structure Shed (bank : RailBank) (b : σ) (gone : List RailId) (b' : σ) : Prop where
  /-- A rail stands on an asserted parent unless the line of one of the two was written. -/
  closed : ∀ rail row, bank.row? rail = some row → row.parent ≠ rail → row.Asserted b' →
    (∃ above, bank.row? row.parent = some above ∧ above.Asserted b') ∨
      bank.Released gone row.parent ∨ bank.Released gone rail
  asserted : bank.Distinct → ∀ rail row, bank.row? rail = some row →
    (row.Asserted b' ↔ row.Asserted b ∧ rail ∉ gone)
  /-- The rails are closed just in case no released rail had an asserted child that was not. -/
  kept : bank.Distinct → (bank.Closed b' ↔ ∀ rail row, bank.row? rail = some row →
    row.parent ≠ rail → row.Asserted b → row.parent ∈ gone → rail ∈ gone)

theorem Releases.shed (obeys : bank.Obedient good) {gone : List RailId} {calls : List Call}
    (h : bank.Releases gone calls) {b : σ} (fine : good b) (closed : bank.Closed b) :
    bank.Shed b gone (calls.foldl Call.run b) where
  closed := by
    intro rail row hrow child on
    by_cases own : bank.Released gone rail
    · exact .inr (.inr own)
    by_cases parents : bank.Released gone row.parent
    · exact .inr (.inl parents)
    obtain ⟨above, habove, on'⟩ :=
      closed rail row hrow child ((h.spared obeys fine hrow own).1 on)
    exact .inl ⟨above, habove, (h.spared obeys fine habove parents).2 on'⟩
  asserted distinct _ _ hrow := h.asserted obeys distinct fine hrow
  kept := by
    intro distinct
    have iff : ∀ {rail row}, bank.row? rail = some row →
        (row.Asserted (calls.foldl Call.run b) ↔ row.Asserted b ∧ rail ∉ gone) :=
      h.asserted obeys distinct fine
    constructor
    · intro closed' rail row hrow child on shed
      refine Decidable.byContradiction fun stays => ?_
      obtain ⟨above, habove, on'⟩ := closed' rail row hrow child ((iff hrow).2 ⟨on, stays⟩)
      exact ((iff habove).1 on').2 shed
    · intro spared rail row hrow child on'
      obtain ⟨on, stays⟩ := (iff hrow).1 on'
      obtain ⟨above, habove, up⟩ := closed rail row hrow child on
      exact ⟨above, habove, (iff habove).2
        ⟨up, fun shed => stays (spared rail row hrow child on shed)⟩⟩

/-- Calls that demote rails one after the other: each is looked at, found faulted and released, and
all other calls are looks. -/
inductive Demotes (bank : RailBank) : σ → List RailId → List Call → Prop where
  | none {b : σ} : Demotes bank b [] []
  | look {b : σ} {gone : List RailId} {calls : List Call} (call : Call)
      (looks : call.looks = true) (rest : Demotes bank (call.run b) gone calls) :
      Demotes bank b gone (call :: calls)
  | next {b : σ} {rail : RailId} {row : Rail} {looks : List Call} {gone : List RailId}
      {calls : List Call} (hrow : bank.row? rail = some row)
      (found : ∀ j, (bank.status rail (⟨b, j⟩ : Plant σ)).1 = .fault)
      (looking : ∀ call ∈ looks, call.looks = true)
      (rest : Demotes bank ((looks ++
        [Call.driveLine row.enable.line (row.enable.level false)]).foldl Call.run b) gone calls) :
      Demotes bank b (rail :: gone)
        (looks ++ Call.driveLine row.enable.line (row.enable.level false) :: calls)

namespace Demotes

variable {b : σ} {gone : List RailId} {calls : List Call}

theorem congr {bank' : RailBank} (same : bank'.table = bank.table) (h : bank.Demotes b gone calls) :
    bank'.Demotes b gone calls := by
  induction h with
  | none => exact .none
  | look call looks _ ih => exact .look call looks ih
  | next hrow found looking _ ih =>
    exact .next ((row?_congr same _).trans hrow)
      (fun j => (congrArg Prod.fst (status_congr same _ _)).trans (found j)) looking ih

theorem later {before : List Call} (looking : ∀ call ∈ before, call.looks = true)
    (h : bank.Demotes (before.foldl Call.run b) gone calls) :
    bank.Demotes b gone (before ++ calls) := by
  induction before generalizing b with
  | nil => exact h
  | cons call rest ih =>
    obtain ⟨first, others⟩ := List.forall_mem_cons.1 looking
    exact .look call first (ih others h)

theorem releases (h : bank.Demotes b gone calls) : bank.Releases gone calls := by
  have silent : ∀ {call : Call}, call.looks = true → call.drives = Option.none :=
    fun looks => Call.still_of_waits (Call.waits_of_looks looks)
  induction h with
  | none => exact .none
  | look call looks _ ih => exact .still call (silent looks) ih
  | next hrow _ looking _ ih =>
    exact (Releases.release hrow ih).later _ fun call listed => silent (looking call listed)

end Demotes

theorem status_fault_row {rail : RailId} {p : Plant σ} (h : (bank.status rail p).1 = .fault) :
    ∃ row, bank.row? rail = some row := by
  simp only [status] at h
  split at h
  · cases h
  · rename_i row hrow
    exact ⟨row, hrow⟩

end RailBank

namespace Rig

variable {σ : Type} [Board σ]

theorem demote_after (r : Rig σ) {rail : RailId} {row : Rail} (hrow : r.rails.row? rail = some row) :
    ∃ looks notes, (r.demote rail).plant =
        r.plant.after (looks ++ [.driveLine row.enable.line (row.enable.level false)]) notes ∧
      ∀ call ∈ looks, call.looks = true := by
  obtain ⟨looks, notes, sampled, looking, _⟩ := (r.setState rail .fault).voltage_does rail
  let sample := (r.setState rail .fault).voltage rail
  let note : Note := ⟨.supplyFault rail, .rail .fault sample.1, sample.2.plant.now⟩
  refine ⟨looks, notes ++ [note], ?_, looking⟩
  have hrow' : (r.setState rail .fault).rails.row? rail = some row := hrow
  have written : (r.demote rail).plant = (sample.2.plant.after [] [note]).after
      [.driveLine row.enable.line (row.enable.level false)] [] := by
    simp only [demote, Rig.control, RailBank.control, record_rails, voltage_rails, hrow',
      Bool.false_and, Bool.false_eq_true, ↓reduceIte]
    rfl
  rw [written, Plant.after_after, sampled, Plant.after_after, List.nil_append, List.append_nil]
  rfl

theorem demoteFaulted_demotes (rails : List RailId) (r : Rig σ) :
    ∃ calls notes, (demoteFaulted rails r).2.plant = r.plant.after calls notes ∧
      r.rails.Demotes r.plant.board (demoteFaulted rails r).1 calls := by
  -- The rig stays general: the rails that follow are read on the board that a release leaves.
  induction rails generalizing r with
  | nil => exact ⟨[], [], rfl, .none⟩
  | cons rail rest ih =>
    obtain ⟨looks, notes, looked, looking, _⟩ := r.status_does rail
    have board : (r.status rail).2.plant.board = looks.foldl Call.run r.plant.board :=
      congrArg Plant.board looked
    simp only [demoteFaulted]
    split
    · split
      · rename_i _ fault
        obtain ⟨row, hrow⟩ := RailBank.status_fault_row fault
        obtain ⟨reads, notes', demoted, reading⟩ := (r.status rail).2.demote_after hrow
        obtain ⟨calls, notes'', done, others⟩ := ih ((r.status rail).2.demote rail)
        have board' := congrArg Plant.board demoted
        refine ⟨(looks ++ reads) ++ Call.driveLine row.enable.line (row.enable.level false) :: calls,
          notes ++ notes' ++ notes'', ?_, .next hrow (fun j => ?_)
            (List.forall_mem_append.2 ⟨looking, reading⟩) ?_⟩
        · rw [done, demoted, looked, Plant.after_after, Plant.after_after]
          simp only [List.append_assoc, List.singleton_append]
        · exact (RailBank.status_journal _ rail r.plant j).trans fault
        · have same : ((r.status rail).2.demote rail).plant.board = (looks ++ reads ++
              [Call.driveLine row.enable.line (row.enable.level false)]).foldl Call.run
                r.plant.board := by
            rw [board', List.append_assoc, List.foldl_append, ← board]
            rfl
          have table : r.rails.table = ((r.status rail).2.demote rail).rails.table := rfl
          rw [← same]
          exact others.congr table
      · obtain ⟨calls, notes', done, others⟩ := ih (r.status rail).2
        refine ⟨looks ++ calls, notes ++ notes', ?_, .later looking (board ▸ others)⟩
        rw [done, looked, Plant.after_after]
    · exact ih r

theorem demoteFaulted_sublist (rails : List RailId) (r : Rig σ) :
    (demoteFaulted rails r).1.Sublist rails := by
  induction rails generalizing r with
  | nil => exact .slnil
  | cons rail rest ih =>
    simp only [demoteFaulted]
    split
    · split
      · exact (ih _).cons_cons rail
      · exact (ih _).cons rail
    · exact (ih _).cons rail

theorem demoteFaulted_append (earlier later : List RailId) (r : Rig σ) :
    demoteFaulted (earlier ++ later) r =
      ((demoteFaulted earlier r).1 ++ (demoteFaulted later (demoteFaulted earlier r).2).1,
        (demoteFaulted later (demoteFaulted earlier r).2).2) := by
  induction earlier generalizing r with
  | nil => rfl
  | cons rail rest ih =>
    simp only [List.cons_append, demoteFaulted]
    split
    · split
      · rw [ih]
        rfl
      · rw [ih]
    · rw [ih]

/-- A rail is demoted just in case it is entered as on and is found faulted at its turn. -/
theorem demoteFaulted_mem {earlier later : List RailId} {rail : RailId} {r : Rig σ}
    (once : (earlier ++ rail :: later).Nodup) :
    rail ∈ (demoteFaulted (earlier ++ rail :: later) r).1 ↔
      r.rails.state? rail = some .on ∧ ((demoteFaulted earlier r).2.status rail).1 = .fault := by
  obtain ⟨_, after, apart⟩ := List.nodup_append.1 once
  have fresh : rail ∉ earlier := fun listed => apart rail listed rail List.mem_cons_self rfl
  have before : rail ∉ (demoteFaulted earlier r).1 := fun listed =>
    fresh ((demoteFaulted_sublist earlier r).subset listed)
  have past : ∀ r : Rig σ, rail ∉ (demoteFaulted later r).1 := fun r listed =>
    (List.nodup_cons.1 after).1 ((demoteFaulted_sublist later r).subset listed)
  have entry := (demoteFaulted_entries earlier r).1.kept rail fresh
  rw [demoteFaulted_append, List.mem_append, or_iff_right before, ← entry]
  simp only [demoteFaulted]
  split
  · rename_i on
    split
    · rename_i faulted
      simp [on, faulted]
    · rename_i sound
      simp [past, sound]
  · rename_i down
    simp [past, down]

theorem demoteFaulted_on (rails : List RailId) (once : rails.Nodup) (r : Rig σ) :
    ∀ rail ∈ (demoteFaulted rails r).1, r.rails.state? rail = some .on := by
  intro rail demoted
  obtain ⟨earlier, later, rfl⟩ :=
    List.append_of_mem ((demoteFaulted_sublist rails r).subset demoted)
  exact ((demoteFaulted_mem once).1 demoted).1

end Rig

end BoardWarden
