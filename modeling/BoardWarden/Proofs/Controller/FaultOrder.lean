import BoardWarden.Proofs.Bench.Feedback
import BoardWarden.Proofs.Controller.Press
import BoardWarden.Proofs.Power.Script

set_option autoImplicit false

namespace BoardWarden

namespace RailBank

variable {σ : Type} [Board σ] {bank : RailBank}

theorem Demotes.of_watch {w : Watched σ} {gone : List RailId} {calls : List Call}
    (h : bank.Demotes w gone calls) : bank.Demotes w.board gone calls := by
  induction h with
  | none => exact .none
  | @look w _ _ call looks _ ih =>
    rw [w.run_call] at ih
    exact .look call looks ih
  | @next w rail row looks _ _ hrow found looking _ ih =>
    let calls := looks ++ [Call.driveLine row.enable.line (row.enable.level false)]
    have board : (calls.foldl Call.run w).board = calls.foldl Call.run w.board :=
      (Plant.watched_after ⟨w, Journal.fresh⟩ calls []).2
    rw [board] at ih
    refine .next hrow (fun j => ?_) looking ih
    have seen := congrArg Prod.fst ((View.unwatch σ).status () ⟨w, j⟩ bank rail)
    exact seen.trans (found j)

end RailBank

namespace PowerTrain

variable {σ : Type} [Board σ] (t : PowerTrain σ)

def demoted : List RailId :=
  if t.rig.rails.faultCheckPending then t.rig.runFaultCheck.1 else []

theorem watch_demoted : t.watch.demoted = t.demoted := by
  rw [demoted, demoted, ← t.rig.watch_found]
  rfl

theorem serviceFaults_demotes : ∃ calls notes,
    t.serviceFaults.rig.plant = t.rig.plant.after calls notes ∧
      t.rig.rails.Demotes t.rig.plant.board t.demoted calls := by
  obtain ⟨calls, notes, checked, demotes⟩ := Rig.demoteFaulted_demotes t.rig.rails.rails
    { t.rig with rails := { t.rig.rails with faultCheckPending := false } }
  have table : t.rig.rails.table = { t.rig.rails with faultCheckPending := false }.table := rfl
  simp only [serviceFaults, demoted]
  split
  · split
    · exact ⟨calls, notes, checked, demotes.congr table⟩
    · obtain ⟨notes', forced, _⟩ := t.sequencer.forceShutdown_after .supplyFault
        t.rig.runFaultCheck.2.plant.now t.rig.runFaultCheck.2.plant
      refine ⟨calls, notes ++ notes', ?_, demotes.congr table⟩
      have whole := t.rig.plant.after_after calls [] notes notes'
      rw [List.append_nil] at whole
      rw [← whole, ← checked]
      exact forced
  · exact ⟨[], [], rfl, .none⟩

theorem calls_demote :
    t.rig.rails.Demotes t.rig.plant.board t.demoted (t.calls .serviceFaults) := by
  obtain ⟨calls, notes, same, demotes⟩ := t.watch.serviceFaults_demotes
  rw [t.calls_of_after .serviceFaults same, ← t.watch_demoted]
  exact demotes.of_watch

end PowerTrain

namespace Controller

variable {σ : Type} [Board σ]

theorem serviceFaults_train (c : Controller σ) : c.serviceFaults.2.train = c.train.serviceFaults := by
  cases pending : c.rig.rails.faultCheckPending with
  | false => simp [serviceFaults, PowerTrain.serviceFaults, train, pending]
  | true =>
    cases none : c.rig.runFaultCheck.1.isEmpty with
    | true => simp only [serviceFaults, PowerTrain.serviceFaults, train, pending, none, ↓reduceIte]
    | false =>
      simp only [serviceFaults, PowerTrain.serviceFaults, train, pending, none, ↓reduceIte]
      rfl

def demoted (c : Controller σ) : List RailId := c.train.demoted

theorem serviceFaults_board (c : Controller σ) :
    c.serviceFaults.2.board = (c.train.calls .serviceFaults).foldl Call.run c.board :=
  (congrArg (fun t => t.rig.plant.board) c.serviceFaults_train).trans
    (c.train.calls_script .serviceFaults).2

theorem demoted_ordered (c : Controller σ) :
    c.demoted.Pairwise fun earlier later => earlier.index < later.index := by
  refine c.rig.rails.rails_ordered.sublist ?_
  simp only [demoted, PowerTrain.demoted]
  split
  · exact Rig.demoteFaulted_sublist _ _
  · exact List.nil_sublist _

theorem demoted_on (c : Controller σ) : ∀ rail ∈ c.demoted, c.rig.rails.state? rail = some .on := by
  simp only [demoted, PowerTrain.demoted]
  split
  · exact Rig.demoteFaulted_on c.rig.rails.rails c.rig.rails.rails_nodup
      { c.rig with rails := { c.rig.rails with faultCheckPending := false } }
  · exact List.forall_mem_nil _

theorem demoted_forcing (c : Controller σ) (some : c.demoted ≠ []) :
    c.serviceFaults.2.forcing = true := by
  refine c.serviceFaults_forcing.2 (.inr ?_)
  simp only [demoted, PowerTrain.demoted] at some
  split at some
  · rename_i pending
    exact ⟨pending, some⟩
  · exact absurd rfl some

/-- A fault check writes nothing but the release of each rail that it demotes, in the order of the
table. A rail may so go down under a child that is asserted: it does where the child was not demoted
before it, and the rails are closed afterwards just in case each asserted child of a demoted rail was
demoted as well. What is left is up to the latch. -/
theorem fault_check_releases {good : σ → Prop} (c : Controller σ)
    (obeys : c.rig.rails.Obedient good) (fine : good c.board)
    (closed : c.rig.rails.Closed c.board) :
    let bank := c.rig.rails
    let calls := c.train.calls .serviceFaults
    c.serviceFaults.2.board = calls.foldl Call.run c.board ∧
      bank.Demotes c.board c.demoted calls ∧ bank.Releases c.demoted calls ∧
      c.demoted.Pairwise (fun earlier later => earlier.index < later.index) ∧
      (∀ rail ∈ c.demoted, bank.state? rail = some .on) ∧
      (c.demoted ≠ [] → c.serviceFaults.2.forcing = true) ∧
      (∀ before after, before ++ after = calls → ∃ cut rest, cut ++ rest = c.demoted ∧
        bank.Releases cut before ∧ bank.Releases rest after ∧
        bank.Shed c.board cut (before.foldl Call.run c.board)) ∧
      (bank.Distinct → ∀ earlier rail later, c.demoted = earlier ++ rail :: later →
        ∃ row before after, bank.row? rail = some row ∧
          calls = before ++ .driveLine row.enable.line (row.enable.level false) :: after ∧
          ∀ child row', bank.row? child = some row' → row'.parent = rail → child ≠ rail →
            (row'.Asserted (before.foldl Call.run c.board) ↔
              row'.Asserted c.board ∧ child ∉ earlier)) ∧
      (bank.Distinct → (bank.Closed c.serviceFaults.2.board ↔ ∀ child row,
        bank.row? child = some row → row.parent ≠ child → row.Asserted c.board →
          row.parent ∈ c.demoted → child ∈ c.demoted)) := by
  intro bank calls
  have demotes : bank.Demotes c.board c.demoted calls := c.train.calls_demote
  have releases := demotes.releases
  refine ⟨c.serviceFaults_board, demotes, releases, c.demoted_ordered, c.demoted_on,
    c.demoted_forcing, fun before after split => ?_,
    fun distinct earlier rail later split => ?_, fun distinct => ?_⟩
  · obtain ⟨cut, rest, same, released, left⟩ := releases.initial split
    exact ⟨cut, rest, same, released, left, released.shed obeys fine closed⟩
  · obtain ⟨row, before, after, hrow, same, released⟩ := releases.split split
    exact ⟨row, before, after, hrow, same, fun child row' hrow' _ _ =>
      released.asserted obeys distinct fine hrow'⟩
  · rw [c.serviceFaults_board]
    exact (releases.shed obeys fine closed).kept distinct

def faulted (lines : List Line) : List (Input Bench) :=
  [.init Settings.Store.empty ⟨false, false, false, false⟩, .powerOn] ++ List.replicate 6 .step ++
    [.outside (·.change { stuckLow := lines }), .feedback]

theorem carrier_demotes_core :
    ∃ c, along (fun _ _ => true) (faulted [⟨5⟩, ⟨7⟩]) carrier = some c ∧ c.powerState = .s0 ∧
      c.rig.rails.Obedient (Bench.Wired Carrier.rails) ∧ Bench.Wired Carrier.rails c.board ∧
      c.rig.rails.Closed c.board ∧ c.demoted = [⟨3⟩, ⟨4⟩] ∧
      (c.train.calls .serviceFaults).filterMap Call.drives = [(⟨4⟩, false), (⟨6⟩, false)] ∧
      c.serviceFaults.2.forcing = true ∧ c.rig.rails.Closed c.serviceFaults.2.board ∧
      ∃ row before after, c.rig.rails.row? ⟨3⟩ = some row ∧ c.train.calls .serviceFaults =
        before ++ .driveLine row.enable.line (row.enable.level false) :: after := by
  obtain ⟨c, started, up, table, wired, closed, gone, writes, closed'⟩ :
      ∃ c, along (fun _ _ => true) (faulted [⟨5⟩, ⟨7⟩]) carrier = some c ∧ c.powerState = .s0 ∧
        c.rig.rails.table = Carrier.rails ∧ Bench.Wired Carrier.rails c.board ∧
        c.rig.rails.Closed c.board ∧ c.demoted = [⟨3⟩, ⟨4⟩] ∧
        (c.train.calls .serviceFaults).filterMap Call.drives = [(⟨4⟩, false), (⟨6⟩, false)] ∧
        c.rig.rails.Closed c.serviceFaults.2.board := by
    decide +kernel
  have obeys : c.rig.rails.Obedient (Bench.Wired Carrier.rails) :=
    (Bench.wired_obedient Carrier.rails RailTiming.builtIn).congr table
  obtain ⟨_, _, _, _, _, latch, _, released, _⟩ := c.fault_check_releases obeys wired closed
  have distinct : c.rig.rails.Distinct :=
    (RailBank.ofTable_distinct Carrier.rails RailTiming.builtIn (by decide)).congr table
  obtain ⟨row, before, after, hrow, split, _⟩ := released distinct [] ⟨3⟩ [⟨4⟩] gone
  exact ⟨c, started, up, obeys, wired, closed, gone, writes, latch (by simp [gone]), closed',
    row, before, after, hrow, split⟩

/-- The standby rail fails alone. It is released while the rails that are powered from it stay
asserted. -/
theorem carrier_cuts_standby :
    ∃ c, along (fun _ _ => true) (faulted [⟨2⟩]) carrier = some c ∧ c.powerState = .s0 ∧
      c.rig.rails.Obedient (Bench.Wired Carrier.rails) ∧ Bench.Wired Carrier.rails c.board ∧
      c.rig.rails.Closed c.board ∧
      (c.train.calls .serviceFaults).filterMap Call.drives = [(⟨1⟩, false)] ∧
      ¬ c.rig.rails.Closed c.serviceFaults.2.board := by
  obtain ⟨c, started, up, table, wired, closed, writes, open'⟩ :
      ∃ c, along (fun _ _ => true) (faulted [⟨2⟩]) carrier = some c ∧ c.powerState = .s0 ∧
        c.rig.rails.table = Carrier.rails ∧ Bench.Wired Carrier.rails c.board ∧
        c.rig.rails.Closed c.board ∧
        (c.train.calls .serviceFaults).filterMap Call.drives = [(⟨1⟩, false)] ∧
        ¬ c.rig.rails.Closed c.serviceFaults.2.board := by
    decide +kernel
  exact ⟨c, started, up, (Bench.wired_obedient Carrier.rails RailTiming.builtIn).congr table, wired,
    closed, writes, open'⟩

end Controller

end BoardWarden
