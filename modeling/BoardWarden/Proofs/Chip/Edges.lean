import BoardWarden.Chip.Watch

set_option autoImplicit false

namespace BoardWarden

inductive TachEvent where
  | edge (ticks : Nat)
  | clear
  deriving DecidableEq

def TachEvent.stamp? : TachEvent → Option Nat
  | edge ticks => some ticks
  | clear => none

theorem TachCapture.distance_elapsed {previous reload elapsed : Nat} (inside : previous ≤ reload)
    (some : 1 ≤ elapsed) (once : elapsed ≤ reload + 1) :
    distance previous ((previous + elapsed) % (reload + 1)) reload = elapsed := by
  by_cases wraps : previous + elapsed < reload + 1
  · rw [Nat.mod_eq_of_lt wraps, distance, if_pos (by omega)]
    omega
  · have counter : (previous + elapsed) % (reload + 1) = previous + elapsed - (reload + 1) := by
      rw [Nat.mod_eq_sub_mod (by omega)]
      exact Nat.mod_eq_of_lt (by omega)
    rw [counter, distance, if_neg (by omega)]
    omega

theorem TachCapture.capture_elapsed {t : TachCapture} (latched : t.latched = true)
    {reload elapsed : Nat} (inside : t.previous ≤ reload) (some : 1 ≤ elapsed)
    (once : elapsed ≤ reload + 1) :
    (t.capture ((t.previous + elapsed) % (reload + 1)) reload).period = elapsed :=
  (if_pos latched).trans (distance_elapsed inside some once)

namespace TachWatch

def stamps (events : List TachEvent) : List Nat := events.filterMap TachEvent.stamp?

def meet (w : TachWatch) : TachEvent → TachWatch
  | .edge ticks => w.fall ticks
  | .clear => w.clearPeriod

def after (events : List TachEvent) : TachWatch := events.foldl meet fresh

theorem after_append (events : List TachEvent) (event : TachEvent) :
    after (events ++ [event]) = (after events).meet event := by
  simp only [after, List.foldl_append, List.foldl_cons, List.foldl_nil]

structure Tracks (w : TachWatch) (seen : List Nat) : Prop where
  latched : w.capture.latched = !seen.isEmpty
  lastEdge : ∀ ticks, seen.getLast? = some ticks → w.lastEdge = ticks
  previous : ∀ ticks, seen.getLast? = some ticks →
    w.capture.previous = ticks % (TachCapture.fullScale + 1)
  edges : w.capture.edges = seen.length % 4294967296

variable {w : TachWatch} {seen : List Nat}

theorem fresh_tracks : fresh.Tracks [] where
  latched := rfl
  lastEdge _ none := by cases none
  previous _ none := by cases none
  edges := rfl

theorem Tracks.clearPeriod (h : w.Tracks seen) : w.clearPeriod.Tracks seen :=
  ⟨h.latched, h.lastEdge, h.previous, h.edges⟩

theorem fall_edges (w : TachWatch) (ticks : Nat) :
    (w.fall ticks).capture.edges = (w.capture.edges + 1) % 4294967296 := by
  simp only [fall, TachCapture.capture]
  split <;> rfl

theorem Tracks.fall (h : w.Tracks seen) (ticks : Nat) : (w.fall ticks).Tracks (seen ++ [ticks]) := by
  refine ⟨by simp [TachWatch.fall, TachCapture.capture], fun last same => ?_, fun last same => ?_, ?_⟩
  · obtain rfl : ticks = last := by simpa using same
    rfl
  · obtain rfl : ticks = last := by simpa using same
    rfl
  · rw [fall_edges, h.edges, Nat.mod_add_mod, List.length_append, List.length_singleton]

theorem Tracks.run (h : w.Tracks seen) (events : List TachEvent) :
    (events.foldl meet w).Tracks (seen ++ stamps events) := by
  induction events generalizing w seen with
  | nil => simpa [stamps] using h
  | cons event rest ih =>
    cases event with
    | edge ticks =>
      have later := ih (h.fall ticks)
      rw [List.append_assoc] at later
      exact later
    | clear => exact ih h.clearPeriod

theorem after_tracks (events : List TachEvent) : (after events).Tracks (stamps events) :=
  fresh_tracks.run events

theorem Tracks.fall_near (h : w.Tracks seen) {last ticks : Nat} (seen_last : seen.getLast? = some last)
    (later : last < ticks) (near : ticks - last ≤ TachCapture.fullScale) :
    (w.fall ticks).capture.period = ticks - last := by
  have latched : w.capture.latched = true := by
    cases seen with
    | nil => cases seen_last
    | cons => exact h.latched
  have counter : ticks % (TachCapture.fullScale + 1) =
      (w.capture.previous + (ticks - last)) % (TachCapture.fullScale + 1) := by
    rw [h.previous last seen_last, Nat.mod_add_mod, Nat.add_sub_cancel' (Nat.le_of_lt later)]
  have kept : ¬ TachCapture.fullScale < ticks - w.lastEdge := by
    rw [h.lastEdge last seen_last]
    exact Nat.not_lt.2 near
  simp only [TachWatch.fall, kept, ↓reduceIte, counter]
  refine TachCapture.capture_elapsed latched ?_ (by omega) (Nat.le_succ_of_le near)
  rw [h.previous last seen_last]
  exact Nat.le_of_lt_succ (Nat.mod_lt _ (Nat.succ_pos _))

theorem Tracks.fall_far (h : w.Tracks seen) {ticks : Nat}
    (far : ∀ last, seen.getLast? = some last → TachCapture.fullScale < ticks - last) :
    (w.fall ticks).capture.period = w.capture.period := by
  have unlatched : (if TachCapture.fullScale < ticks - w.lastEdge then w.capture.overflow
      else w.capture).latched = false := by
    cases last : seen.getLast? with
    | none =>
      obtain rfl := List.getLast?_eq_none_iff.1 last
      split
      · rfl
      · exact h.latched
    | some ticks' =>
      rw [h.lastEdge ticks' last, if_pos (far ticks' last)]
      rfl
  simp only [TachWatch.fall, TachCapture.capture, unlatched, Bool.false_eq_true, ↓reduceIte]
  split <;> rfl

/-- Between rising stamps every edge that follows the one before by at most what 16 bits count leaves
their distance, and any other edge leaves the period as it was; the edges are counted modulo 2 ^ 32. A
timer of any reload value measures likewise, up to one count more than that value. -/
theorem period_is_distance (events : List TachEvent) (rising : (stamps events).Pairwise (· < ·)) :
    (∀ before ticks rest, events = before ++ .edge ticks :: rest →
      (∀ last, (stamps before).getLast? = some last → ticks - last ≤ 65535 →
        (after (before ++ [.edge ticks])).capture.period = ticks - last) ∧
      ((∀ last, (stamps before).getLast? = some last → 65535 < ticks - last) →
        (after (before ++ [.edge ticks])).capture.period = (after before).capture.period)) ∧
    (after events).capture.edges = (stamps events).length % 4294967296 ∧
    ∀ (t : TachCapture) (reload elapsed : Nat), t.latched = true → t.previous ≤ reload →
      1 ≤ elapsed → elapsed ≤ reload + 1 →
        (t.capture ((t.previous + elapsed) % (reload + 1)) reload).period = elapsed := by
  refine ⟨fun before ticks rest cut => ?_, (after_tracks events).edges,
    fun t reload elapsed latched inside some once => t.capture_elapsed latched inside some once⟩
  rw [after_append]
  refine ⟨fun last seen_last near => ?_, fun far => (after_tracks before).fall_far far⟩
  have later : last < ticks := by
    have order : (stamps before ++ stamps (.edge ticks :: rest)).Pairwise (· < ·) := by
      rwa [stamps, stamps, ← List.filterMap_append, ← cut]
    exact (List.pairwise_append.1 order).2.2 last (List.mem_of_getLast? seen_last) ticks (.head _)
  exact (after_tracks before).fall_near seen_last later near

def unsteadyEdges : List TachEvent :=
  [.edge 60000, .edge 69536, .edge 200000, .clear, .edge 265535]

theorem unsteady_periods :
    (stamps unsteadyEdges).Pairwise (· < ·) ∧
      (after [.edge 60000, .edge 69536]).capture.period = 9536 ∧
      (after [.edge 60000, .edge 69536, .edge 200000]).capture.period = 9536 ∧
      (after unsteadyEdges).capture.period = 65535 ∧ (after unsteadyEdges).capture.edges = 4 ∧
      ((TachCapture.fresh.capture 60 99).capture 60 99).period = 100 := by
  have rising : (stamps unsteadyEdges).Pairwise (· < ·) := by decide
  obtain ⟨measured, edges, timer⟩ := period_is_distance unsteadyEdges rising
  have wrapped := (measured [.edge 60000] 69536 [.edge 200000, .clear, .edge 265535] rfl).1 60000 rfl
    (by decide)
  have paused := (measured [.edge 60000, .edge 69536] 200000 [.clear, .edge 265535] rfl).2
    fun last same => by
      obtain rfl := Option.some.inj same
      decide
  have longest := (measured [.edge 60000, .edge 69536, .edge 200000, .clear] 265535 [] rfl).1 200000
    rfl (by decide)
  exact ⟨rising, wrapped, paused.trans wrapped, longest, edges,
    timer (TachCapture.fresh.capture 60 99) 99 100 rfl (by decide) (by decide) (by decide)⟩

end TachWatch

end BoardWarden
