import BoardWarden.Agenda

set_option autoImplicit false

namespace BoardWarden.Agenda

@[simp] theorem deadline?_set_self (a : Agenda) (action : DeferredAction)
    (deadline : Option Instant) : (a.set action deadline).deadline? action = deadline := by
  cases action <;> rfl

theorem deadline?_set_of_ne (a : Agenda) {action other : DeferredAction} (h : other ≠ action)
    (deadline : Option Instant) : (a.set action deadline).deadline? other = a.deadline? other := by
  cases action <;> cases other <;> first | rfl | exact absurd rfl h

theorem isPending_set_of_ne (a : Agenda) {action other : DeferredAction} (h : other ≠ action)
    (deadline : Option Instant) : (a.set action deadline).isPending other = a.isPending other := by
  rw [isPending, deadline?_set_of_ne a h, isPending]

@[simp] theorem isPending_schedule_self (a : Agenda) (action : DeferredAction) (now : Instant)
    (delay : Span) : (a.schedule action now delay).isPending action = true := by
  simp [isPending, schedule]

theorem isPending_schedule_of_ne (a : Agenda) {action other : DeferredAction} (h : other ≠ action)
    (now : Instant) (delay : Span) :
    (a.schedule action now delay).isPending other = a.isPending other :=
  a.isPending_set_of_ne h _

@[simp] theorem isPending_reschedule (a : Agenda) (action other : DeferredAction) (now : Instant)
    (delay : Span) : (a.reschedule action now delay).isPending other = a.isPending other := by
  simp only [reschedule]
  split
  · rename_i armed
    by_cases h : other = action
    · subst h
      rw [isPending_schedule_self, armed]
    · exact a.isPending_schedule_of_ne h now delay
  · rfl

theorem isPending_cancel_of_ne (a : Agenda) {action other : DeferredAction} (h : other ≠ action) :
    (a.cancel action).2.isPending other = a.isPending other :=
  a.isPending_set_of_ne h none

theorem mem_armed (a : Agenda) (action : DeferredAction) (deadline : Instant) :
    (action, deadline) ∈ a.armed ↔ a.deadline? action = some deadline := by
  simp only [armed, List.mem_filterMap, Option.map_eq_some_iff]
  refine ⟨?_, fun held => ⟨action, by cases action <;> decide, deadline, held, rfl⟩⟩
  rintro ⟨_, _, _, held, pair⟩
  cases pair
  exact held

theorem mem_due (a : Agenda) (now : Instant) (action : DeferredAction) (deadline : Instant) :
    (action, deadline) ∈ a.due now ↔
      a.deadline? action = some deadline ∧ deadline.micros ≤ now.micros := by
  rw [due, List.mem_filter, mem_armed, decide_eq_true_eq]

theorem nextDeadline_armed {a : Agenda} {deadline : Instant}
    (next : a.nextDeadline = some deadline) : ∃ action, a.deadline? action = some deadline := by
  obtain ⟨micros, least, rfl⟩ := Option.map_eq_some_iff.1 next
  obtain ⟨⟨action, deadline⟩, armed, rfl⟩ := List.mem_map.1 (List.min?_mem least)
  exact ⟨action, (a.mem_armed action deadline).1 armed⟩

theorem earliest_mem (entries : List (DeferredAction × Instant))
    (entry : DeferredAction × Instant) (h : earliest entries = some entry) : entry ∈ entries := by
  induction entries generalizing entry with
  | nil => cases h
  | cons first rest ih =>
    simp only [earliest] at h
    split at h
    · cases h
      exact List.mem_cons_self
    · rename_i other hother
      have later := ih other hother
      cases h
      split
      · exact List.mem_cons_of_mem _ later
      · exact List.mem_cons_self

theorem takeExpired_spec (a a' : Agenda) (action : DeferredAction) (now : Instant)
    (h : a.takeExpired now = some (action, a')) :
    a' = a.set action none ∧
      ∃ deadline, a.deadline? action = some deadline ∧ deadline.micros ≤ now.micros := by
  obtain ⟨⟨_, deadline⟩, found, taken⟩ := Option.map_eq_some_iff.1 h
  cases taken
  exact ⟨rfl, deadline, (a.mem_due now _ _).1 (earliest_mem _ _ found)⟩

theorem earliest_isSome (entries : List (DeferredAction × Instant)) (some : entries ≠ []) :
    (earliest entries).isSome := by
  cases entries with
  | nil => exact absurd rfl some
  | cons first rest =>
    simp only [earliest]
    split <;> rfl

theorem takeExpired_isSome (a : Agenda) {action : DeferredAction} {deadline now : Instant}
    (armed : a.deadline? action = some deadline) (due : deadline.micros ≤ now.micros) :
    (a.takeExpired now).isSome := by
  rw [takeExpired, Option.isSome_map]
  exact earliest_isSome _ (List.ne_nil_of_mem ((a.mem_due now action deadline).2 ⟨armed, due⟩))

theorem takeExpired_none {a : Agenda} {now : Instant} (none : a.takeExpired now = .none)
    {action : DeferredAction} {deadline : Instant} (armed : a.deadline? action = some deadline) :
    now.micros < deadline.micros := by
  refine Nat.not_le.1 fun due => ?_
  have found := a.takeExpired_isSome armed due
  rw [none] at found
  cases found

/-- The order of deadlines, ties in the order of the declaration. -/
def Before (entry other : DeferredAction × Instant) : Prop :=
  entry.2.micros < other.2.micros ∨ entry.2.micros = other.2.micros ∧
    DeferredAction.all.idxOf entry.1 < DeferredAction.all.idxOf other.1

instance (entry other : DeferredAction × Instant) : Decidable (Before entry other) :=
  inferInstanceAs (Decidable (_ ∨ _))

theorem armed_declared (a : Agenda) : a.armed.Pairwise fun entry other =>
    DeferredAction.all.idxOf entry.1 < DeferredAction.all.idxOf other.1 := by
  have declared : DeferredAction.all.Pairwise fun action other =>
      DeferredAction.all.idxOf action < DeferredAction.all.idxOf other := by decide
  refine List.pairwise_filterMap.2 (declared.imp fun below entry held entry' held' => ?_)
  obtain ⟨_, _, rfl⟩ := Option.map_eq_some_iff.1 held
  obtain ⟨_, _, rfl⟩ := Option.map_eq_some_iff.1 held'
  exact below

theorem earliest_before (entries : List (DeferredAction × Instant))
    (declared : entries.Pairwise fun entry other =>
      DeferredAction.all.idxOf entry.1 < DeferredAction.all.idxOf other.1)
    (entry : DeferredAction × Instant) (h : earliest entries = some entry) :
    ∀ other ∈ entries, other = entry ∨ Before entry other := by
  induction entries generalizing entry with
  | nil => cases h
  | cons first rest ih =>
    obtain ⟨ahead, others⟩ := List.pairwise_cons.1 declared
    simp only [earliest] at h
    split at h
    · rename_i none
      cases h
      have empty : rest = [] := by
        refine Decidable.byContradiction fun more => ?_
        have some := earliest_isSome rest more
        rw [none] at some
        cases some
      simp [empty]
    · rename_i least found
      have best := ih others least found
      cases h
      intro other listed
      split
      · rename_i sooner
        rcases List.mem_cons.1 listed with rfl | listed
        · exact .inr (.inl sooner)
        · exact best other listed
      · -- The first stays ahead of an entry with the same deadline, since it was declared before.
        rename_i later
        rcases List.mem_cons.1 listed with rfl | listed
        · exact .inl rfl
        · have declared := ahead other listed
          refine .inr ?_
          rcases best other listed with rfl | before
          · simp only [Before]
            omega
          · simp only [Before] at before ⊢
            omega

theorem takeExpired_before {a a' : Agenda} {action : DeferredAction} {now deadline : Instant}
    (h : a.takeExpired now = some (action, a')) (held : a.deadline? action = some deadline)
    {other : DeferredAction} {later : Instant} (armed : a.deadline? other = some later)
    (another : other ≠ action) : Before (action, deadline) (other, later) := by
  obtain ⟨⟨_, _⟩, found, taken⟩ := Option.map_eq_some_iff.1 h
  cases taken
  obtain ⟨held', due⟩ := (a.mem_due now _ _).1 (earliest_mem _ _ found)
  obtain rfl := Option.some.inj (held.symm.trans held')
  by_cases expired : later.micros ≤ now.micros
  · have first := earliest_before _ (a.armed_declared.filter _) _ found (other, later)
      ((a.mem_due now _ _).2 ⟨armed, expired⟩)
    exact first.resolve_left fun same => another (congrArg Prod.fst same)
  · exact .inl (Nat.lt_of_le_of_lt due (Nat.not_le.1 expired))

def size (a : Agenda) : Nat := DeferredAction.all.countP a.isPending

theorem size_le (a : Agenda) : a.size ≤ DeferredAction.all.length := List.countP_le_length

theorem size_set_none (a : Agenda) (action : DeferredAction) (armed : a.isPending action = true) :
    (a.set action none).size + 1 = a.size := by
  have off : (a.set action none).isPending action = false := by simp [isPending]
  have others : ∀ other, other ≠ action →
      (a.set action none).isPending other = a.isPending other :=
    fun other h => a.isPending_set_of_ne h none
  cases action <;>
    simp [size, DeferredAction.all, List.countP_cons, off, armed, others] <;> omega

end BoardWarden.Agenda
