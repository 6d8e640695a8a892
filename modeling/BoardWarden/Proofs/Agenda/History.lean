import Mathlib.Data.List.Induction
import BoardWarden.Proofs.Agenda

set_option autoImplicit false

namespace BoardWarden.Agenda

section Least

variable {a : Agenda}

theorem nextDeadline_eq_none_iff : a.nextDeadline = none ↔ ∀ action, a.deadline? action = none := by
  rw [nextDeadline, Option.map_eq_none_iff, List.min?_eq_none_iff, List.map_eq_nil_iff,
    List.eq_nil_iff_forall_not_mem]
  simp only [Prod.forall, mem_armed, Option.eq_none_iff_forall_ne_some, ne_eq]

theorem nextDeadline_le {deadline : Instant} (next : a.nextDeadline = some deadline)
    {action : DeferredAction} {other : Instant} (armed : a.deadline? action = some other) :
    deadline.micros ≤ other.micros := by
  obtain ⟨micros, least, rfl⟩ := Option.map_eq_some_iff.1 next
  exact (List.min?_eq_some_iff.1 least).2 _
    (List.mem_map.2 ⟨(action, other), (a.mem_armed action other).2 armed, rfl⟩)

theorem nextDeadline_eq_some_iff {deadline : Instant} : a.nextDeadline = some deadline ↔
    (∃ action, a.deadline? action = some deadline) ∧
      ∀ action other, a.deadline? action = some other → deadline.micros ≤ other.micros := by
  refine ⟨fun next => ⟨nextDeadline_armed next, fun _ _ => nextDeadline_le next⟩, ?_⟩
  rintro ⟨⟨action, armed⟩, least⟩
  cases next : a.nextDeadline with
  | none =>
    rw [nextDeadline_eq_none_iff.1 next action] at armed
    cases armed
  | some first =>
    obtain ⟨other, held⟩ := nextDeadline_armed next
    have below := nextDeadline_le next armed
    have above := least other first held
    exact congrArg (some ∘ Instant.mk) (Nat.le_antisymm below above)

end Least

section Drain

theorem deadline?_disarmed {a : Agenda} {action other : DeferredAction} {deadline : Instant}
    (armed : (a.set action none).deadline? other = some deadline) :
    other ≠ action ∧ a.deadline? other = some deadline := by
  have another : other ≠ action := fun same => by
    rw [same, deadline?_set_self] at armed
    cases armed
  exact ⟨another, (a.deadline?_set_of_ne another none).symm.trans armed⟩

theorem takeExpired_size {a left : Agenda} {action : DeferredAction} {now : Instant}
    (taken : a.takeExpired now = some (action, left)) : left.size < a.size := by
  obtain ⟨rfl, deadline, armed, _⟩ := takeExpired_spec _ _ _ _ taken
  have fewer := a.size_set_none action (by rw [isPending, armed]; rfl)
  omega

def drain (a : Agenda) (now : Instant) : List DeferredAction × Agenda :=
  match _taken : a.takeExpired now with
  | none => ([], a)
  | some (action, left) => (action :: (drain left now).1, (drain left now).2)
termination_by a.size
decreasing_by all_goals exact takeExpired_size _taken

structure Drained (a : Agenda) (now : Instant) (taken : List DeferredAction) (left : Agenda) : Prop where
  due : ∀ action, action ∈ taken ↔
    ∃ deadline, a.deadline? action = some deadline ∧ deadline.micros ≤ now.micros
  once : taken.Nodup
  ordered : taken.Pairwise fun action other => ∃ deadline later, a.deadline? action = some deadline ∧
    a.deadline? other = some later ∧ Before (action, deadline) (other, later)
  left : ∀ action, left.deadline? action =
    (a.deadline? action).filter fun deadline => decide (now.micros < deadline.micros)

theorem Drained.nil {a : Agenda} {now : Instant} (idle : a.takeExpired now = none) :
    Drained a now [] a where
  due action := by
    refine iff_of_false List.not_mem_nil ?_
    rintro ⟨deadline, armed, due⟩
    exact absurd due (Nat.not_le.2 (takeExpired_none idle armed))
  once := .nil
  ordered := .nil
  left action := by
    cases armed : a.deadline? action with
    | none => rfl
    | some deadline =>
      exact (if_pos (decide_eq_true (takeExpired_none idle armed))).symm

/-- What is taken first comes before what is taken from then on, since that was armed as well. -/
theorem Drained.cons {a left last : Agenda} {now : Instant} {action : DeferredAction}
    {later : List DeferredAction} (first : a.takeExpired now = some (action, left))
    (rest : Drained left now later last) : Drained a now (action :: later) last := by
  obtain ⟨rfl, deadline, armed, due⟩ := takeExpired_spec _ _ _ _ first
  have entered : ∀ other ∈ later, ∃ deadline', other ≠ action ∧
      a.deadline? other = some deadline' ∧ deadline'.micros ≤ now.micros := fun other listed => by
    obtain ⟨deadline', held, due'⟩ := (rest.due other).1 listed
    obtain ⟨another, held⟩ := deadline?_disarmed held
    exact ⟨deadline', another, held, due'⟩
  refine ⟨fun other => ?_, ?_, ?_, fun other => ?_⟩
  · rw [List.mem_cons]
    constructor
    · rintro (rfl | listed)
      · exact ⟨deadline, armed, due⟩
      · obtain ⟨deadline', _, held⟩ := entered other listed
        exact ⟨deadline', held⟩
    · rintro ⟨deadline', held, due'⟩
      refine Decidable.or_iff_not_imp_left.2 fun another => (rest.due other).2 ⟨deadline', ?_, due'⟩
      exact (a.deadline?_set_of_ne another none).trans held
  · refine List.nodup_cons.2 ⟨fun again => ?_, rest.once⟩
    obtain ⟨_, another, _⟩ := entered action again
    exact another rfl
  · refine List.pairwise_cons.2 ⟨fun other listed => ?_, rest.ordered.imp ?_⟩
    · obtain ⟨deadline', another, held, _⟩ := entered other listed
      exact ⟨deadline, deadline', armed, held, takeExpired_before first armed held another⟩
    · rintro other other' ⟨deadline, later, held, held', before⟩
      exact ⟨deadline, later, (deadline?_disarmed held).2, (deadline?_disarmed held').2, before⟩
  · -- The action itself was due, so that nothing of it is left.
    rw [rest.left other]
    by_cases same : other = action
    · subst same
      rw [deadline?_set_self, armed]
      exact (if_neg (by simpa using due)).symm
    · rw [a.deadline?_set_of_ne same]

theorem drain_drained (a : Agenda) (now : Instant) : Drained a now (a.drain now).1 (a.drain now).2 := by
  induction a using drain.induct now with
  | case1 a idle =>
    rw [drain, idle]
    exact .nil idle
  | case2 a action left first ih =>
    rw [drain, first]
    exact .cons first ih

end Drain

inductive Request where
  | schedule (action : DeferredAction) (now : Instant) (delay : Span)
  | reschedule (action : DeferredAction) (now : Instant) (delay : Span)
  | cancel (action : DeferredAction)
  | takeExpired (now : Instant)

structure Turn where
  request : Request
  taken : Option DeferredAction

def perform (a : Agenda) : Request → Option DeferredAction × Agenda
  | .schedule action now delay => (none, a.schedule action now delay)
  | .reschedule action now delay => (none, a.reschedule action now delay)
  | .cancel action => (none, (a.cancel action).2)
  | .takeExpired now =>
    match a.takeExpired now with
    | none => (none, a)
    | some (action, left) => (some action, left)

def extend (past : List Turn × Agenda) (request : Request) : List Turn × Agenda :=
  (past.1 ++ [⟨request, (past.2.perform request).1⟩], (past.2.perform request).2)

def replay (requests : List Request) : List Turn × Agenda := requests.foldl extend ([], empty)

section History

/-- In some turn `P` held, and in none since then did `Q`. Both may look at the turns before. -/
def Since (P Q : List Turn → Turn → Prop) (turns : List Turn) : Prop :=
  ∃ before turn after, turns = before ++ turn :: after ∧ P before turn ∧
    ∀ between later rest, after = between ++ later :: rest → ¬ Q (before ++ turn :: between) later

def Turn.Disarms (turn : Turn) (action : DeferredAction) : Prop :=
  turn.request = .cancel action ∨ turn.taken = some action

def Armed (turns : List Turn) (action : DeferredAction) : Prop :=
  Since (fun _ turn => ∃ now delay, turn.request = .schedule action now delay)
    (fun _ turn => turn.Disarms action) turns

def Gives (armed : Prop) (request : Request) (action : DeferredAction) (deadline : Instant) : Prop :=
  ∃ now delay, deadline = now.after delay ∧
    (request = .schedule action now delay ∨ (armed ∧ request = .reschedule action now delay))

/-- The deadline is the last that the action was given, and the action was neither cancelled nor taken
since then. -/
def Told (turns : List Turn) (action : DeferredAction) (deadline : Instant) : Prop :=
  Since (fun before turn => Gives (Armed before action) turn.request action deadline)
    (fun before turn =>
      turn.Disarms action ∨ ∃ other, Gives (Armed before action) turn.request action other)
    turns

variable {P Q : List Turn → Turn → Prop} {turns : List Turn} {turn : Turn}

theorem not_since_nil : ¬ Since P Q [] := by
  rintro ⟨before, turn, after, cut, _⟩
  simp at cut

theorem split_append {α : Type} {xs before after : List α} {x y : α} :
    xs ++ [x] = before ++ y :: after ↔
      (before = xs ∧ y = x ∧ after = []) ∨ ∃ most, xs = before ++ y :: most ∧ after = most ++ [x] := by
  constructor
  · intro cut
    rcases List.eq_nil_or_concat after with rfl | ⟨most, last, rfl⟩
    · obtain ⟨rfl, same⟩ := List.append_inj' cut rfl
      exact .inl ⟨rfl, (List.singleton_inj.1 same).symm, rfl⟩
    · have cut' : xs ++ [x] = (before ++ y :: most) ++ [last] := by simpa using cut
      obtain ⟨rfl, same⟩ := List.append_inj' cut' rfl
      obtain rfl := List.singleton_inj.1 same
      exact .inr ⟨most, rfl, List.concat_eq_append⟩
  · rintro (⟨rfl, rfl, rfl⟩ | ⟨most, rfl, rfl⟩)
    · rfl
    · simp

theorem since_append : Since P Q (turns ++ [turn]) ↔ P turns turn ∨ (Since P Q turns ∧ ¬ Q turns turn) := by
  constructor
  · rintro ⟨before, first, after, cut, held, quiet⟩
    rcases split_append.1 cut with ⟨rfl, rfl, rfl⟩ | ⟨most, rfl, rfl⟩
    · exact .inl held
    · refine .inr ⟨⟨before, first, most, rfl, held, fun between later rest split => ?_⟩,
        quiet most turn [] rfl⟩
      exact quiet between later (rest ++ [turn]) (by simp [split])
  · rintro (held | ⟨⟨before, first, after, rfl, held, quiet⟩, last⟩)
    · exact ⟨turns, turn, [], rfl, held, fun between later rest none => by simp at none⟩
    · refine ⟨before, first, after ++ [turn], by simp, held, fun between later rest split => ?_⟩
      rcases split_append.1 split with ⟨rfl, rfl, rfl⟩ | ⟨most, rfl, rfl⟩
      · exact last
      · exact quiet between later most rfl

variable {a : Agenda} {request : Request} {action : DeferredAction}

theorem perform_disarms (disarms : Turn.Disarms ⟨request, (a.perform request).1⟩ action) :
    (a.perform request).2.deadline? action = none ∧
      ∀ armed deadline, ¬ Gives armed request action deadline := by
  cases request with
  | schedule | reschedule => rcases disarms with none | none <;> cases none
  | cancel other =>
    obtain rfl : other = action := by simpa [Turn.Disarms, perform] using disarms
    exact ⟨deadline?_set_self _ _ _, by simp [Gives]⟩
  | takeExpired now =>
    refine ⟨?_, by simp [Gives]⟩
    cases found : a.takeExpired now with
    | none => simp [Turn.Disarms, perform, found] at disarms
    | some first =>
      obtain rfl : first.1 = action := by simpa [Turn.Disarms, perform, found] using disarms
      obtain ⟨emptied, _⟩ := takeExpired_spec _ _ _ _ found
      simp only [perform, found, emptied, deadline?_set_self]

theorem perform_gives {deadline : Instant}
    (gives : Gives (a.isPending action = true) request action deadline) :
    (a.perform request).2.deadline? action = some deadline := by
  obtain ⟨now, delay, rfl, rfl | ⟨armed, rfl⟩⟩ := gives
  · exact deadline?_set_self _ _ _
  · simp only [perform, reschedule, armed, ↓reduceIte, schedule, deadline?_set_self]

/-- A request that neither disarms an action nor gives it a deadline has nothing to do with it. -/
theorem perform_spares (spares : ¬ Turn.Disarms ⟨request, (a.perform request).1⟩ action)
    (nothing : ∀ deadline, ¬ Gives (a.isPending action = true) request action deadline) :
    (a.perform request).2.deadline? action = a.deadline? action := by
  cases request with
  | schedule other now delay =>
    refine a.deadline?_set_of_ne (fun same => nothing (now.after delay) ?_) _
    exact ⟨now, delay, rfl, .inl (by rw [same])⟩
  | reschedule other now delay =>
    simp only [perform, reschedule]
    split
    · rename_i armed
      refine a.deadline?_set_of_ne (fun same => nothing (now.after delay) ?_) _
      exact ⟨now, delay, rfl, .inr ⟨same ▸ armed, by rw [same]⟩⟩
    · rfl
  | cancel other =>
    refine a.deadline?_set_of_ne (fun same => spares ?_) _
    exact .inl (by rw [same])
  | takeExpired now =>
    cases found : a.takeExpired now with
    | none => simp only [perform, found]
    | some first =>
      obtain ⟨emptied, _⟩ := takeExpired_spec _ _ _ _ found
      simp only [perform, found, emptied]
      refine a.deadline?_set_of_ne (fun same => spares (.inr ?_)) _
      simp only [perform, found, same]

/-- A request disarms an action, or gives it a deadline, or has nothing to do with it. -/
theorem perform_cases (a : Agenda) (request : Request) (action : DeferredAction) :
    let turn : Turn := ⟨request, (a.perform request).1⟩
    let left := (a.perform request).2
    (turn.Disarms action ∧ (∀ armed deadline, ¬ Gives armed request action deadline) ∧
      left.deadline? action = none) ∨
    (¬ turn.Disarms action ∧ ∃ deadline, Gives (a.isPending action = true) request action deadline ∧
      left.deadline? action = some deadline) ∨
    (¬ turn.Disarms action ∧ (∀ deadline, ¬ Gives (a.isPending action = true) request action deadline) ∧
      left.deadline? action = a.deadline? action) := by
  intro turn left
  by_cases disarms : turn.Disarms action
  · obtain ⟨gone, nothing⟩ := perform_disarms disarms
    exact .inl ⟨disarms, nothing, gone⟩
  · by_cases gives : ∃ deadline, Gives (a.isPending action = true) request action deadline
    · obtain ⟨deadline, gives⟩ := gives
      exact .inr (.inl ⟨disarms, deadline, gives, perform_gives gives⟩)
    · have nothing := not_exists.1 gives
      exact .inr (.inr ⟨disarms, nothing, perform_spares disarms nothing⟩)

structure Follows (turns : List Turn) (a : Agenda) : Prop where
  armed : ∀ action, a.isPending action = true ↔ Armed turns action
  deadline : ∀ action deadline, a.deadline? action = some deadline ↔ Told turns action deadline

theorem follows_empty : Follows [] empty where
  armed action := iff_of_false (by cases action <;> decide) not_since_nil
  deadline action deadline := iff_of_false (by cases action <;> simp [deadline?, empty]) not_since_nil

theorem Follows.perform (follows : Follows turns a) (request : Request) :
    Follows (turns ++ [⟨request, (a.perform request).1⟩]) (a.perform request).2 where
  armed action := by
    have unscheduled : (∀ deadline, ¬ Gives (a.isPending action = true) request action deadline) →
        ¬ ∃ now delay, request = .schedule action now delay :=
      fun nothing ⟨now, delay, same⟩ => nothing _ ⟨now, delay, rfl, .inl same⟩
    rw [Armed, since_append, ← Armed, ← follows.armed]
    rcases a.perform_cases request action with
      ⟨disarms, nothing, gone⟩ | ⟨spares, deadline, gives, given⟩ | ⟨spares, nothing, kept⟩
    · refine iff_of_false (by simp [isPending, gone]) ?_
      rintro (asked | ⟨_, spared⟩)
      · exact unscheduled (nothing _) asked
      · exact spared disarms
    · refine iff_of_true (by rw [isPending, given]; rfl) ?_
      obtain ⟨now, delay, _, same | ⟨armed, _⟩⟩ := gives
      · exact .inl ⟨now, delay, same⟩
      · exact .inr ⟨armed, spares⟩
    · rw [isPending, kept, ← isPending]
      exact ⟨fun armed => .inr ⟨armed, spares⟩,
        fun either => (either.resolve_left (unscheduled nothing)).1⟩
  deadline action deadline := by
    rw [Told, since_append, ← Told, ← follows.deadline]
    simp only [← follows.armed]
    rcases a.perform_cases request action with
      ⟨disarms, nothing, gone⟩ | ⟨spares, first, gives, given⟩ | ⟨spares, nothing, kept⟩
    · simp [gone, nothing, disarms]
    · rw [given]
      constructor
      · rintro ⟨⟩
        exact .inl gives
      · rintro (again | ⟨_, quiet⟩)
        · exact given.symm.trans (perform_gives again)
        · exact absurd (.inr ⟨first, gives⟩) quiet
    · rw [kept]
      simp [spares, nothing]

theorem replay_follows (requests : List Request) : Follows (replay requests).1 (replay requests).2 := by
  induction requests using List.reverseRecOn with
  | nil => exact follows_empty
  | append_singleton requests request ih =>
    rw [replay, List.foldl_append]
    exact ih.perform request

end History

/-- The agenda after any requests: an action has the deadline that it was given last, unless it was
cancelled or taken since then. The next deadline is the least of all. At any time, taking what is due until
nothing is gives each action that is due once, by deadline and then by declaration, and leaves all others
as they were. -/
theorem requests_refine_map (requests : List Request) :
    let turns := (replay requests).1
    let a := (replay requests).2
    (∀ action deadline, a.deadline? action = some deadline ↔ Told turns action deadline) ∧
    (∀ deadline, a.nextDeadline = some deadline ↔ (∃ action, a.deadline? action = some deadline) ∧
      ∀ action other, a.deadline? action = some other → deadline.micros ≤ other.micros) ∧
    (a.nextDeadline = none ↔ ∀ action, a.deadline? action = none) ∧
    ∀ now, Drained a now (a.drain now).1 (a.drain now).2 :=
  ⟨(replay_follows requests).deadline, fun _ => nextDeadline_eq_some_iff, nextDeadline_eq_none_iff,
    fun now => drain_drained _ now⟩

end BoardWarden.Agenda
