import BoardWarden.Proofs.Emulator.Runs

set_option autoImplicit false

namespace BoardWarden.Emulator

/-- A session that has come from the start of the carrier, by what its operator does and by passes of
runs, and the times of all ticks so far. -/
inductive Life : List Instant → Session → Prop where
  | boot : Life [] Session.fresh
  | deed {ticks : List Instant} {s : Session} {c : Controller World}
      (input : Controller.Input World) (life : Life ticks s) (deed : Deed input)
      (applied : s.controller.apply input = .ok c) : Life ticks { s with controller := c }
  | shown {ticks : List Instant} {s : Session} (nextLogId : Nat) (life : Life ticks s) :
      Life ticks { s with nextLogId }
  | turn {ticks own : List Instant} {s later : Session} {stop : Instant} {ended : Bool}
      (life : Life ticks s) (fits : stop.micros ≤ Instant.last)
      (turn : Turn stop s ended own later) : Life (ticks ++ own) later

def secondEnd (second : Nat) : Nat := min (second * 1000000) Instant.last

theorem secondEnd_succ (second : Nat) :
    min (secondEnd second + 1000000) Instant.last = secondEnd (second + 1) := by
  simp only [secondEnd]
  omega

namespace Life

variable {ticks : List Instant} {s : Session}

theorem sound (life : Life ticks s) : Sound s.controller := by
  induction life with
  | boot => exact fresh_sound
  | deed input _ deed applied ih => exact ih.applied input deed applied
  | shown _ _ ih => exact ih
  | turn _ fits turn ih => exact (turn.sound ih fits).1

/-- The next tick is that of the next second, and no tick came before the end of its second. -/
theorem ticked (life : Life ticks s) : s.nextTick.micros = secondEnd (ticks.length + 1) ∧
    ∀ second time, ticks[second]? = some time → secondEnd (second + 1) ≤ time.micros := by
  induction life with
  | boot =>
    have first : Session.fresh.nextTick.micros = secondEnd 1 := by decide +kernel
    exact ⟨first, by simp⟩
  | deed _ _ _ _ ih | shown _ _ ih => exact ih
  | @turn ticks own s later stop ended life fits turn ih =>
    obtain ⟨next, held⟩ := ih
    rcases turn.ticks with ⟨rfl, same⟩ | ⟨time, rfl, come, moved⟩
    · rw [List.append_nil, same]
      exact ⟨next, held⟩
    · refine ⟨?_, fun second time' listed => ?_⟩
      · have ahead : (s.nextTick.after Session.tick).micros =
            min (s.nextTick.micros + 1000000) Instant.last := rfl
        rw [moved, ahead, next, List.length_append, List.length_singleton, secondEnd_succ]
      · rcases Nat.lt_trichotomy second ticks.length with before | rfl | after
        · rw [List.getElem?_append_left before] at listed
          exact held second time' listed
        · rw [List.getElem?_concat_length] at listed
          cases listed
          exact next ▸ come
        · rw [List.getElem?_eq_none (by simp; omega)] at listed
          cases listed

theorem passes {stop : Instant} {own : List Instant} {last : Session} (life : Life ticks s)
    (fits : stop.micros ≤ Instant.last) (passes : Passes stop s own last) :
    Life (ticks ++ own) last := by
  induction passes generalizing ticks with
  | last turn => exact life.turn fits turn
  | more turn _ ih =>
    rw [← List.append_assoc]
    exact ih (life.turn fits turn)

theorem drained (life : Life ticks s) : Life ticks s.drainLog.2 :=
  (life.deed (.outside fun w => { w with milestones := [] }) (fun _ => rfl) rfl).shown _

end Life

end BoardWarden.Emulator
