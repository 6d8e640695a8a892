import BoardWarden.Proofs.Emulator.Carrying

set_option autoImplicit false

namespace BoardWarden.Emulator

theorem Life.handle {ticks : List Instant} {s : Session} (life : Life ticks s) (line : String) :
    ∃ output later own, s.handle line = .ok (output, later) ∧ Life (ticks ++ own) later := by
  obtain ⟨said, later, own, _, performed, life', _⟩ := life.performs (Command.ofLine line)
  refine ⟨said ++ later.drainLog.1, later.drainLog.2, own, ?_, life'.drained⟩
  simp only [Session.handle, performed]
  rfl

/-- A run comes to its end, and the seconds are ticked in turn. For every session that has come from the
start of the carrier and every span: the loop of the run ends by its own test, with the clock at its stop
or later; the next tick is that of the second after the ones ticked so far, and none of those came before
the end of its second; the polls and waits in the loop end by their own test as well; and the session
lives on through every line that is typed. -/
theorem run_ticks_seconds {ticks : List Instant} {s : Session} (life : Life ticks s) (span : Span) :
    (∃ own last, s.runFor span = .ok last ∧ Passes (s.now.after span) s own last ∧
        Life (ticks ++ own) last ∧
        min (s.now.micros + span.micros) Instant.last ≤ last.now.micros) ∧
      (∀ stop ended later, Session.pass stop s = .ok (ended, later) ↔
        ∃ own, Turn stop s ended own later) ∧
      s.nextTick.micros = secondEnd (ticks.length + 1) ∧
      (∀ second time, ticks[second]? = some time → secondEnd (second + 1) ≤ time.micros) ∧
      (∀ extra, Controller.runDue (4 + extra) s.controller = s.controller.pollDeferred) ∧
      s.controller.train.Settles World.InTime ∧
      ∀ line, ∃ output later own, s.handle line = .ok (output, later) ∧ Life (ticks ++ own) later := by
  obtain ⟨own, last, ran, passes⟩ := s.runFor_ends life.sound span
  obtain ⟨next, held⟩ := life.ticked
  obtain ⟨_, _, _, settled⟩ :=
    s.controller.runDue_polls DeferredAction.all.length s.controller.agenda.size_le
  exact ⟨⟨own, last, ran, passes, life.passes (Nat.min_le_right _ _) passes, passes.ends⟩,
    fun stop ended later => Session.turn_iff stop s later ended, next, held, settled,
    life.sound.settles, life.handle⟩

def pressed : Session :=
  Session.fresh.onController (·.powerButtonChanged true Session.fresh.now)

theorem pressed_ticks_twice : Life [] pressed ∧ ∃ own last,
    pressed.runFor (Span.ofSeconds 2) = .ok last ∧ Passes (pressed.now.after (Span.ofSeconds 2))
      pressed own last ∧
      last.powerState = .s0 ∧ own.length = 2 ∧
      (∀ second time, own[second]? = some time → secondEnd (second + 1) ≤ time.micros) ∧
      last.controller.train.Settles World.InTime := by
  have born : Life [] pressed := Life.boot.deed (.powerButton true Session.fresh.now) trivial rfl
  obtain ⟨⟨own, last, ran, passes, life, _⟩, _⟩ := run_ticks_seconds born (Span.ofSeconds 2)
  rw [List.nil_append] at life
  obtain ⟨_, _, next, held, _, settles, _⟩ := run_ticks_seconds life Span.zero
  obtain ⟨_, ran', third, up⟩ : ∃ s, pressed.runFor (Span.ofSeconds 2) = .ok s ∧
      s.nextTick = ⟨3000000⟩ ∧ s.powerState = .s0 := by decide +kernel
  rw [ran] at ran'
  cases ran'
  refine ⟨born, own, last, ran, passes, up, ?_, held, settles⟩
  rw [third] at next
  simp only [secondEnd, Instant.last] at next
  omega

end BoardWarden.Emulator
