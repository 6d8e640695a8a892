import BoardWarden.Proofs.Bench.EnableLines
import BoardWarden.Proofs.Controller.Feed

set_option autoImplicit false

namespace BoardWarden

def Carrier.promptBench : Bench :=
  Carrier.bench.change { follow := [⟨Carrier.fanEnable, ⟨9⟩, 0⟩] }

def Carrier.fanRow : Rail := Carrier.rail "12V_FAN" 5 8 (.powerGood ⟨9⟩)

namespace Bench

structure Prompt (b : Bench) : Prop where
  mapped : b.lines.size = 32
  free : b.stuckLow = [] ∧ b.dropouts = []
  whole : b.brokenRead = [] ∧ b.brokenWrite = []
  followers : b.followers = Carrier.promptBench.followers

theorem promptBench_prompt : Carrier.promptBench.Prompt :=
  ⟨by decide +kernel, ⟨rfl, rfl⟩, ⟨rfl, rfl⟩, rfl⟩

theorem Prompt.unforced {b : Bench} (h : b.Prompt) (line : Line) : b.forcedLow line = false := by
  simp [forcedLow, h.free.1, h.free.2]

theorem Prompt.read_enable {b : Bench} (h : b.Prompt) :
    b.read Carrier.fanEnable = .ok (b.level Carrier.fanEnable) := by
  have mapped : ¬ b.lines.size ≤ Carrier.fanEnable.index := by
    rw [h.mapped]
    decide
  have undriven : (b.followers.find? fun f => f.output = Carrier.fanEnable) = none := by
    rw [h.followers]
    decide
  simp [read, mapped, h.whole.1, h.unforced, undriven]

theorem Prompt.read_feedback {b : Bench} (h : b.Prompt) :
    b.read ⟨9⟩ = .ok (b.level Carrier.fanEnable) := by
  have mapped : ¬ b.lines.size ≤ 9 := by
    rw [h.mapped]
    decide
  have driven : (b.followers.find? fun f => f.output = (⟨9⟩ : Line)) =
      some ⟨Carrier.fanEnable, ⟨9⟩, 0⟩ := by
    rw [h.followers]
    decide
  have follows : b.followed ⟨Carrier.fanEnable, ⟨9⟩, 0⟩ = b.level Carrier.fanEnable := by
    simp only [followed, level]
    split
    · simp [Driven.heldFor]
    · rfl
  simp [read, mapped, h.whole.1, h.unforced, driven, follows]

theorem Prompt.lit_iff {b : Bench} (h : b.Prompt) :
    Lit Carrier.fanRow b ↔ b.level Carrier.fanEnable = true := by
  have enable : Board.readLine Carrier.fanEnable b = (.ok (b.level Carrier.fanEnable), b) :=
    congrArg (·, b) h.read_enable
  have feedback : Board.readLine ⟨9⟩ b = (.ok (b.level Carrier.fanEnable), b) :=
    congrArg (·, b) h.read_feedback
  have line : Carrier.fanRow.enable = ⟨Carrier.fanEnable, false⟩ := rfl
  have confirms : Carrier.fanRow.feedback = .powerGood ⟨9⟩ := rfl
  simp [Lit, RailBank.enabled, RailBank.confirmed, Plant.readLine, line, confirms, enable, feedback]

theorem Prompt.drive {b : Bench} (h : b.Prompt) (level : Bool) (line : Line) :
    (b.drive level line).Prompt :=
  ⟨by rw [← h.mapped]; exact Array.size_modify, h.free, h.whole, h.followers⟩

theorem Prompt.write {b : Bench} (h : b.Prompt) (line : Line) (level : Bool) :
    (b.write line level).2.Prompt ∧
      (line ≠ Carrier.fanEnable ∨ level = true → Lit Carrier.fanRow b →
        Lit Carrier.fanRow (b.write line level).2) := by
  simp only [Bench.write, h.whole.2, List.contains_nil, Bool.false_eq_true, ↓reduceIte]
  split
  · have same : (b.log (.drive line level false b.time)).Prompt :=
      ⟨h.mapped, h.free, h.whole, h.followers⟩
    refine ⟨same, fun _ lit => same.lit_iff.2 ?_⟩
    exact h.lit_iff.1 lit
  · rename_i mapped
    have driven := h.drive level line
    have same : ((b.drive level line).log (.drive line level true b.time)).Prompt :=
      ⟨driven.mapped, driven.free, driven.whole, driven.followers⟩
    refine ⟨same, fun spared lit => same.lit_iff.2 ?_⟩
    change (b.drive level line).level Carrier.fanEnable = true
    by_cases enable : line = Carrier.fanEnable
    · subst enable
      rw [level_drive_self b _ level (Nat.lt_of_not_le mapped)]
      simpa using spared
    · rw [level_drive_of_ne b enable]
      exact h.lit_iff.1 lit

theorem Prompt.call {b : Bench} (h : b.Prompt) (call : Call) (still : call.drives = none) :
    (call.run b).Prompt ∧ (Lit Carrier.fanRow b → Lit Carrier.fanRow (call.run b)) := by
  have same : ∀ b' : Bench, b'.lines = b.lines → b'.stuckLow = b.stuckLow →
      b'.dropouts = b.dropouts → b'.brokenRead = b.brokenRead → b'.brokenWrite = b.brokenWrite →
      b'.followers = b.followers →
      b'.Prompt ∧ (Lit Carrier.fanRow b → Lit Carrier.fanRow b') := by
    intro b' lines stuck drops reads writes follows
    have prompt : b'.Prompt := ⟨by rw [lines, h.mapped], by rw [stuck, drops]; exact h.free,
      by rw [reads, writes]; exact h.whole, by rw [follows, h.followers]⟩
    refine ⟨prompt, fun lit => prompt.lit_iff.2 ?_⟩
    rw [Bench.level, lines]
    exact h.lit_iff.1 lit
  cases call with
  | driveLine => cases still
  | _ => exact same _ rfl rfl rfl rfl rfl rfl

theorem prompt_steady :
    (Controller.fanFeed Carrier.layout ControllerConfig.builtIn Carrier.fanRail).Steady
      Carrier.fanRow Prompt := by
  apply Supply.Steady.of_prompt
  · rfl
  · rfl
  · have alone : ∀ i : Fin 12, Carrier.rails[i].enable.line = Carrier.fanEnable → i.val = 5 := by
      decide
    intro i other listed line
    obtain ⟨hlt, rfl⟩ := List.getElem?_eq_some_iff.1 listed
    exact alone ⟨i, hlt⟩ line
  · exact fun call b still h => h.call call still
  · exact fun other _ level b h => h.write other.enable.line level
  · intro b h
    have mapped : Carrier.fanEnable.index < b.lines.size := by
      rw [h.mapped]
      decide
    have accepted : b.write Carrier.fanEnable true =
        (.ok (), (b.drive true Carrier.fanEnable).log (.drive Carrier.fanEnable true true b.time)) := by
      simp [Bench.write, Nat.not_le_of_lt mapped, h.whole.2]
    have prompt := (h.write Carrier.fanEnable true).1
    change (b.write Carrier.fanEnable true).1 = .ok () ∧
      Lit Carrier.fanRow (b.write Carrier.fanEnable true).2
    rw [accepted] at prompt ⊢
    exact ⟨rfl, prompt.lit_iff.2 (b.level_drive_self Carrier.fanEnable true mapped)⟩

end Bench

end BoardWarden
