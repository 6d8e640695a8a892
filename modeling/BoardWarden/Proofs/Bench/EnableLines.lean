import BoardWarden.Carrier
import BoardWarden.Proofs.Power.Train
import BoardWarden.Proofs.Rail.Closure

set_option autoImplicit false

namespace BoardWarden.Bench

theorem index_ne {line other : Line} (apart : line ≠ other) : line.index ≠ other.index := by
  intro same
  cases line
  cases other
  exact apart (congrArg Line.mk same)

theorem level_drive_of_ne (b : Bench) {line other : Line} (apart : line ≠ other) (level : Bool) :
    (b.drive level line).level other = b.level other := by
  simp only [Bench.level, drive, Array.getElem?_modify, if_neg (index_ne apart)]

theorem level_drive_self (b : Bench) (line : Line) (level : Bool)
    (mapped : line.index < b.lines.size) : (b.drive level line).level line = level := by
  simp only [Bench.level, drive, Array.getElem?_modify, ↓reduceIte, mapped, getElem?_pos,
    Option.map_some, Driven.drive]
  split
  · assumption
  · rfl

structure Free (b : Bench) (line : Line) : Prop where
  mapped : line.index < b.lines.size
  released : line ∉ b.stuckLow ∧ ∀ dropout ∈ b.dropouts, dropout.line ≠ line
  whole : line ∉ b.brokenRead ∧ line ∉ b.brokenWrite
  undriven : ∀ follower ∈ b.followers, follower.output ≠ line

instance (b : Bench) (line : Line) : Decidable (b.Free line) :=
  decidable_of_iff
    (line.index < b.lines.size ∧ (line ∉ b.stuckLow ∧ ∀ dropout ∈ b.dropouts, dropout.line ≠ line) ∧
      (line ∉ b.brokenRead ∧ line ∉ b.brokenWrite) ∧
      ∀ follower ∈ b.followers, follower.output ≠ line)
    ⟨fun ⟨mapped, released, whole, undriven⟩ => ⟨mapped, released, whole, undriven⟩,
      fun ⟨mapped, released, whole, undriven⟩ => ⟨mapped, released, whole, undriven⟩⟩

theorem Free.read {b : Bench} {line : Line} (h : b.Free line) :
    b.read line = .ok (b.level line) := by
  have unforced : b.forcedLow line = false := by
    simp only [forcedLow, Bool.or_eq_false_iff, List.contains_eq_mem, decide_eq_false_iff_not,
      List.any_eq_false]
    refine ⟨h.released.1, fun dropout listed => ?_⟩
    simp [h.released.2 dropout listed]
  have own : (b.followers.find? fun f => f.output = line) = none := by
    simpa using h.undriven
  simp [Bench.read, Nat.not_le_of_lt h.mapped, h.whole.1, unforced, own]

theorem Free.write {b : Bench} {line : Line} (h : b.Free line) (level : Bool) :
    b.write line level = (.ok (), (b.drive level line).log (.drive line level true b.time)) := by
  simp [Bench.write, Nat.not_le_of_lt h.mapped, h.whole.2]

theorem Free.congr {b b' : Bench} {line : Line} (h : b.Free line)
    (lines : b'.lines.size = b.lines.size) (stuck : b'.stuckLow = b.stuckLow)
    (drops : b'.dropouts = b.dropouts) (reads : b'.brokenRead = b.brokenRead)
    (writes : b'.brokenWrite = b.brokenWrite) (follows : b'.followers = b.followers) :
    b'.Free line :=
  ⟨by rw [lines]; exact h.mapped, by rw [stuck, drops]; exact h.released,
    by rw [reads, writes]; exact h.whole, by rw [follows]; exact h.undriven⟩

theorem Free.driven {b : Bench} {line : Line} (h : b.Free line) (other : Line) (level : Bool)
    (act : Act) : ((b.drive level other).log act).Free line :=
  h.congr Array.size_modify rfl rfl rfl rfl rfl

def Wired (table : List Rail) (b : Bench) : Prop := ∀ row ∈ table, b.Free row.enable.line

instance (table : List Rail) (b : Bench) : Decidable (Wired table b) :=
  inferInstanceAs (Decidable (∀ row ∈ table, b.Free row.enable.line))

theorem wired_obedient (table : List Rail) (timing : RailTiming) :
    (RailBank.ofTable table timing).Obedient (Wired table) where
  lasts row listed level b wired := by
    have free := wired row (List.mem_of_mem_take listed)
    change Wired table (b.write row.enable.line level).2
    rw [free.write]
    exact fun other listed => (wired other listed).driven _ _ _
  readBack row listed level b wired := by
    have free := wired row (List.mem_of_mem_take listed)
    change Bench.read (b.write row.enable.line level).2 _ = _
    rw [free.write, (free.driven row.enable.line level _).read]
    exact congrArg Except.ok (b.level_drive_self row.enable.line level free.mapped)
  apart row listed other listed' different level b wired := by
    have free := wired row (List.mem_of_mem_take listed)
    have free' := wired other (List.mem_of_mem_take listed')
    change Bench.read (b.write row.enable.line level).2 _ = b.read _
    rw [free.write, (free'.driven row.enable.line level _).read, free'.read]
    exact congrArg Except.ok (b.level_drive_of_ne (Ne.symm different) level)
  still call b silent wired := by
    have same : ∀ b' : Bench, b'.lines = b.lines → b'.stuckLow = b.stuckLow →
        b'.dropouts = b.dropouts → b'.brokenRead = b.brokenRead → b'.brokenWrite = b.brokenWrite →
        b'.followers = b.followers → Wired table b' ∧
          ∀ row ∈ (RailBank.ofTable table timing).table,
            b'.read row.enable.line = b.read row.enable.line := by
      intro b' lines stuck drops reads writes follows
      have wired' : Wired table b' := fun row listed =>
        (wired row listed).congr (congrArg Array.size lines) stuck drops reads writes follows
      refine ⟨wired', fun row listed => ?_⟩
      have listed' := List.mem_of_mem_take listed
      rw [(wired' row listed').read, (wired row listed').read, Bench.level, Bench.level, lines]
    cases call with
    | driveLine => cases silent
    | _ => exact same _ rfl rfl rfl rfl rfl rfl

end BoardWarden.Bench
