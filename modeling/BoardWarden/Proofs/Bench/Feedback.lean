import BoardWarden.Proofs.Bench.EnableLines
import BoardWarden.Proofs.Rail.FaultCheck

set_option autoImplicit false

namespace BoardWarden.Bench

def hangs (b : Bench) (line : Line) : Feedback → Bool
  | .none => false
  | .analog channel _ => b.wiring.any fun w =>
      w.1 = channel && match w.2 with
        | .fixed _ => false
        | .following enable _ => enable = line
  | .powerGood output =>
      output = line || b.followers.any fun f => f.output = output && f.enable = line

theorem followed_drive (b : Bench) {line : Line} {f : Follower} (apart : f.enable ≠ line)
    (level : Bool) : (b.drive level line).followed f = b.followed f := by
  simp only [followed, drive, Array.getElem?_modify, if_neg (index_ne apart.symm)]

theorem read_drive (b : Bench) {line output : Line}
    (unseen : b.hangs line (.powerGood output) = false) (level : Bool) :
    (b.drive level line).read output = b.read output := by
  simp only [hangs, Bool.or_eq_false_iff, decide_eq_false_iff_not, List.any_eq_false,
    Bool.and_eq_true, decide_eq_true_eq, not_and] at unseen
  obtain ⟨apart, free⟩ := unseen
  have size : (b.drive level line).lines.size = b.lines.size := Array.size_modify
  have forced : (b.drive level line).forcedLow output = b.forcedLow output := rfl
  have followers : (b.drive level line).followers = b.followers := rfl
  simp only [Bench.read, size, forced, followers]
  cases found : b.followers.find? fun f => f.output = output with
  | none =>
    simp only [b.level_drive_of_ne (Ne.symm apart)]
    rfl
  | some f =>
    have wired := free f (List.mem_of_find?_eq_some found) (by simpa using List.find?_some found)
    simp only [b.followed_drive wired]
    rfl

theorem sample_drive (b : Bench) {line : Line} {channel : Channel} {minMillivolts : Nat}
    (unseen : b.hangs line (.analog channel minMillivolts) = false) (level : Bool) :
    (b.drive level line).sample channel = b.sample channel := by
  simp only [hangs, List.any_eq_false, Bool.and_eq_true, decide_eq_true_eq, not_and] at unseen
  have wiring : (b.drive level line).wiring = b.wiring := rfl
  simp only [Bench.sample, wiring]
  cases found : b.wiring.find? fun w => w.1 = channel with
  | none => rfl
  | some w =>
    obtain ⟨_, source⟩ := w
    cases source with
    | fixed => rfl
    | following enable =>
      have wired := unseen _ (List.mem_of_find?_eq_some found) (by simpa using List.find?_some found)
      have apart : enable ≠ line := by simpa using wired
      simp only [b.level_drive_of_ne apart.symm]
      rfl

theorem confirmed_drive (b : Bench) {line : Line} {row : Rail}
    (unseen : b.hangs line row.feedback = false) (level : Bool) (act : Act) (j : Journal) :
    (RailBank.confirmed row (⟨(b.drive level line).log act, j⟩ : Plant Bench)).1 =
      (RailBank.confirmed row (⟨b, j⟩ : Plant Bench)).1 := by
  simp only [RailBank.confirmed]
  cases source : row.feedback with
  | none => rfl
  | analog channel minMillivolts =>
    have same : ((b.drive level line).log act).sample channel = b.sample channel :=
      b.sample_drive (source ▸ unseen) level
    simp only [Plant.readMillivolts, Board.readMillivolts, same]
  | powerGood output =>
    have same : ((b.drive level line).log act).read output = b.read output :=
      b.read_drive (source ▸ unseen) level
    simp only [Plant.readLine, Board.readLine, same]

/-- No feedback of the table hangs on the enable line of another rail. -/
def Untangled (table : List Rail) (b : Bench) : Prop :=
  table.Pairwise fun row row' => b.hangs row.enable.line row'.feedback = false ∧
    b.hangs row'.enable.line row.feedback = false

instance (table : List Rail) (b : Bench) : Decidable (Untangled table b) :=
  inferInstanceAs (Decidable (List.Pairwise _ table))

theorem Untangled.unseen {table : List Rail} {timing : RailTiming} {b : Bench}
    (h : Untangled table b) {rail other : RailId} {row row' : Rail}
    (hrow : (RailBank.ofTable table timing).row? rail = some row)
    (hrow' : (RailBank.ofTable table timing).row? other = some row') (different : other ≠ rail) :
    b.hangs row.enable.line row'.feedback = false := by
  obtain ⟨listed, rfl⟩ := List.getElem?_eq_some_iff.1 hrow
  obtain ⟨listed', rfl⟩ := List.getElem?_eq_some_iff.1 hrow'
  have pairs := List.pairwise_iff_getElem.1 (h.sublist (List.take_sublist Rail.limit table))
  rcases Nat.lt_trichotomy rail.index other.index with before | same | after
  · exact (pairs _ _ listed listed' before).1
  · cases rail
    cases other
    exact absurd (congrArg RailId.mk same.symm) different
  · exact (pairs _ _ listed' listed after).2

/-- The rails of a bench with working enable lines and untangled feedback are independent. -/
theorem wired_independent (table : List Rail) (timing : RailTiming) (rails : List RailId) :
    (RailBank.ofTable table timing).Independent rails
      fun b => Wired table b ∧ Untangled table b where
  lasts rail listed row hrow b fine := by
    have wired := ((wired_obedient table timing).yields rails).lasts rail listed row hrow b fine.1
    refine ⟨wired, ?_⟩
    have free := fine.1 row (List.mem_of_mem_take (RailBank.row?_mem hrow))
    change Untangled table (b.write row.enable.line (row.enable.level false)).2
    rw [free.write]
    exact fine.2
  apart rail listed row hrow other listed' different b fine :=
    ((wired_obedient table timing).yields rails).apart rail listed row hrow other listed' different b
      fine.1
  feedback rail listed row hrow other row' hrow' different b fine := by
    have free := fine.1 row (List.mem_of_mem_take (RailBank.row?_mem hrow))
    change (RailBank.confirmed row'
      (⟨(b.write row.enable.line (row.enable.level false)).2, Journal.fresh⟩ : Plant Bench)).1 = _
    rw [free.write]
    exact b.confirmed_drive (fine.2.unseen hrow hrow' different) _ _ _

end BoardWarden.Bench
