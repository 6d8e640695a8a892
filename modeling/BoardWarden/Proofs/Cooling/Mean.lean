import Mathlib.Algebra.BigOperators.Ring.List
import Mathlib.Algebra.Order.BigOperators.Group.List
import Mathlib.Algebra.Order.Ring.Nat
import Mathlib.Data.List.Forall2
import BoardWarden.Carrier
import BoardWarden.Cooling.Basic
import BoardWarden.Proofs.Word

set_option autoImplicit false

/-!
The demand of all cooling zones together: a weighted mean that is cut to a whole number, with a jump to
a hundred where one zone asks for all. The mean is bounded by what the zones ask for and rises with it,
and the jump only ever raises the demand.
-/

namespace BoardWarden.Cooling

def weight (z : Zone) : Nat := z.definition.weight.toNat

def weightSum (zones : List Zone) : Nat := ((coolingZones zones).map weight).sum

def shareSum (zones : List Zone) : Nat :=
  ((coolingZones zones).map fun z => weight z * z.requirement).sum

def meanDemand? (zones : List Zone) : Option Nat :=
  if (coolingZones zones).any fun z => decide (100 ≤ z.requirement) then some 100
  else do
    let shares ← Word.sum ((coolingZones zones).map fun z => Word.unsigned (weight z * z.requirement))
    let weights ← Word.sum ((coolingZones zones).map fun z => some (weight z))
    let mean ← Word.quotient shares (max weights 1)
    return min mean 100

variable {zones : List Zone}

theorem meanDemand_eq (zones : List Zone) :
    meanDemand zones = if (coolingZones zones).any fun z => decide (100 ≤ z.requirement) then 100
      else min (shareSum zones / max (weightSum zones) 1) 100 := by
  simp only [meanDemand, totalWeight, shareSum, weightSum, List.sum_eq_foldl]
  rfl

theorem any_full_iff : ((coolingZones zones).any fun z => decide (100 ≤ z.requirement)) = true ↔
    ∃ z ∈ coolingZones zones, 100 ≤ z.requirement := by
  simp only [List.any_eq_true, decide_eq_true_eq]

theorem meanDemand_le_hundred (zones : List Zone) : meanDemand zones ≤ 100 := by
  rw [meanDemand_eq]
  split
  · exact Nat.le_refl 100
  · exact Nat.min_le_right _ _

theorem shareSum_le {bound : Nat} (most : ∀ z ∈ coolingZones zones, z.requirement ≤ bound) :
    shareSum zones ≤ weightSum zones * bound := by
  rw [weightSum, ← List.sum_map_mul_right]
  exact List.sum_le_sum fun z cools => Nat.mul_le_mul_left (weight z) (most z cools)

theorem le_shareSum {bound : Nat} (least : ∀ z ∈ coolingZones zones, bound ≤ z.requirement) :
    weightSum zones * bound ≤ shareSum zones := by
  rw [weightSum, ← List.sum_map_mul_right]
  exact List.sum_le_sum fun z cools => Nat.mul_le_mul_left (weight z) (least z cools)

theorem mean_le {bound : Nat} (most : ∀ z ∈ coolingZones zones, z.requirement ≤ bound) :
    shareSum zones / max (weightSum zones) 1 ≤ bound := by
  refine Nat.div_le_of_le_mul ((shareSum_le most).trans ?_)
  exact Nat.mul_le_mul_right bound (Nat.le_max_left _ _)

theorem meanDemand_le {bound : Nat} (most : ∀ z ∈ coolingZones zones, z.requirement ≤ bound) :
    meanDemand zones ≤ bound := by
  rw [meanDemand_eq]
  split
  · rename_i full
    obtain ⟨z, cools, full⟩ := any_full_iff.1 full
    exact full.trans (most z cools)
  · exact (Nat.min_le_left _ _).trans (mean_le most)

theorem le_meanDemand (percent : ∀ z ∈ coolingZones zones, z.requirement ≤ 100)
    (weighted : 0 < weightSum zones) {bound : Nat}
    (least : ∀ z ∈ coolingZones zones, bound ≤ z.requirement) : bound ≤ meanDemand zones := by
  have some : coolingZones zones ≠ [] := fun none => by simp [weightSum, none] at weighted
  obtain ⟨z, cools⟩ := List.exists_mem_of_ne_nil _ some
  have bounded : bound ≤ 100 := (least z cools).trans (percent z cools)
  rw [meanDemand_eq, Nat.max_eq_left weighted]
  split
  · exact bounded
  · refine Nat.le_min.2 ⟨(Nat.le_div_iff_mul_le weighted).2 ?_, bounded⟩
    rw [Nat.mul_comm]
    exact le_shareSum least

def Raised (z z' : Zone) : Prop := z'.definition = z.definition ∧ z.requirement ≤ z'.requirement

section Raised

variable {zones' : List Zone} (raised : List.Forall₂ Raised zones zones')

include raised

theorem raised_coolingZones : List.Forall₂ Raised (coolingZones zones) (coolingZones zones') :=
  List.rel_filter (fun z z' here => by
    change z.definition.cooling = true ↔ z'.definition.cooling = true
    rw [here.1]) raised

theorem map_weight_raised : zones.map weight = zones'.map weight := by
  induction raised with
  | nil => rfl
  | cons here _ ih => rw [List.map_cons, List.map_cons, ih, weight, weight, here.1]

theorem exists_raised {z : Zone} (held : z ∈ zones) : ∃ z' ∈ zones', Raised z z' := by
  induction raised with
  | nil => cases held
  | cons here _ ih =>
    rcases List.mem_cons.1 held with rfl | old
    · exact ⟨_, .head _, here⟩
    · obtain ⟨z', old', later⟩ := ih old
      exact ⟨z', .tail _ old', later⟩

theorem weightSum_raised : weightSum zones = weightSum zones' :=
  congrArg List.sum (map_weight_raised (raised_coolingZones raised))

theorem shareSum_raised : shareSum zones ≤ shareSum zones' := by
  refine List.Forall₂.sum_le_sum (List.forall₂_map_left_iff.2 (List.forall₂_map_right_iff.2 ?_))
  refine (raised_coolingZones raised).imp fun z z' here => ?_
  rw [weight, weight, here.1]
  exact Nat.mul_le_mul_left _ here.2

theorem meanDemand_mono : meanDemand zones ≤ meanDemand zones' := by
  rw [meanDemand_eq zones']
  split
  · exact meanDemand_le_hundred zones
  · rename_i below
    have below' : ¬ ((coolingZones zones).any fun z => decide (100 ≤ z.requirement)) = true := by
      rw [any_full_iff] at below ⊢
      rintro ⟨z, cools, full⟩
      obtain ⟨z', cools', here⟩ := exists_raised (raised_coolingZones raised) cools
      exact below ⟨z', cools', full.trans here.2⟩
    rw [meanDemand_eq, if_neg below', weightSum_raised raised]
    exact min_le_min_right 100 (Nat.div_le_div_right (shareSum_raised raised))

end Raised

theorem meanDemand_perm {zones' : List Zone} (same : zones.Perm zones') :
    meanDemand zones = meanDemand zones' := by
  have cooling : (coolingZones zones).Perm (coolingZones zones') := same.filter _
  rw [meanDemand_eq, meanDemand_eq, cooling.any_eq, weightSum, weightSum, shareSum, shareSum,
    (cooling.map _).sum_nat, (cooling.map _).sum_nat]

theorem weight_le (z : Zone) : weight z ≤ 255 := Nat.le_of_lt_succ z.definition.weight.toNat_lt

theorem sum_map_le_of_few {f : Zone → Nat} {bound : Nat} (few : zones.length ≤ zoneLimit)
    (most : ∀ z ∈ coolingZones zones, f z ≤ bound) :
    ((coolingZones zones).map f).sum ≤ zoneLimit * bound := by
  have count : (coolingZones zones).length ≤ zoneLimit := (List.length_filter_le _ _).trans few
  calc ((coolingZones zones).map f).sum
      ≤ ((coolingZones zones).map fun _ => bound).sum := List.sum_le_sum most
    _ = (coolingZones zones).length * bound := by rw [List.map_const', List.sum_replicate_nat]
    _ ≤ zoneLimit * bound := Nat.mul_le_mul_right bound count

theorem meanDemand?_eq (few : zones.length ≤ zoneLimit)
    (percent : ∀ z ∈ coolingZones zones, z.requirement ≤ 100) :
    meanDemand? zones = some (meanDemand zones) := by
  have share : ∀ z ∈ coolingZones zones, weight z * z.requirement ≤ 25500 :=
    fun z cools => Nat.mul_le_mul (weight_le z) (percent z cools)
  have shares := sum_map_le_of_few few share
  simp only [zoneLimit] at shares
  have weights := sum_map_le_of_few few fun z _ => weight_le z
  simp only [zoneLimit] at weights
  have words : (coolingZones zones).map (fun z => Word.unsigned (weight z * z.requirement)) =
      ((coolingZones zones).map fun z => weight z * z.requirement).map some := by
    rw [List.map_map]
    exact List.map_congr_left fun z cools => Word.unsigned_of ((share z cools).trans (by decide))
  have bytes : (coolingZones zones).map (fun z => some (weight z)) =
      ((coolingZones zones).map weight).map some := List.map_map.symm
  rw [meanDemand_eq, meanDemand?, words, bytes, Word.sum_of (by omega), Word.sum_of (by omega)]
  simp only [Option.bind_eq_bind, Option.bind_some]
  rw [Word.quotient_of (by omega)]
  split <;> rfl

/-- The demand is a hundred where a cooling zone asks for that, and else the weighted mean, cut to a whole
number; words of 32 bits hold all that is computed for as many zones as there is room for. It is at most
what the most demanding zone asks for, and no less than the least demanding asks for as soon as one
weighs anything. It never drops where zones ask for more, nor depends on their order. -/
theorem demand_is_mean (zones : List Zone)
    (percent : ∀ z ∈ coolingZones zones, z.requirement ≤ 100) :
    ((∃ z ∈ coolingZones zones, z.requirement = 100) → meanDemand zones = 100) ∧
    ((∀ z ∈ coolingZones zones, z.requirement ≠ 100) →
      meanDemand zones = shareSum zones / max (weightSum zones) 1) ∧
    (zones.length ≤ zoneLimit → meanDemand? zones = some (meanDemand zones)) ∧
    (∀ bound, (∀ z ∈ coolingZones zones, z.requirement ≤ bound) → meanDemand zones ≤ bound) ∧
    (0 < weightSum zones →
      ∀ bound, (∀ z ∈ coolingZones zones, bound ≤ z.requirement) → bound ≤ meanDemand zones) ∧
    (∀ zones', List.Forall₂ Raised zones zones' → meanDemand zones ≤ meanDemand zones') ∧
    ∀ zones', zones.Perm zones' → meanDemand zones = meanDemand zones' := by
  refine ⟨fun ⟨z, cools, full⟩ => ?_, fun below => ?_, fun few => meanDemand?_eq few percent,
    fun _ most => meanDemand_le most, fun weighted _ least => le_meanDemand percent weighted least,
    fun _ raised => meanDemand_mono raised, fun _ same => meanDemand_perm same⟩
  · rw [meanDemand_eq, if_pos (any_full_iff.2 ⟨z, cools, Nat.le_of_eq full.symm⟩)]
  · have below' : ∀ z ∈ coolingZones zones, z.requirement ≤ 99 := fun z cools =>
      Nat.le_of_lt_succ (Nat.lt_of_le_of_ne (percent z cools) (below z cools))
    have calm : ¬ ((coolingZones zones).any fun z => decide (100 ≤ z.requirement)) = true := by
      rw [any_full_iff]
      rintro ⟨z, cools, full⟩
      exact Nat.not_succ_le_self 99 (full.trans (below' z cools))
    rw [meanDemand_eq, if_neg calm]
    exact Nat.min_eq_left ((mean_le below').trans (Nat.le_succ 99))

def asking (requirements : List Nat) : List Zone :=
  List.zipWith (fun definition requirement => { Zone.ofDefinition definition with requirement })
    Carrier.zones requirements

/-- The weights of the carrier are 100, 40 and 60. A raise of the lightest zone to a hundred outweighs
the others. -/
theorem carrier_mean :
    (∀ z ∈ coolingZones (asking [15, 0, 3]), z.requirement ≤ 100) ∧
      meanDemand (asking [15, 0, 3]) = 1680 / 200 ∧
      meanDemand? (asking [15, 0, 3]) = some 8 ∧ meanDemand (asking [15, 0, 3]) ≤ 15 ∧
      List.Forall₂ Raised (asking [15, 0, 3]) (asking [15, 100, 3]) ∧
      meanDemand (asking [15, 0, 3]) ≤ meanDemand (asking [15, 100, 3]) ∧
      meanDemand (asking [15, 100, 3]) = 100 ∧
      meanDemand (asking [15, 0, 3]) = meanDemand (asking [15, 0, 3]).reverse := by
  have percent : ∀ z ∈ coolingZones (asking [15, 0, 3]), z.requirement ≤ 15 := by decide +kernel
  have percent' : ∀ z ∈ coolingZones (asking [15, 100, 3]), z.requirement ≤ 100 := by decide +kernel
  have raised : List.Forall₂ Raised (asking [15, 0, 3]) (asking [15, 100, 3]) :=
    .cons ⟨rfl, Nat.le_refl _⟩ (.cons ⟨rfl, Nat.zero_le _⟩ (.cons ⟨rfl, Nat.le_refl _⟩ .nil))
  obtain ⟨_, mean, fits, most, _, mono, order⟩ := demand_is_mean (asking [15, 0, 3])
    fun z cools => (percent z cools).trans (by decide)
  have floor : meanDemand (asking [15, 0, 3]) = 1680 / 200 :=
    mean fun z cools => Nat.ne_of_lt (Nat.lt_of_le_of_lt (percent z cools) (by decide))
  exact ⟨fun z cools => (percent z cools).trans (by decide), floor,
    (fits (by decide)).trans (congrArg some floor), most 15 percent, raised, mono _ raised,
    (demand_is_mean (asking [15, 100, 3]) percent').1 (by decide +kernel),
    order _ (List.reverse_perm _).symm⟩

end BoardWarden.Cooling
