import Mathlib.Data.Finset.Card
import Mathlib.Logic.Function.Iterate
import Mathlib.Tactic.IntervalCases
import BoardWarden.Proofs.Power.Train
import BoardWarden.Rail.Report

set_option autoImplicit false

/-!
The dependency order of a rail table is the depth-first order of its trees. The walk with a bounded
stack lists the rails that lead to a root and no others: no rail is put on the stack twice, so the
stack never fills, and a rail on a circle or below a missing row is never put there.
-/

namespace BoardWarden

namespace Rail

variable (table : List Rail)

/-- One step towards the root. A rail without a row stays where it is. -/
def up (rail : RailId) : RailId :=
  match table[rail.index]? with
  | none => rail
  | some row => row.parent

inductive Rooted : Nat → RailId → Prop where
  | root {rail : RailId} {row : Rail} (hrow : table[rail.index]? = some row)
      (self : row.parent = rail) : Rooted 0 rail
  | child {n : Nat} {rail : RailId} {row : Rail} (hrow : table[rail.index]? = some row)
      (other : row.parent ≠ rail) (above : Rooted n row.parent) : Rooted (n + 1) rail

/-- The trees below some rails, depth first: each rail and then the trees of its children. -/
inductive DepthFirst : List RailId → List RailId → Prop where
  | nil : DepthFirst [] []
  | cons {rail : RailId} {rest below others : List RailId}
      (tree : DepthFirst (children table rail) below) (forest : DepthFirst rest others) :
      DepthFirst (rail :: rest) (rail :: (below ++ others))

def Ascending (rails : List RailId) (p : RailId → Rail → Prop) : Prop :=
  rails.Pairwise (fun earlier later => earlier.index < later.index) ∧
    ∀ rail, rail ∈ rails ↔ ∃ row, table[rail.index]? = some row ∧ p rail row

variable {table}

theorem up_row {rail : RailId} {row : Rail} (hrow : table[rail.index]? = some row) :
    up table rail = row.parent := by
  simp only [up, hrow]

theorem numbersWhere_ascending (short : table.length ≤ numberLimit) (p : RailId → Rail → Bool) :
    Ascending table (numbersWhere table p) fun rail row => p rail row = true := by
  refine ⟨?_, fun rail => ?_⟩
  · have numbered : (table.zipIdx.map Prod.snd).Pairwise (· < ·) := by
      rw [List.zipIdx_map_snd]
      exact List.pairwise_lt_range'
    exact List.pairwise_map.2 ((List.pairwise_map.1 numbered).filter _)
  · simp only [numbersWhere, List.mem_map, List.mem_filter, Bool.and_eq_true, decide_eq_true_eq,
      Prod.exists]
    constructor
    · rintro ⟨row, i, ⟨listed, _, chosen⟩, rfl⟩
      exact ⟨row, List.mem_zipIdx_iff_getElem?.1 listed, chosen⟩
    · rintro ⟨row, hrow, chosen⟩
      have inside : rail.index < table.length := (List.getElem?_eq_some_iff.1 hrow).1
      exact ⟨row, rail.index, ⟨List.mem_zipIdx_iff_getElem?.2 hrow,
        Nat.lt_of_lt_of_le inside short, chosen⟩, rfl⟩

theorem Ascending.congr {rails : List RailId} {p q : RailId → Rail → Prop}
    (h : Ascending table rails p) (same : ∀ rail row, p rail row ↔ q rail row) :
    Ascending table rails q := by
  simpa only [Ascending, same] using h

theorem Ascending.nodup {rails : List RailId} {p : RailId → Rail → Prop}
    (h : Ascending table rails p) : rails.Nodup :=
  h.1.imp fun below same => Nat.ne_of_lt below (congrArg RailId.index same)

theorem roots_ascending (short : table.length ≤ numberLimit) :
    Ascending table (roots table) fun rail row => row.parent = rail :=
  (numbersWhere_ascending short _).congr fun _ _ => by simp

theorem children_ascending (short : table.length ≤ numberLimit) (parent : RailId) :
    Ascending table (children table parent) fun rail row => row.parent = parent ∧ rail ≠ parent :=
  (numbersWhere_ascending short _).congr fun _ _ => by simp

theorem up_of_mem_children (short : table.length ≤ numberLimit) {rail child : RailId}
    (below : child ∈ children table rail) : up table child = rail := by
  obtain ⟨row, hrow, parent, _⟩ := ((children_ascending short rail).2 child).1 below
  rw [up_row hrow, parent]

namespace Rooted

variable {n m : Nat} {rail : RailId}

theorem up_root (h : Rooted table 0 rail) : up table rail = rail := by
  cases h with
  | root hrow self => exact (up_row hrow).trans self

theorem up_child (h : Rooted table (n + 1) rail) :
    Rooted table n (up table rail) ∧ up table rail ≠ rail := by
  cases h with
  | child hrow other above =>
    rw [up_row hrow]
    exact ⟨above, other⟩

theorem unique (h : Rooted table n rail) (h' : Rooted table m rail) : n = m := by
  induction n generalizing m rail with
  | zero =>
    cases m with
    | zero => rfl
    | succ m => exact absurd h.up_root h'.up_child.2
  | succ n ih =>
    cases m with
    | zero => exact absurd h'.up_root h.up_child.2
    | succ m => rw [ih h.up_child.1 h'.up_child.1]

theorem listed (h : Rooted table n rail) : rail.index < table.length := by
  cases h with
  | root hrow _ => exact (List.getElem?_eq_some_iff.1 hrow).1
  | child hrow _ _ => exact (List.getElem?_eq_some_iff.1 hrow).1

/-- Every step towards the root, and every step after it is reached, leads to a rooted rail. -/
theorem up_iterate (h : Rooted table n rail) (k : Nat) :
    Rooted table (n - k) ((up table)^[k] rail) := by
  induction k generalizing n rail with
  | zero => exact h
  | succ k ih =>
    cases n with
    | zero =>
      rw [Function.iterate_succ_apply, h.up_root, Nat.zero_sub]
      simpa only [Nat.zero_sub] using ih h
    | succ n =>
      rw [Function.iterate_succ_apply, Nat.succ_sub_succ]
      exact ih h.up_child.1

/-- The rails on the way to the root are all different, so there are fewer of them than rows. -/
theorem lt_length (h : Rooted table n rail) : n < table.length := by
  have inside : ∀ k ∈ Finset.range (n + 1),
      ((up table)^[k] rail).index ∈ Finset.range table.length := fun k _ =>
    Finset.mem_range.2 (h.up_iterate k).listed
  have apart : Set.InjOn (fun k => ((up table)^[k] rail).index) (Finset.range (n + 1)) := by
    intro k hk k' hk' same
    have here : (up table)^[k] rail = (up table)^[k'] rail := congrArg RailId.mk same
    have steps := (h.up_iterate k).unique (here ▸ h.up_iterate k')
    simp only [Finset.coe_range, Set.mem_Iio] at hk hk'
    omega
  have few := Finset.card_le_card_of_injOn _ inside apart
  rwa [Finset.card_range, Finset.card_range] at few

theorem depthWithin (h : Rooted table n rail) {bound : Nat} (enough : n ≤ bound) :
    depthWithin table bound rail = n := by
  induction h generalizing bound with
  | root hrow self =>
    cases bound with
    | zero => rfl
    | succ bound => simp only [Rail.depthWithin, hrow, self, ↓reduceIte]
  | child hrow other _ ih =>
    obtain ⟨bound, rfl⟩ := Nat.exists_eq_add_of_le' (Nat.le_trans (Nat.le_add_left 1 _) enough)
    simp only [Rail.depthWithin, hrow, other, ↓reduceIte, ih (Nat.le_of_succ_le_succ enough)]

theorem depth_eq (h : Rooted table n rail) : depth table rail = n :=
  h.depthWithin (Nat.le_of_lt h.lt_length)

theorem no_circle (h : Rooted table n rail) {m : Nat} (turns : 0 < m)
    (back : (up table)^[m] rail = rail) : up table rail = rail := by
  have steps := h.unique (back ▸ h.up_iterate m)
  obtain rfl : n = 0 := by omega
  exact h.up_root

theorem children (short : table.length ≤ numberLimit) (h : Rooted table n rail) :
    ∀ child ∈ children table rail, Rooted table (n + 1) child := by
  intro child below
  obtain ⟨row, hrow, rfl, other⟩ := ((children_ascending short rail).2 child).1 below
  exact .child hrow (Ne.symm other) h

end Rooted

theorem roots_rooted (short : table.length ≤ numberLimit) :
    ∀ rail ∈ roots table, Rooted table 0 rail := by
  intro rail top
  obtain ⟨row, hrow, self⟩ := ((roots_ascending short).2 rail).1 top
  exact .root hrow self

namespace DepthFirst

variable {rails rest out out' : List RailId}

theorem unique (h : DepthFirst table rails out) (h' : DepthFirst table rails out') : out = out' := by
  induction h generalizing out' with
  | nil =>
    cases h'
    rfl
  | cons _ _ ih ih' =>
    cases h' with
    | cons tree forest => rw [ih tree, ih' forest]

theorem tree {rail : RailId} (h : DepthFirst table (children table rail) out) :
    DepthFirst table [rail] (rail :: out) := by
  simpa using DepthFirst.cons h .nil

theorem append {others : List RailId} (h : DepthFirst table rails out)
    (h' : DepthFirst table rest others) : DepthFirst table (rails ++ rest) (out ++ others) := by
  induction h with
  | nil => exact h'
  | cons tree _ _ ih =>
    rw [List.cons_append, List.cons_append, List.append_assoc]
    exact .cons tree ih

theorem length_le (h : DepthFirst table rails out) : rails.length ≤ out.length := by
  induction h with
  | nil => exact Nat.le_refl 0
  | cons _ _ _ ih =>
    simp only [List.length_cons, List.length_append]
    omega

theorem subset (h : DepthFirst table rails out) : rails ⊆ out := by
  induction h with
  | nil => exact List.nil_subset _
  | cons _ _ _ ih =>
    exact List.cons_subset_cons _ (List.subset_append_of_subset_right _ ih)

theorem closed (h : DepthFirst table rails out) {rail child : RailId} (listed : rail ∈ out)
    (below : child ∈ children table rail) : child ∈ out := by
  induction h with
  | nil => cases listed
  | cons tree _ ih ih' =>
    refine List.mem_cons_of_mem _ (List.mem_append.2 ?_)
    rcases List.mem_cons.1 listed with rfl | inside
    · exact .inl (tree.subset below)
    · exact (List.mem_append.1 inside).imp ih ih'

theorem above (short : table.length ≤ numberLimit) (h : DepthFirst table rails out) {n : Nat}
    (top : ∀ rail ∈ rails, Rooted table n rail) {rail : RailId} (listed : rail ∈ out) :
    ∃ k, Rooted table (n + k) rail ∧ (up table)^[k] rail ∈ rails := by
  induction h generalizing n with
  | nil => cases listed
  | cons tree forest ih ih' =>
    obtain ⟨first, others⟩ := List.forall_mem_cons.1 top
    rcases List.mem_cons.1 listed with rfl | inside
    · exact ⟨0, first, List.mem_cons_self⟩
    · rcases List.mem_append.1 inside with below | beside
      · obtain ⟨k, rooted, reached⟩ := ih (first.children short) below
        refine ⟨k + 1, by rwa [Nat.add_comm k, ← Nat.add_assoc], List.mem_cons.2 (.inl ?_)⟩
        rw [Function.iterate_succ_apply', up_of_mem_children short reached]
      · obtain ⟨k, rooted, reached⟩ := ih' others beside
        exact ⟨k, rooted, List.mem_cons_of_mem _ reached⟩

theorem nodup (short : table.length ≤ numberLimit) (h : DepthFirst table rails out) {n : Nat}
    (top : ∀ rail ∈ rails, Rooted table n rail) (once : rails.Nodup) : out.Nodup := by
  induction h generalizing n with
  | nil => exact List.nodup_nil
  | @cons rail rest below others tree forest ih ih' =>
    obtain ⟨first, beside⟩ := List.forall_mem_cons.1 top
    obtain ⟨fresh, once'⟩ := List.nodup_cons.1 once
    have next := first.children short
    have deeper := ih next (children_ascending short rail).nodup
    refine List.nodup_cons.2 ⟨fun again => ?_, List.nodup_append'.2 ⟨deeper, ih' beside once', ?_⟩⟩
    · rcases List.mem_append.1 again with inside | inside
      · obtain ⟨k, rooted, _⟩ := tree.above short next inside
        have level := first.unique rooted
        omega
      · obtain ⟨k, rooted, reached⟩ := forest.above short beside inside
        obtain rfl : k = 0 := by
          have level := first.unique rooted
          omega
        exact fresh reached
    · -- A rail in both parts would have two ancestors at the level of the top.
      intro other inside inside'
      obtain ⟨k, rooted, reached⟩ := tree.above short next inside
      obtain ⟨k', rooted', reached'⟩ := forest.above short beside inside'
      obtain rfl : k' = k + 1 := by
        have level := rooted.unique rooted'
        omega
      rw [Function.iterate_succ_apply', up_of_mem_children short reached] at reached'
      exact fresh reached'

/-- Where a rail is listed, its parent was listed before it, unless the rail is at the top. -/
theorem before (short : table.length ≤ numberLimit) (h : DepthFirst table rails out)
    {earlier later : List RailId} {rail : RailId} (split : out = earlier ++ rail :: later) :
    rail ∈ rails ∨ up table rail ∈ earlier := by
  induction h generalizing earlier later with
  | nil => simp at split
  | @cons first rest below others tree forest ih ih' =>
    rcases List.cons_eq_append_iff.1 split with ⟨rfl, same⟩ | ⟨earlier, rfl, inside⟩
    · obtain ⟨rfl, _⟩ := List.cons.inj same
      exact .inl List.mem_cons_self
    rcases List.append_eq_append_iff.1 inside with ⟨passed, rfl, beside⟩ | ⟨passed, rfl, under⟩
    · rcases ih' beside with top | known
      · exact .inl (List.mem_cons_of_mem _ top)
      · exact .inr (List.mem_cons_of_mem _ (List.mem_append_right _ known))
    · cases passed with
      | nil =>
        have first_beside : others = [] ++ rail :: later := under.symm
        rcases ih' first_beside with top | known
        · exact .inl (List.mem_cons_of_mem _ top)
        · cases known
      | cons head passed =>
        obtain ⟨rfl, _⟩ := List.cons.inj under
        rcases ih rfl with child | known
        · rw [up_of_mem_children short child]
          exact .inr List.mem_cons_self
        · exact .inr (List.mem_cons_of_mem _ known)

/-- The trees below rails of one level can be listed: each level down leaves fewer rows. -/
theorem exists_of_rooted (short : table.length ≤ numberLimit) {n : Nat}
    (top : ∀ rail ∈ rails, Rooted table n rail) : ∃ out, DepthFirst table rails out := by
  induction levels : table.length - n generalizing n rails with
  | zero =>
    cases rails with
    | nil => exact ⟨[], .nil⟩
    | cons rail rest =>
      have inside := (top rail List.mem_cons_self).lt_length
      omega
  | succ levels deeper =>
    induction rails with
    | nil => exact ⟨[], .nil⟩
    | cons rail rest ih =>
      obtain ⟨first, beside⟩ := List.forall_mem_cons.1 top
      obtain ⟨below, tree⟩ := deeper (first.children short) (by omega)
      obtain ⟨others, forest⟩ := ih beside
      exact ⟨_, .cons tree forest⟩

end DepthFirst

theorem stackUp_eq (rails stack : List RailId) (room : rails.length + stack.length ≤ limit) :
    stackUp rails stack = rails ++ stack := by
  induction rails with
  | nil => rfl
  | cons rail rest ih =>
    rw [List.length_cons] at room
    have rest_up := ih (by omega)
    simp only [stackUp] at rest_up
    simp only [stackUp, List.foldr_cons, rest_up, List.length_append, List.cons_append]
    rw [if_pos (by omega)]

/-- The walk lists the trees of the rails on its stack, which has room for all that is not listed. -/
theorem walk_eq {stack out : List RailId} (h : DepthFirst table stack out)
    (listed : List (RailId × Nat)) (once : (listed.map Prod.fst ++ out).Nodup)
    (room : listed.length + out.length ≤ limit) :
    walk table listed stack = listed ++ out.map fun rail => (rail, depth table rail) := by
  induction size : out.length generalizing stack out listed with
  | zero =>
    obtain rfl : out = [] := List.length_eq_zero_iff.1 size
    cases h
    simp [walk]
  | succ size ih =>
    cases h with
    | nil => cases size
    | @cons rail rest below others tree forest =>
      have fresh : rail ∉ listed.map Prod.fst := fun before =>
        (List.nodup_append'.1 once).2.2 before List.mem_cons_self
      have unseen : ¬ listed.any (fun entry => entry.1 = rail) = true := by
        simpa [List.mem_map] using fresh
      have space : listed.length < limit := by
        rw [List.length_cons] at room
        omega
      have both := tree.append forest
      have pending : stackUp (children table rail) rest = children table rail ++ rest := by
        refine stackUp_eq _ _ ?_
        have pushed := both.length_le
        simp only [List.length_cons, List.length_append] at pushed room
        omega
      rw [walk, if_neg unseen, if_pos space, pending,
        ih both (listed ++ [(rail, depth table rail)]) (by simpa using once)
          (by simp only [List.length_append, List.length_cons, List.length_nil] at room ⊢; omega)
          (by simpa using size)]
      simp

/-- The rails that lead to a root are those in the depth-first order of the trees. -/
theorem DepthFirst.mem_iff (short : table.length ≤ numberLimit) {out : List RailId}
    (h : DepthFirst table (roots table) out) (rail : RailId) :
    rail ∈ out ↔ ∃ n, Rooted table n rail := by
  have roots := roots_ascending short
  constructor
  · intro listed
    obtain ⟨k, rooted, _⟩ := h.above short (roots_rooted short) listed
    exact ⟨_, rooted⟩
  · rintro ⟨n, rooted⟩
    induction rooted with
    | root hrow self => exact h.subset ((roots.2 _).2 ⟨_, hrow, self⟩)
    | child hrow other _ ih =>
      exact h.closed ih (((children_ascending short _).2 _).2 ⟨_, hrow, rfl, Ne.symm other⟩)

theorem dependencyOrder_eq (few : table.length ≤ limit) :
    ∃ out, DepthFirst table (roots table) out ∧ out.Nodup ∧
      dependencyOrder table = out.map fun rail => (rail, depth table rail) := by
  have short : table.length ≤ numberLimit := Nat.le_trans few (by decide)
  have top := roots_rooted short
  obtain ⟨out, h⟩ := DepthFirst.exists_of_rooted short top
  have once := h.nodup short top (roots_ascending short).nodup
  have inside : out.length ≤ table.length := by
    have rows : (out.map RailId.index).length ≤ (List.range table.length).length :=
      ((once.map fun a b same => congrArg RailId.mk same).subperm fun i hi => by
        obtain ⟨rail, listed, rfl⟩ := List.mem_map.1 hi
        obtain ⟨n, rooted⟩ := (h.mem_iff short rail).1 listed
        exact List.mem_range.2 rooted.listed).length_le
    simpa using rows
  have room : out.length ≤ limit := Nat.le_trans inside few
  refine ⟨out, h, once, ?_⟩
  rw [dependencyOrder, stackUp_eq _ _ (Nat.le_trans h.length_le room), List.append_nil,
    walk_eq h [] (by simpa using once) (by simpa using room), List.nil_append]

theorem mem_dependencyOrder (few : table.length ≤ limit) (rail : RailId) (n : Nat) :
    (rail, n) ∈ dependencyOrder table ↔ Rooted table n rail := by
  obtain ⟨out, h, _, ordered⟩ := dependencyOrder_eq few
  have listed := h.mem_iff (Nat.le_trans few (by decide))
  simp only [ordered, List.mem_map, Prod.mk.injEq]
  constructor
  · rintro ⟨rail, inside, rfl, rfl⟩
    obtain ⟨n, rooted⟩ := (listed rail).1 inside
    rwa [rooted.depth_eq]
  · intro rooted
    exact ⟨rail, (listed rail).2 ⟨n, rooted⟩, rfl, rooted.depth_eq⟩

theorem perm_of_forest {out : List RailId} (once : out.Nodup)
    (listed : ∀ rail, rail ∈ out ↔ ∃ n, Rooted table n rail)
    (forest : ∀ rail : RailId, rail.index < table.length → ∃ n, Rooted table n rail) :
    out.Perm ((List.range table.length).map RailId.mk) := by
  have rows : ((List.range table.length).map RailId.mk).Nodup :=
    List.nodup_range.map fun a b same => congrArg RailId.index same
  refine (List.perm_ext_iff_of_nodup once rows).2 fun rail => ?_
  simp only [listed, List.mem_map, List.mem_range]
  constructor
  · rintro ⟨n, rooted⟩
    exact ⟨rail.index, rooted.listed, rfl⟩
  · rintro ⟨i, inside, rfl⟩
    exact forest ⟨i⟩ inside

end Rail

def RailBank.Describes (b : RailBank) (entry : RailId × Nat) (line : String) : Prop :=
  ∃ row voltage, b.row? entry.1 = some row ∧
    (voltage = "" ∨
      ∃ millivolts : Nat, voltage = Text.alignRight 6 ' ' (toString millivolts) ++ " mV") ∧
    line = Rig.reportName row entry.2 ++
      Text.alignLeft 16 ((b.state? entry.1).getD .off).text ++ voltage ++ "\n"

namespace Rig

variable {σ : Type} [Board σ]

theorem reportVoltage_text (r : Rig σ) (rail : RailId) (row : Rail) :
    ((r.reportVoltage rail row).1 = "" ∨ ∃ millivolts : Nat,
      (r.reportVoltage rail row).1 = Text.alignRight 6 ' ' (toString millivolts) ++ " mV") ∧
    (r.reportVoltage rail row).2.rails = r.rails := by
  have kept := r.voltage_rails rail
  simp only [reportVoltage]
  split
  · exact ⟨.inl rfl, kept⟩
  · rename_i millivolts _
    refine ⟨?_, kept⟩
    split
    · exact .inr ⟨millivolts, rfl⟩
    · exact .inl rfl

theorem reportRows_lines (entries : List (RailId × Nat)) (r : Rig σ)
    (listed : ∀ entry ∈ entries, ∃ row, r.rails.row? entry.1 = some row) :
    ∃ lines, (reportRows entries r).1 = String.join lines ∧
      List.Forall₂ r.rails.Describes entries lines := by
  induction entries generalizing r with
  | nil => exact ⟨[], rfl, .nil⟩
  | cons entry rest ih =>
    obtain ⟨⟨row, hrow⟩, others⟩ := List.forall_mem_cons.1 listed
    obtain ⟨voltage, kept⟩ := r.reportVoltage_text entry.1 row
    obtain ⟨lines, text, described⟩ := ih (r.reportVoltage entry.1 row).2 (by rwa [kept])
    rw [kept] at described
    refine ⟨_ :: lines, ?_, .cons ⟨row, _, hrow, voltage, rfl⟩ described⟩
    simp only [reportRows, hrow, text, String.join_cons]

end Rig

namespace Rail

/-- The order lists the trees of the table: depth first from the roots, and roots as children in
ascending order. What is on or below a missing row or a circle is in none. -/
structure ListsTrees (table : List Rail) (order : List (RailId × Nat)) : Prop where
  depthFirst : ∀ out, DepthFirst table (roots table) out ↔ out = order.map Prod.fst
  roots : Ascending table (roots table) fun rail row => row.parent = rail
  children : ∀ parent, Ascending table (children table parent) fun rail row =>
    row.parent = parent ∧ rail ≠ parent
  rooted : ∀ rail n, (rail, n) ∈ order ↔ Rooted table n rail
  depth : ∀ rail n, Rooted table n rail → depth table rail = n
  once : (order.map Prod.fst).Nodup
  parentsFirst : ∀ earlier rail later, order.map Prod.fst = earlier ++ rail :: later →
    up table rail = rail ∨ up table rail ∈ earlier
  missing : ∀ rail k, table[((up table)^[k] rail).index]? = none → rail ∉ order.map Prod.fst
  circle : ∀ rail k m, 0 < m → (up table)^[m] ((up table)^[k] rail) = (up table)^[k] rail →
    up table ((up table)^[k] rail) ≠ (up table)^[k] rail → rail ∉ order.map Prod.fst

theorem dependencyOrder_trees {table : List Rail} (few : table.length ≤ limit) :
    ListsTrees table (dependencyOrder table) := by
  have short : table.length ≤ numberLimit := Nat.le_trans few (by decide)
  obtain ⟨out, h, once, ordered⟩ := dependencyOrder_eq few
  have rails : (dependencyOrder table).map Prod.fst = out := by
    simp only [ordered, List.map_map, Function.comp_def, List.map_id']
  have listed := h.mem_iff short
  rw [← rails] at h once listed
  exact {
    depthFirst := fun out => ⟨fun h' => h'.unique h, fun same => same ▸ h⟩
    roots := roots_ascending short
    children := children_ascending short
    rooted := mem_dependencyOrder few
    depth := fun _ _ rooted => rooted.depth_eq
    once
    parentsFirst := fun earlier rail later split =>
      (h.before short split).imp_left fun top => (roots_rooted short rail top).up_root
    missing := fun rail k missing inside => by
      obtain ⟨n, rooted⟩ := (listed rail).1 inside
      exact Nat.not_lt.2 (List.getElem?_eq_none_iff.1 missing) (rooted.up_iterate k).listed
    circle := fun rail k m turns back circle inside => by
      obtain ⟨n, rooted⟩ := (listed rail).1 inside
      exact circle ((rooted.up_iterate k).no_circle turns back) }

/-- The dependency order lists the rails that lead to a root and no others, each once, after its parent
and with its distance from the root. The report has one line for each rail of the order, in its order,
and these are all the rails of the table if every rail leads to a root. -/
theorem dependencyOrder_lists (table : List Rail) (few : table.length ≤ limit) :
    let order := dependencyOrder table
    ListsTrees table order ∧
      ((∀ rail : RailId, rail.index < table.length → ∃ n, Rooted table n rail) →
        (order.map Prod.fst).Perm ((List.range table.length).map RailId.mk)) ∧
      ∀ {σ : Type} [Board σ] (r : Rig σ), r.rails.table = table →
        ∃ lines, r.report.1 = Rig.reportHeader ++ String.join lines ∧
          List.Forall₂ r.rails.Describes order lines := by
  intro order
  have trees : ListsTrees table order := dependencyOrder_trees few
  refine ⟨trees, fun forest => perm_of_forest trees.once (fun rail => ?_) forest, fun r same => ?_⟩
  · simp only [List.mem_map, Prod.exists, exists_and_right, exists_eq_right, trees.rooted]
  · obtain ⟨lines, text, described⟩ := Rig.reportRows_lines order r fun entry inside => by
      have rooted := ((trees.rooted entry.1 entry.2).1 inside).listed
      exact ⟨_, List.getElem?_eq_getElem (same ▸ rooted)⟩
    refine ⟨lines, ?_, described⟩
    rw [Rig.report, same]
    exact congrArg (Rig.reportHeader ++ ·) text

def grove : List Rail :=
  [Carrier.rail "3V3" 0 0 .none, Carrier.rail "1V8" 0 1 .none, Carrier.rail "12V" 2 2 .none,
    Carrier.rail "0V85" 1 3 .none, Carrier.rail "5V" 2 4 .none]

/-- The grove, a circle of two rails with a third below it, and a rail below one whose parent has no
row. -/
def tangle : List Rail :=
  grove ++ [Carrier.rail "LOOP_A" 6 5 .none, Carrier.rail "LOOP_B" 5 6 .none,
    Carrier.rail "LOOP_C" 6 7 .none, Carrier.rail "STRAY" 40 8 .none,
    Carrier.rail "STRAY_B" 8 9 .none]

theorem tangle_listed :
    tangle.length ≤ limit ∧
      (dependencyOrder tangle).map Prod.fst = [⟨0⟩, ⟨1⟩, ⟨3⟩, ⟨2⟩, ⟨4⟩] ∧
      (⟨3⟩, 2) ∈ dependencyOrder tangle ∧
      ⟨7⟩ ∉ (dependencyOrder tangle).map Prod.fst ∧
      ⟨9⟩ ∉ (dependencyOrder tangle).map Prod.fst ∧
      ((dependencyOrder grove).map Prod.fst).Perm [⟨0⟩, ⟨1⟩, ⟨2⟩, ⟨3⟩, ⟨4⟩] ∧
      ∃ lines, (Rig.report ⟨⟨Carrier.bench, Journal.fresh⟩,
          RailBank.ofTable grove RailTiming.builtIn⟩).1 = Rig.reportHeader ++ String.join lines ∧
        lines.length = 5 := by
  have few : tangle.length ≤ limit := by decide
  have top : DepthFirst tangle [⟨3⟩] [⟨3⟩] := .tree .nil
  have middle : DepthFirst tangle [⟨1⟩] [⟨1⟩, ⟨3⟩] := .tree top
  have first : DepthFirst tangle [⟨0⟩] [⟨0⟩, ⟨1⟩, ⟨3⟩] := .tree middle
  have leaf : DepthFirst tangle [⟨4⟩] [⟨4⟩] := .tree .nil
  have second : DepthFirst tangle [⟨2⟩] [⟨2⟩, ⟨4⟩] := .tree leaf
  have low : Rooted tangle 2 ⟨3⟩ :=
    .child rfl (by decide) (.child rfl (by decide) (.root rfl rfl))
  obtain ⟨trees, _⟩ := dependencyOrder_lists tangle few
  refine ⟨few, ((trees.depthFirst _).1 (first.append second)).symm, (trees.rooted _ _).2 low,
    trees.circle ⟨7⟩ 1 2 (by decide) (by decide) (by decide), trees.missing ⟨9⟩ 2 (by decide), ?_⟩
  obtain ⟨_, all, report⟩ := dependencyOrder_lists grove (by decide)
  have rows := all fun rail inside => by
    obtain ⟨index⟩ := rail
    change index < 5 at inside
    interval_cases index
    · exact ⟨0, .root rfl rfl⟩
    · exact ⟨1, .child rfl (by decide) (.root rfl rfl)⟩
    · exact ⟨0, .root rfl rfl⟩
    · exact ⟨2, .child rfl (by decide) (.child rfl (by decide) (.root rfl rfl))⟩
    · exact ⟨1, .child rfl (by decide) (.root rfl rfl)⟩
  obtain ⟨lines, text, described⟩ := report ⟨⟨Carrier.bench, Journal.fresh⟩,
    RailBank.ofTable grove RailTiming.builtIn⟩ rfl
  refine ⟨rows, lines, text, ?_⟩
  rw [← described.length_eq, ← List.length_map (f := Prod.fst), rows.length_eq]
  rfl

end Rail

end BoardWarden
