import PrintParts.Plan

/-!
The ranges of a plan. Part `index` begins `index` chunks behind the start, the ranges follow each other
without a gap up to the last layer, and the part that a layer is looked up in is the one whose range
holds it.
-/

namespace PrintParts

namespace Plan

def singleLayers (layerCount : Nat) (some : 0 < layerCount) : Plan where
  layerCount := layerCount
  startLayer := 0
  layersPerPart := 1
  chunk := 1
  startLayer_lt := some
  chunk_pos := Nat.one_pos

theorem start_add_span (plan : Plan) : plan.startLayer + plan.span = plan.layerCount := by
  have inside := plan.startLayer_lt
  unfold span
  omega

theorem index_lt_total_parts_iff (plan : Plan) (index : Nat) :
    index < plan.totalParts ↔ (plan.part index).first < plan.layerCount := by
  have total := plan.start_add_span
  have nonempty := plan.span_pos
  have quotient : index ≤ (plan.span - 1) / plan.chunk ↔ index * plan.chunk ≤ plan.span - 1 :=
    Nat.le_div_iff_mul_le plan.chunk_pos
  have chunks : index < plan.totalParts ↔ index * plan.chunk ≤ plan.span - 1 := by
    rw [← quotient, totalParts]
    omega
  rw [chunks]
  simp only [part]
  omega

theorem total_parts_pos (plan : Plan) : 0 < plan.totalParts := Nat.succ_pos _

theorem part_zero_first (plan : Plan) : (plan.part 0).first = plan.startLayer := by
  simp [part]

theorem part_succ_first (plan : Plan) (index : Nat) :
    (plan.part (index + 1)).first = (plan.part index).first + plan.chunk := by
  simp only [part, Nat.add_mul, Nat.one_mul, Nat.add_assoc]

theorem part_last_succ (plan : Plan) {index : Nat} (inside : index < plan.totalParts) :
    (plan.part index).last + 1 = min ((plan.part index).first + plan.chunk) plan.layerCount := by
  have first := (plan.index_lt_total_parts_iff index).mp inside
  have positive := plan.chunk_pos
  simp only [part] at first ⊢
  omega

theorem part_first_le_last (plan : Plan) {index : Nat} (inside : index < plan.totalParts) :
    (plan.part index).first ≤ (plan.part index).last := by
  have first := (plan.index_lt_total_parts_iff index).mp inside
  have last := plan.part_last_succ inside
  have positive := plan.chunk_pos
  omega

theorem part_last_lt (plan : Plan) {index : Nat} (inside : index < plan.totalParts) :
    (plan.part index).last < plan.layerCount := by
  have last := plan.part_last_succ inside
  omega

theorem next_part_first (plan : Plan) {index : Nat} (next : index + 1 < plan.totalParts) :
    (plan.part (index + 1)).first = (plan.part index).last + 1 := by
  have first := (plan.index_lt_total_parts_iff (index + 1)).mp next
  have last := plan.part_last_succ (Nat.lt_of_succ_lt next)
  rw [part_succ_first] at first ⊢
  omega

theorem layer_count_le_of_last (plan : Plan) {index : Nat} (last : plan.totalParts ≤ index) :
    plan.layerCount ≤ (plan.part index).first := by
  have outside := mt (plan.index_lt_total_parts_iff index).mpr (Nat.not_lt.mpr last)
  exact Nat.not_lt.mp outside

theorem part_for_layer_excluded (plan : Plan) {layer : Nat} (below : layer < plan.startLayer) :
    plan.partForLayer layer = .ok none := by
  have inside := plan.startLayer_lt
  unfold partForLayer
  rw [if_neg (by omega), if_pos (by simpa using below)]

theorem part_for_layer_of_contains (plan : Plan) {index layer : Nat}
    (inside : index < plan.totalParts) (contains : (plan.part index).Contains layer) :
    plan.partForLayer layer = .ok (some index) := by
  obtain ⟨lower, upper⟩ := contains
  have last := plan.part_last_succ inside
  have bounded := plan.part_last_lt inside
  have before : layer < (plan.part index).first + plan.chunk := by omega
  have quotient : (layer - plan.startLayer) / plan.chunk = index := by
    simp only [part] at lower before
    apply Nat.div_eq_of_lt_le
    · omega
    · rw [Nat.add_mul, Nat.one_mul]
      omega
  have start : plan.startLayer ≤ layer := by
    simp only [part] at lower
    omega
  unfold partForLayer
  rw [if_neg (by omega), if_neg (by simpa using start), Int.toNat_natCast, quotient,
    Nat.min_eq_left (by omega)]

def laterParts (plan : Plan) (index : Nat) : List PartRange :=
  (List.range' (index + 1) (plan.totalParts - (index + 1))).map plan.part

theorem later_parts_of_last {plan : Plan} {index : Nat} (last : index + 1 = plan.totalParts) :
    plan.laterParts index = [] := by
  simp [laterParts, ← last]

theorem later_parts_eq_cons {plan : Plan} {index : Nat} (next : index + 1 < plan.totalParts) :
    plan.laterParts index = plan.part (index + 1) :: plan.laterParts (index + 1) := by
  unfold laterParts
  rw [show plan.totalParts - (index + 1) = plan.totalParts - (index + 1 + 1) + 1 by omega,
    List.range'_succ, List.map_cons]

theorem parts_eq_cons_later (plan : Plan) : plan.parts = plan.part 0 :: plan.laterParts 0 := by
  have positive := plan.total_parts_pos
  unfold parts laterParts
  rw [List.range_eq_range', show plan.totalParts = plan.totalParts - (0 + 1) + 1 by omega,
    List.range'_succ, List.map_cons, Nat.add_sub_cancel]

theorem part_induction {motive : Nat → Prop} (plan : Plan)
    (last : ∀ index, index + 1 = plan.totalParts → motive index)
    (step : ∀ index, index + 1 < plan.totalParts → motive (index + 1) → motive index)
    {index : Nat} (inside : index < plan.totalParts) : motive index := by
  obtain ⟨remaining, total⟩ := Nat.exists_eq_add_of_lt inside
  induction remaining generalizing index with
  | zero => exact last index total.symm
  | succ remaining induction =>
    have next : index + 1 < plan.totalParts := by omega
    exact step index next (induction next (by omega))

end Plan

end PrintParts
