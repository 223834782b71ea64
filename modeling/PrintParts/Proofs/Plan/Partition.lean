import PrintParts.Proofs.Plan.Making
import PrintParts.Proofs.Plan.Ranges

/-!
A plan is a partition of its layers. The ranges that it lists follow each other from the start to the
last layer, and looking up a layer agrees with them, although the one divides by the chunk and the other
cuts a chunk off at the end of the print. Nothing depends on how the chunk was found.
-/

namespace PrintParts

namespace Plan

/-- The ranges that a plan lists share out its layers in order and without a gap. -/
structure ListsRanges (plan : Plan) : Prop where
  nonempty : 1 ≤ plan.totalParts
  count : plan.parts.length = plan.totalParts
  indices : ∀ (index : Nat) (range : PartRange), plan.parts[index]? = some range →
    range.index = index ∧ range.totalParts = plan.totalParts ∧ range.first ≤ range.last
  starts : ∀ range : PartRange, plan.parts.head? = some range → range.first = plan.startLayer
  /-- A range that another one follows is full, and ends right in front of that one. -/
  linked : ∀ (index : Nat) (lower upper : PartRange), plan.parts[index]? = some lower →
    plan.parts[index + 1]? = some upper →
    upper.first = lower.last + 1 ∧ lower.layerCount = (plan.chunk : Int)
  ends : ∀ range : PartRange, plan.parts.getLast? = some range →
    range.last + 1 = plan.layerCount ∧ range.layerCount ≤ (plan.chunk : Int)

/-- Looking up a layer agrees with the ranges that a plan lists. -/
structure FindsRanges (plan : Plan) : Prop where
  missing : ∀ (layer : Int) (failure : Failure), plan.partForLayer layer = .error failure ↔
    failure = .unknownLayer layer (plan.layerCount - 1) ∧ (layer < 0 ∨ plan.layerCount ≤ layer)
  excluded : ∀ layer : Int,
    plan.partForLayer layer = .ok none ↔ 0 ≤ layer ∧ layer < plan.startLayer
  found : ∀ (layer : Int) (index : Nat), plan.partForLayer layer = .ok (some index) ↔
    ∃ range, plan.parts[index]? = some range ∧ (range.first : Int) ≤ layer ∧ layer ≤ range.last
  monotone : ∀ (lower upper : Int) (first second : Nat),
    plan.partForLayer lower = .ok (some first) → plan.partForLayer upper = .ok (some second) →
    lower ≤ upper → first ≤ second
  onto : ∀ index : Nat,
    index < plan.totalParts ↔ ∃ layer, plan.partForLayer layer = .ok (some index)
  last : plan.partForLayer (plan.layerCount - 1) = .ok (some (plan.endOfPrintPart - 1))

theorem parts_get_eq_some {plan : Plan} {index : Nat} {range : PartRange} :
    plan.parts[index]? = some range ↔ index < plan.totalParts ∧ plan.part index = range := by
  rw [parts, List.getElem?_map, Option.map_eq_some_iff]
  constructor
  · rintro ⟨same, listed, rfl⟩
    obtain ⟨inside, rfl⟩ := List.getElem?_eq_some_iff.mp listed
    rw [List.length_range] at inside
    rw [List.getElem_range]
    exact ⟨inside, rfl⟩
  · rintro ⟨inside, rfl⟩
    exact ⟨index, List.getElem?_range inside, rfl⟩

theorem parts_length (plan : Plan) : plan.parts.length = plan.totalParts := by
  rw [parts, List.length_map, List.length_range]

theorem last_part_last (plan : Plan) :
    (plan.part (plan.totalParts - 1)).last + 1 = plan.layerCount := by
  have positive := plan.total_parts_pos
  have last := @plan.part_last_succ (plan.totalParts - 1) (by omega)
  have beyond : plan.layerCount ≤ (plan.part (plan.totalParts - 1 + 1)).first :=
    plan.layer_count_le_of_last (by omega)
  rw [part_succ_first] at beyond
  omega

theorem part_last_lt_first (plan : Plan) {index later : Nat} (inside : index < plan.totalParts)
    (before : index < later) : (plan.part index).last < (plan.part later).first := by
  have last := plan.part_last_succ inside
  have chunks : (index + 1) * plan.chunk ≤ later * plan.chunk := Nat.mul_le_mul_right _ before
  rw [Nat.add_mul, Nat.one_mul] at chunks
  simp only [part] at last ⊢
  omega

theorem lists_ranges (plan : Plan) : plan.ListsRanges where
  nonempty := plan.total_parts_pos
  count := plan.parts_length
  indices := by
    intro index range listed
    obtain ⟨inside, rfl⟩ := parts_get_eq_some.mp listed
    exact ⟨rfl, rfl, plan.part_first_le_last inside⟩
  starts := by
    intro range listed
    rw [List.head?_eq_getElem?] at listed
    obtain ⟨-, rfl⟩ := parts_get_eq_some.mp listed
    exact plan.part_zero_first
  linked := by
    intro index lower upper listed next
    obtain ⟨inside, rfl⟩ := parts_get_eq_some.mp listed
    obtain ⟨behind, rfl⟩ := parts_get_eq_some.mp next
    have follows := plan.next_part_first behind
    have full := plan.part_succ_first index
    refine ⟨follows, ?_⟩
    rw [PartRange.layerCount]
    omega
  ends := by
    intro range listed
    rw [List.getLast?_eq_getElem?, parts_length] at listed
    obtain ⟨inside, rfl⟩ := parts_get_eq_some.mp listed
    have last := plan.part_last_succ inside
    refine ⟨plan.last_part_last, ?_⟩
    rw [PartRange.layerCount]
    omega

theorem part_for_layer_missing (plan : Plan) {layer : Int}
    (outside : layer < 0 ∨ (plan.layerCount : Int) ≤ layer) :
    plan.partForLayer layer = .error (.unknownLayer layer (plan.layerCount - 1)) := by
  rw [partForLayer, if_pos outside]

theorem exists_part_of_layer (plan : Plan) {layer : Nat} (behind : plan.startLayer ≤ layer)
    (inside : layer < plan.layerCount) :
    ∃ index < plan.totalParts, (plan.part index).Contains layer := by
  have positive := plan.chunk_pos
  have before := Nat.div_mul_le_self (layer - plan.startLayer) plan.chunk
  have after := @Nat.lt_div_mul_add (layer - plan.startLayer) _ positive
  have first : (plan.part ((layer - plan.startLayer) / plan.chunk)).first ≤ layer := by
    simp only [part]
    omega
  have exists_part : (layer - plan.startLayer) / plan.chunk < plan.totalParts :=
    (plan.index_lt_total_parts_iff _).mpr (Nat.lt_of_le_of_lt first inside)
  have last := plan.part_last_succ exists_part
  refine ⟨_, exists_part, first, ?_⟩
  simp only [part] at last ⊢
  omega

theorem part_for_layer_cases (plan : Plan) (layer : Int) :
    ((layer < 0 ∨ plan.layerCount ≤ layer) ∧
      plan.partForLayer layer = .error (.unknownLayer layer (plan.layerCount - 1))) ∨
    (0 ≤ layer ∧ layer < plan.startLayer ∧ plan.partForLayer layer = .ok none) ∨
    ∃ natural index : Nat, layer = natural ∧ index < plan.totalParts ∧
      (plan.part index).Contains natural ∧ plan.partForLayer layer = .ok (some index) := by
  by_cases outside : layer < 0 ∨ (plan.layerCount : Int) ≤ layer
  · exact .inl ⟨outside, plan.part_for_layer_missing outside⟩
  · rw [not_or, Int.not_lt, Int.not_le] at outside
    obtain ⟨natural, rfl⟩ := Int.eq_ofNat_of_zero_le outside.1
    rcases Nat.lt_or_ge natural plan.startLayer with below | behind
    · exact .inr (.inl ⟨outside.1, by omega, plan.part_for_layer_excluded below⟩)
    · obtain ⟨index, inside, contains⟩ := plan.exists_part_of_layer behind (by omega)
      exact .inr (.inr ⟨natural, index, rfl, inside, contains,
        plan.part_for_layer_of_contains inside contains⟩)

theorem part_for_layer_eq_some (plan : Plan) (layer : Int) (index : Nat) :
    plan.partForLayer layer = .ok (some index) ↔
      ∃ range, plan.parts[index]? = some range ∧ (range.first : Int) ≤ layer ∧ layer ≤ range.last := by
  constructor
  · intro looked
    rcases plan.part_for_layer_cases layer with ⟨-, missing⟩ | ⟨-, -, excluded⟩ |
      ⟨natural, other, rfl, inside, contains, found⟩
    · rw [looked] at missing
      cases missing
    · rw [looked] at excluded
      cases excluded
    · rw [looked] at found
      cases found
      exact ⟨_, parts_get_eq_some.mpr ⟨inside, rfl⟩, Int.ofNat_le.mpr contains.1,
        Int.ofNat_le.mpr contains.2⟩
  · rintro ⟨range, listed, lower, upper⟩
    obtain ⟨inside, rfl⟩ := parts_get_eq_some.mp listed
    obtain ⟨natural, rfl⟩ := Int.eq_ofNat_of_zero_le (Int.le_trans (Int.natCast_nonneg _) lower)
    exact plan.part_for_layer_of_contains inside ⟨Int.ofNat_le.mp lower, Int.ofNat_le.mp upper⟩

theorem finds_ranges (plan : Plan) : plan.FindsRanges where
  missing := by
    intro layer failure
    rcases plan.part_for_layer_cases layer with ⟨outside, missing⟩ | ⟨lower, upper, excluded⟩ |
      ⟨natural, index, rfl, inside, contains, found⟩
    · rw [missing]
      exact ⟨fun same => ⟨(Except.error.inj same).symm, outside⟩, fun both => both.1 ▸ rfl⟩
    · rw [excluded]
      have start := plan.startLayer_lt
      exact ⟨nofun, fun both => by omega⟩
    · rw [found]
      have last := plan.part_last_lt inside
      have within := contains.2
      exact ⟨nofun, fun both => by omega⟩
  excluded := by
    intro layer
    rcases plan.part_for_layer_cases layer with ⟨outside, missing⟩ | ⟨lower, upper, excluded⟩ |
      ⟨natural, index, rfl, inside, contains, found⟩
    · rw [missing]
      have start := plan.startLayer_lt
      exact ⟨nofun, fun both => by omega⟩
    · rw [excluded]
      exact ⟨fun _ => ⟨lower, upper⟩, fun _ => rfl⟩
    · rw [found]
      have behind : plan.startLayer ≤ (plan.part index).first := Nat.le_add_right _ _
      have within := contains.1
      exact ⟨nofun, fun both => by omega⟩
  found := plan.part_for_layer_eq_some
  monotone := by
    intro lower upper first second foundLower foundUpper ordered
    obtain ⟨range, listed, begins, -⟩ := (plan.part_for_layer_eq_some _ _).mp foundLower
    obtain ⟨other, listedToo, -, ends⟩ := (plan.part_for_layer_eq_some _ _).mp foundUpper
    obtain ⟨-, rfl⟩ := parts_get_eq_some.mp listed
    obtain ⟨inside, rfl⟩ := parts_get_eq_some.mp listedToo
    by_contra reversed
    have apart := plan.part_last_lt_first inside (Nat.not_le.mp reversed)
    omega
  onto := by
    intro index
    constructor
    · intro inside
      exact ⟨(plan.part index).first, plan.part_for_layer_of_contains inside
        ⟨Nat.le_refl _, plan.part_first_le_last inside⟩⟩
    · rintro ⟨layer, found⟩
      obtain ⟨range, listed, -⟩ := (plan.part_for_layer_eq_some _ _).mp found
      exact (parts_get_eq_some.mp listed).1
  last := by
    have positive := plan.total_parts_pos
    have inside : plan.totalParts - 1 < plan.totalParts := by omega
    have ends := plan.last_part_last
    have begins := plan.part_first_le_last inside
    rw [← ends, Int.natCast_add, Int.natCast_one, Int.add_sub_cancel]
    exact plan.part_for_layer_of_contains inside ⟨begins, Nat.le_refl _⟩

/-- Whatever integers a plan is made of, it shares out the layers that were asked for, and looking up
a layer finds the range that holds it. -/
theorem make_partitions {layerCount parts start : Int} {cap : Option Int} {plan : Plan}
    (made : make layerCount (.integer parts) (cap.map .integer) (.integer start) = .ok plan) :
    (plan.layerCount : Int) = layerCount ∧ (plan.startLayer : Int) = start ∧
      plan.ListsRanges ∧ plan.FindsRanges := by
  obtain ⟨layers, asked⟩ := make_eq_ok made
  have first : start = plan.startLayer := eq_of_beq asked
  exact ⟨layers, first.symm, plan.lists_ranges, plan.finds_ranges⟩

/-- So many layers that the quotient is rounded down, which takes one more part than was asked for. -/
theorem make_partitions_beyond_precision : ∃ plan,
    make 1000000000000000000000000000000 (.integer 3) none (.integer 1) = .ok plan ∧
    plan.totalParts = 4 ∧ plan.startLayer = 1 ∧ plan.ListsRanges ∧ plan.FindsRanges := by
  have checked : succeedsWith (fun plan => plan.totalParts == 4)
      (make 1000000000000000000000000000000 (.integer 3) none (.integer 1)) = true := by
    decide +kernel
  obtain ⟨plan, made, total⟩ := exists_of_succeeds_with checked
  obtain ⟨-, first, lists, finds⟩ := @make_partitions _ _ _ none _ made
  exact ⟨plan, made, eq_of_beq total, Int.ofNat_inj.mp first, lists, finds⟩

end Plan

end PrintParts
