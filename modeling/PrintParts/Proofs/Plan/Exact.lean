import PrintParts.Proofs.Number.Quotient
import PrintParts.Proofs.Plan.Making
import PrintParts.Proofs.Plan.Ranges

/-!
Plans of up to `2 ^ 53` layers are those of exact arithmetic. The rounded quotients of a plan are only
made whole and compared with the cap, so they stand for the exact ones, and the chunk and the number of
parts are the ceilings that one would compute without rounding. A cap that would be exceeded is met by
the least number of parts that meets it.
-/

namespace PrintParts

namespace Plan

theorem total_parts_le_iff (plan : Plan) (count : Nat) :
    plan.totalParts ≤ count ↔ plan.span ≤ count * plan.chunk := by
  have positive := plan.span_pos
  rw [totalParts, Nat.add_one_le_iff, Nat.div_lt_iff_lt_mul plan.chunk_pos]
  omega

theorem span_le_room (plan : Plan) : plan.span ≤ plan.totalParts * plan.chunk :=
  (plan.total_parts_le_iff _).mp (Nat.le_refl _)

section

variable {span parts limit : Nat} {value : Binary64}

theorem quotient_stands_for (some : 0 < span) (small : span ≤ twoPower 53) (positive : 0 < parts)
    (bounded : parts ≤ span ∨ parts ≤ twoPower 1000) :
    ∃ value, quotient span parts = .ok value ∧ value.StandsFor ((span : ℚ) / parts) := by
  have notTiny : parts ≤ span * unitsPerOne := by
    rcases bounded with within | bounded
    · exact Nat.le_trans within (Nat.le_mul_of_pos_right _ unitsPerOne_pos)
    · calc parts ≤ twoPower 1000 := bounded
        _ ≤ unitsPerOne := twoPower_le_twoPower (by decide)
        _ ≤ span * unitsPerOne := Nat.le_mul_of_pos_left _ some
  obtain ⟨value, rounded, stands⟩ := Binary64.quotient_stands_for small positive notTiny
  refine ⟨value, ?_, stands⟩
  rw [quotient, if_neg (Nat.pos_iff_ne_zero.mp positive), rounded]

theorem whole_of_stands_for {quotient : ℚ} (stands : value.StandsFor quotient) :
    wholeNumber value = .ok ⌈quotient⌉₊ := by
  simp only [wholeNumber, stands.ceil, Int.ceil_toNat]

theorem share_of_nat (span parts : Nat) : share span (.integer parts) = quotient span parts := by
  rw [share, Int.toNat_natCast]

theorem exceeded_iff {quotient : ℚ} (stands : value.StandsFor quotient) (limit : Nat) :
    (Amount.integer limit).isExceededBy value = true ↔ (limit : ℚ) < quotient := by
  rw [Amount.isExceededBy, stands.above, Int.cast_natCast]

theorem nominal_kept {cap : Option Nat} (made : quotient span parts = .ok value)
    (kept : ∀ limit ∈ cap, ¬ (Amount.integer limit).isExceededBy value = true) :
    nominalLayers (share span) (.integer parts) (cap.map fun limit : Nat => .integer limit) =
      .ok value := by
  cases cap with
  | none => simp only [nominalLayers, share_of_nat, made, ok_bind, Option.map_none]
  | some limit =>
    simp only [nominalLayers, share_of_nat, made, ok_bind, Option.map_some, if_neg (kept limit rfl)]

theorem nominal_exceeding (made : quotient span parts = .ok value)
    (exceeding : (Amount.integer limit).isExceededBy value = true) :
    nominalLayers (share span) (.integer parts) (some (.integer limit)) =
      (do let needed ← quotient span limit >>= wholeNumber
          quotient span needed) := by
  simp only [nominalLayers, share_of_nat, made, ok_bind, if_pos exceeding, bind_assoc]

theorem nominal_uncapped {cap : Option Nat} (made : quotient span parts = .ok value)
    (stands : value.StandsFor ((span : ℚ) / parts))
    (kept : ∀ limit ∈ cap, (span : ℚ) / parts ≤ limit) :
    nominalLayers (share span) (.integer parts) (cap.map fun limit : Nat => .integer limit) =
      .ok value := by
  refine nominal_kept made fun limit inCap => ?_
  rw [exceeded_iff stands]
  exact not_lt.mpr (kept limit inCap)

theorem nominal_capped {enough capped : Binary64} (made : quotient span parts = .ok value)
    (stands : value.StandsFor ((span : ℚ) / parts)) (exceeded : (limit : ℚ) < (span : ℚ) / parts)
    (enoughMade : quotient span limit = .ok enough)
    (enoughStands : enough.StandsFor ((span : ℚ) / limit))
    (cappedMade : quotient span ⌈(span : ℚ) / limit⌉₊ = .ok capped) :
    nominalLayers (share span) (.integer parts) (some (.integer limit)) = .ok capped := by
  rw [nominal_exceeding made ((exceeded_iff stands limit).mpr exceeded), enoughMade, ok_bind,
    whole_of_stands_for enoughStands, ok_bind, cappedMade]

theorem divided_of_chunk {layerCount start chunk : Nat} {parts : Amount} {cap : Option Amount}
    (inside : start < layerCount)
    (nominal : nominalLayers (share (layerCount - start)) parts cap = .ok value)
    (whole : wholeNumber value = .ok chunk) (positive : 0 < chunk) :
    ∃ plan, divided layerCount start parts cap = .ok plan ∧
      plan.layerCount = layerCount ∧ plan.startLayer = start ∧ plan.chunk = chunk := by
  have valid : start < layerCount ∧ 0 < chunk := ⟨inside, positive⟩
  refine ⟨⟨layerCount, start, value, chunk, inside, positive⟩, ?_, rfl, rfl, rfl⟩
  simp only [divided, nominal, whole, ok_bind, dif_pos valid]

theorem divided_of_nominal {layerCount start : Nat} {cap : Option Amount} {quotient : ℚ}
    (inside : start < layerCount)
    (nominal : nominalLayers (share (layerCount - start)) (.integer parts) cap = .ok value)
    (stands : value.StandsFor quotient) (positive : 0 < quotient) :
    ∃ plan, divided layerCount start (.integer parts) cap = .ok plan ∧
      plan.layerCount = layerCount ∧ plan.startLayer = start ∧ plan.chunk = ⌈quotient⌉₊ :=
  divided_of_chunk inside nominal (whole_of_stands_for stands) (Nat.ceil_pos.mpr positive)

end

/-- A plan as exact arithmetic has it. A cap that the wanted parts would exceed is met by parts that
are as equal as possible, and fewer parts could not meet it. -/
structure IsExact (plan : Plan) (parts : ℤ) (cap : Option ℤ) : Prop where
  uncapped : (∀ limit ∈ cap, (plan.span : ℤ) ≤ parts * limit) →
    (plan.chunk : ℤ) = ⌈(plan.span : ℚ) / parts⌉ ∧ (plan.totalParts : ℤ) ≤ parts
  capped : ∀ limit ∈ cap, parts * limit < plan.span →
    (plan.chunk : ℤ) = ⌈(plan.span : ℚ) / ⌈(plan.span : ℚ) / limit⌉⌉ ∧ (plan.chunk : ℤ) ≤ limit ∧
    (plan.totalParts : ℤ) = ⌈(plan.span : ℚ) / limit⌉ ∧
    ∀ sizes : List ℕ, sizes.sum = plan.span → (∀ size ∈ sizes, (size : ℤ) ≤ limit) →
      plan.totalParts ≤ sizes.length

theorem covered_iff {span parts limit : Nat} (positive : 0 < parts) :
    (span : ℚ) / parts ≤ limit ↔ span ≤ parts * limit := by
  rw [div_le_iff₀ (Nat.cast_pos.mpr positive), mul_comm (limit : ℚ)]
  exact mod_cast Iff.rfl

theorem ceil_div_cast (span parts : Nat) :
    ((⌈(span : ℚ) / parts⌉₊ : Nat) : ℤ) = ⌈(span : ℚ) / parts⌉ :=
  Int.natCast_ceil_eq_ceil (div_nonneg (Nat.cast_nonneg _) (Nat.cast_nonneg _))

/-- Parts of which each is a ceiling of the layers that are shared out are not too many. -/
theorem total_parts_le {plan : Plan} {parts : Nat} (positive : 0 < parts)
    (chunk : plan.chunk = ⌈(plan.span : ℚ) / parts⌉₊) : plan.totalParts ≤ parts := by
  rw [plan.total_parts_le_iff, ← covered_iff positive, chunk]
  exact Nat.le_ceil _

theorem total_parts_of_cap {plan : Plan} {limit : Nat} (positive : 0 < limit)
    (chunk : plan.chunk = ⌈(plan.span : ℚ) / ⌈(plan.span : ℚ) / limit⌉₊⌉₊) :
    plan.chunk ≤ limit ∧ plan.totalParts = ⌈(plan.span : ℚ) / limit⌉₊ := by
  have needed : 0 < ⌈(plan.span : ℚ) / limit⌉₊ :=
    Nat.ceil_pos.mpr (div_pos (Nat.cast_pos.mpr plan.span_pos) (Nat.cast_pos.mpr positive))
  have within : plan.chunk ≤ limit := by
    rw [chunk, Nat.ceil_le, covered_iff needed, Nat.mul_comm, ← covered_iff positive]
    exact Nat.le_ceil _
  refine ⟨within, Nat.le_antisymm (total_parts_le needed chunk) ?_⟩
  rw [Nat.ceil_le, covered_iff positive, Nat.mul_comm]
  exact Nat.le_trans plan.span_le_room (Nat.mul_le_mul_left _ within)

theorem ceil_le_length {span limit : Nat} (positive : 0 < limit) {sizes : List ℕ}
    (all : sizes.sum = span) (within : ∀ size ∈ sizes, size ≤ limit) :
    ⌈(span : ℚ) / limit⌉₊ ≤ sizes.length := by
  rw [Nat.ceil_le, covered_iff positive, ← all, Nat.mul_comm]
  exact List.sum_le_card_nsmul sizes limit within

theorem is_exact_of_uncapped {plan : Plan} {parts : Nat} {cap : Option Nat} (positive : 0 < parts)
    (kept : ∀ limit ∈ cap, plan.span ≤ parts * limit)
    (chunk : plan.chunk = ⌈(plan.span : ℚ) / parts⌉₊) :
    plan.IsExact parts (cap.map fun limit : Nat => (limit : ℤ)) where
  uncapped := by
    intro _
    rw [Int.cast_natCast, chunk, ceil_div_cast]
    exact ⟨rfl, mod_cast total_parts_le positive chunk⟩
  capped := by
    intro limit given exceeding
    obtain ⟨natural, inCap, rfl⟩ := Option.map_eq_some_iff.mp given
    have small := kept natural inCap
    omega

theorem is_exact_of_capped {plan : Plan} {parts limit : Nat} (positive : 0 < limit)
    (exceeding : parts * limit < plan.span)
    (chunk : plan.chunk = ⌈(plan.span : ℚ) / ⌈(plan.span : ℚ) / limit⌉₊⌉₊) :
    plan.IsExact parts (some (limit : ℤ)) where
  uncapped := by
    intro kept
    have small := kept limit rfl
    omega
  capped := by
    intro given same _
    cases same
    obtain ⟨within, total⟩ := total_parts_of_cap positive chunk
    refine ⟨?_, mod_cast within, ?_, ?_⟩
    · rw [Int.cast_natCast, ← ceil_div_cast, Int.cast_natCast, ← ceil_div_cast, chunk]
    · rw [Int.cast_natCast, ← ceil_div_cast, total]
    · intro sizes all small
      rw [total]
      exact ceil_le_length positive all fun size member => mod_cast small size member

variable {layerCount start parts : Nat}

theorem exact_uncapped {cap : Option Nat} (inside : start < layerCount) (positive : 0 < parts)
    (small : layerCount - start ≤ twoPower 53) (bounded : parts ≤ twoPower 1000)
    (kept : ∀ limit ∈ cap, layerCount - start ≤ parts * limit) :
    ∃ plan, divided layerCount start (.integer parts) (cap.map fun limit : Nat => .integer limit) =
        .ok plan ∧ plan.layerCount = layerCount ∧ plan.startLayer = start ∧
      plan.IsExact parts (cap.map fun limit : Nat => (limit : ℤ)) := by
  have some : 0 < layerCount - start := Nat.sub_pos_of_lt inside
  obtain ⟨value, made, stands⟩ := quotient_stands_for some small positive (.inr bounded)
  have nominal := nominal_uncapped made stands fun limit inCap =>
    (covered_iff positive).mpr (kept limit inCap)
  obtain ⟨plan, divides, layers, first, chunk⟩ := divided_of_nominal inside nominal stands
    (div_pos (Nat.cast_pos.mpr some) (Nat.cast_pos.mpr positive))
  have span : plan.span = layerCount - start := by rw [Plan.span, layers, first]
  rw [← span] at kept chunk
  exact ⟨plan, divides, layers, first, is_exact_of_uncapped positive kept chunk⟩

theorem exact_capped {limit : Nat} (inside : start < layerCount) (positive : 0 < parts)
    (small : layerCount - start ≤ twoPower 53) (bounded : parts ≤ twoPower 1000)
    (limited : 0 < limit) (exceeding : parts * limit < layerCount - start) :
    ∃ plan, divided layerCount start (.integer parts) (some (.integer limit)) = .ok plan ∧
      plan.layerCount = layerCount ∧ plan.startLayer = start ∧
      plan.IsExact parts (some (limit : ℤ)) := by
  have some : 0 < layerCount - start := Nat.sub_pos_of_lt inside
  have within : limit ≤ layerCount - start :=
    Nat.le_trans (Nat.le_mul_of_pos_left _ positive) (Nat.le_of_lt exceeding)
  have needed : 0 < ⌈((layerCount - start : Nat) : ℚ) / limit⌉₊ :=
    Nat.ceil_pos.mpr (div_pos (Nat.cast_pos.mpr some) (Nat.cast_pos.mpr limited))
  have few : ⌈((layerCount - start : Nat) : ℚ) / limit⌉₊ ≤ layerCount - start := by
    rw [Nat.ceil_le, covered_iff limited]
    exact Nat.le_mul_of_pos_left _ limited
  obtain ⟨value, made, stands⟩ := quotient_stands_for some small positive (.inr bounded)
  obtain ⟨enough, enoughMade, enoughStands⟩ :=
    quotient_stands_for some small limited (.inl within)
  obtain ⟨capped, cappedMade, cappedStands⟩ := quotient_stands_for some small needed (.inl few)
  have exceeded : (limit : ℚ) < ((layerCount - start : Nat) : ℚ) / parts := by
    rw [← not_le, covered_iff positive]
    exact Nat.not_le.mpr exceeding
  have nominal := nominal_capped made stands exceeded enoughMade enoughStands cappedMade
  obtain ⟨plan, divides, layers, first, chunk⟩ := divided_of_nominal inside nominal cappedStands
    (div_pos (Nat.cast_pos.mpr some) (Nat.cast_pos.mpr needed))
  have span : plan.span = layerCount - start := by rw [Plan.span, layers, first]
  rw [← span] at exceeding chunk
  exact ⟨plan, divides, layers, first, is_exact_of_capped limited exceeding chunk⟩

theorem exact_of_nat {cap : Option Nat} (inside : start < layerCount) (positive : 0 < parts)
    (small : layerCount - start ≤ twoPower 53) (bounded : parts ≤ twoPower 1000)
    (limited : ∀ limit ∈ cap, 0 < limit) :
    ∃ plan, divided layerCount start (.integer parts) (cap.map fun limit : Nat => .integer limit) =
        .ok plan ∧ plan.layerCount = layerCount ∧ plan.startLayer = start ∧
      plan.IsExact parts (cap.map fun limit : Nat => (limit : ℤ)) := by
  by_cases kept : ∀ limit ∈ cap, layerCount - start ≤ parts * limit
  · exact exact_uncapped inside positive small bounded kept
  · push Not at kept
    obtain ⟨limit, given, exceeding⟩ := kept
    cases given
    exact exact_capped inside positive small bounded (limited limit rfl) exceeding

theorem two_power_cast (exponent : Nat) : ((twoPower exponent : Nat) : ℤ) = 2 ^ exponent := by
  rw [twoPower, Nat.pow_eq, Nat.cast_pow, Nat.cast_ofNat]

/-- A plan of up to `2 ^ 53` layers can be made of all integers that may be asked for, unless the number
of parts is beyond all reason, and it is the plan of exact arithmetic. -/
theorem make_is_exact {layerCount parts start : ℤ} {cap : Option ℤ}
    (valid : Valid layerCount parts cap start) (small : layerCount - start ≤ 2 ^ 53)
    (bounded : parts ≤ 2 ^ 1000) :
    ∃ plan, make layerCount (.integer parts) (cap.map .integer) (.integer start) = .ok plan ∧
      (plan.layerCount : ℤ) = layerCount ∧ (plan.startLayer : ℤ) = start ∧
      plan.IsExact parts cap := by
  have layers := valid.layers
  have someParts := valid.parts
  have inside := valid.start_lt
  rw [make_of_valid valid]
  obtain ⟨natural, rfl⟩ : ∃ natural : Option ℕ, cap = natural.map fun limit : ℕ => (limit : ℤ) := by
    cases cap with
    | none => exact ⟨none, rfl⟩
    | some limit =>
      have limited := valid.cap limit rfl
      exact ⟨some limit.toNat, congrArg some (Int.toNat_of_nonneg (by omega)).symm⟩
  have limited : ∀ limit ∈ natural, 0 < limit := by
    intro limit inCap
    have positive := valid.cap limit (Option.mem_map_of_mem _ inCap)
    omega
  obtain ⟨start, rfl⟩ := Int.eq_ofNat_of_zero_le valid.start_nonneg
  obtain ⟨layerCount, rfl⟩ := Int.eq_ofNat_of_zero_le (Int.le_trans Int.one_nonneg layers)
  obtain ⟨parts, rfl⟩ := Int.eq_ofNat_of_zero_le (Int.le_trans Int.one_nonneg someParts)
  have span : layerCount - start ≤ twoPower 53 := by
    rw [← two_power_cast] at small
    omega
  have few : parts ≤ twoPower 1000 := by
    rw [← two_power_cast] at bounded
    exact Int.ofNat_le.mp bounded
  obtain ⟨plan, divides, count, first, exact⟩ :=
    exact_of_nat (by omega) (by omega) span few limited
  rw [Int.toNat_natCast, Int.toNat_natCast, Option.map_map]
  exact ⟨plan, divides, congrArg _ count, congrArg _ first, exact⟩

/-- One layer more than three parts may hold. The quotient of the layers by the cap lies strictly
between three and the next number of the format. -/
theorem make_is_exact_beside_whole_quotient :
    Valid 9007199254740991 2 (some 3002399751580330) 0 ∧ ∃ plan,
      make 9007199254740991 (.integer 2) (some (.integer 3002399751580330)) (.integer 0) = .ok plan ∧
      plan.IsExact 2 (some 3002399751580330) ∧ plan.totalParts = 4 := by
  have valid : Valid 9007199254740991 2 (some 3002399751580330) 0 := by
    refine ⟨by decide, by decide, ?_, by decide, by decide⟩
    intro limit given
    cases given
    decide
  have bounded : (2 : ℤ) ≤ 2 ^ 1000 := by
    calc (2 : ℤ) = 2 ^ 1 := rfl
      _ ≤ 2 ^ 1000 := pow_le_pow_right₀ (by decide) (by decide)
  obtain ⟨plan, made, layers, first, exact⟩ := make_is_exact valid (by decide) bounded
  have span : plan.span = 9007199254740991 := by
    rw [Plan.span]
    omega
  refine ⟨valid, plan, made, exact, ?_⟩
  obtain ⟨-, -, total, -⟩ := exact.capped 3002399751580330 rfl (by rw [span]; decide)
  rw [span] at total
  norm_num at total
  exact mod_cast total

end Plan

end PrintParts
