import PrintParts.Plan
import PrintParts.Proofs.Outcome

/-!
How a plan comes about. A division that could be made has been asked for with a start inside the print,
and its chunk is the quotient of layers and parts made whole. For integers the checks in front of that
are four comparisons, and a request that passes them is divided at once.
-/

namespace PrintParts

theorem start_is_asked {layerCount : Int} {start : Amount} {index : Nat}
    (found : Start.ofAmount layerCount start = .ok (.layer index)) :
    start.isInteger index = true := by
  have inside : ∀ value : Int, (if value < 0 ∨ layerCount ≤ value
      then .error (Fault.startOutside start (layerCount - 1)).raise
      else .ok (Start.layer value.toNat)) = (.ok (.layer index) : Except Failure Start) →
      (value == (index : Int)) = true := by
    intro value found
    split at found
    · cases found
    · rename_i positive
      cases found
      rw [Int.toNat_of_nonneg (by omega)]
      exact beq_self_eq_true value
  cases start with
  | integer value => exact inside value found
  | truth value => exact inside (Amount.countOf value) found
  | number value =>
    simp only [Start.ofAmount] at found
    split at found <;> cases found
  | other shown => cases found

namespace Plan

theorem divided_eq_ok {layerCount start : Nat} {parts : Amount} {cap : Option Amount} {plan : Plan}
    (runs : divided layerCount start parts cap = .ok plan) :
    plan.layerCount = layerCount ∧ plan.startLayer = start := by
  obtain ⟨perPart, -, runs⟩ := bind_eq_ok.mp runs
  obtain ⟨chunk, -, runs⟩ := bind_eq_ok.mp runs
  split at runs
  · cases runs
    exact ⟨rfl, rfl⟩
  · cases runs

theorem of_division {layerCount : Int} {parts start : Amount} {cap : Option Amount} {plan : Plan}
    (made : Division.make layerCount parts cap start = .ok (.whole plan)) :
    (plan.layerCount : Int) = layerCount ∧ start.isInteger plan.startLayer = true := by
  unfold Division.make at made
  split at made
  · cases made
  · rename_i someLayers
    have layered : ∀ index, Start.ofAmount layerCount start = .ok (.layer index) →
        (divided layerCount.toNat index parts cap).map Division.whole = .ok (.whole plan) →
        (plan.layerCount : Int) = layerCount ∧ start.isInteger plan.startLayer = true := by
      intro index asked runs
      obtain ⟨made, runs, same⟩ := map_eq_ok.mp runs
      cases same
      obtain ⟨layers, first⟩ := divided_eq_ok runs
      exact ⟨by omega, first ▸ start_is_asked asked⟩
    have placed : ∀ number,
        (partsBehind layerCount number parts cap).map Division.broken ≠ .ok (.whole plan) := by
      intro number runs
      obtain ⟨parts, -, broken⟩ := map_eq_ok.mp runs
      cases broken
    obtain ⟨_, -, made⟩ := bind_eq_ok.mp made
    -- The same steps follow the checks, whether there is a cap to be checked or not.
    cases cap
    all_goals
      obtain ⟨_, -, made⟩ := bind_eq_ok.mp made
      obtain ⟨begin, asked, runs⟩ := bind_eq_ok.mp made
      cases begin with
      | layer index => exact layered index asked runs
      | place number => exact absurd runs (placed number)

theorem make_eq_ok {layerCount : Int} {parts start : Amount} {cap : Option Amount} {plan : Plan}
    (made : make layerCount parts cap start = .ok plan) :
    (plan.layerCount : Int) = layerCount ∧ start.isInteger plan.startLayer = true := by
  obtain ⟨division, divides, isWhole⟩ := bind_eq_ok.mp made
  cases division with
  | whole other =>
    cases isWhole
    exact of_division divides
  | broken totalParts => cases isWhole

/-- Integers of which a plan can be asked. -/
structure Valid (layerCount parts : Int) (cap : Option Int) (start : Int) : Prop where
  layers : 1 ≤ layerCount
  parts : 1 ≤ parts
  cap : ∀ limit ∈ cap, 1 ≤ limit
  start_nonneg : 0 ≤ start
  start_lt : start < layerCount

theorem at_least_one {value : Int} {fault : Amount → Fault} (positive : 1 ≤ value) :
    checkAtLeastOne (.integer value) fault = .ok () := by
  have notBelow : decide (value < 1) = false := decide_eq_false (by omega)
  simp only [checkAtLeastOne, Amount.isBelow, notBelow]
  rfl

theorem make_of_valid {layerCount parts start : Int} {cap : Option Int}
    (valid : Valid layerCount parts cap start) :
    make layerCount (.integer parts) (cap.map .integer) (.integer start) =
      divided layerCount.toNat start.toNat (.integer parts) (cap.map .integer) := by
  have layers : ¬ layerCount < 1 := Int.not_lt.mpr valid.layers
  have inside : ¬ (start < 0 ∨ layerCount ≤ start) :=
    not_or.mpr ⟨Int.not_lt.mpr valid.start_nonneg, Int.not_le.mpr valid.start_lt⟩
  have whole : ∀ made : Except Failure Plan, (made.map Division.whole >>= Division.plan) = made := by
    intro made
    cases made <;> rfl
  cases cap with
  | none =>
    simp only [make, Division.make, if_neg layers, at_least_one valid.parts, ok_bind, Option.map_none,
      Start.ofAmount, if_neg inside, whole]
  | some limit =>
    have limited : 1 ≤ limit := valid.cap limit rfl
    simp only [make, Division.make, if_neg layers, at_least_one valid.parts, at_least_one limited,
      ok_bind, Option.map_some, Start.ofAmount, if_neg inside, whole]

end Plan

end PrintParts
