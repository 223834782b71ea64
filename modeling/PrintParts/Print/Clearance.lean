import PrintParts.Print.Layer

/-!
Room for priming: the nozzle primes at the low end of X, and the print must not reach there. The check
looks at the least X of the whole print, because every part is primed beside what is already standing.
-/

namespace PrintParts

/-- Whether a print keeps clear of the room for priming; the line that comes too close is named. A
print without absolute moves along X is in nobody's way. -/
def LeastX.checkClearance (least : Option LeastX) (clearance : Binary64) : Except Failure Unit :=
  match least with
  | none => .ok ()
  | some least =>
    if least.x ≤ clearance then
      .error (.fault (.tooCloseToPrime least.x clearance) {
        lineNumber := none
        line := some least.line
        layer := some least.layer })
    else .ok ()

theorem LeastX.checkClearance_eq_ok_iff {least : Option LeastX} {clearance : Binary64} :
    LeastX.checkClearance least clearance = .ok () ↔
      ∀ record, least = some record → ¬ record.x ≤ clearance := by
  cases least with
  | none => simp [checkClearance]
  | some record =>
    by_cases close : record.x ≤ clearance <;> simp [checkClearance, close]

end PrintParts
