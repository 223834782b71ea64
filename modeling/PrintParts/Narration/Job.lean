import PrintParts.Job
import PrintParts.Narration.Recording
import PrintParts.Narration.Rendering

/-!
What a whole job tells: first the recording, then, if the print is complete and nothing speaks against
the plan, the making of the documents.
-/

namespace PrintParts

/-- Everything that is told until the job is prepared, or until it fails. -/
def Job.events (job : Job) : List Event :=
  let recording := Narration.ofBytes job.policy job.program
  let rendering := do
    let print ← Print.ofBytes job.policy job.program
    let division ← job.division print
    let _ ← job.settings.clearanceWarnings print division.totalParts
    let plan ← division.plan
    .ok (Narration.rendering job.settings print plan)
  match rendering with
  | .ok events => recording ++ events
  | .error _ => recording

end PrintParts
