import PrintParts.Text.Basic

/-!
Namings: what is given where a name is asked for. A name may be left out, and where it comes from data it
may be something other than a text. Whether that matters is up to the one who needs the name.
-/

namespace PrintParts

inductive Naming where
  /-- No name is given. -/
  | nothing
  | name (text : Text)
  /-- What is given is no text. -/
  | unusable
  deriving DecidableEq

end PrintParts
