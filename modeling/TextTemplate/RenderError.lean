import TextTemplate.DataFault

/-!
# Faults while rendering

## Main definitions

- `RenderError` — why a template cannot be rendered to its end
- `RenderError.message` — its text
-/

namespace TextTemplate

/-- Why a template cannot be rendered to its end. -/
inductive RenderError
  | missingHelper (name : String)
  | missingPartial (name : String)
  | helper (name message : String)
  | data (fault : DataFault)
  | partialDepth (name : String) (limit : Nat)
  | write
  deriving DecidableEq, Repr

/-- The message of an error. -/
def RenderError.message : RenderError → String
  | missingHelper name => "no helper named `" ++ name ++ "` is registered"
  | missingPartial name => "no partial named `" ++ name ++ "` is registered"
  | helper name message => "helper `" ++ name ++ "` failed: " ++ message
  | data fault => "data could not be converted: " ++ fault.message
  | partialDepth name limit =>
    "partial `" ++ name ++ "` exceeded the nesting limit of " ++ toString limit
  | write => "writing to the output failed"

end TextTemplate
