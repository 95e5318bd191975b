/-
  Failures of commands: what the command was about to do, then the causes, outermost first.
-/

namespace Gridscript

structure Failure where
  causes : List String
deriving DecidableEq

namespace Failure

def message (f : Failure) : String := ": ".intercalate f.causes

/-- A failure with causes of its own under a given context. -/
def under (context : String) (causes : List String) : Failure := ⟨context :: causes⟩

end Failure

end Gridscript
