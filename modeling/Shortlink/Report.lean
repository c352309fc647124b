/-!
# Reports

What is said about an error that stops a program: a message, and behind it the causes, each
of which led to the one before.
-/

namespace Shortlink

/-- What is said about an error. -/
structure Report where
  message : String
  causes : List String
  deriving DecidableEq, Repr

namespace Report

/-- A report without causes. -/
def plain (message : String) : Report := ⟨message, []⟩

/-- A report of which another one is the cause. -/
def within (message : String) (cause : Report) : Report :=
  ⟨message, cause.message :: cause.causes⟩

end Report

end Shortlink
