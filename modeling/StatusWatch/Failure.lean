import StatusWatch.Error

/-!
Why a command gives up.
-/

namespace StatusWatch

/-- An error as it is, or a text of its own with the error behind it. -/
inductive Failure where
  | plain (error : Error)
  | because (text : String) (error : Option Error)
  deriving DecidableEq, Repr

def Failure.message : Failure → String
  | .plain e => e.message
  | .because text _ => text

end StatusWatch
