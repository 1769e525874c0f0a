/-!
Status labels. Custom kinds name their own, so a label is any text; the rules for built-in
kinds use a handful of well-known ones.
-/

namespace StatusWatch

abbrev Status := String

namespace Status

def unknown : Status := "Unknown"

def current : Status := "Current"

def inProgress : Status := "InProgress"

def failed : Status := "Failed"

def terminating : Status := "Terminating"

def notFound : Status := "NotFound"

end Status

structure Assessment where
  status : Status
  message : String
  deriving DecidableEq, Repr

namespace Assessment

def current (message : String) : Assessment :=
  ⟨.current, message⟩

def inProgress (message : String) : Assessment :=
  ⟨.inProgress, message⟩

def failed (message : String) : Assessment :=
  ⟨.failed, message⟩

def ofCheck (kind : String) (status : Status) : Assessment :=
  if status = .unknown then ⟨status, kind ++ " matches no status check"⟩
  else ⟨status, kind ++ " is " ++ status⟩

end Assessment

end StatusWatch
