import StatusWatch.Condition

/-!
Overrides: a condition that takes the place of the status rule of a kind for one run. They are
written `GROUP/KIND=CONDITION`, or `KIND=CONDITION` for a kind of the core group.
-/

namespace StatusWatch

structure Override where
  target : GroupKind
  condition : Condition
  deriving DecidableEq, Repr

inductive OverrideFault where
  | noSeparator (text : String)
  | noKind (text : String)
  | badCondition (error : Error)
  deriving DecidableEq, Repr

def OverrideFault.message : OverrideFault → String
  | .noSeparator text => s!"expected GROUP/KIND=CONDITION, got {Text.quoted text}"
  | .noKind text => s!"missing kind in {Text.quoted text}"
  | .badCondition error => error.message

namespace Override

def splitTarget? (text : List Char) : Option (List Char × List Char) :=
  match text.dropWhile (· != '=') with
  | [] => none
  | _ :: condition => some (text.takeWhile (· != '='), condition)

def splitKind (target : List Char) : GroupKind :=
  let kind := (target.reverse.takeWhile (· != '/')).reverse
  match target.reverse.dropWhile (· != '/') with
  | [] => ⟨"", String.ofList target⟩
  | _ :: group => ⟨String.ofList group.reverse, String.ofList kind⟩

def parse (text : String) : Except OverrideFault Override :=
  match splitTarget? text.toList with
  | none => .error (.noSeparator text)
  | some (target, condition) =>
    let gk := splitKind target
    let condition : Condition := ⟨String.ofList condition⟩
    if gk.kind = "" then .error (.noKind text)
    else match condition.compile with
    | .ok _ => .ok ⟨gk, condition⟩
    | .error e => .error (.badCondition e)

/-- One override for each kind, the last that is given, in the order of kinds. -/
def table (overrides : List Override) : List Override :=
  let last := overrides.foldl (fun kept o => kept.filter (·.target != o.target) ++ [o]) []
  last.mergeSort fun a b => (a.target.compare b.target).isLE

/-- The condition for a kind; of two overrides of one kind the later counts. -/
def find? (overrides : List Override) (gk : GroupKind) : Option Condition :=
  (overrides.reverse.find? (·.target = gk)).map Override.condition

end Override

end StatusWatch
