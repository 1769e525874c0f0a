import StatusWatch.ResourceStatus

/-!
Reports: statuses as rows of named columns. A narrow report has the kind, the name and the status
of a resource; a wide one has the namespace and the message too.
-/

namespace StatusWatch

/-- Rows may be shorter or longer than the list of columns. -/
structure Report where
  columns : List String
  rows : List (List String)
  deriving DecidableEq, Repr

namespace Report

inductive Format where
  | table
  | json
  | yaml
  deriving DecidableEq, Repr

def statusColumns (wide : Bool) : List String :=
  if wide then ["kind", "name", "namespace", "status", "message"] else ["kind", "name", "status"]

def statusRow (wide : Bool) (s : ResourceStatus) : List String :=
  if wide then [s.id.groupKind.kind, s.id.name, s.id.ns, s.status, s.message]
  else [s.id.groupKind.kind, s.id.name, s.status]

def ofStatuses (statuses : List ResourceStatus) (wide : Bool) : Report :=
  ⟨statusColumns wide, statuses.map (statusRow wide)⟩

/-- The cells of a row by column; what has no column is left out, and of two columns of one name
the last counts. -/
def rowFields (r : Report) (row : List String) : List (String × String) :=
  Json.sortFields (r.columns.zip row)

def rowObject (r : Report) (row : List String) : Json :=
  .obj ((r.rowFields row).map fun (name, text) => (name, .str text))

end Report

end StatusWatch
