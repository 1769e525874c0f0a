import StatusWatch.Watch

/-!
How far a set of resources has come towards a status. A progress holds the last status reported
for each resource, in the order of identifiers, and `follow` decides by it, at the end of a
tick, whether all have arrived or one has failed.
-/

namespace StatusWatch

structure Progress where
  entries : List (ObjectId × Option ResourceStatus)

namespace Progress

def insert (id : ObjectId) :
    List (ObjectId × Option ResourceStatus) → List (ObjectId × Option ResourceStatus)
  | [] => [(id, none)]
  | (other, s) :: rest =>
    match id.compare other with
    | .lt => (id, none) :: (other, s) :: rest
    | .eq => (other, s) :: rest
    | .gt => (other, s) :: insert id rest

def ofIds (ids : List ObjectId) : Progress :=
  ⟨ids.foldl (fun entries id => insert id entries) []⟩

/-- A status of an identifier that is not followed is passed over. -/
def update (p : Progress) (status : ResourceStatus) : Progress :=
  ⟨p.entries.map fun (id, s) => (id, if id = status.id then some status else s)⟩

def isAt (desired : Status) (s : Option ResourceStatus) : Bool :=
  s.any (·.status == desired)

def allReached (p : Progress) (desired : Status) : Bool :=
  p.entries.all fun (_, s) => isAt desired s

def statuses (p : Progress) : List ResourceStatus :=
  p.entries.filterMap Prod.snd

def failed (p : Progress) : List ResourceStatus :=
  p.statuses.filter (·.status == Status.failed)

/-- Those not yet there, with those never reported. -/
def pending (p : Progress) (desired : Status) : List ObjectId :=
  (p.entries.filter fun (_, s) => !isAt desired s).map Prod.fst

def size (p : Progress) : Nat :=
  p.entries.length

def summary (p : Progress) (desired : Status) : String :=
  let pending := p.pending desired
  let counts := s!"{p.size - pending.length}/{p.size} resources {desired}"
  match pending with
  | first :: _ => s!"{counts} (waiting for {first.toText})"
  | [] => counts

inductive Verdict where
  | reached
  | failed
  | closed
  deriving DecidableEq, Repr

/-- What the end of a tick decides, if anything. -/
def verdict? (p : Progress) (desired : Status) : Option Verdict :=
  if p.allReached desired then some .reached
  else if desired ≠ .failed ∧ !p.failed.isEmpty then some .failed
  else none

/-- What following a run came to: the verdict, the lines reported on the way, and the progress. -/
structure Outcome where
  verdict : Verdict
  lines : List String
  progress : Progress

def follow (desired : Status) (p : Progress) : List Event → Outcome
  | [] => ⟨.closed, [], p⟩
  | .update status :: rest => follow desired (p.update status) rest
  | .syncFailed e :: rest =>
    let outcome := follow desired p rest
    { outcome with lines := s!"Sync failed: {e.message}" :: outcome.lines }
  | .tickEnd :: rest =>
    let line := p.summary desired
    match p.verdict? desired with
    | some verdict => ⟨verdict, [line], p⟩
    | none =>
      let outcome := follow desired p rest
      { outcome with lines := line :: outcome.lines }

end Progress

end StatusWatch
