import StatusWatch.Failure
import StatusWatch.Kubeconfig.Address
import StatusWatch.Kubeconfig.Schema
import StatusWatch.Yaml

/-!
The file that names the clusters one can connect to. A context names a cluster, and a cluster has
the address of its server. Of several documents in one file the first word on anything counts.
-/

namespace StatusWatch

structure Kubeconfig.Access where
  address : Option String
  proxy : Option String
  deriving DecidableEq, Repr

structure Kubeconfig where
  kind : Option String
  apiVersion : Option String
  current : Option String
  /-- For each context the name of its cluster. -/
  contexts : List (String × Option String)
  clusters : List (String × Option Kubeconfig.Access)
  deriving DecidableEq, Repr

namespace Kubeconfig

open Yaml (Datum)

def empty : Kubeconfig := ⟨none, none, none, [], []⟩

def textAt (d : Datum) (name : String) : Option String :=
  (d.get? name).bind Datum.text?

def dataAt (d : Datum) (name : String) : Option Datum :=
  (d.get? name).filter (!·.isNull)

def named (d : Datum) (list inner : String) : List (String × Option Datum) :=
  let items := ((d.get? list).bind Datum.items?).getD []
  items.filterMap fun item => (textAt item "name").map fun name => (name, dataAt item inner)

/-- An empty proxy is none. -/
def access (cluster : Datum) : Access :=
  ⟨textAt cluster "server", (textAt cluster "proxy-url").filter (· ≠ "")⟩

/-- Everything that has a place in a kubeconfig must have its form, also what counts for nothing
here. -/
def ofDocument? (d : Datum) : Option Kubeconfig :=
  if Schema.document.admits d then some {
    kind := textAt d "kind"
    apiVersion := textAt d "apiVersion"
    current := textAt d "current-context"
    contexts := (named d "contexts" "context").map fun (name, context) =>
      (name, context.bind (textAt · "cluster"))
    clusters := (named d "clusters" "cluster").map fun (name, cluster) =>
      (name, cluster.map access) }
  else none

/-- Entries with a new name are added. -/
def addNew (old new : List (String × α)) : List (String × α) :=
  old ++ new.filter fun entry => old.all (·.1 ≠ entry.1)

def agree (a b : Option String) : Bool :=
  a.isNone || b.isNone || a == b

/-- Documents of different kinds cannot be merged. -/
def merge? (a b : Kubeconfig) : Option Kubeconfig :=
  if agree a.kind b.kind && agree a.apiVersion b.apiVersion then some {
    kind := a.kind.or b.kind
    apiVersion := a.apiVersion.or b.apiVersion
    current := a.current.or b.current
    contexts := addNew a.contexts b.contexts
    clusters := addNew a.clusters b.clusters }
  else none

/-- A mark of byte order at the start is no part of the text. -/
def withoutMark (text : String) : String :=
  match text.toList with
  | '\uFEFF' :: rest => String.ofList rest
  | _ => text

def parse? (text : String) : Option Kubeconfig := do
  let documents := Yaml.readData (withoutMark text)
  if !documents.complete then none
  match ← documents.values.mapM ofDocument? with
  | [] => some .empty
  | first :: rest => rest.foldlM merge? first

/-- A context that was chosen, and the address of its server. -/
structure Endpoint where
  context : String
  address : String
  deriving DecidableEq, Repr

/-- How a cluster is reached, if all that is said of it can be read. -/
def access? (k : Kubeconfig) (cluster : String) : Option Access :=
  ((k.clusters.lookup cluster).bind id).filter fun access =>
    access.address.any isAddress && access.proxy.all isAddress

/-- The context that is asked for, or else the current one. Proxies are not spoken to. -/
def choose (k : Kubeconfig) (wanted : Option String) : Except Failure Endpoint :=
  match wanted.or k.current with
  | none => .error (.because "No current context set in kubeconfig" none)
  | some name =>
    match k.contexts.lookup name with
    | none => .error (.because s!"Context '{name}' not found in kubeconfig" none)
    | some cluster =>
      match cluster.bind k.access? with
      | some ⟨some address, none⟩ => .ok ⟨name, address⟩
      | some ⟨_, some _⟩ =>
        .error (.because s!"Failed to create client for context '{name}'" none)
      | _ => .error (.because s!"Failed to load kubeconfig for context '{name}'" none)

def endpoint (text : Option String) (wanted : Option String) : Except Failure Endpoint :=
  match text.bind parse? with
  | none => .error (.because "Failed to read kubeconfig" none)
  | some k => k.choose wanted

end Kubeconfig

end StatusWatch
