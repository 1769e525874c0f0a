import StatusWatch.Cluster
import StatusWatch.StatusCheck

/-!
Status rules of custom kinds, taken from the definitions that carry status checks: a table of
checks for each collection, the kinds in order of their definitions, and a catalog of the
versions that have a table.
-/

namespace StatusWatch

/-- What a definition with checks says of its kind. -/
structure Definition where
  group : String
  kind : String
  plural : String
  namespaced : Bool
  versions : List String
  checks : List StatusCheck
  deriving DecidableEq, Repr

namespace Definition

/-- The names of the listed versions, without those marked as not served. -/
def listedVersions (document : Json) : List String :=
  let listed := ((document.nested? ["spec", "versions"]).bind Json.arr?).getD []
  (listed.filter fun v => (v.get? "served").bind Json.bool? != some false).filterMap fun v =>
    (v.get? "name").bind Json.str?

/-- Without any, the one version that old definitions name. -/
def servedVersions (document : Json) : List String :=
  match listedVersions document with
  | [] => (document.nestedStr? ["spec", "version"]).toList
  | listed => listed

def annotation? (document : Json) : Option String :=
  document.nestedStr? ["metadata", "annotations", StatusCheck.annotationName]

/-- A document without checks defines nothing here. Of several faults the checks' come first, then
those of the definition in the order group, kind, plural, versions. -/
def ofDocument (words : StatusCheck.Wording) (document : Json) :
    Except Error (Option Definition) := do
  match annotation? document with
  | none => .ok none
  | some text =>
    let name := (Document.name? document).getD "<unnamed>"
    let field (path : List String) : Except Error String :=
      match document.nestedStr? path with
      | some value => .ok value
      | none => .error (.document (.definitionLacks name (".".intercalate path)))
    let checks ← StatusCheck.parse words text
    let group ← field ["spec", "group"]
    let kind ← field ["spec", "names", "kind"]
    let plural ← field ["spec", "names", "plural"]
    let namespaced := document.nestedStr? ["spec", "scope"] != some "Cluster"
    match servedVersions document with
    | [] => .error (.document (.definitionLacks name "served versions"))
    | versions => .ok (some ⟨group, kind, plural, namespaced, versions, checks⟩)

def groupKind (d : Definition) : GroupKind :=
  ⟨d.group, d.kind⟩

def resource (d : Definition) (version : String) : Resource :=
  ⟨d.group, version, d.kind, d.plural, d.namespaced⟩

end Definition

structure StatusRules where
  tables : List (Collection × List StatusCheck)
  kinds : List GroupKind
  catalog : Catalog
  deriving DecidableEq, Repr, Inhabited

namespace StatusRules

def empty : StatusRules := ⟨[], [], .empty⟩

def isEmpty (rules : StatusRules) : Bool :=
  rules.tables.isEmpty

/-- The newest table of a collection stands first. -/
def addVersion (d : Definition) (rules : StatusRules) (version : String) : StatusRules :=
  let r := d.resource version
  { rules with
    catalog := rules.catalog.add r
    tables := (r.collection, d.checks) :: rules.tables.filter (·.1 ≠ r.collection) }

def add (rules : StatusRules) (d : Definition) : StatusRules :=
  let rules := d.versions.foldl (addVersion d) rules
  if d.groupKind ∈ rules.kinds then rules
  else { rules with kinds := rules.kinds ++ [d.groupKind] }

def ofDefinitions (definitions : List Definition) : StatusRules :=
  definitions.foldl add empty

/-- The rules that a list of documents defines; the first faulty one is reported. -/
def ofDocuments (words : StatusCheck.Wording) (documents : List Json) :
    Except Error StatusRules := do
  let definitions ← documents.mapM (Definition.ofDocument words)
  .ok (ofDefinitions (definitions.filterMap fun d => d))

def ofCluster (words : StatusCheck.Wording) (cluster : Cluster σ) :
    StateM σ (Except Error StatusRules) := do
  match Catalog.builtin.resolve ⟨"apiextensions.k8s.io", Document.definitionKind⟩ none with
  | .error e => pure (.error e)
  | .ok r =>
    match ← cluster.list r none with
    | .error e => pure (.error e)
    | .ok documents => pure (ofDocuments words documents)

/-- The status of an object by the table of a collection; without a table it is unknown. -/
def statusIn (rules : StatusRules) (c : Collection) (object : Json) : Except Error Status :=
  match rules.tables.lookup c with
  | some checks => StatusCheck.firstMatch object checks
  | none => .ok .unknown

def assess (rules : StatusRules) (object : Json) : Except Error Assessment := do
  let t ← Document.typeMeta object
  let r ← rules.catalog.resolve t.groupKind (some t.version)
  let status ← rules.statusIn r.collection object
  .ok (.ofCheck t.kind status)

/-- The status of the live object behind a document, read in the document's own version. A
namespaced document without a namespace is looked up in the default one. -/
def statusOf (rules : StatusRules) (cluster : Cluster σ) (document : Json) :
    StateM σ (Except Error Status) := do
  let name := (Document.name? document).getD ""
  match Document.typeMeta document with
  | .error e => pure (.error e)
  | .ok t =>
    match rules.catalog.find? t.groupKind (some t.version) with
    | none => pure (.error (.resourceNotFound name))
    | some r =>
      let ns := if r.namespaced then
          some ((Document.namespace? document).getD defaultNamespace)
        else none
      match ← cluster.get r ns name with
      | .error e => pure (.error e)
      | .ok live => pure (rules.statusIn r.collection live)

end StatusRules

end StatusWatch
