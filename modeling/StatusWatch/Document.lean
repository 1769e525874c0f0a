import StatusWatch.Error

/-!
Kubernetes objects as JSON values: the fields that every object has, labels, owner references
and status conditions.
-/

namespace StatusWatch.Document

def apiVersion? (object : Json) : Option String :=
  (object.get? "apiVersion").bind Json.str?

def kind? (object : Json) : Option String :=
  (object.get? "kind").bind Json.str?

def name? (object : Json) : Option String :=
  object.nestedStr? ["metadata", "name"]

def namespace? (object : Json) : Option String :=
  object.nestedStr? ["metadata", "namespace"]

def uid? (object : Json) : Option String :=
  object.nestedStr? ["metadata", "uid"]

structure TypeMeta where
  group : String
  version : String
  kind : String
  deriving DecidableEq, Repr

def TypeMeta.groupKind (t : TypeMeta) : GroupKind :=
  ⟨t.group, t.kind⟩

/-- A missing `apiVersion` is reported before a missing `kind`. -/
def typeMeta (object : Json) : Except Error TypeMeta :=
  match apiVersion? object, kind? object with
  | none, _ => .error (.document .noApiVersion)
  | some _, none => .error (.document .noKind)
  | some apiVersion, some kind =>
    let (group, version) := splitApiVersion apiVersion
    .ok ⟨group, version, kind⟩

def groupKind (object : Json) : Except Error GroupKind :=
  (typeMeta object).map TypeMeta.groupKind

def id (object : Json) : Except Error ObjectId := do
  let gk ← groupKind object
  match name? object with
  | some name => .ok ⟨gk, name, (namespace? object).getD ""⟩
  | none => .error (.document (.noName gk))

/-- The identifier of any value: what it lacks is empty. -/
def idOrBlank (object : Json) : ObjectId :=
  match id object with
  | .ok i => i
  | .error _ =>
    ⟨.ofApiVersion ((apiVersion? object).getD "") ((kind? object).getD ""),
      (name? object).getD "", (namespace? object).getD ""⟩

def labels (object : Json) : List (String × String) :=
  match (object.nested? ["metadata", "labels"]).bind Json.fields? with
  | some fields => fields.filterMap fun (name, value) => value.str?.map (name, ·)
  | none => []

def isControlledBy (uid : String) (object : Json) : Bool :=
  match (object.nested? ["metadata", "ownerReferences"]).bind Json.arr? with
  | some owners => owners.any fun owner =>
      (owner.get? "uid").bind Json.str? == some uid &&
        ((owner.get? "controller").bind Json.bool?).getD false
  | none => false

structure StatusCondition where
  type : String
  status : String
  reason : String
  message : String
  deriving DecidableEq, Repr

def StatusCondition.isTrue (c : StatusCondition) : Bool :=
  c.status == "True"

def StatusCondition.isFalse (c : StatusCondition) : Bool :=
  c.status == "False"

/-- An entry without a type is none. -/
def statusCondition? (entry : Json) : Option StatusCondition :=
  let text (name : String) : Option String := (entry.get? name).bind Json.str?
  (text "type").map fun type =>
    ⟨type, (text "status").getD "", (text "reason").getD "", (text "message").getD ""⟩

def statusConditions (object : Json) : List StatusCondition :=
  match (object.nested? ["status", "conditions"]).bind Json.arr? with
  | some entries => entries.filterMap statusCondition?
  | none => []

def condition? (object : Json) (type : String) : Option StatusCondition :=
  (statusConditions object).find? (·.type == type)

def describe (object : Json) : String :=
  (kind? object).getD "object" ++ "/" ++ (name? object).getD "<unnamed>"

def definitionKind : String := "CustomResourceDefinition"

def isDefinition (object : Json) : Bool :=
  kind? object == some definitionKind &&
    (apiVersion? object == some "apiextensions.k8s.io/v1" ||
      apiVersion? object == some "apiextensions.k8s.io/v1beta1")

end StatusWatch.Document
