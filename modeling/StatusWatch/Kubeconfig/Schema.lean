import StatusWatch.Yaml.Datum

/-!
What a kubeconfig may hold. Fields that are not named here may hold anything.
-/

namespace StatusWatch.Kubeconfig

inductive Presence where
  | required
  /-- It may be null or absent. -/
  | optional
  /-- It may be absent but not null. -/
  | defaulted
  deriving DecidableEq, Repr

inductive Schema where
  | text
  | flag
  /-- One of several words, or a null tagged with one of them. -/
  | choice (words : List String)
  /-- Anything that JSON can express. -/
  | json
  /-- Texts under names. -/
  | texts
  | list (item : Schema)
  | record (fields : List (String × Presence × Schema))
  deriving Inhabited

open Yaml (Datum)

mutual

/-- Whether there are no tags in the data and all keys are texts. -/
def isJson : Datum → Bool
  | .scalar _ _ => true
  | .sequence items => areJson items
  | .mapping entries => haveJson entries
  | .tagged _ _ => false

def areJson : List Datum → Bool
  | [] => true
  | d :: rest => isJson d && areJson rest

def haveJson : List (Datum × Datum) → Bool
  | [] => true
  | (key, value) :: rest => key.text?.isSome && isJson value && haveJson rest

end

def isFlag (d : Datum) : Bool :=
  match d.untagged with
  | .scalar (.bool _) _ => true
  | _ => false

def isChoice (words : List String) : Datum → Bool
  | .tagged tag contents => tag ∈ words && contents.isNull
  | d => d.text?.any (· ∈ words)

namespace Schema

mutual

def admits : Schema → Datum → Bool
  | .text, d => d.text?.isSome
  | .flag, d => isFlag d
  | .choice words, d => isChoice words d
  | .json, d => isJson d
  | .texts, d => d.fields?.any fun fields => fields.all (·.2.text?.isSome)
  | .list item, d => d.items?.any fun items => items.all (admits item ·)
  | .record fields, d => d.fields?.any (admitsFields fields)

/-- No field that is named may stand twice, even if its keys differ by their tags. -/
def admitsFields : List (String × Presence × Schema) → List (String × Datum) → Bool
  | [], _ => true
  | (name, presence, schema) :: rest, entries =>
    (match entries.filter (·.1 = name) with
      | [] => presence ≠ .required
      | [(_, d)] => (presence = .optional && d.isNull) || admits schema d
      | _ => false) &&
      admitsFields rest entries

end

/-- A record in which each field may be null or absent. -/
def options (fields : List (String × Schema)) : Schema :=
  .record (fields.map fun (name, schema) => (name, .optional, schema))

def named (name : String) (schema : Schema) : Schema :=
  .list (.record [("name", .required, .text), (name, .optional, schema)])

def extensions : Schema :=
  .list (.record [("name", .required, .text), ("extension", .required, .json)])

def cluster : Schema := options [
  ("server", .text), ("insecure-skip-tls-verify", .flag), ("certificate-authority", .text),
  ("certificate-authority-data", .text), ("proxy-url", .text), ("disable-compression", .flag),
  ("tls-server-name", .text), ("extensions", extensions)]

def context : Schema := .record [
  ("cluster", .required, .text), ("user", .optional, .text), ("namespace", .optional, .text),
  ("extensions", .optional, extensions)]

def provider : Schema := .record [("name", .required, .text), ("config", .defaulted, .texts)]

def plugin : Schema := .record [
  ("apiVersion", .optional, .text), ("command", .optional, .text), ("args", .optional, .list .text),
  ("env", .optional, .list .texts),
  ("interactiveMode", .optional, .choice ["Never", "IfAvailable", "Always"]),
  ("provideClusterInfo", .defaulted, .flag)]

def user : Schema := options [
  ("username", .text), ("password", .text), ("token", .text), ("tokenFile", .text),
  ("client-certificate", .text), ("client-certificate-data", .text), ("client-key", .text),
  ("client-key-data", .text), ("as", .text), ("as-groups", .list .text),
  ("auth-provider", provider), ("exec", plugin)]

def document : Schema := options [
  ("preferences", options [("colors", .flag), ("extensions", extensions)]),
  ("clusters", named "cluster" cluster), ("users", named "user" user),
  ("contexts", named "context" context), ("current-context", .text), ("extensions", extensions),
  ("kind", .text), ("apiVersion", .text)]

end Schema

end StatusWatch.Kubeconfig
