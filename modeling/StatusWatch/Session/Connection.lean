import StatusWatch.Client
import StatusWatch.CommandLine
import StatusWatch.Kubeconfig
import StatusWatch.Manifest.Files
import StatusWatch.Settings

/-!
Opening a session: documents are read from files, a context is chosen, and the status rules are
taken from the documents, from further files, or from the cluster. The first of these steps that
fails is the one that is reported.
-/

namespace StatusWatch

/-- What a command finds around it: files by their paths, the text of the kubeconfig, the servers by
their addresses, and the libraries that it calls them and reads status checks with. -/
structure Surroundings where
  look : String → Option FileTree
  kubeconfig : Option String
  server : String → Server
  library : Client.Library
  words : StatusCheck.Wording

namespace Session

def pageBudget : Nat := 100000

/-- The built-in kinds, and those that the server says it serves if it is asked. A server that does
not say is not asked again. -/
def catalogFor (settings : Settings) (library : Client.Library) (server : Server) :
    Client.Exchange Catalog := do
  if settings.discovery then
    match ← (Client.discover library server).run with
    | .ok found => pure (Catalog.builtin.merge found)
    | .error _ => pure .builtin
  else pure .builtin

def rulesFrom (words : StatusCheck.Wording) (sources : CommandLine.Sources) (cluster : Cluster σ)
    (documents further : List Json) : StateM σ (Except Error StatusRules) :=
  if sources.crdsFromCluster then StatusRules.ofCluster words cluster
  else pure (StatusRules.ofDocuments words (Manifest.definitions (documents ++ further)))

def offline (outcome : Except Failure α) : ExceptT Failure Client.Exchange α :=
  ExceptT.mk (pure outcome)

def connect (around : Surroundings) (settings : Settings) (context : Option String)
    (sources : CommandLine.Sources) :
    ExceptT Failure Client.Exchange (Session (List Request)) := do
  let documents ← offline (Manifest.load around.look sources.paths)
  let further ← offline (Manifest.load around.look sources.crds)
  let endpoint ← offline (Kubeconfig.endpoint around.kubeconfig (context.or settings.context))
  let server := around.server endpoint.address
  let cluster := Client.cluster around.library server pageBudget
  let catalog ← catalogFor settings around.library server
  match ← rulesFrom around.words sources cluster documents further with
  | .error e => throw (.because "Failed to build status map" (some e))
  | .ok rules => offline (begin? cluster catalog rules documents)

end Session

end StatusWatch
