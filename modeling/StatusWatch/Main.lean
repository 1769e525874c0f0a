import StatusWatch.Program

/-!
The program on a real machine: it reads the files that a run may look at, runs, and prints. There
is no transport to servers here, so every connection fails.
-/

namespace StatusWatch

def directoryDepth : Nat := 64

def readTree (depth : Nat) (path : String) : IO (Option FileTree) := do
  let place := (← IO.currentDir) / path
  if !(← place.pathExists) then return none
  if ← place.isDir then
    match depth with
    | 0 => return some (.directory [])
    | depth + 1 =>
      let mut entries := []
      for entry in ← place.readDir do
        match ← readTree depth (FileTree.join path entry.fileName) with
        | some tree => entries := (entry.fileName, tree) :: entries
        | none => pure ()
      return some (.directory entries)
  else
    try return some (.file (some (← IO.FS.readFile place)))
    catch _ => return some (.file none)

def readTrees (depth : Nat) (paths : List String) : IO (List (String × FileTree)) := do
  let found ← paths.mapM fun path => do
    return (← readTree depth path).map fun tree => (path, tree)
  return found.filterMap id

def keepLog (home : String) : IO Unit := do
  IO.FS.createDirAll (Program.logDirectory home)
  IO.FS.withFile (Program.logPath home) .append fun _ => pure ()

def runHere (argv : List String) : IO Exit := do
  let home := (← IO.getEnv "HOME").getD "."
  let context ← IO.getEnv "K8STATUS_CONTEXT"
  let kubeconfig := (← IO.getEnv "KUBECONFIG").getD (FileTree.join home ".kube/config")
  let own ← readTrees 0 (kubeconfig :: Program.ownPaths home)
  let named ← readTrees directoryDepth (Program.namedPaths argv)
  let around : Surroundings := {
    look := fun path => (own ++ named).lookup path
    kubeconfig := (own.lookup kubeconfig).bind FileTree.text?
    server := fun _ => .unreachable
    library := .offline
    words := fun _ => "not a list of status checks" }
  let (exit, _) := (Program.run around home context argv).run []
  if exit.logged then
    try keepLog home
    catch _ => pure ()
  return exit

end StatusWatch

def main (argv : List String) : IO UInt32 := do
  let exit ← StatusWatch.runHere argv
  IO.sleep (UInt32.ofNat (exit.waited / 1000000))
  IO.print exit.stdout
  IO.eprint exit.stderr
  return UInt32.ofNat exit.code
