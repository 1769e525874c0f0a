import StatusWatch.Yaml.Node.Aliases
import StatusWatch.Yaml.Node.Reader

/-!
What is shared by all ways to read the contents of a document: aliases stand for the nodes that
they mean, and neither they nor the collections inside one another may be too many.
-/

namespace StatusWatch.Yaml.Node

def depthLimit : Nat := 128

/-- How many aliases may be followed for each mark of a document. -/
def aliasesPerMark : Nat := 100

structure Meanings where
  anchors : Anchors
  limit : Nat

abbrev Reading := StateT Nat Option

def follow (m : Meanings) : Node Nat → Reading (Node Nat)
  | .alias number => do
    modify (· + 1)
    if m.limit < (← get) then failure
    m.anchors.find? number
  | node => pure node

def Tree.contents? (tree : Tree) (read : Meanings → Nat → Node Nat → Reading α) : Option α := do
  let (node, anchors) ← (numbered tree).run .none
  let (contents, _) ← (read ⟨anchors, aliasesPerMark * node.size⟩ depthLimit node).run 0
  some contents

end StatusWatch.Yaml.Node
