import StatusWatch.Yaml.Node

/-!
Finding the nodes that aliases mean. Names get numbers: a new anchor takes the number of names
known before it, so a name that is used again can share a number with a later one, and of the
nodes that share one the last counts for all its aliases.
-/

namespace StatusWatch.Yaml.Node

structure Anchors where
  /-- The number of each name. -/
  numbers : List (String × Nat)
  /-- How many anchored nodes have begun. -/
  begun : Nat
  /-- The last node to take a number, by the order in which anchored nodes begin. -/
  takers : List (Nat × Nat)
  /-- Anchored nodes that are complete, by the same order. -/
  nodes : List (Nat × Node Nat)

namespace Anchors

def none : Anchors := ⟨[], 0, [], []⟩

def start (a : Anchors) (name : String) : Nat × Anchors :=
  let number := a.numbers.length
  let others := a.numbers.filter (·.1 ≠ name)
  (a.begun, { a with
    numbers := (name, number) :: others
    begun := a.begun + 1
    takers := (number, a.begun) :: a.takers })

def find? (a : Anchors) (number : Nat) : Option (Node Nat) :=
  (a.takers.lookup number).bind fun place => a.nodes.lookup place

end Anchors

abbrev Numbering := StateT Anchors Option

def begin (p : NodeProperties) : Numbering (Option Nat) := do
  match p.anchor with
  | none => pure none
  | some name =>
    let (place, anchors) := (← get).start name
    set anchors
    pure (some place)

def complete (place : Option Nat) (node : Node Nat) : Numbering (Node Nat) := do
  match place with
  | none => pure node
  | some i =>
    modify fun a => { a with nodes := (i, node) :: a.nodes }
    pure node

mutual

def numbered : Node String → Numbering (Node Nat)
  | .alias name => do
    match (← get).numbers.lookup name with
    | some number => pure (.alias number)
    | none => failure
  | .scalar p text plain => do
    complete (← begin p) (.scalar p text plain)
  | .sequence p items => do
    let place ← begin p
    complete place (.sequence p (← numberedItems items))
  | .mapping p entries => do
    let place ← begin p
    complete place (.mapping p (← numberedEntries entries))

def numberedItems : List (Node String) → Numbering (List (Node Nat))
  | [] => pure []
  | item :: rest => do
    let item ← numbered item
    pure (item :: (← numberedItems rest))

def numberedEntries : List (Node String × Node String) → Numbering (List (Node Nat × Node Nat))
  | [] => pure []
  | (key, value) :: rest => do
    let key ← numbered key
    let value ← numbered value
    pure ((key, value) :: (← numberedEntries rest))

end

mutual

/-- How many marks a node takes: two for the ends of a collection, one for each other node. -/
def size : Node α → Nat
  | .alias _ => 1
  | .scalar .. => 1
  | .sequence _ items => sizeItems items + 2
  | .mapping _ entries => sizeEntries entries + 2

def sizeItems : List (Node α) → Nat
  | [] => 0
  | item :: rest => item.size + sizeItems rest

def sizeEntries : List (Node α × Node α) → Nat
  | [] => 0
  | (key, value) :: rest => key.size + value.size + sizeEntries rest

end

end StatusWatch.Yaml.Node
