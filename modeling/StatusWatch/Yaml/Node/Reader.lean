import StatusWatch.Yaml.Node
import StatusWatch.Yaml.Scalar

/-!
Building nodes from tokens. Where a node may be left out, an empty plain scalar stands for it.
-/

namespace StatusWatch.Yaml.Node

abbrev Tree := Node String

abbrev TagHandles := List (String × String)

def standardHandles : TagHandles :=
  [("!", "!"), ("!!", Scalar.standardTags)]

def fullTag? (handles : TagHandles) (handle suffix : String) : Option String :=
  if handle = "" then some suffix else (handles.lookup handle).map (· ++ suffix)

def properties? (handles : TagHandles) :
    List Token → Option (NodeProperties × List Token)
  | .anchor name :: .tag handle suffix :: rest
  | .tag handle suffix :: .anchor name :: rest => do
    let tag ← fullTag? handles handle suffix
    some (⟨some name, some tag⟩, rest)
  | .anchor name :: rest => some (⟨some name, none⟩, rest)
  | .tag handle suffix :: rest => do
    let tag ← fullTag? handles handle suffix
    some (⟨none, some tag⟩, rest)
  | tokens => some (⟨none, none⟩, tokens)

inductive Place where
  /-- In a flow collection, where no block can begin. -/
  | flow
  | block
  /-- In a block mapping, where a sequence need not be indented. -/
  | blockEntry
  deriving DecidableEq

/-- Whether the next token leaves out an item of a block sequence that is indented, or of one that
is not. -/
def endsBlockItem (indented : Bool) : List Token → Bool
  | .blockEntry :: _ => true
  | .blockEnd :: _ => true
  | .key :: _ => !indented
  | .value :: _ => !indented
  | _ => false

def endsBlockEntry : List Token → Bool
  | .key :: _ => true
  | .value :: _ => true
  | .blockEnd :: _ => true
  | _ => false

mutual

/-- A node at the head of the tokens. Each call takes a token or hands over to one that does. -/
def node? (handles : TagHandles) (place : Place) : Nat → List Token → Option (Tree × List Token)
  | 0, _ => none
  | _ + 1, .alias name :: rest => some (.alias name, rest)
  | fuel + 1, tokens => do
    let (p, tokens) ← properties? handles tokens
    match tokens with
    | .scalar text plain :: rest => some (.scalar p text plain, rest)
    | .flowSequence :: rest => do
      let (items, rest) ← flowItems? handles true fuel rest
      some (.sequence p items, rest)
    | .flowMapping :: rest => do
      let (entries, rest) ← flowEntries? handles true fuel rest
      some (.mapping p entries, rest)
    | tokens =>
      match place, tokens with
      | .blockEntry, .blockEntry :: _ => do
        let (items, rest) ← blockItems? handles false fuel tokens
        some (.sequence p items, rest)
      | .block, .blockSequence :: rest | .blockEntry, .blockSequence :: rest => do
        let (items, rest) ← blockItems? handles true fuel rest
        some (.sequence p items, rest)
      | .block, .blockMapping :: rest | .blockEntry, .blockMapping :: rest => do
        let (entries, rest) ← blockEntries? handles fuel rest
        some (.mapping p entries, rest)
      | _, tokens =>
        if p.anchor.isSome ∨ p.tag.isSome then some (.scalar p "" true, tokens) else none

/-- The items of a block sequence. One that is not indented has no token for its end. -/
def blockItems? (handles : TagHandles) (indented : Bool) :
    Nat → List Token → Option (List Tree × List Token)
  | 0, _ => none
  | fuel + 1, .blockEntry :: rest => do
    let (item, rest) ←
      if endsBlockItem indented rest then some (empty, rest)
      else node? handles .block fuel rest
    let (items, rest) ← blockItems? handles indented fuel rest
    some (item :: items, rest)
  | _ + 1, tokens =>
    match indented, tokens with
    | true, .blockEnd :: rest => some ([], rest)
    | true, _ => none
    | false, rest => some ([], rest)

def blockEntries? (handles : TagHandles) :
    Nat → List Token → Option (List (Tree × Tree) × List Token)
  | 0, _ => none
  | fuel + 1, .key :: rest => do
    let (key, rest) ←
      if endsBlockEntry rest then some (empty, rest) else node? handles .blockEntry fuel rest
    let (value, rest) ←
      match rest with
      | .value :: rest =>
        if endsBlockEntry rest then some (empty, rest) else node? handles .blockEntry fuel rest
      | rest => some (empty, rest)
    let (entries, rest) ← blockEntries? handles fuel rest
    some ((key, value) :: entries, rest)
  | _ + 1, .blockEnd :: rest => some ([], rest)
  | _, _ => none

/-- The items of a flow sequence up to its closing bracket; all but the first stand behind a comma.
A key makes an item a mapping of one entry. -/
def flowItems? (handles : TagHandles) (first : Bool) :
    Nat → List Token → Option (List Tree × List Token)
  | 0, _ => none
  | _ + 1, .flowSequenceEnd :: rest => some ([], rest)
  | fuel + 1, tokens => do
    let tokens ←
      match first, tokens with
      | true, tokens => some tokens
      | false, .flowEntry :: rest => some rest
      | false, _ => none
    match tokens with
    | .flowSequenceEnd :: rest => some ([], rest)
    | .key :: rest => do
      let (key, rest) ←
        match rest with
        | .value :: rest | .flowEntry :: rest | .flowSequenceEnd :: rest => some (empty, rest)
        | rest => node? handles .flow fuel rest
      let (value, rest) ←
        match rest with
        | .value :: .flowEntry :: rest => some (empty, .flowEntry :: rest)
        | .value :: .flowSequenceEnd :: rest => some (empty, .flowSequenceEnd :: rest)
        | .value :: rest => node? handles .flow fuel rest
        | rest => some (empty, rest)
      let (items, rest) ← flowItems? handles false fuel rest
      some (.mapping ⟨none, none⟩ [(key, value)] :: items, rest)
    | tokens => do
      let (item, rest) ← node? handles .flow fuel tokens
      let (items, rest) ← flowItems? handles false fuel rest
      some (item :: items, rest)

def flowEntries? (handles : TagHandles) (first : Bool) :
    Nat → List Token → Option (List (Tree × Tree) × List Token)
  | 0, _ => none
  | _ + 1, .flowMappingEnd :: rest => some ([], rest)
  | fuel + 1, tokens => do
    let tokens ←
      match first, tokens with
      | true, tokens => some tokens
      | false, .flowEntry :: rest => some rest
      | false, _ => none
    match tokens with
    | .flowMappingEnd :: rest => some ([], rest)
    | .key :: rest => do
      let (key, rest) ←
        match rest with
        | .value :: _ | .flowEntry :: _ | .flowMappingEnd :: _ => some (empty, rest)
        | rest => node? handles .flow fuel rest
      let (value, rest) ←
        match rest with
        | .value :: .flowEntry :: rest => some (empty, .flowEntry :: rest)
        | .value :: .flowMappingEnd :: rest => some (empty, .flowMappingEnd :: rest)
        | .value :: rest => node? handles .flow fuel rest
        | rest => some (empty, rest)
      let (entries, rest) ← flowEntries? handles false fuel rest
      some ((key, value) :: entries, rest)
    | tokens => do
      let (key, rest) ← node? handles .flow fuel tokens
      let (entries, rest) ← flowEntries? handles false fuel rest
      some ((key, empty) :: entries, rest)

end

/-- The directives before a document: at most one version, of those that are known, and at most one
meaning for each handle. -/
def directives? : List Token → Option (Option Nat × TagHandles × List Token)
  | .version major minor :: rest => do
    let (version, handles, rest) ← directives? rest
    if version.isNone ∧ major = 1 ∧ (minor = 1 ∨ minor = 2) then some (some minor, handles, rest)
    else none
  | .tagShorthand handle stem :: rest => do
    let (version, handles, rest) ← directives? rest
    if handles.any (·.1 = handle) then none
    else some (version, (handle, stem) :: handles, rest)
  | tokens => some (none, [], tokens)

def endsDocument : List Token → Bool
  | .version .. :: _ => true
  | .tagShorthand .. :: _ => true
  | .documentStart :: _ => true
  | .documentEnd :: _ => true
  | .streamEnd :: _ => true
  | _ => false

def content? (handles : TagHandles) (fuel : Nat) (tokens : List Token) :
    Option (Tree × List Token) := do
  let (tree, rest) ←
    if endsDocument tokens then some (empty, tokens)
    else node? handles .block fuel tokens
  match rest with
  | .documentEnd :: rest => some (tree, rest)
  | .fault :: _ => none
  | rest => some (tree, rest)

def marked? (fuel : Nat) (tokens : List Token) : Option (Tree × List Token) := do
  let (_, handles, rest) ← directives? tokens
  match rest with
  | .documentStart :: rest => content? (handles ++ standardHandles) fuel rest
  | _ => none

/-- Only the first document may begin without a token for its start. -/
def document? (first : Bool) (fuel : Nat) (tokens : List Token) : Option (Tree × List Token) :=
  match tokens with
  | .version .. :: _ | .tagShorthand .. :: _ | .documentStart :: _ => marked? fuel tokens
  | tokens => if first then node? standardHandles .block fuel tokens >>= atEnd else none
where
  atEnd : Tree × List Token → Option (Tree × List Token)
    | (tree, .documentEnd :: rest) => some (tree, rest)
    | (_, .fault :: _) => none
    | (tree, rest) => some (tree, rest)

def skipDocumentEnds : List Token → List Token
  | .documentEnd :: rest => skipDocumentEnds rest
  | tokens => tokens

def documents (limit : Nat) (first : Bool) : Nat → List Token → List (Option Tree)
  | 0, _ => [none]
  | fuel + 1, tokens =>
    let tokens := if first then tokens else skipDocumentEnds tokens
    match tokens with
    | [] => []
    | .streamEnd :: _ => []
    | tokens =>
      match document? first limit tokens with
      | none => [none]
      | some (tree, rest) => some tree :: documents limit false fuel rest

end StatusWatch.Yaml.Node
