import RecipeEngine.Yaml.Lexer

namespace RecipeEngine.Yaml

inductive Node where
  | scalar (tag : Option String) (style : Style) (text : String)
  | sequence (tag : Option String) (items : List Node)
  | mapping (tag : Option String) (entries : List (Node × Node))
  | reference (number : Nat)

namespace Node

def empty : Node := .scalar none .plain ""

structure Builder where
  tokens : List Located
  handles : List (String × String) := []
  /-- The number of the last anchor of each name. -/
  numbers : List (String × Nat) := []
  /-- The nodes that have anchors, by number; of several under one number the first counts. -/
  anchored : List (Nat × Node) := []

abbrev Build := StateT Builder (Except Problem)

/-- The next token; behind the last one the text ends. -/
def peek : Build Token := do
  match (← get).tokens with
  | [] => pure .streamEnd
  | t :: _ => pure t.token

def advance : Build Unit :=
  modify fun b => { b with tokens := b.tokens.tail }

def fail {α : Type} (cause : Cause) : Build α := do
  throw ⟨cause, (← get).tokens.head?.map (·.mark)⟩

/-- Registers an anchor. It gets the number of names known so far, also if its name is known. -/
def addAnchor (name : String) : Build Nat := do
  let b ← get
  let number := b.numbers.length
  set { b with numbers := (name, number) :: b.numbers.filter (·.1 ≠ name) }
  pure number

def store (number : Option Nat) (node : Node) : Build Node := do
  match number with
  | some n => modify fun b => { b with anchored := (n, node) :: b.anchored }
  | none => pure ()
  pure node

def fullTag (name : TagName) : Build String := do
  if name.handle.isEmpty then pure name.suffix
  else match (← get).handles.find? (·.1 = name.handle) with
    | some (_, lead) => pure (lead ++ name.suffix)
    | none => fail (.undefinedTagHandle name.handle)

/-- What may stand before the content of a node. -/
structure Properties where
  anchor : Option String := none
  tag : Option TagName := none

/-- Reads an anchor and a tag, in either order, each at most once. -/
def properties : Build Properties := do
  match ← peek with
  | .anchor name =>
    advance
    match ← peek with
    | .tag tag => advance; pure ⟨some name, some tag⟩
    | _ => pure ⟨some name, none⟩
  | .tag tag =>
    advance
    match ← peek with
    | .anchor name => advance; pure ⟨some name, some tag⟩
    | _ => pure ⟨none, some tag⟩
  | _ => pure {}

/-- The tag that a written scalar keeps: a lone exclamation mark is dropped. -/
def scalarTag (tag : Option String) : Option String := tag.filter (· ≠ "!")

mutual

/-- Reads a node. Block collections are allowed in block context only, and an indentless sequence
only as the key or the value of a block mapping. -/
def readNode (block indentless : Bool) : Nat → Build Node
  | 0 => fail .nestedTooDeeply
  | room + 1 => do
    match ← peek with
    | .reference name =>
      match (← get).numbers.find? (·.1 = name) with
      | some (_, number) => advance; pure (.reference number)
      | none => fail (.unknownAnchor name)
    | _ =>
      let given ← properties
      let tag ← given.tag.mapM fullTag
      let number ← given.anchor.mapM addAnchor
      match ← peek with
      | .entry =>
        if indentless then store number (.sequence tag (← readIndentless room))
        else if given.anchor.isSome || given.tag.isSome then store number (.scalar tag .plain "")
        else fail .missingNode
      | .scalar style text => advance; store number (.scalar (scalarTag tag) style text)
      | .sequenceOpen => advance; store number (.sequence tag (← readFlowItems true room))
      | .mappingOpen => advance; store number (.mapping tag (← readFlowEntries true room))
      | .blockSequenceStart =>
        if block then do advance; store number (.sequence tag (← readBlockItems room))
        else if given.anchor.isSome || given.tag.isSome then store number (.scalar tag .plain "")
        else fail .missingNode
      | .blockMappingStart =>
        if block then do advance; store number (.mapping tag (← readBlockEntries room))
        else if given.anchor.isSome || given.tag.isSome then store number (.scalar tag .plain "")
        else fail .missingNode
      | _ =>
        if given.anchor.isSome || given.tag.isSome then store number (.scalar tag .plain "")
        else fail .missingNode

def readOptional (block indentless : Bool) (ends : List Token) : Nat → Build Node
  | 0 => fail .nestedTooDeeply
  | room + 1 => do
    if ends.contains (← peek) then pure empty else readNode block indentless room

/-- Reads the entries of a block sequence, up to the end of the block. -/
def readBlockItems : Nat → Build (List Node)
  | 0 => fail .nestedTooDeeply
  | room + 1 => do
    match ← peek with
    | .entry =>
      advance
      let item ← readOptional true false [.entry, .blockEnd] room
      return item :: (← readBlockItems room)
    | .blockEnd => advance; pure []
    | _ => fail .missingEntry

/-- Reads the entries of a sequence at the column of the mapping around it. -/
def readIndentless : Nat → Build (List Node)
  | 0 => fail .nestedTooDeeply
  | room + 1 => do
    match ← peek with
    | .entry =>
      advance
      let item ← readOptional true false [.entry, .key, .value, .blockEnd] room
      return item :: (← readIndentless room)
    | _ => pure []

/-- Reads the entries of a block mapping, up to the end of the block. -/
def readBlockEntries : Nat → Build (List (Node × Node))
  | 0 => fail .nestedTooDeeply
  | room + 1 => do
    match ← peek with
    | .key =>
      advance
      let key ← readOptional true true [.key, .value, .blockEnd] room
      let value ← match ← peek with
        | .value => advance; readOptional true true [.key, .value, .blockEnd] room
        | _ => pure empty
      return (key, value) :: (← readBlockEntries room)
    | .blockEnd => advance; pure []
    | _ => fail .missingKey

def readFlowItems (first : Bool) : Nat → Build (List Node)
  | 0 => fail .nestedTooDeeply
  | room + 1 => do
    if (← peek) = .sequenceClose then advance; return []
    if !first then
      if (← peek) = .separator then advance else fail .missingSeparator
    match ← peek with
    | .sequenceClose => advance; pure []
    | .key =>
      advance
      let pair ← readSinglePair room
      return pair :: (← readFlowItems false room)
    | _ =>
      let item ← readNode false false room
      return item :: (← readFlowItems false room)

/-- Reads a key and a value that stand as an item between square brackets. A token in the place of
the key is passed. -/
def readSinglePair : Nat → Build Node
  | 0 => fail .nestedTooDeeply
  | room + 1 => do
    let key ←
      if [Token.value, .separator, .sequenceClose].contains (← peek) then do advance; pure empty
      else readNode false false room
    let value ← match ← peek with
      | .value => advance; readOptional false false [.separator, .sequenceClose] room
      | _ => pure empty
    return .mapping none [(key, value)]

def readFlowEntries (first : Bool) : Nat → Build (List (Node × Node))
  | 0 => fail .nestedTooDeeply
  | room + 1 => do
    if (← peek) = .mappingClose then advance; return []
    if !first then
      if (← peek) = .separator then advance else fail .missingSeparator
    match ← peek with
    | .mappingClose => advance; pure []
    | .key =>
      advance
      let key ← readOptional false false [.value, .separator, .mappingClose] room
      let value ← match ← peek with
        | .value => advance; readOptional false false [.separator, .mappingClose] room
        | _ => pure empty
      return (key, value) :: (← readFlowEntries false room)
    | _ =>
      let key ← readNode false false room
      return (key, empty) :: (← readFlowEntries false room)

end

def standardHandles : List (String × String) := [("!", "!"), ("!!", "tag:yaml.org,2002:")]

/-- Reads directives: at most one version, which is 1.1 or 1.2, and each tag handle once. -/
def readDirectives : Nat → Bool → List (String × String) → Build (Bool × List (String × String))
  | 0, _, _ => fail .badDirective
  | room + 1, versioned, handles => do
    match ← peek with
    | .versionDirective major minor =>
      if versioned || major ≠ 1 || (minor ≠ 1 && minor ≠ 2) then fail .badDirective
      else advance; readDirectives room true handles
    | .tagDirective handle lead =>
      if handles.any (·.1 = handle) then fail .badDirective
      else advance; readDirectives room versioned ((handle, lead) :: handles)
    | _ => pure (versioned || !handles.isEmpty, handles)

/-- Reads the only document of a text, if there is one: marked by hyphens if it has directives, and
possibly ended by dots. -/
def readDocument (room : Nat) : Build (Option Node) := do
  if (← peek) = .streamEnd then return none
  let (directives, handles) ← readDirectives room false []
  modify fun b => { b with handles := handles ++ standardHandles }
  let node ←
    if (← peek) = .documentStart then do
      advance
      match ← peek with
      | .versionDirective .. | .tagDirective .. | .documentStart | .documentEnd | .streamEnd =>
        pure empty
      | _ => readNode true false room
    else if directives then fail .missingDocumentStart
    else readNode true false room
  let rec skipEnds : Nat → Build Unit
    | 0 => pure ()
    | n + 1 => do if (← peek) = .documentEnd then advance; skipEnds n
  skipEnds room
  match ← peek with
  | .streamEnd => pure (some node)
  | .documentStart => fail .severalDocuments
  | _ => fail .missingDocumentStart

def depthLimit : Nat := 128

mutual

/-- The number of steps in which a node is written down: one for a leaf, two for a collection and
those of what is in it. -/
def size : Node → Nat
  | .scalar .. => 1
  | .reference _ => 1
  | .sequence _ items => 2 + sizeOfItems items
  | .mapping _ entries => 2 + sizeOfEntries entries

def sizeOfItems : List Node → Nat
  | [] => 0
  | item :: rest => size item + sizeOfItems rest

def sizeOfEntries : List (Node × Node) → Nat
  | [] => 0
  | (key, value) :: rest => size key + size value + sizeOfEntries rest

end

abbrev Expand := StateT Nat (Except Problem)

/-- What a reference refers to; the number of references is limited. -/
def follow (anchored : List (Nat × Node)) (limit : Nat) : Node → Expand Node
  | .reference number => do
    modify (· + 1)
    if limit < (← get) then throw ⟨.tooManyAliases, none⟩
    match anchored.find? (·.1 = number) with
    | some (_, target) => pure target
    | none => throw ⟨.nestedTooDeeply, none⟩
  | node => pure node

def expand (anchored : List (Nat × Node)) (limit : Nat) : Nat → Node → Expand Node
  | 0, node => do
    match ← follow anchored limit node with
    | .scalar tag style text => pure (.scalar tag style text)
    | _ => throw ⟨.nestedTooDeeply, none⟩
  | room + 1, node => do
    match ← follow anchored limit node with
    | .sequence tag items => return .sequence tag (← items.mapM (expand anchored limit room))
    | .mapping tag entries =>
      return .mapping tag (← entries.mapM fun (key, value) => do
        let key ← expand anchored limit room key
        let value ← expand anchored limit room value
        pure (key, value))
    | other => pure other

/-- The node that a text stands for; none if it holds no document. -/
def parse (text : String) : Except Problem (Option Node) := do
  let tokens ← Lexer.tokens text
  let (node, built) ← (readDocument (4 * tokens.length + 4)).run { tokens }
  match node with
  | none => .ok none
  | some node =>
    let (node, _) ← (expand built.anchored (100 * node.size) depthLimit node).run 0
    .ok (some node)

end Node

end RecipeEngine.Yaml
