import TypedScalar.Yaml.Graph
import TypedScalar.Yaml.Token

/-! Reading the node graph of a stream of at most one document from its tokens. Tokens are asked for one by
one, so that a fault of the structure is found before one of the text behind it. -/

namespace TypedScalar.Yaml

/-- The state of reading nodes: the tokens ahead, the tag handles, the nodes that have names, and the nodes
so far. -/
structure Composer where
  scanner : Scanner
  handles : List (String × String)
  anchors : List (String × Nat)
  graph : Graph

abbrev Composing := StateT Composer (Except Fault)

namespace Composer

/-- How deep collections may be nested: each takes two nested calls, and this is what the interpreter's limit of
a thousand leaves beside the loader's own. -/
def depthLimit : Nat := 490

def peek : Composing Token := do
  let c ← get
  let (t, s) ← c.scanner.peek
  set { c with scanner := s }
  return t

/-- Takes the first token, which has been looked at. -/
def skip : Composing Unit := modify fun c => { c with scanner := c.scanner.take }

def add (n : Node) : Composing Nat := modifyGet fun c =>
  let (number, graph) := c.graph.add n
  (number, { c with graph := graph })

def setContent (n : Nat) (content : Content) : Composing Unit :=
  modify fun c => { c with graph := c.graph.setContent n content }

/-- A name may be given once. -/
def checkAnchor : Option String → Composing Unit
  | none => return
  | some a => do if (← get).anchors.any (·.1 == a) then throw (.repeatedAnchor a)

/-- A further node under a name. -/
def addNamed (anchor : Option String) (n : Node) : Composing Nat := do
  checkAnchor anchor
  let number ← add n
  match anchor with
  | none => pure ()
  | some a => modify fun c => { c with anchors := (a, number) :: c.anchors }
  return number

/-- What stands where a node is left out. -/
def addEmpty : Composing Nat := add ⟨.null, .scalar ""⟩

/-- The node that an alias refers to. -/
def named (a : String) : Composing Nat := do
  match (← get).anchors.lookup a with
  | some n => return n
  | none => throw (.undefinedAlias a)

/-- The name and tag in front of a node, in either order. -/
def properties : Composing (Option String × Option (Option String × String)) := do
  match ← peek with
  | .anchor a =>
    skip
    match ← peek with
    | .tag h s => skip; return (some a, some (h, s))
    | _ => return (some a, none)
  | .tag h s =>
    skip
    match ← peek with
    | .anchor a => skip; return (some a, some (h, s))
    | _ => return (none, some (h, s))
  | _ => return (none, none)

/-- The tag in full. -/
def fullTag : Option (Option String × String) → Composing (Option String)
  | none => return none
  | some (none, suffix) => return (some suffix)
  | some (some h, suffix) => do
    match (← get).handles.lookup h with
    | some start => return (some (start ++ suffix))
    | none => throw (.undefinedHandle h)

/-- The tag of a text. The lone exclamation mark asks for the tag that a plain text would have. -/
def textTag (tag : Option String) (plain : Bool) (text : String) : Tag :=
  match tag with
  | none => if plain then Plain.tag text else .string
  | some uri => if uri = "!" then Plain.tag text else .ofUri uri

def collectionTag (tag : Option String) (otherwise : Tag) : Tag :=
  match tag with
  | none => otherwise
  | some uri => if uri = "!" then otherwise else .ofUri uri

/-- What the first token of a node begins. -/
inductive Start
  | text (s : String) (plain : Bool)
  | indentlessItems
  | blockItems
  | blockEntries
  | flowItems
  | flowEntries
  | nothing

/-- Block collections may begin only in block context, and a sequence without indentation of its own only as
a part of a block mapping. -/
def Start.ofToken (block indentless : Bool) : Token → Start
  | .scalar s plain => text s plain
  | .blockEntry => if indentless then indentlessItems else nothing
  | .blockSequenceStart => if block then blockItems else nothing
  | .blockMappingStart => if block then blockEntries else nothing
  | .flowSequenceStart => flowItems
  | .flowMappingStart => flowEntries
  | _ => nothing

/-- One level deeper, if there is one. -/
def deeper {α : Type} (depth : Nat) (body : Nat → Composing α) : Composing α :=
  match depth with
  | 0 => throw .nestedTooDeeply
  | depth + 1 => body depth

/-- A sequence whose items are read inside it. -/
def readSequence (anchor tag : Option String) (depth : Nat) (items : Nat → Composing (List Nat)) :
    Composing Nat := do
  let n ← addNamed anchor ⟨collectionTag tag .sequence, .sequence []⟩
  setContent n (.sequence (← deeper depth items))
  return n

/-- A mapping whose entries are read inside it. -/
def readMapping (anchor tag : Option String) (depth : Nat) (entries : Nat → Composing (List (Nat × Nat))) :
    Composing Nat := do
  let n ← addNamed anchor ⟨collectionTag tag .mapping, .mapping []⟩
  setContent n (.mapping (← deeper depth entries))
  return n

mutual

/-- A node, at most `depth` levels deep. -/
def node (block indentless : Bool) (depth : Nat) : Nat → Composing Nat
  | 0 => throw .misplacedToken
  | fuel + 1 => do
    match ← peek with
    | .alias a => skip; named a
    | _ =>
      let (anchor, written) ← properties
      let tag ← fullTag written
      match Start.ofToken block indentless (← peek) with
      | .text s plain => skip; addNamed anchor ⟨textTag tag plain s, .scalar s⟩
      | .indentlessItems => readSequence anchor tag depth fun d => indentlessItems d fuel
      | .blockItems => readSequence anchor tag depth fun d => do skip; blockItems d fuel
      | .flowItems => readSequence anchor tag depth fun d => do skip; flowItems true d fuel
      | .blockEntries => readMapping anchor tag depth fun d => do skip; blockEntries d fuel
      | .flowEntries => readMapping anchor tag depth fun d => do skip; flowEntries true d fuel
      | .nothing =>
        if anchor.isNone && tag.isNone then throw .misplacedToken
        else addNamed anchor ⟨textTag tag true "", .scalar ""⟩
termination_by structural fuel => fuel

/-- A node, or nothing before one of the given tokens. -/
def nodeUnless (stops : List Token) (block indentless : Bool) (depth : Nat) : Nat → Composing Nat
  | 0 => throw .misplacedToken
  | fuel + 1 => do if stops.contains (← peek) then addEmpty else node block indentless depth fuel
termination_by structural fuel => fuel

/-- The node behind a colon, or nothing where there is no colon. -/
def valueUnless (stops : List Token) (block indentless : Bool) (depth : Nat) : Nat → Composing Nat
  | 0 => throw .misplacedToken
  | fuel + 1 => do
    if (← peek) = .value then
      skip
      nodeUnless stops block indentless depth fuel
    else addEmpty
termination_by structural fuel => fuel

def blockItems (depth : Nat) : Nat → Composing (List Nat)
  | 0 => throw .misplacedToken
  | fuel + 1 => do
    match ← peek with
    | .blockEntry =>
      skip
      let n ← nodeUnless [.blockEntry, .blockEnd] true false depth fuel
      return n :: (← blockItems depth fuel)
    | .blockEnd => skip; return []
    | _ => throw .misplacedToken
termination_by structural fuel => fuel

def indentlessItems (depth : Nat) : Nat → Composing (List Nat)
  | 0 => throw .misplacedToken
  | fuel + 1 => do
    match ← peek with
    | .blockEntry =>
      skip
      let n ← nodeUnless [.blockEntry, .key, .value, .blockEnd] true false depth fuel
      return n :: (← indentlessItems depth fuel)
    | _ => return []
termination_by structural fuel => fuel

def blockEntries (depth : Nat) : Nat → Composing (List (Nat × Nat))
  | 0 => throw .misplacedToken
  | fuel + 1 => do
    match ← peek with
    | .key =>
      skip
      let k ← nodeUnless [.key, .value, .blockEnd] true true depth fuel
      let v ← valueUnless [.key, .value, .blockEnd] true true depth fuel
      return (k, v) :: (← blockEntries depth fuel)
    | .blockEnd => skip; return []
    | _ => throw .misplacedToken
termination_by structural fuel => fuel

/-- The rest of a flow sequence. A key in it makes a mapping of one entry. -/
def flowItems (first : Bool) (depth : Nat) : Nat → Composing (List Nat)
  | 0 => throw .misplacedToken
  | fuel + 1 => do
    if (← peek) = .flowSequenceEnd then
      skip
      return []
    if !first then
      if (← peek) = .flowEntry then skip else throw .misplacedToken
    match ← peek with
    | .flowSequenceEnd => skip; return []
    | .key =>
      let n ← readMapping none none depth fun d => do
        skip
        let k ← nodeUnless [.value, .flowEntry, .flowSequenceEnd] false false d fuel
        let v ← valueUnless [.flowEntry, .flowSequenceEnd] false false d fuel
        return [(k, v)]
      return n :: (← flowItems false depth fuel)
    | _ =>
      let n ← node false false depth fuel
      return n :: (← flowItems false depth fuel)
termination_by structural fuel => fuel

def flowEntries (first : Bool) (depth : Nat) : Nat → Composing (List (Nat × Nat))
  | 0 => throw .misplacedToken
  | fuel + 1 => do
    if (← peek) = .flowMappingEnd then
      skip
      return []
    if !first then
      if (← peek) = .flowEntry then skip else throw .misplacedToken
    match ← peek with
    | .flowMappingEnd => skip; return []
    | .key =>
      skip
      let k ← nodeUnless [.value, .flowEntry, .flowMappingEnd] false false depth fuel
      let v ← valueUnless [.flowEntry, .flowMappingEnd] false false depth fuel
      return (k, v) :: (← flowEntries false depth fuel)
    | _ =>
      let k ← node false false depth fuel
      let v ← addEmpty
      return (k, v) :: (← flowEntries false depth fuel)
termination_by structural fuel => fuel

end

def defaultHandles : List (String × String) := [("!", "!"), ("!!", Tag.namespaceUri)]

/-- The directives in front of a document, which define tag handles. There is one version at most, of major
number one, and each handle is defined once. -/
def directives (versioned : Bool) (handles : List (String × String)) : Nat → Composing Unit
  | 0 => throw .misplacedDirective
  | fuel + 1 => do
    match ← peek with
    | .directive d =>
      skip
      match d with
      | .version major =>
        if versioned || major != 1 then throw .misplacedDirective else directives true handles fuel
      | .tagHandle h s =>
        if handles.any (·.1 == h) then throw .misplacedDirective
        else directives versioned ((h, s) :: handles) fuel
      | .other => directives versioned handles fuel
    | _ => modify fun c => { c with handles := handles ++ defaultHandles }

/-- The directives of a document and the marker that must follow. -/
def documentStart (fuel : Nat) : Composing Unit := do
  directives false [] fuel
  if (← peek) = .documentStart then skip else throw .misplacedDirective

/-- The document's node, where there is one. -/
def document (fuel : Nat) : Composing (Option Nat) := do
  match ← peek with
  | .streamEnd => return none
  | .directive _ | .documentStart =>
    documentStart fuel
    match ← peek with
    | .directive _ | .documentStart | .documentEnd | .streamEnd => return some (← addEmpty)
    | _ => return some (← node true false depthLimit fuel)
  | _ => return some (← node true false depthLimit fuel)

def skipDocumentEnds : Nat → Composing Unit
  | 0 => return
  | fuel + 1 => do
    if (← peek) = .documentEnd then
      skip
      skipDocumentEnds fuel

/-- The document's node, behind which the stream must end. -/
def stream (fuel : Nat) : Composing (Option Nat) := do
  let root ← document fuel
  skipDocumentEnds fuel
  if (← peek) ≠ .streamEnd then
    documentStart fuel
    throw .secondDocument
  return root

end Composer

/-- The graph of a text as a stream, and its root; an empty stream has none. No character gives rise to more
than five tokens. -/
def Graph.ofText (text : List Char) : Except Fault (Option Nat × Graph) :=
  (Scanner.ofText? text).bind fun scanner =>
    ((Composer.stream (20 * text.length + 40)).run ⟨scanner, Composer.defaultHandles, [], .empty⟩).map
      fun (root, c) => (root, c.graph)

end TypedScalar.Yaml
