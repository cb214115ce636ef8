import TypedScalar.Scalar.Hash
import TypedScalar.Yaml.Graph.Merge
import TypedScalar.Yaml.Scalar

/-! What the nodes of a graph stand for by their tags. A text has a value. A collection is found empty and
filled when all that was found before it has been filled, so that it may contain itself, and so that the
faults of inner collections come after those of outer ones. A mapping keeps the order of its entries, and
the last of several entries with one key gives the value. -/

namespace TypedScalar.Yaml

/-- Collections refer to their parts by the parts' nodes. -/
inductive Meaning
  | plain (v : Value)
  | list (items : List Nat)
  /-- A list of pairs. -/
  | pairs (items : List (Nat × Nat))
  | dictionary (entries : List (Nat × Nat))
  | set (elements : List Nat)

/-- The empty collection of a tag, if it is one of a collection. -/
def Tag.emptyCollection? : Tag → Option Meaning
  | sequence => some (.list [])
  | orderedMapping | pairs => some (.pairs [])
  | mapping => some (.dictionary [])
  | set => some (.set [])
  | _ => none

/-- Whether a tag is that of texts. -/
def Tag.isScalar : Tag → Bool
  | null | boolean | integer | real | binary | timestamp | string => true
  | _ => false

/-- The text that a node stands for: its own, or that of a mapping's entry under the lone equals sign. It is
followed over a number of nodes only, and a mapping may hold itself there. -/
def Graph.textWithin (g : Graph) : Nat → Nat → Except Failure String
  | 0, _ => .error (.fault .nestedTooDeeply)
  | levels + 1, n =>
    match g.content n with
    | .scalar s => .ok s
    | .sequence _ => .error (.fault .unfitNode)
    | .mapping entries =>
      match entries.find? fun e => g.tag e.1 == .value with
      | some e => g.textWithin levels e.2
      | none => .error (.fault .unfitNode)

def Graph.text (g : Graph) (n : Nat) : Except Failure String := g.textWithin followLimit n

/-- The value of a node that is no collection. -/
def Graph.plainValue (g : Graph) (n : Nat) : Except Failure Value :=
  if (g.tag n).isScalar then
    (g.text n).bind fun s =>
      if g.tag n = .timestamp ∧ (g.entries? n).isSome then .error (.error (.notAText "list"))
      else Scalar.value (g.tag n) s
  else .error (.fault .unfitNode)

/-- The graph, what its nodes have been found to stand for, and the collections to be filled. -/
structure Builder where
  graph : Graph
  meanings : Array (Option Meaning)
  waiting : List Nat

abbrev Building := StateT Builder (Except Failure)

namespace Builder

def start (g : Graph) : Builder := ⟨g, Array.replicate g.size none, []⟩

def meaning? (b : Builder) (n : Nat) : Option Meaning := b.meanings.getD n none

def setMeaning (n : Nat) (m : Meaning) : Building Unit :=
  modify fun b => { b with meanings := b.meanings.setIfInBounds n (some m) }

/-- Finds what a node stands for, if it has not been found yet. -/
def find (n : Nat) : Building Unit := do
  let b ← get
  if (b.meaning? n).isNone then
    match (b.graph.tag n).emptyCollection? with
    | some m =>
      setMeaning n m
      modify fun b => { b with waiting := b.waiting ++ [n] }
    | none => setMeaning n (.plain (← b.graph.plainValue n))

def unfit {α : Type} : Building α := throw (.fault .unfitNode)

/-- The value of a node that has been found to have one. -/
def value? (b : Builder) (n : Nat) : Option Value :=
  match b.meaning? n with
  | some (.plain v) => some v
  | _ => none

/-- Whether a node is one of those that are read as the NaN by its name. -/
def isNamedNaN (b : Builder) (n : Nat) : Bool :=
  match b.graph.tag n, b.graph.text n with
  | .real, .ok s => Scalar.namesNaN s.toList
  | _, _ => false

/-- Whether two nodes are the same key: one node, or equal values. A NaN equals no other but the named
one. -/
def sameKey (b : Builder) (m n : Nat) : Bool :=
  m == n || (b.isNamedNaN m && b.isNamedNaN n) ||
    match b.value? m, b.value? n with
    | some v, some w => v.equals w
    | _, _ => false

/-- Puts a node under a key; a key that is there already keeps its place. -/
def insertEntry (b : Builder) (key value : Nat) : List (Nat × Nat) → List (Nat × Nat)
  | [] => [(key, value)]
  | (k, v) :: rest => if b.sameKey k key then (k, value) :: rest else (k, v) :: b.insertEntry key value rest

/-- The entries of a mapping, each key once. A key must be no collection. -/
def findEntries (n : Nat) : Building (List (Nat × Nat)) := do
  let g ← ((← get).graph.withMerges n).mapError Failure.fault
  modify fun b => { b with graph := g }
  for (k, v) in (g.entries? n).getD [] do
    find k
    if ((← get).value? k).isNone then throw (.fault .unhashableKey)
    find v
  let b ← get
  return ((g.entries? n).getD []).foldl (fun acc e => b.insertEntry e.1 e.2 acc) []

/-- The pair that an item of a list of pairs is: the entry of a mapping that has just one. -/
def findPair (n : Nat) : Building (Nat × Nat) := do
  match (← get).graph.entries? n with
  | some [(k, v)] =>
    find k
    find v
    return (k, v)
  | _ => unfit

/-- Fills a collection. -/
def fill (n : Nat) : Building Unit := do
  let b ← get
  match b.meaning? n with
  | some (.list _) =>
    match b.graph.items? n with
    | some items =>
      items.forM find
      setMeaning n (.list items)
    | none => unfit
  | some (.pairs _) =>
    match b.graph.items? n with
    | some items => setMeaning n (.pairs (← items.mapM findPair))
    | none => unfit
  | some (.dictionary _) =>
    if (b.graph.entries? n).isNone then unfit
    setMeaning n (.dictionary (← findEntries n))
  | some (.set _) =>
    if (b.graph.entries? n).isNone then unfit
    setMeaning n (.set ((← findEntries n).map (·.1)))
  | _ => return

/-- Fills the collections that are waiting, the first one first. Each node waits at most once, which bounds
their number. -/
def fillAll : Nat → Building Unit
  | 0 => return
  | fuel + 1 => do
    match (← get).waiting with
    | [] => return
    | n :: rest =>
      modify fun b => { b with waiting := rest }
      fill n
      fillAll fuel

/-- Finds what a node and all that it contains stand for. -/
def build (g : Graph) (root : Nat) : Except Failure Builder :=
  (StateT.run (do find root; fillAll (g.size + 1)) (start g)).map (·.2)

/-- A collection that stands inside itself is left out there. -/
def cycleOf? : Meaning → Option Value
  | .plain _ | .set _ => none
  | .list _ | .pairs _ => some (.cycle true)
  | .dictionary _ => some (.cycle false)

/-- The value of a node, given the nodes around it. -/
def unfold (b : Builder) : Nat → List Nat → Nat → Value
  | 0, _, _ => .none
  | fuel + 1, path, n =>
    match b.meaning? n with
    | none => .none
    | some m =>
      match if path.contains n then cycleOf? m else none with
      | some v => v
      | none =>
        let part : Nat → Value := b.unfold fuel (n :: path)
        match m with
        | .plain v => v
        | .list items => .list (items.map part)
        | .pairs items => .list (items.map fun e => .tuple [part e.1, part e.2])
        | .dictionary entries => .dictionary (entries.map fun e => (part e.1, part e.2))
        | .set elements => .set (elements.map part)

/-- The value of a node as a whole. A path holds no node twice, which bounds the depth. -/
def valueOf (b : Builder) (n : Nat) : Value := b.unfold (b.graph.size + 1) [] n

end Builder

end TypedScalar.Yaml
