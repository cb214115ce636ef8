import TypedScalar.Yaml.Tag

/-! The node graph of a document. Nodes are numbered in the order in which they begin; a collection refers
to its parts by number, so that an alias is one more reference, and a node may contain itself. -/

namespace TypedScalar.Yaml

-- Sums start from the literal zero here, also where Mathlib declares its own.
attribute [local instance (high)] Zero.ofOfNat0

inductive Content
  | scalar (text : String)
  | sequence (items : List Nat)
  /-- Keys with their values. -/
  | mapping (entries : List (Nat × Nat))
  deriving DecidableEq, Repr

structure Node where
  tag : Tag
  content : Content
  deriving DecidableEq, Repr

structure Graph where
  nodes : Array Node
  deriving DecidableEq, Repr

namespace Graph

/-- Over how many nodes a merge or a text is followed: what the interpreter's limit of a thousand nested calls
leaves beside the loader's own. -/
def followLimit : Nat := 980

def empty : Graph := ⟨#[]⟩

def size (g : Graph) : Nat := g.nodes.size

/-- A further node, and its number. -/
def add (g : Graph) (n : Node) : Nat × Graph := (g.size, ⟨g.nodes.push n⟩)

def tag (g : Graph) (n : Nat) : Tag := (g.nodes[n]?.map (·.tag)).getD .null

def content (g : Graph) (n : Nat) : Content := (g.nodes[n]?.map (·.content)).getD (.scalar "")

def setTag (g : Graph) (n : Nat) (t : Tag) : Graph := ⟨g.nodes.modify n fun node => { node with tag := t }⟩

def setContent (g : Graph) (n : Nat) (c : Content) : Graph :=
  ⟨g.nodes.modify n fun node => { node with content := c }⟩

def items? (g : Graph) (n : Nat) : Option (List Nat) :=
  match g.content n with
  | .sequence items => some items
  | _ => none

def entries? (g : Graph) (n : Nat) : Option (List (Nat × Nat)) :=
  match g.content n with
  | .mapping entries => some entries
  | _ => none

/-- How many entries of a mapping are merges. -/
def mergesIn (g : Graph) (n : Nat) : Nat :=
  ((g.entries? n).getD []).countP fun e => g.tag e.1 == .merge

/-- How many entries of all mappings are merges. -/
def merges (g : Graph) : Nat := ((List.range g.size).map g.mergesIn).sum

end Graph

end TypedScalar.Yaml
