import TypedScalar.Yaml.Graph.Reading
import TypedScalar.Yaml.Meaning

/-! The document in a text. It is looked at entry by entry, as the entries of interest may be few. -/

namespace TypedScalar.Yaml

/-- What has been built, and its root; an empty stream has none. -/
structure Document where
  builder : Builder
  root : Option Nat

namespace Document

def load (text : String) : Except Failure Document :=
  ((Graph.ofText text.toList).mapError Failure.fault).bind fun (root, graph) =>
    match root with
    | none => .ok ⟨.start graph, none⟩
    | some n => (Builder.build graph n).map fun b => ⟨b, some n⟩

/-- The entries of a document that is a mapping. -/
def entries? (d : Document) : Option (List (Nat × Nat)) :=
  match d.root.bind d.builder.meaning? with
  | some (.dictionary entries) => some entries
  | _ => none

/-- The keys of a document that is a mapping. -/
def keys? (d : Document) : Option (List Value) := d.entries?.map fun es => es.map fun e => d.builder.valueOf e.1

/-- The value under a text as the key. -/
def get? (d : Document) (key : String) : Option Value :=
  (d.entries?.getD []).findSome? fun e =>
    match d.builder.value? e.1 with
    | some (.text s) => if s = key then some (d.builder.valueOf e.2) else none
    | _ => none

/-- Whether the document counts as true. -/
def isTruthy (d : Document) : Bool :=
  match d.root.bind d.builder.meaning? with
  | none => false
  | some (.plain v) => v.isTruthy
  | some (.list items) => !items.isEmpty
  | some (.pairs items) => !items.isEmpty
  | some (.dictionary entries) => !entries.isEmpty
  | some (.set elements) => !elements.isEmpty

end Document

end TypedScalar.Yaml
