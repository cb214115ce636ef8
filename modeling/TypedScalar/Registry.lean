import TypedScalar.ScalarClass
import TypedScalar.Value.Shown

/-! The registry of scalar classes, an ordered map. A key is a kind, or nothing, which is what the
descriptors of families have. Registering over a key keeps its place; a key that was removed and added
again stands last. -/

namespace TypedScalar

structure Registry where
  entries : List (Option Kind × ScalarClass)
  deriving DecidableEq, Repr

namespace Registry

/-- Each kind with its own class. -/
def builtIn : Registry := ⟨Kind.all.map fun k => (some k, .concrete k)⟩

def find? (r : Registry) (key : Option Kind) : Option ScalarClass := r.entries.lookup key

def contains (r : Registry) (key : Option Kind) : Bool := (r.find? key).isSome

def insert (r : Registry) (key : Option Kind) (c : ScalarClass) : Registry :=
  if r.contains key then ⟨r.entries.map fun e => if e.1 = key then (key, c) else e⟩
  else ⟨r.entries ++ [(key, c)]⟩

def erase (r : Registry) (key : Option Kind) : Registry := ⟨r.entries.filter fun e => e.1 ≠ key⟩

/-- The name of a key; nothing has none. -/
def keyName : Option Kind → Except Error String
  | some k => .ok k.name
  | none => .error (.missingMember "NoneType" "value")

/-- The names of the registered kinds, in order. -/
def names (r : Registry) : Except Error (List String) := r.entries.mapM fun e => keyName e.1

/-- The class for a descriptor. -/
def classFor (r : Registry) (d : DataType) : Except Error ScalarClass :=
  match r.find? d.kind? with
  | some c => .ok c
  | none =>
    r.names.bind fun registered =>
      match d.kind? with
      | some k => .error (.notRegistered k registered)
      | none => .error (.missingMember "NoneType" "value")

end Registry

end TypedScalar
