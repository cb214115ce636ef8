import Mathlib.Tactic.SplitIfs
import TypedScalar.CommandLine
import TypedScalar.Proofs.Invariant
import TypedScalar.Scalar.Pickle

/-! What actions leave alone. Building, reading and casting scalars and looking up classes change
nothing but the log; registering and unregistering change the registry, but no setting. -/

namespace TypedScalar

/-- All of an environment but its log. -/
def Environment.unlogged (e : Environment) : Config × Registry := (e.config, e.registry)

variable {α : Type} {P : Config × Registry → Prop}

/-- Whether an action keeps a property of the settings and the registry. -/
def Action.Keeps (P : Config × Registry → Prop) (a : Action α) : Prop := Preserves (fun e => P e.unlogged) a

namespace Action

theorem keeps_ofExcept (x : Except Error α) : Keeps P (ofExcept x) := fun _ he => ⟨he, fun _ _ => trivial⟩

theorem keeps_rendering : Keeps P rendering := fun _ he => ⟨he, fun _ _ => trivial⟩

theorem keeps_get : Keeps P get := maintains_get.preserves

theorem keeps_pure (x : α) : Keeps P (pure x) := maintains_pure trivial

theorem keeps_record (level : Level) (logger message : String) : Keeps P (record level logger message) :=
  preserves_modify fun _ he => he

end Action

open TypedScalar.Action

namespace Registry

theorem resolve_keeps (t : Value) : Keeps P (resolve t) := keeps_rendering.andThen fun _ => keeps_ofExcept _

theorem lookup_keeps (t : Value) : Keeps P (lookup t) :=
  (resolve_keeps t).andThen fun _ => keeps_get.andThen fun _ => keeps_ofExcept _

theorem listTypes_keeps : Keeps P listTypes := keeps_get.andThen fun _ => keeps_ofExcept _

theorem isRegistered_keeps (t : Value) : Keeps P (isRegistered t) := by
  refine keeps_get.andThen fun e => ?_
  split
  · exact keeps_pure _
  · split_ifs
    · exact keeps_pure _
    · exact maintains_throw _

/-- Whether a property is one of the settings alone. -/
def OfSettings (P : Config × Registry → Prop) : Prop := ∀ c r r', P (c, r) → P (c, r')

theorem register_keeps (hP : OfSettings P) (t : Value) (c : ScalarClass) : Keeps P (register t c) := by
  refine (resolve_keeps t).andThen fun d => ?_
  have hinsert : Keeps P (modify fun e => { e with registry := e.registry.insert d.kind? c }) :=
    preserves_modify fun _ he => hP _ _ _ he
  have hrest : Keeps P (do
      modify fun e => { e with registry := e.registry.insert d.kind? c }
      let name ← Action.ofExcept (keyName d.kind?)
      record .info logger ("Registered scalar: " ++ name ++ " -> " ++ c.name)) :=
    hinsert.andThen fun _ => (keeps_ofExcept _).andThen fun _ => keeps_record _ _ _
  by_cases hc : c.kind? = d.kind?
  · simp only [hc, ne_eq, not_true_eq_false, ↓reduceIte]
    refine keeps_get.andThen fun e => ?_
    split_ifs
    · exact (keeps_ofExcept _).andThen fun _ => (keeps_record _ _ _).andThen fun _ => hrest
    · exact hrest
  · simp only [hc, ne_eq, not_false_eq_true, ↓reduceIte]
    split
    · exact maintains_throw _
    · exact maintains_throw _

theorem unregister_keeps (hP : OfSettings P) (t : Value) : Keeps P (unregister t) := by
  refine (resolve_keeps t).andThen fun d => keeps_get.andThen fun e => ?_
  have herase : Keeps P (modify fun e => { e with registry := e.registry.erase d.kind? }) :=
    preserves_modify fun _ he => hP _ _ _ he
  split_ifs
  · exact herase.andThen fun _ => (keeps_ofExcept _).andThen fun _ => keeps_record _ _ _
  · exact keeps_pure _

end Registry

namespace Scalar

theorem build_keeps (c : ScalarClass) (v : Value) : Action.Keeps P (build c v) :=
  keeps_rendering.andThen fun _ => keeps_ofExcept _

theorem create_keeps (t v : Value) : Action.Keeps P (create t v) :=
  (Registry.lookup_keeps t).andThen fun c => build_keeps c v

theorem copy_keeps (s : Scalar) : Action.Keeps P (copy s) := build_keeps _ _

theorem pickle_keeps (address : ScalarClass → ClassAddress) (s : Scalar) : Action.Keeps P (pickle address s) :=
  (keeps_ofExcept _).andThen fun _ => copy_keeps s

theorem cast_keeps (h : Held) (t : Value) : Action.Keeps P (Scalar.cast h t) := by
  refine (Registry.resolve_keeps t).andThen fun d => keeps_get.andThen fun e => ?_
  refine (keeps_ofExcept _).andThen fun c => ?_
  have hnull : Action.Keeps P (do return Made.fresh (← build c .none)) :=
    (build_keeps c .none).andThen fun _ => keeps_pure _
  dsimp only
  split
  · exact hnull
  · split_ifs
    · exact hnull
    · exact keeps_pure _
    · exact (keeps_ofExcept _).andThen fun _ => (keeps_record _ _ _).andThen fun _ =>
        (keeps_ofExcept _).andThen fun _ => keeps_pure _

theorem ofValue_keeps (v : Value) (t : Option Value) : Action.Keeps P (ofValue v t) := by
  have hcreate (t : Value) : Action.Keeps P (do return Made.fresh (← create t v)) :=
    (create_keeps t v).andThen fun _ => keeps_pure _
  have hinferred : Action.Keeps P (do
      let d ← Action.ofExcept (DataType.infer (← get).config v)
      return Made.fresh (← create (.dataType d) v)) :=
    keeps_get.andThen fun e => (keeps_ofExcept _).andThen fun d => hcreate _
  cases v with
  | scalar h =>
    cases t with
    | none => exact keeps_pure _
    | some t => exact cast_keeps h t
  | _ =>
    cases t with
    | none => exact hinferred
    | some t => exact hcreate t

theorem parseAs_keeps (c : ScalarClass) (text : Value) (t : Option Value) :
    Action.Keeps P (parseAs c text t) := by
  have hread (target : ScalarClass) : Action.Keeps P (do
      let r ← rendering
      let source ← Action.ofExcept (sourceOf r text)
      Action.ofExcept (parse r target source)) :=
    keeps_rendering.andThen fun _ => (keeps_ofExcept _).andThen fun _ => keeps_ofExcept _
  cases t with
  | some t => exact (Registry.lookup_keeps t).andThen hread
  | none =>
    rw [parseAs]
    dsimp only
    split_ifs
    · exact (maintains_throw (Q := fun _ => True) _).andThen hread
    · exact (keeps_pure c).andThen hread

end Scalar

theorem Config.warnUnknown_keeps (r : Rendering) (keys : List Value) : Keeps P (warnUnknown r keys) := by
  induction keys with
  | nil => exact keeps_pure _
  | cons k rest ih =>
    rw [warnUnknown]
    split_ifs
    · exact (keeps_ofExcept _).andThen fun _ => (keeps_record _ _ _).andThen fun _ => ih
    · exact ih

theorem CommandLine.build_keeps (q : Request) : Keeps P (CommandLine.build q) := by
  refine keeps_rendering.andThen fun r => (Registry.lookup_keeps _).andThen fun c =>
    (keeps_ofExcept _).andThen fun s => ?_
  split
  · exact keeps_pure _
  · exact keeps_pure _
  · exact (Scalar.cast_keeps _ _).andThen fun _ => keeps_pure _

end TypedScalar
