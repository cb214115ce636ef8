import TypedScalar.Proofs.Scalar.Reading
import TypedScalar.Proofs.TwoRuns
import TypedScalar.Proofs.Value.Shown
import TypedScalar.Scalar.Factory
import TypedScalar.Scalar.Pickle

/-! What the settings bear on. They decide how nulls and bytes are shown, and so they
bear on messages, but neither on the value that is built, cast or copied, nor on
the class of an error. -/

namespace TypedScalar

variable (r r' : Rendering)

/-! ### Values -/

namespace Value

/-- Whether a value can be shown does not depend on how. -/
theorem shown_corresponds (v : Value) : Corresponds (fun _ _ => True) (v.shown r) (v.shown r') := by
  have halike := shown_failsAlike r r' v
  generalize v.shown r = x at halike ⊢
  generalize v.shown r' = y at halike ⊢
  cases halike with
  | ok => exact .ok trivial
  | error => exact .error rfl

/-- An error that shows a value is of the same class however it shows it. -/
theorem refusal_corresponds {α : Type} {R : α → α → Prop} (v : Value) (refusal : String → Error)
    (h : ∀ s s', (refusal s).errorClass = (refusal s').errorClass) :
    Corresponds R ((v.shown r).bind fun s => .error (refusal s))
      ((v.shown r').bind fun s => .error (refusal s)) :=
  (shown_corresponds r r' v).bind fun s s' _ => .error (h s s')

end Value

theorem DataType.resolve_corresponds (t : Value) : Corresponds Eq (resolve r t) (resolve r' t) := by
  unfold resolve
  split
  · exact .ok rfl
  · exact .ok rfl
  · split
    · split
      · exact .ok rfl
      · exact t.refusal_corresponds r r' _ fun _ _ => rfl
    · exact t.refusal_corresponds r r' _ fun _ _ => rfl

/-! ### Scalars -/

namespace Scalar

variable {c : ScalarClass} {v : Value}

/-- Only what refuses a value for a null shows the value. -/
theorem make_eq_make (h : c.kind? = some .null → v.isNone = true) : make r c v = make r' c v := by
  cases hc : c.kind? with
  | none =>
    unfold make
    split
    · rfl
    · next k hk => exact absurd (hk.symm.trans hc) (by simp)
  | some k =>
    rw [make_eq hc, make_eq hc]
    split_ifs with hnone
    · rfl
    · cases k with
      | null => exact absurd (h hc) hnone
      | _ => rfl

theorem make_corresponds (c : ScalarClass) (v : Value) : Corresponds Eq (make r c v) (make r' c v) := by
  by_cases h : c.kind? = some .null → v.isNone = true
  · rw [make_eq_make r r' h]
    exact .refl _
  · obtain ⟨hc, hnone⟩ := Classical.not_imp.1 h
    rw [make_eq hc, make_eq hc, if_neg hnone, if_neg hnone]
    have hrefused : Corresponds Eq (Kind.null.accept r c.name v) (Kind.null.accept r' c.name v) :=
      v.refusal_corresponds r r' _ fun _ _ => rfl
    exact hrefused.map fun p _ _ => Empty.elim p

theorem parseValid_eq (c : ScalarClass) (t : Source) : parseValid r c t = parseValid r' c t := by
  by_cases hc : c.kind? = some .null
  · simp only [parseValid, hc]
  · have hmake : make r c = make r' c := funext fun v => make_eq_make r r' fun h => absurd h hc
    simp only [parseValid, hmake]

/-- Of all texts only that of bytes depends on the settings, and bytes are decoded. -/
theorem convert_eq (c : ScalarClass) (k : Kind) (p : k.Payload) : convert r c k p = convert r' c k p := by
  by_cases hc : c.kind? = some .null
  · simp only [convert, hc]
    exact make_eq_make r r' fun _ => rfl
  · have hmake : make r c = make r' c := funext fun v => make_eq_make r r' fun h => absurd h hc
    cases k with
    | null => exact Empty.elim p
    | _ => simp only [convert, hmake, Kind.payloadText]

theorem castPayload_eq (c : ScalarClass) (k : Kind) (p : k.Payload) :
    castPayload r c k p = castPayload r' c k p := by
  cases k with
  | string => simp only [castPayload, convert_eq r r', parseValid_eq r r']
  | _ => exact convert_eq r r' c _ p

end Scalar

/-! ### Actions -/

/-- Whether two environments have one registry. Their settings and logs may differ. -/
def Environment.Agrees (e e' : Environment) : Prop := e.registry = e'.registry

namespace Action

variable {α : Type}

/-- Whether an action does the same in environments that agree, but for messages. -/
def IgnoresSettings (a : Action α) : Prop := KeepsStep Environment.Agrees Eq a a

variable {R : α → α → Prop}

theorem keepsStep_ofExcept {x y : Except Error α} (h : Corresponds R x y) :
    KeepsStep Environment.Agrees R (ofExcept x) (ofExcept y) := fun _ _ he => ⟨h, he⟩

theorem keepsStep_rendering :
    KeepsStep Environment.Agrees (fun _ _ => True) rendering rendering := fun _ _ he => ⟨.ok trivial, he⟩

theorem keepsStep_record (level : Level) (logger message message' : String) :
    KeepsStep Environment.Agrees Eq (record level logger message) (record level logger message') :=
  keepsStep_modify fun _ _ he => he

end Action

open TypedScalar.Action

theorem Registry.resolve_ignoresSettings (t : Value) : IgnoresSettings (resolve t) :=
  keepsStep_rendering.bind fun r r' _ => keepsStep_ofExcept (DataType.resolve_corresponds r r' t)

theorem Registry.lookup_ignoresSettings (t : Value) : IgnoresSettings (lookup t) :=
  (resolve_ignoresSettings t).bind_eq fun d => keepsStep_get.bind fun e e' he =>
    keepsStep_ofExcept (by rw [show e.registry = e'.registry from he]; exact .refl _)

theorem Registry.register_ignoresSettings (t : Value) (c : ScalarClass) : IgnoresSettings (register t c) := by
  refine (resolve_ignoresSettings t).bind_eq fun d => ?_
  by_cases hc : c.kind? = d.kind?
  · simp only [hc, ne_eq, not_true_eq_false, ↓reduceIte]
    refine keepsStep_get.bind fun e e' he => ?_
    rw [show e.registry = e'.registry from he]
    have hinsert : IgnoresSettings (modify fun e => { e with registry := e.registry.insert d.kind? c }) :=
      keepsStep_modify fun e e' he => congrArg (Registry.insert · d.kind? c) he
    have hname := keepsStep_ofExcept (.refl (keyName d.kind?))
    split_ifs
    · exact hname.bind_eq fun _ => (keepsStep_record _ _ _ _).bind_eq fun _ => hinsert.bind_eq fun _ =>
        hname.bind_eq fun _ => keepsStep_record _ _ _ _
    · exact hinsert.bind_eq fun _ => hname.bind_eq fun _ => keepsStep_record _ _ _ _
  · simp only [hc, ne_eq, not_false_eq_true, ↓reduceIte]
    split
    · exact keepsStep_throw rfl
    · exact keepsStep_throw rfl

theorem Registry.unregister_ignoresSettings (t : Value) : IgnoresSettings (unregister t) := by
  refine (resolve_ignoresSettings t).bind_eq fun d => keepsStep_get.bind fun e e' he => ?_
  rw [show e.registry = e'.registry from he]
  split_ifs
  · have herase : IgnoresSettings (modify fun e => { e with registry := e.registry.erase d.kind? }) :=
      keepsStep_modify fun e e' he => congrArg (Registry.erase · d.kind?) he
    exact herase.bind_eq fun _ => (keepsStep_ofExcept (.refl _)).bind_eq fun _ => keepsStep_record _ _ _ _
  · exact keepsStep_pure rfl

theorem Registry.listTypes_ignoresSettings : IgnoresSettings listTypes :=
  keepsStep_get.bind fun e e' he =>
    keepsStep_ofExcept (by rw [show e.registry = e'.registry from he]; exact .refl _)

namespace Scalar

theorem build_ignoresSettings (c : ScalarClass) (v : Value) : IgnoresSettings (build c v) :=
  keepsStep_rendering.bind fun r r' _ => keepsStep_ofExcept (make_corresponds r r' c v)

theorem create_ignoresSettings (t v : Value) : IgnoresSettings (create t v) :=
  (Registry.lookup_ignoresSettings t).bind_eq fun c => build_ignoresSettings c v

theorem copy_ignoresSettings (s : Scalar) : IgnoresSettings (copy s) := build_ignoresSettings _ _

theorem pickle_ignoresSettings (address : ScalarClass → ClassAddress) (s : Scalar) :
    IgnoresSettings (pickle address s) :=
  (keepsStep_ofExcept (.refl _)).bind_eq fun _ => copy_ignoresSettings s

theorem cast_ignoresSettings (h : Held) (t : Value) : IgnoresSettings (Scalar.cast h t) := by
  refine (Registry.resolve_ignoresSettings t).bind_eq fun d => keepsStep_get.bind fun e e' he => ?_
  rw [show e.registry = e'.registry from he]
  refine (keepsStep_ofExcept (.refl _)).bind_eq fun c => ?_
  have hnull : IgnoresSettings (do return Made.fresh (← build c .none)) :=
    (build_ignoresSettings c .none).bind_eq fun s => keepsStep_pure rfl
  dsimp only
  split
  · exact hnull
  · next p hp =>
    split_ifs
    · exact hnull
    · exact keepsStep_pure rfl
    · refine (keepsStep_ofExcept (.refl _)).bind_eq fun name => ?_
      refine (keepsStep_record _ _ _ _).bind_eq fun _ => ?_
      rw [castPayload_eq e.rendering e'.rendering]
      exact (keepsStep_ofExcept (.refl _)).bind_eq fun s => keepsStep_pure rfl

/-- Only inference looks at the settings, for the types of plain numbers. -/
theorem ofValue_ignoresSettings (v t : Value) : IgnoresSettings (ofValue v (some t)) := by
  cases v with
  | scalar h => exact cast_ignoresSettings h t
  | _ => exact (create_ignoresSettings t _).bind_eq fun s => keepsStep_pure rfl

end Scalar

end TypedScalar
