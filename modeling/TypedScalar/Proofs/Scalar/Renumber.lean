import Mathlib.Tactic.SplitIfs
import TypedScalar.Proofs.Association
import TypedScalar.Proofs.Value.Renumber
import TypedScalar.Scalar.Factory
import TypedScalar.Session.Operation

/-! What operations make of values does not depend on the numbers of the scalars in them. Where a value
is handed on, as a flag or a setting is, it is handed on with its numbers. -/

namespace TypedScalar

variable (ρ : ℕ → ℕ)

namespace Value

/-- Values by name, with all numbers replaced. -/
def renumberFields (fields : List (String × Value)) : List (String × Value) :=
  fields.map fun f => (f.1, f.2.renumber ρ)

theorem renumberFields_renumberFields (σ : ℕ → ℕ) (fields : List (String × Value)) :
    renumberFields σ (renumberFields ρ fields) = renumberFields (σ ∘ ρ) fields := by
  simp only [renumberFields, List.map_map, Function.comp_def, renumber_renumber]

theorem lookup_renumberFields (fields : List (String × Value)) (name : String) :
    (renumberFields ρ fields).lookup name = (fields.lookup name).map (renumber ρ) :=
  Association.lookup_mapValues (fun _ => renumber ρ) fields name

/-! ### Building -/

theorem takeInteger_renumber (className : String) (v : Value) :
    Kind.takeInteger className (v.renumber ρ) = Kind.takeInteger className v := by
  cases v <;> rfl

theorem acceptDouble_renumber (k : FloatingKind) (className : String) (v : Value) :
    Kind.acceptDouble k className (v.renumber ρ) = Kind.acceptDouble k className v := by
  cases v <;> rfl

theorem accept_renumber (r : Rendering) (className : String) (k : Kind) (v : Value) :
    k.accept r className (v.renumber ρ) = k.accept r className v := by
  cases k with
  | integer => simp only [Kind.accept, Kind.acceptInteger, takeInteger_renumber]
  | floating => simp only [Kind.accept, Kind.acceptFloating, acceptDouble_renumber]
  | null => simp only [Kind.accept, shown_renumber]
  | boolean | string | binary =>
    simp only [Kind.accept, boolean?_renumber, copiedText?_renumber, bytes?_renumber, typeName_renumber]

theorem make_renumber (r : Rendering) (c : ScalarClass) (v : Value) :
    Scalar.make r c (v.renumber ρ) = Scalar.make r c v := by
  unfold Scalar.make
  split
  · rfl
  · simp only [isNone_renumber, accept_renumber]

theorem sourceOf_renumber (r : Rendering) (v : Value) :
    Scalar.sourceOf r (v.renumber ρ) = Scalar.sourceOf r v := by
  simp only [Scalar.sourceOf, text?_renumber, copiedText?_renumber, typeName_renumber, shown_renumber]

/-! ### Data types -/

/-- A refusal that shows a value. -/
theorem refusal_renumber {α : Type} (r : Rendering) (refusal : String → Error) (v : Value) :
    (((v.renumber ρ).shown r).bind fun s => .error (refusal s) : Except Error α) =
      (v.shown r).bind fun s => .error (refusal s) := by
  rw [shown_renumber]

theorem resolve_renumber (r : Rendering) (v : Value) :
    DataType.resolve r (v.renumber ρ) = DataType.resolve r v := by
  cases v with
  | list | tuple | set | dictionary => exact refusal_renumber ρ r .notADataType _
  | _ => rfl

theorem ofName_renumber (r : Rendering) (v : Value) :
    DataType.ofName r (v.renumber ρ) = DataType.ofName r v := by
  cases v <;> rfl

/-- The refusal of an identifier that is none. -/
theorem unknownId_renumber (r : Rendering) (v : Value) :
    (match (v.renumber ρ).unhashable? with
      | some err => .error err
      | .none => ((v.renumber ρ).shown r).bind fun s => .error (.unknownId s) : Except Error DataType) =
      match v.unhashable? with
      | some err => .error err
      | .none => (v.shown r).bind fun s => .error (.unknownId s) := by
  rw [unhashable?_renumber, shown_renumber]

theorem ofId_renumber (r : Rendering) (v : Value) : DataType.ofId r (v.renumber ρ) = DataType.ofId r v := by
  cases v with
  | tuple => exact unknownId_renumber ρ r _
  | _ => rfl

theorem ofStorageCode_renumber (r : Rendering) (v : Value) :
    DataType.ofStorageCode r (v.renumber ρ) = DataType.ofStorageCode r v := by
  cases v with
  | list | tuple | set | dictionary => exact refusal_renumber ρ r .notStorage _
  | _ => rfl

theorem infer_renumber (config : Config) (v : Value) :
    DataType.infer config (v.renumber ρ) = DataType.infer config v := by
  cases v <;> rfl

/-! ### Scalars and errors -/

theorem asScalar_renumber (member : String) (v : Value) :
    (v.renumber ρ).asScalar member = (v.asScalar member).map (Held.renumber ρ) := by
  cases v <;> rfl

theorem asCopyable_renumber (v : Value) : (v.renumber ρ).asCopyable = v.asCopyable.map (Held.renumber ρ) := by
  cases v with
  | bytes form => cases form <;> rfl
  | _ => rfl

theorem refuseViewCast_renumber (fromBytes : Bool) (content : List UInt8) (format : Value) :
    refuseViewCast fromBytes content (format.renumber ρ) = refuseViewCast fromBytes content format := by
  simp only [refuseViewCast, text?_renumber, isNone_renumber, qualifiedTypeName_renumber]

theorem asCastable_renumber (v target : Value) :
    (v.renumber ρ).asCastable (target.renumber ρ) = (v.asCastable target).map (Held.renumber ρ) := by
  cases v with
  | bytes form content =>
    cases form with
    | view =>
      show Except.error (refuseViewCast true content (target.renumber ρ)) =
        .error (refuseViewCast true content target)
      rw [refuseViewCast_renumber]
    | plain | mutable => rfl
  | view w =>
    show Except.error (refuseCast w (target.renumber ρ)) = .error (refuseCast w target)
    simp only [refuseCast, text?_renumber, refuseViewCast_renumber]
  | _ => rfl

theorem refuseSetting_renumber (name : String) (v : Value) :
    (v.renumber ρ).refuseSetting name = v.refuseSetting name := by
  cases v <;> rfl

theorem refuseDeletion_renumber (name : String) (v : Value) :
    (v.renumber ρ).refuseDeletion name = v.refuseDeletion name := by
  cases v <;> rfl

theorem errorText_renumber (c : ErrorClass) (r : Rendering) (values : List Value) :
    c.text r (renumberItems ρ values) = c.text r values := by
  match values with
  | [] => rfl
  | [v] => exact plain_renumber ρ r v
  | v :: w :: rest =>
    have hshown := shown_renumber ρ r (tuple (v :: w :: rest))
    show (if c = .unknownDataType then (v.renumber ρ).plain r else _) =
      if c = .unknownDataType then v.plain r else _
    rw [plain_renumber]
    exact congrArg _ hshown

end Value

/-! ### Options of equality -/

namespace EqualOptions

open Value

def renumber (o : EqualOptions) : EqualOptions :=
  ⟨o.approximate.renumber ρ, o.nansEqual.renumber ρ, o.tolerance⟩

theorem ofValue?_renumber (v : Value) : Tolerance.ofValue? (v.renumber ρ) = Tolerance.ofValue? v := by
  cases v <;> rfl

theorem set_renumber (o : EqualOptions) (field : String) (v : Value) :
    (o.renumber ρ).set field (v.renumber ρ) = (o.set field v).map (renumber ρ) := by
  unfold set
  split
  · rfl
  · rfl
  · rw [ofValue?_renumber, qualifiedTypeName_renumber]
    split <;> rfl
  · rfl

theorem foldlM_set_renumber (fields : List (String × Value)) (o : EqualOptions) :
    (renumberFields ρ fields).foldlM (fun (o : EqualOptions) f => o.set f.1 f.2) (o.renumber ρ) =
      (fields.foldlM (fun (o : EqualOptions) f => o.set f.1 f.2) o).map (renumber ρ) := by
  induction fields generalizing o with
  | nil => rfl
  | cons f rest ih =>
    show (renumber ρ o).set f.1 (f.2.renumber ρ) >>= _ = Except.map _ (o.set f.1 f.2 >>= _)
    rw [set_renumber]
    cases o.set f.1 f.2 with
    | error err => rfl
    | ok o' => exact ih o'

theorem ofFields_renumber (fields : List (String × Value)) :
    ofFields (renumberFields ρ fields) = (ofFields fields).map (renumber ρ) := by
  have hfind : (renumberFields ρ fields).find? (fun f => !fieldNames.contains f.1) =
      (fields.find? fun f => !fieldNames.contains f.1).map fun f => (f.1, f.2.renumber ρ) := List.find?_map
  have hfold := foldlM_set_renumber ρ fields exact
  unfold ofFields
  rw [hfind]
  cases fields.find? fun f => !fieldNames.contains f.1 with
  | some f => rfl
  | none =>
    show (renumberFields ρ fields).foldlM (fun (o : EqualOptions) f => o.set f.1 f.2) (exact.renumber ρ) >>=
      _ = Except.map _ (fields.foldlM (fun (o : EqualOptions) f => o.set f.1 f.2) exact >>= _)
    rw [hfold]
    cases fields.foldlM (fun (o : EqualOptions) f => o.set f.1 f.2) exact with
    | error err => rfl
    | ok o =>
      show (if o.tolerance.isNegative then _ else _) = Except.map _ (if o.tolerance.isNegative then _ else _)
      split <;> rfl

theorem verdict_renumber (flag : Value) (test : Except Error Bool) :
    verdict (flag.renumber ρ) test = (verdict flag test).map (Value.renumber ρ) := by
  rw [verdict, verdict, isTruthy_renumber]
  split
  · cases test <;> rfl
  · rfl

theorem equalReals_renumber (o : EqualOptions) (x y : Floating.Double) :
    (o.renumber ρ).equalReals x y = (o.equalReals x y).map (Value.renumber ρ) := by
  unfold equalReals
  split_ifs
  · exact verdict_renumber ρ o.nansEqual _
  · rfl
  · exact verdict_renumber ρ o.approximate _

theorem equalUnder_renumber (o : EqualOptions) (a b : Scalar) :
    Scalar.equalUnder (o.renumber ρ) a b = (Scalar.equalUnder o a b).map (Value.renumber ρ) := by
  unfold Scalar.equalUnder
  split
  · split
    · rfl
    · obtain ⟨c, k, hc, p⟩ := a
      cases k with
      | floating f => exact equalReals_renumber ρ o _ _
      | _ => rfl
    · rfl
  · rfl

theorem givenOptions_renumber (fields : List (String × Value)) :
    Session.givenOptions (renumberFields ρ fields) = renumberFields ρ (Session.givenOptions fields) := by
  have hgiven (name : String) (v : Value) (hv : v.renumber ρ = v) :
      ((renumberFields ρ fields).lookup name).getD v = ((fields.lookup name).getD v).renumber ρ := by
    rw [lookup_renumberFields]
    cases fields.lookup name with
    | none => exact hv.symm
    | some w => rfl
  unfold Session.givenOptions
  rw [renumberFields.eq_def ρ (List.map _ _), List.map_map]
  apply List.map_congr_left
  intro f hf
  have hinitial : f.2.renumber ρ = f.2 := by
    simp only [List.mem_cons, List.not_mem_nil, or_false] at hf
    rcases hf with rfl | rfl | rfl <;> rfl
  exact congrArg (Prod.mk f.1) (hgiven f.1 f.2 hinitial)

end EqualOptions

/-! ### Configurations -/

namespace Config

open Value

def renumber (c : Config) : Config :=
  ⟨c.nullToken.renumber ρ, c.upperHex.renumber ρ, c.integerDefault.renumber ρ, c.floatDefault.renumber ρ⟩

theorem rendering_renumber (c : Config) : (c.renumber ρ).rendering = c.rendering := by
  simp only [rendering, renumber, text?_renumber, isTruthy_renumber]

theorem infer_renumber (c : Config) (v : Value) : DataType.infer (c.renumber ρ) v = DataType.infer c v := by
  have hresolve (w : Value) : DataType.resolve (c.renumber ρ).rendering (w.renumber ρ) =
      DataType.resolve c.rendering w := by
    rw [rendering_renumber, resolve_renumber]
  cases v with
  | integer => exact hresolve c.integerDefault
  | real => exact hresolve c.floatDefault
  | machine m => cases m <;> rfl
  | _ => rfl

theorem set_renumber (c : Config) (field : String) (v : Value) :
    (c.renumber ρ).set field (v.renumber ρ) = (c.set field v).renumber ρ := by
  unfold set
  split <;> rfl

theorem foldl_set_renumber (fields : List (String × Value)) (c : Config) :
    (renumberFields ρ fields).foldl (fun (c : Config) f => c.set f.1 f.2) (c.renumber ρ) =
      (fields.foldl (fun (c : Config) f => c.set f.1 f.2) c).renumber ρ := by
  induction fields generalizing c with
  | nil => rfl
  | cons f rest ih =>
    show (renumberFields ρ rest).foldl _ ((c.renumber ρ).set f.1 (f.2.renumber ρ)) = _
    rw [set_renumber]
    exact ih _

theorem update_renumber (c : Config) (fields : List (String × Value)) :
    (c.renumber ρ).update (renumberFields ρ fields) = (c.update fields).map (renumber ρ) := by
  have hfind : (renumberFields ρ fields).find? (fun f => !fieldNames.contains f.1) =
      (fields.find? fun f => !fieldNames.contains f.1).map fun f => (f.1, f.2.renumber ρ) := List.find?_map
  unfold update
  rw [hfind]
  cases fields.find? fun f => !fieldNames.contains f.1 with
  | some f => rfl
  | none => exact congrArg Except.ok (foldl_set_renumber ρ fields c)

theorem validate_renumber (r : Rendering) (c : Config) : (c.renumber ρ).validate r = c.validate r := by
  have htoken (v : Value) : checkToken r (v.renumber ρ) = checkToken r v := by
    simp only [checkToken, text?_renumber, shown_renumber]
  have hdefault (v : Value) : resolveDefault r (v.renumber ρ) = resolveDefault r v := by
    simp only [resolveDefault, resolve_renumber]
  simp only [validate, renumber, htoken, hdefault, shown_renumber]

theorem shown_renumber (r : Rendering) (c : Config) : (c.renumber ρ).shown r = c.shown r := by
  simp only [shown, renumber, Value.shown_renumber]

end Config

end TypedScalar
