import Mathlib.Data.List.DropRight
import TypedScalar.Proofs.Registry.Queries
import TypedScalar.Proofs.Scalar.CastTotal
import TypedScalar.Proofs.Scalar.Making
import TypedScalar.Proofs.Scalar.Representation
import TypedScalar.Proofs.Value.View

/-! Inference of types, and scalars of the types inferred. Some values have a kind by themselves, and a
scalar of that kind holds just what the value says. Plain numbers have the kind that the
configuration gives them, for which they can be too large. All other values have no type and no
scalar. A configuration may give a family in place of a kind, though, and then there is no class for
plain numbers. -/

namespace TypedScalar

open Floating (Double)
open TypedScalar.Action

/-! ### Values and their kinds -/

namespace Value

/-- The kinds that values have by themselves. -/
inductive OfKind : Value → Kind → Prop
  | nothing : OfKind .none .null
  | boolean (b : Bool) : OfKind (.boolean b) .boolean
  | text (s : String) : OfKind (.text s) .string
  | bytes (form : BytesForm) (b : List UInt8) : OfKind (.bytes form b) .binary
  | view (w : View) : OfKind (.view w) .binary
  | machineBoolean (b : Bool) : OfKind (.machine (.boolean b)) .boolean
  | machineInteger (i : IntegerKind) (n : i.Value) : OfKind (.machine (.integer i n)) (.integer i)
  | single (x : Floating.Single) : OfKind (.machine (.single x)) (.floating .single)
  | double (x : Double) : OfKind (.machine (.double x)) (.floating .double)
  | machineText (s : String) : OfKind (.machine (.text s)) .string
  | machineBytes (b : List UInt8) : OfKind (.machine (.bytes b)) .binary

/-- What a value of some kind says in a plain value: the bytes that it shows, its number, or its text without
the zeros at the end of one of machine type. -/
def plainForm : Value → Value
  | bytes _ b | machine (.bytes b) => .bytes .plain b
  | view w => .bytes .plain w.content
  | machine (.boolean b) => .boolean b
  | machine (.integer _ n) => .integer n.val
  | machine (.half x) => .real (x.convert _)
  | machine (.single x) => .real (x.convert _)
  | machine (.double x) => .real x
  | machine (.text s) => .text (Machine.plainText s)
  | v => v

def IsNaN (v : Value) : Prop := v.real? = some .nan

/-- Whether a value says just what its plain form says. A text of machine type says more if it ends in a zero, and
so does a view unless it is a row of the bytes themselves; and no NaN is equal to anything. -/
def IsPlainlySaid : Value → Prop
  | machine (.text s) => s.toList.getLast? ≠ some '\x00'
  | view w => w.IsBytes
  | v => ¬ v.IsNaN

theorem plainText_eq_self_iff {s : String} : Machine.plainText s = s ↔ s.toList.getLast? ≠ some '\x00' := by
  have hdrop : Machine.withoutZeros '\x00' s.toList = s.toList.rdropWhile (· == '\x00') := rfl
  rw [Machine.plainText, hdrop, ← String.toList_inj, String.toList_ofList, List.rdropWhile_eq_self_iff]
  cases s.toList using List.reverseRecOn <;> simp

variable {v : Value} {k : Kind}

/-- The values that equal their plain forms. -/
theorem OfKind.equals_plainForm_iff (h : v.OfKind k) : v.plainForm.equals v = true ↔ v.IsPlainlySaid := by
  have hself {f : Floating.Format} {x : Floating.Number f} : x.equals x = true ↔ x ≠ .nan := by
    cases x <;> simp [Floating.Number.equals_iff, Floating.Number.isNaN]
  have hisNaN {f : Floating.Format} {x : Floating.Number f} : x.isNaN = true ↔ x = .nan := by
    cases x <;> simp [Floating.Number.isNaN]
  cases h with
  | nothing | boolean | text | bytes | machineBytes =>
    simp [plainForm, equals, compare, quantity?, Machine.isQuantity, equalsPlain, number?, equalNumbers, text?,
      bytes?, IsPlainlySaid, IsNaN, real?]
  | view w => exact equals_view_iff
  | machineText s =>
    refine Iff.trans ?_ plainText_eq_self_iff
    simp [plainForm, equals, compare, quantity?, Machine.isQuantity, equalsPlain, number?, text?]
  | machineBoolean b =>
    simp [plainForm, equals, compare, quantity?, Machine.isQuantity, comparesBytes, equalsMachine, Machine.equals,
      Machine.whole?, IsPlainlySaid, IsNaN, real?]
  | machineInteger i n =>
    simp [plainForm, equals, compare, quantity?, Machine.isQuantity, comparesBytes, equalsMachine,
      Machine.equalsInteger, Machine.whole?, IsPlainlySaid, IsNaN, real?]
  | single x =>
    have hzero : ((.zero false : Double).convert Floating.Format.single).isZero = true := by
      rw [Floating.Number.convert_zero]
      rfl
    have hnan : x.convert Floating.Format.double = .nan ↔ x = .nan := by
      rw [← hisNaN, ← hisNaN, Floating.Number.isNaN_convert]
    simp [plainForm, equals, compare, quantity?, Machine.isQuantity, comparesBytes, equalsMachine,
      Machine.equalsReal, Machine.equalsComplex, Floating.Number.convert_single_convert_double, hself, hzero,
      IsPlainlySaid, IsNaN, real?, hnan]
  | double x =>
    have hzero : (Floating.Number.zero false : Double).equals (.zero false) = true := rfl
    simp [plainForm, equals, compare, quantity?, Machine.isQuantity, comparesBytes, equalsMachine,
      Machine.equalsReal, Machine.equalsComplex, Machine.parts?, hself, hzero, IsPlainlySaid, IsNaN, real?]

/-- The kinds that can be inferred for values. -/
inductive Inferable : Value → Kind → Prop
  | own {v : Value} {k : Kind} (h : v.OfKind k) : Inferable v k
  | integer (n : ℤ) (i : IntegerKind) : Inferable (.integer n) (.integer i)
  | real (x : Double) (f : FloatingKind) : Inferable (.real x) (.floating f)

/-- Whether a plain number is too large for a kind. -/
inductive Beyond : Value → Kind → Prop
  | integer {n : ℤ} {i : IntegerKind} (h : ¬(i.min ≤ n ∧ n ≤ i.max)) : Beyond (.integer n) (.integer i)
  | real {x : Double} {f : FloatingKind} (hx : x.isFinite = true) {y : Floating.Number f.format}
    (hy : y.isInfinite = true) (h : x.RoundedTo y) : Beyond (.real x) (.floating f)

theorem OfKind.not_beyond (h : v.OfKind k) : ¬ v.Beyond k := by
  rintro ⟨⟩ <;> cases h

end Value

namespace Scalar

/-- Whether a scalar holds what a value says: a plain real number as it is rounded to the kind, and everything else
in its plain form, whether this equals the value or says less than it. -/
def Recalls (s : Scalar) : Value → Prop
  | .real x => ∃ f, ∃ y : Floating.Number f.format,
    s.kind = .floating f ∧ s.asValue = .real (f.toDouble y) ∧ x.RoundedTo y
  | v => s.asValue = v.plainForm ∧ (s.asValue.equals v = true ↔ v.IsPlainlySaid)

variable {r : Rendering} {c : ScalarClass} {v : Value} {k : Kind}

/-- What a class makes of a value of a kind that can be inferred for it. -/
inductive Holding (v : Value) (k : Kind) : Except Error Scalar → Prop
  | held (h : ¬ v.Beyond k) {s : Scalar} (hkind : s.kind = k) (hnull : s.isValid = false ↔ v = .none)
    (hrecalls : s.Recalls v) : Holding v k (.ok s)
  | beyond (h : v.Beyond k) {err : Error} (herr : err.errorClass = .scalarRange) : Holding v k (.error err)

theorem recalls_of_ofKind {s : Scalar} (h : v.OfKind k) (hs : s.asValue = v.plainForm) : s.Recalls v := by
  have hequals : s.asValue.equals v = true ↔ v.IsPlainlySaid := by
    rw [hs]
    exact h.equals_plainForm_iff
  cases h <;> exact ⟨hs, hequals⟩

/-- The scalars of a kind hold the plain forms of its values. -/
theorem exists_asValue (hc : c.kind? = some k) (h : v.OfKind k) :
    ∃ x, asValue ⟨c, k, hc, x⟩ = v.plainForm := by
  cases h with
  | nothing => exact ⟨none, rfl⟩
  | boolean b | machineBoolean b => exact ⟨some b, rfl⟩
  | machineInteger i n => exact ⟨some n, rfl⟩
  | single x | double x => exact ⟨some x, rfl⟩
  | text s => exact ⟨some s, rfl⟩
  | machineText s => exact ⟨some (Machine.plainText s), rfl⟩
  | bytes form b => exact ⟨some b, rfl⟩
  | view w => exact ⟨some w.content, rfl⟩
  | machineBytes b => exact ⟨some b, rfl⟩

/-- A class of the kind makes the same of a value and of its plain form. -/
theorem make_plainForm (hc : c.kind? = some k) (h : v.OfKind k) : make r c v.plainForm = make r c v := by
  cases h with
  | nothing => rfl
  | _ =>
    rw [make_of_ne_none hc (by simp [Value.plainForm]), make_of_ne_none hc (by simp)]
    rfl

theorem holding_of_ofKind (hc : c.kind? = some k) (h : v.OfKind k) : Holding v k (make r c v) := by
  obtain ⟨x, hvalue⟩ := exists_asValue hc h
  have hmake : make r c v = .ok ⟨c, k, hc, x⟩ := by
    rw [← make_plainForm hc h, ← hvalue]
    exact make_asValue r ⟨c, k, hc, x⟩
  rw [hmake]
  refine .held h.not_beyond rfl ?_ (recalls_of_ofKind h hvalue)
  rw [← asValue_eq_none_iff, hvalue]
  cases h <;> simp [Value.plainForm]

theorem holding_integer {i : IntegerKind} {n : ℤ} (hc : c.kind? = some (.integer i)) (hn : ¬ IsLong n) :
    Holding (.integer n) (.integer i) (make r c (.integer n)) := by
  by_cases hbounds : i.min ≤ n ∧ n ≤ i.max
  · rw [make_integer hc hbounds]
    refine .held ?_ rfl (by simp [isValid]) ⟨rfl, ?_⟩
    · rintro ⟨h⟩
      exact h hbounds
    · simp [asValue, Value.equals, Value.compare, Value.quantity?, Value.equalsPlain, Value.number?,
        Value.equalNumbers, Value.IsPlainlySaid, Value.IsNaN, Value.real?]
  · have hmake := makesInteger_make (r := r) hc (v := .integer n) (by rintro ⟨_, ⟨⟩⟩)
    obtain ⟨err, herr, hclass⟩ := hmake.scalarRange_iff.2 ⟨n, .plain n, hbounds, hn⟩
    rw [herr]
    exact .beyond (.integer hbounds) hclass

theorem holding_real {f : FloatingKind} (hc : c.kind? = some (.floating f)) (x : Double) :
    Holding (.real x) (.floating f) (make r c (.real x)) := by
  have hround : x.RoundedTo (f.ofDouble x) := f.ofDouble_eq_iff.1 rfl
  rw [make_real hc]
  split_ifs with hrange
  · rw [Bool.and_eq_true] at hrange
    exact .beyond (.real hrange.1 hrange.2 hround) rfl
  · refine .held ?_ rfl (by simp [isValid]) ⟨f, _, rfl, rfl, hround⟩
    rintro (_ | ⟨hx, hy, h⟩)
    rw [f.ofDouble_eq_iff.2 h, hx, hy] at hrange
    exact hrange rfl

theorem holding_make (hc : c.kind? = some k) (h : v.Inferable k) (hshort : ∀ n, v = .integer n → ¬ IsLong n) :
    Holding v k (make r c v) := by
  cases h with
  | own h => exact holding_of_ofKind hc h
  | integer n i => exact holding_integer hc (hshort n rfl)
  | real x f => exact holding_real hc x

end Scalar

/-! ### Inference -/

theorem Storage.kind?_eq_some_iff {s : Storage} {k : Kind} : s.kind? = some k ↔ ofKind? k = some s := by
  constructor
  · intro h
    exact beq_iff_eq.1 (List.find?_some (p := fun k => ofKind? k == some s) h)
  · intro h
    have hall : ∀ k ∈ Kind.all, (ofKind? k).all (fun s => s.kind? == some k) = true := by decide
    simpa [h] using hall k k.mem_all

theorem Kind.family_eq_integer_iff {k : Kind} : k.family = .integer ↔ ∃ i, k = .integer i := by
  cases k <;> simp [family]

theorem Kind.family_eq_floating_iff {k : Kind} : k.family = .floating ↔ ∃ f, k = .floating f := by
  cases k <;> simp [family]

namespace DataType

variable {c : Config} {v : Value} {d : DataType} {k : Kind}

/-- What the type of a value is inferred to be, where the default types are of their families. -/
inductive Inferring (c : Config) : Value → Except Error DataType → Prop
  | kind {v : Value} {k : Kind} (h : v.Inferable k) : Inferring c v (.ok (.concrete k))
  | integer (n : ℤ) (h : c.integerDefault = .dataType (.abstract .integer)) :
    Inferring c (.integer n) (.ok (.abstract .integer))
  | floating (x : Double) (h : c.floatDefault = .dataType (.abstract .floating)) :
    Inferring c (.real x) (.ok (.abstract .floating))
  | unknown {v : Value} (hinteger : ∀ n, v ≠ .integer n) (hreal : ∀ x, v ≠ .real x) {err : Error}
    (herr : err.errorClass = .unknownDataType) : Inferring c v (.error err)

theorem infer_integer (h : c.Valid) (n : ℤ) : Inferring c (.integer n) (infer c (.integer n)) := by
  obtain ⟨d, hd, hfamily⟩ := h.integerDefault
  have hinfer : infer c (.integer n) = .ok d := Config.resolve_eq_ok_iff.2 hd
  rw [hinfer]
  cases d with
  | abstract f =>
    obtain rfl := hfamily
    exact .integer n (denoted?_eq_abstract_iff.1 hd)
  | concrete k =>
    obtain ⟨i, rfl⟩ := Kind.family_eq_integer_iff.1 hfamily
    exact .kind (.integer n i)

theorem infer_real (h : c.Valid) (x : Double) : Inferring c (.real x) (infer c (.real x)) := by
  obtain ⟨d, hd, hfamily⟩ := h.floatDefault
  have hinfer : infer c (.real x) = .ok d := Config.resolve_eq_ok_iff.2 hd
  rw [hinfer]
  cases d with
  | abstract f =>
    obtain rfl := hfamily
    exact .floating x (denoted?_eq_abstract_iff.1 hd)
  | concrete k =>
    obtain ⟨f, rfl⟩ := Kind.family_eq_floating_iff.1 hfamily
    exact .kind (.real x f)

/-- A machine value has the kind that is stored so, or no type. -/
theorem infer_machine (m : Machine) : Inferring c (.machine m) (infer c (.machine m)) := by
  cases m with
  | boolean b => exact .kind (.own (.machineBoolean b))
  | integer i n =>
    have hkind : (Storage.integer i).kind? = some (.integer i) := Storage.kind?_eq_some_iff.2 rfl
    have hinfer : infer c (.machine (.integer i n)) = .ok (.concrete (.integer i)) := by
      simp only [infer, Machine.storage, ofStorage, hkind]
    rw [hinfer]
    exact .kind (.own (.machineInteger i n))
  | single x => exact .kind (.own (.single x))
  | double x => exact .kind (.own (.double x))
  | text s => exact .kind (.own (.machineText s))
  | bytes b => exact .kind (.own (.machineBytes b))
  | half | complex64 | complex128 | instant | duration => exact .unknown (by simp) (by simp) rfl

theorem infer_outcome (h : c.Valid) (v : Value) : Inferring c v (infer c v) := by
  cases v with
  | none => exact .kind (.own .nothing)
  | boolean b => exact .kind (.own (.boolean b))
  | text s => exact .kind (.own (.text s))
  | bytes form b => exact .kind (.own (.bytes form b))
  | view w => exact .kind (.own (.view w))
  | integer n => exact infer_integer h n
  | real x => exact infer_real h x
  | machine m => exact infer_machine m
  | _ => exact .unknown (by simp) (by simp) rfl

end DataType

/-! ### Scalars of inferred types -/

namespace Scalar

variable {e : Environment} {v : Value} {d : DataType} {k : Kind}

theorem create_kind (hregistry : e.registry = .builtIn) (k : Kind) (v : Value) :
    (create (.dataType (.concrete k)) v).outcome e = (make e.rendering (.concrete k) v, e) := by
  have hlookup : (Registry.lookup (.dataType (.concrete k))).outcome e = (.ok (.concrete k), e) := by
    rw [Registry.lookup_denoted (d := .concrete k) rfl, hregistry,
      Registry.classFor_eq_ok_iff.2 (Registry.find?_builtIn k)]
  rw [create, outcome_bind_ok hlookup, build, outcome_bind_ok outcome_rendering, outcome_ofExcept]

/-- There is no class for a family, and no telling so. -/
theorem create_family (hregistry : e.registry = .builtIn) (f : Family) (v : Value) :
    (create (.dataType (.abstract f)) v).outcome e = (.error (.missingMember "NoneType" "value"), e) := by
  have hlookup : (Registry.lookup (.dataType (.abstract f))).outcome e =
      (.error (.missingMember "NoneType" "value"), e) := by
    rw [Registry.lookup_denoted (d := .abstract f) rfl, hregistry]
    rfl
  rw [create, outcome_bind_error hlookup]

theorem ofValue_none (hv : ∀ h, v ≠ .scalar h) :
    ofValue v none = (do
      let d ← Action.ofExcept (DataType.infer (← get).config v)
      return .fresh (← create (.dataType d) v)) := by
  cases v with
  | scalar h => exact absurd rfl (hv h)
  | _ => rfl

/-- What is no scalar becomes one of the type that is inferred for it. -/
theorem ofValue_inferred (hv : ∀ h, v ≠ .scalar h) (hd : DataType.infer e.config v = .ok d)
    {x : Except Error Scalar} (hcreate : (create (.dataType d) v).outcome e = (x, e)) :
    (ofValue v none).outcome e = (x.map .fresh, e) := by
  rw [ofValue_none hv, outcome_bind_ok outcome_get, hd, outcome_bind_ok (outcome_ofExcept _)]
  cases x with
  | error err => exact outcome_bind_error hcreate _
  | ok s => exact outcome_bind_ok hcreate _

theorem ofValue_uninferable (hv : ∀ h, v ≠ .scalar h) {err : Error}
    (herr : DataType.infer e.config v = .error err) : (ofValue v none).outcome e = (.error err, e) := by
  rw [ofValue_none hv, outcome_bind_ok outcome_get, herr, outcome_bind_error (outcome_ofExcept _)]

theorem holding_ofValue (hregistry : e.registry = .builtIn) (hv : ∀ h, v ≠ .scalar h)
    (hshort : ∀ n, v = .integer n → ¬ IsLong n) (hinfer : DataType.infer e.config v = .ok (.concrete k))
    (h : v.Inferable k) : ∃ x, (ofValue v none).outcome e = (x.map .fresh, e) ∧ Holding v k x :=
  ⟨_, ofValue_inferred hv hinfer (create_kind hregistry k v), holding_make rfl h hshort⟩

/-- With the classes that are built in, and a valid configuration whose default types are given by name,
inference and construction take the same values. What has a type has a kind, and its scalar
is of this kind, is null only for nothing, and holds what the value says in plain form, unless a plain number is
too large for the kind; this is refused as such. What has no type is refused for this by both. -/
theorem inferred_made (hregistry : e.registry = .builtIn) (hvalid : e.config.validate e.rendering = .ok ())
    (hinteger : e.config.integerDefault.text?.isSome = true) (hfloat : e.config.floatDefault.text?.isSome = true)
    (hv : ∀ h, v ≠ .scalar h) (hshort : ∀ n, v = .integer n → ¬ IsLong n) :
    match DataType.infer e.config v with
    | .ok d =>
      ∃ k, d = .concrete k ∧
        (¬ v.Beyond k → ∃ s, (ofValue v none).outcome e = (.ok (.fresh s), e) ∧ s.kind = k ∧
          (s.isValid = false ↔ v = .none) ∧ s.Recalls v) ∧
        (v.Beyond k → ∃ err, (ofValue v none).outcome e = (.error err, e) ∧ err.errorClass = .scalarRange)
    | .error err => err.errorClass = .unknownDataType ∧ (ofValue v none).outcome e = (.error err, e) := by
  have hinferring := DataType.infer_outcome (Config.validate_eq_ok_iff.1 hvalid) v
  generalize hinfer : DataType.infer e.config v = y at hinferring
  cases hinferring with
  | kind h =>
    obtain ⟨x, houtcome, hholding⟩ := holding_ofValue hregistry hv hshort hinfer h
    refine ⟨_, rfl, ?_⟩
    cases hholding with
    | held hbeyond hkind hnull hrecalls =>
      exact ⟨fun _ => ⟨_, houtcome, hkind, hnull, hrecalls⟩, fun h => absurd h hbeyond⟩
    | beyond hbeyond herr => exact ⟨fun h => absurd hbeyond h, fun _ => ⟨_, houtcome, herr⟩⟩
  | integer n h => simp [h, Value.text?] at hinteger
  | floating x h => simp [h, Value.text?] at hfloat
  | unknown _ _ herr => exact ⟨herr, ofValue_uninferable hv hinfer⟩

/-- Of plain integers, a default type of eight bits takes those within its bounds; a complex number
has no type. -/
theorem inferred_made_int8 :
    let config : Config := { Config.initial with integerDefault := .text "int8" }
    let e : Environment := { Environment.initial with config := config }
    let complex : Value := .complex (.zero false) (.zero false)
    (∃ s, (ofValue (.integer (-128)) none).outcome e = (.ok (.fresh s), e) ∧ s.asValue = .integer (-128)) ∧
      (∃ err, (ofValue (.integer 128) none).outcome e = (.error err, e) ∧ err.errorClass = .scalarRange) ∧
      ∃ err, (ofValue complex none).outcome e = (.error err, e) ∧ err.errorClass = .unknownDataType := by
  intro config e complex
  have hshort {n : ℤ} (hn : n.natAbs < 2 ^ 64) : ¬ IsLong n := fun h => absurd h.two_pow_le (not_le.2 hn)
  have hinfer (n : ℤ) : DataType.infer config (.integer n) = .ok (.concrete (.integer ⟨true, .w8⟩)) :=
    DataType.resolve_name config.rendering (.integer ⟨true, .w8⟩)
  have hleast := inferred_made (e := e) (v := .integer (-128)) rfl rfl rfl rfl (by simp)
    (by simpa using hshort (by norm_num))
  have hbeyond := inferred_made (e := e) (v := .integer 128) rfl rfl rfl rfl (by simp)
    (by simpa using hshort (by norm_num))
  have hcomplex := inferred_made (e := e) (v := complex) rfl rfl rfl rfl (by simp [complex]) (by simp [complex])
  rw [show e.config = config from rfl, hinfer] at hleast hbeyond
  obtain ⟨k, hk, hmade, -⟩ := hleast
  obtain ⟨m, hm, -, hrange⟩ := hbeyond
  obtain rfl := DataType.concrete.inj hk
  obtain rfl := DataType.concrete.inj hm
  refine ⟨?_, hrange (.integer (by decide)), _, hcomplex.2, hcomplex.1⟩
  obtain ⟨s, hs, -, -, hvalue, -⟩ := hmade (by rintro ⟨h⟩; exact h (by decide))
  exact ⟨s, hs, hvalue⟩

/-- Not all values equal what is made of them. The zero at the end of a text of machine type is lost, and a view of
two numbers of four bytes is no row of eight. -/
theorem ofValue_unequal :
    let e := Environment.initial
    let text : Value := .machine (.text "a\x00")
    let numbers : Value :=
      .view ⟨.integer ⟨true, .w32⟩, true, some "array.array", true, [2], [1, 0, 0, 0, 2, 0, 0, 0], rfl⟩
    (DataType.infer e.config text = .ok (.concrete .string) ∧
      ∃ s, (ofValue text none).outcome e = (.ok (.fresh s), e) ∧ s.kind = .string ∧ s.asValue = .text "a" ∧
        s.asValue.equals text = false) ∧
    DataType.infer e.config numbers = .ok (.concrete .binary) ∧
      ∃ s, (ofValue numbers none).outcome e = (.ok (.fresh s), e) ∧ s.kind = .binary ∧
        s.asValue = .bytes .plain [1, 0, 0, 0, 2, 0, 0, 0] ∧ s.asValue.equals numbers = false :=
  ⟨⟨rfl, ⟨.concrete .string, .string, rfl, some "a"⟩, rfl, rfl, rfl, rfl⟩, rfl,
    ⟨.concrete .binary, .binary, rfl, some [1, 0, 0, 0, 2, 0, 0, 0]⟩, rfl, rfl, rfl, rfl⟩

/-- Whether a value can be used without a type: a kind of a family is inferred for it that has a
class, and this makes a valid scalar of it, or refuses it as out of range. -/
def Usable (e : Environment) (family : Family) (v : Value) : Prop :=
  ∃ k, DataType.infer e.config v = .ok (.concrete k) ∧ k.family = family ∧
    e.registry.contains (some k) = true ∧
    ((∃ s, (ofValue v none).outcome e = (.ok (.fresh s), e) ∧ s.isValid = true ∧ s.kind = k) ∨
      ∃ err, (ofValue v none).outcome e = (.error err, e) ∧ err.errorClass = .scalarRange)

theorem usable_of_inferable (hregistry : e.registry = .builtIn) (hv : ∀ h, v ≠ .scalar h) (hnone : v ≠ .none)
    (hshort : ∀ n, v = .integer n → ¬ IsLong n) (hinfer : DataType.infer e.config v = .ok (.concrete k))
    (h : v.Inferable k) : Usable e k.family v := by
  obtain ⟨x, houtcome, hholding⟩ := holding_ofValue hregistry hv hshort hinfer h
  refine ⟨k, hinfer, rfl, ?_, ?_⟩
  · rw [hregistry, Registry.contains_iff]
    exact ⟨_, Registry.find?_builtIn k⟩
  · cases hholding with
    | held _ hkind hnull =>
      exact .inl ⟨_, houtcome, by simpa [hnone] using hnull, hkind⟩
    | beyond _ herr => exact .inr ⟨_, houtcome, herr⟩

/-- A family in place of a kind is inferred, but has no class. -/
theorem not_usable (hregistry : e.registry = .builtIn) (hv : ∀ h, v ≠ .scalar h) {f : Family}
    (hinfer : DataType.infer e.config v = .ok (.abstract f)) (family : Family) :
    ¬ Usable e family v ∧ (ofValue v none).outcome e = (.error (.missingMember "NoneType" "value"), e) := by
  refine ⟨?_, ofValue_inferred hv hinfer (create_family hregistry f v)⟩
  rintro ⟨k, hk, -⟩
  simp [hinfer] at hk

theorem usable_integer (hregistry : e.registry = .builtIn) (hvalid : e.config.Valid) {n : ℤ} (hn : ¬ IsLong n) :
    (Usable e .integer (.integer n) ↔ e.config.integerDefault ≠ .dataType (.abstract .integer)) ∧
      (¬ Usable e .integer (.integer n) →
        (ofValue (.integer n) none).outcome e = (.error (.missingMember "NoneType" "value"), e)) := by
  have h := DataType.infer_integer hvalid n
  generalize hinfer : DataType.infer e.config (.integer n) = y at h
  cases h with
  | kind h =>
    have husable := usable_of_inferable hregistry (by simp) (by simp) (by simpa using hn) hinfer h
    obtain ⟨⟨⟩⟩ | ⟨n, i⟩ := h
    refine ⟨iff_of_true husable fun hdefault => ?_, fun h => absurd husable h⟩
    simp [DataType.infer, hdefault, DataType.resolve] at hinfer
  | integer n hdefault =>
    obtain ⟨hnot, houtcome⟩ := not_usable hregistry (by simp) hinfer .integer
    exact ⟨iff_of_false hnot (not_not.2 hdefault), fun _ => houtcome⟩
  | unknown hinteger => exact absurd rfl (hinteger n)

theorem usable_real (hregistry : e.registry = .builtIn) (hvalid : e.config.Valid) (x : Double) :
    (Usable e .floating (.real x) ↔ e.config.floatDefault ≠ .dataType (.abstract .floating)) ∧
      (¬ Usable e .floating (.real x) →
        (ofValue (.real x) none).outcome e = (.error (.missingMember "NoneType" "value"), e)) := by
  have h := DataType.infer_real hvalid x
  generalize hinfer : DataType.infer e.config (.real x) = y at h
  cases h with
  | kind h =>
    have husable := usable_of_inferable hregistry (by simp) (by simp) (by simp) hinfer h
    obtain ⟨⟨⟩⟩ | _ | ⟨x, f⟩ := h
    refine ⟨iff_of_true husable fun hdefault => ?_, fun h => absurd husable h⟩
    simp [DataType.infer, hdefault, DataType.resolve] at hinfer
  | floating x hdefault =>
    obtain ⟨hnot, houtcome⟩ := not_usable hregistry (by simp) hinfer .floating
    exact ⟨iff_of_false hnot (not_not.2 hdefault), fun _ => houtcome⟩
  | unknown _ hreal => exact absurd rfl (hreal x)

/-- With the classes that are built in, a valid configuration can be used for plain numbers unless the
default type for them is the family of their kinds in place of a kind; then all of them fail. -/
theorem usable_iff (hregistry : e.registry = .builtIn) (hvalid : e.config.validate e.rendering = .ok ())
    {n : ℤ} (hn : ¬ IsLong n) (x : Double) :
    let noClass : Except Error Made × Environment := (.error (.missingMember "NoneType" "value"), e)
    ((Usable e .integer (.integer n) ↔ e.config.integerDefault ≠ .dataType (.abstract .integer)) ∧
      (¬ Usable e .integer (.integer n) → (ofValue (.integer n) none).outcome e = noClass)) ∧
    (Usable e .floating (.real x) ↔ e.config.floatDefault ≠ .dataType (.abstract .floating)) ∧
      (¬ Usable e .floating (.real x) → (ofValue (.real x) none).outcome e = noClass) := by
  rw [Config.validate_eq_ok_iff] at hvalid
  exact ⟨usable_integer hregistry hvalid hn, usable_real hregistry hvalid x⟩

/-- A valid configuration may name the family of integers as the default type. -/
theorem usable_iff_family :
    let config : Config := { Config.initial with integerDefault := .dataType (.abstract .integer) }
    let e : Environment := { Environment.initial with config := config }
    config.validate e.rendering = .ok () ∧
      (ofValue (.integer 5) none).outcome e = (.error (.missingMember "NoneType" "value"), e) ∧
      Usable e .floating (.real (.zero false)) := by
  intro config e
  have hvalid : config.validate e.rendering = .ok () := rfl
  have hshort : ¬ IsLong 5 := fun h => absurd h.two_pow_le (by norm_num)
  obtain ⟨⟨hinteger, hfails⟩, hreal, -⟩ := usable_iff (e := e) rfl hvalid hshort (.zero false)
  refine ⟨hvalid, hfails fun h => hinteger.1 h rfl, hreal.2 ?_⟩
  simp [e, config, Config.initial]

end Scalar

end TypedScalar
