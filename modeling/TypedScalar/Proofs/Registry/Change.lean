import Mathlib.Tactic.SplitIfs
import TypedScalar.Proofs.Action
import TypedScalar.Registry.Change

/-! What looking up, registering and unregistering come to. A call on a type that is
none, or with a class of another kind, is refused. A call on a kind changes the registry and
is recorded. A family has no name to be recorded by: a call on one fails, and what
it changed before stays changed. -/

namespace TypedScalar.Registry

open TypedScalar.Action

variable {e : Environment} {t : Value} {c : ScalarClass} {d : DataType} {k : Kind} {f : Family} {err : Error}

variable {α : Type}

theorem resolve_outcome (t : Value) (e : Environment) :
    (resolve t).outcome e = (DataType.resolve e.rendering t, e) := rfl

theorem resolve_bind_ok (h : DataType.resolve e.rendering t = .ok d) (f : DataType → Action α) :
    (resolve t >>= f).outcome e = (f d).outcome e := outcome_bind_ok (by rw [resolve_outcome, h]) f

theorem resolve_bind_error (h : DataType.resolve e.rendering t = .error err) (f : DataType → Action α) :
    (resolve t >>= f).outcome e = (.error err, e) := outcome_bind_error (by rw [resolve_outcome, h]) f

/-! ### Looking up -/

theorem classFor_eq_ok_iff {r : Registry} : r.classFor d = .ok c ↔ r.find? d.kind? = some c := by
  rw [classFor]
  cases r.find? d.kind? with
  | some c' => simp
  | none =>
    cases r.names with
    | error err => simp [Except.bind]
    | ok names => cases d.kind? <;> simp [Except.bind]

theorem contains_iff {r : Registry} {key : Option Kind} : r.contains key = true ↔ ∃ c, r.find? key = some c :=
  Option.isSome_iff_exists

/-- The kinds are listed by name, unless there is a class for families, which have none. -/
theorem names_eq (r : Registry) :
    r.names =
      if r.contains none then .error (.missingMember "NoneType" "value")
      else .ok (r.entries.filterMap fun x => x.1.map Kind.name) := by
  obtain ⟨entries⟩ := r
  induction entries with
  | nil => rfl
  | cons x rest ih =>
    obtain ⟨key, c⟩ := x
    cases key with
    | none => rfl
    | some k =>
      have hcontains : contains ⟨(some k, c) :: rest⟩ none = contains ⟨rest⟩ none := rfl
      have hnames : names ⟨(some k, c) :: rest⟩ = (names ⟨rest⟩).map (k.name :: ·) := by
        rw [names, List.mapM_cons]
        rfl
      rw [hnames, ih, hcontains]
      split_ifs <;> rfl

/-- All that looking up the class for a descriptor can come to. -/
inductive LookingUp (r : Registry) (d : DataType) : Except Error ScalarClass → Prop
  | found {c : ScalarClass} (h : r.find? d.kind? = some c) : LookingUp r d (.ok c)
  | unregistered {k : Kind} (hk : d.kind? = some k) (h : r.contains (some k) = false)
    (hnames : r.contains none = false) (registered : List String) :
    LookingUp r d (.error (.notRegistered k registered))
  | nameless (h : r.contains d.kind? = false) (hname : d.kind? = none ∨ r.contains none = true) :
    LookingUp r d (.error (.missingMember "NoneType" "value"))

theorem classFor_outcome (r : Registry) (d : DataType) : LookingUp r d (r.classFor d) := by
  rw [classFor]
  cases hc : r.find? d.kind? with
  | some c => exact .found hc
  | none =>
    have habsent : r.contains d.kind? = false := by rw [contains, hc]; rfl
    rw [names_eq]
    split_ifs with hnone
    · exact .nameless habsent (.inr hnone)
    · cases hk : d.kind? with
      | none => exact .nameless habsent (.inl hk)
      | some k => exact .unregistered hk (hk ▸ habsent) (by simpa using hnone) _

theorem lookup_outcome (h : DataType.resolve e.rendering t = .ok d)
    (hc : e.registry.find? d.kind? = some c) :
    (lookup t).outcome e = (.ok c, e) := by
  rw [lookup, resolve_bind_ok h, outcome_bind_ok outcome_get, outcome_ofExcept,
    classFor_eq_ok_iff.2 hc]

/-! ### Registering -/

/-- The error of registering a class for what it does not hold. -/
def mismatch (c : ScalarClass) (key : Option Kind) : Error :=
  match c.kind?, key with
  | some holds, some asked => .wrongHolder c.name holds asked
  | _, _ => .missingMember "NoneType" "value"

/-- The records of a class being registered for a kind. -/
def registrations (r : Registry) (k : Kind) (c : ScalarClass) : List Record :=
  (if r.contains (some k) then
    [⟨.warning, logger, "Scalar type '" ++ k.name ++ "' already registered. Overwriting with " ++ c.name⟩]
  else []) ++ [⟨.info, logger, "Registered scalar: " ++ k.name ++ " -> " ++ c.name⟩]

theorem register_unresolved (h : DataType.resolve e.rendering t = .error err) :
    (register t c).outcome e = (.error err, e) := by
  rw [register, resolve_bind_error h]

theorem register_mismatched (h : DataType.resolve e.rendering t = .ok d) (hc : c.kind? ≠ d.kind?) :
    (register t c).outcome e = (.error (mismatch c d.kind?), e) := by
  rw [register, resolve_bind_ok h]
  simp only [hc, ne_eq, not_false_eq_true, ↓reduceIte, mismatch]
  cases c.kind? <;> cases d.kind? <;> rfl

theorem register_kind (h : DataType.resolve e.rendering t = .ok (.concrete k)) (hc : c.kind? = some k) :
    (register t c).outcome e =
      (.ok (), { e with
        registry := e.registry.insert (some k) c, log := e.log ++ registrations e.registry k c }) := by
  rw [register, resolve_bind_ok h]
  simp only [hc, DataType.kind?, ne_eq, not_true_eq_false, ↓reduceIte]
  rw [outcome_bind_ok outcome_get]
  by_cases hcontains : e.registry.contains (some k) = true
  · simp only [hcontains, ↓reduceIte, registrations, ← List.append_assoc]
    rfl
  · simp only [hcontains, registrations]
    rfl

/-- For a family, a class of no kind is added unless there is one. -/
theorem register_family (h : DataType.resolve e.rendering t = .ok (.abstract f)) (hc : c.kind? = none) :
    (register t c).outcome e =
      (.error (.missingMember "NoneType" "value"),
        if e.registry.contains none then e else { e with registry := e.registry.insert none c }) := by
  rw [register, resolve_bind_ok h]
  simp only [hc, DataType.kind?, ne_eq, not_true_eq_false, ↓reduceIte]
  rw [outcome_bind_ok outcome_get]
  by_cases hcontains : e.registry.contains none = true
  · simp only [hcontains, ↓reduceIte]
    rfl
  · simp only [hcontains]
    rfl

/-- All that registering a class for a type can come to. -/
inductive Registering (e : Environment) (t : Value) (c : ScalarClass) :
    Except Error Unit × Environment → Prop
  | unresolved {err : Error} (h : DataType.resolve e.rendering t = .error err) :
    Registering e t c (.error err, e)
  | mismatched {d : DataType} (h : DataType.resolve e.rendering t = .ok d) (hc : c.kind? ≠ d.kind?) :
    Registering e t c (.error (mismatch c d.kind?), e)
  | kind {k : Kind} (h : DataType.resolve e.rendering t = .ok (.concrete k)) (hc : c.kind? = some k) :
    Registering e t c
      (.ok (), { e with
        registry := e.registry.insert (some k) c, log := e.log ++ registrations e.registry k c })
  | family {f : Family} (h : DataType.resolve e.rendering t = .ok (.abstract f)) (hc : c.kind? = none) :
    Registering e t c
      (.error (.missingMember "NoneType" "value"),
        if e.registry.contains none then e else { e with registry := e.registry.insert none c })

theorem register_outcome (e : Environment) (t : Value) (c : ScalarClass) :
    Registering e t c ((register t c).outcome e) := by
  cases hd : DataType.resolve e.rendering t with
  | error err => exact register_unresolved hd ▸ .unresolved hd
  | ok d =>
    by_cases hc : c.kind? = d.kind?
    · cases d with
      | concrete k => exact register_kind hd hc ▸ .kind hd hc
      | abstract f => exact register_family hd hc ▸ .family hd hc
    · exact register_mismatched hd hc ▸ .mismatched hd hc

/-! ### Unregistering -/

theorem unregister_unresolved (h : DataType.resolve e.rendering t = .error err) :
    (unregister t).outcome e = (.error err, e) := by
  rw [unregister, resolve_bind_error h]

theorem unregister_absent (h : DataType.resolve e.rendering t = .ok d)
    (habsent : e.registry.contains d.kind? = false) :
    (unregister t).outcome e = (.ok (), e) := by
  rw [unregister, resolve_bind_ok h, outcome_bind_ok outcome_get]
  simp only [habsent, Bool.false_eq_true, ↓reduceIte]
  rfl

theorem unregister_kind (h : DataType.resolve e.rendering t = .ok (.concrete k))
    (hcontains : e.registry.contains (some k) = true) :
    (unregister t).outcome e =
      (.ok (), { e with
        registry := e.registry.erase (some k)
        log := e.log ++ [⟨.info, logger, "Unregistered scalar: " ++ k.name⟩] }) := by
  rw [unregister, resolve_bind_ok h, outcome_bind_ok outcome_get]
  simp only [DataType.kind?, hcontains, ↓reduceIte]
  rfl

theorem unregister_family (h : DataType.resolve e.rendering t = .ok (.abstract f))
    (hcontains : e.registry.contains none = true) :
    (unregister t).outcome e =
      (.error (.missingMember "NoneType" "value"), { e with registry := e.registry.erase none }) := by
  rw [unregister, resolve_bind_ok h, outcome_bind_ok outcome_get]
  simp only [DataType.kind?, hcontains, ↓reduceIte]
  rfl

/-- All that unregistering a type can come to. -/
inductive Unregistering (e : Environment) (t : Value) : Except Error Unit × Environment → Prop
  | unresolved {err : Error} (h : DataType.resolve e.rendering t = .error err) :
    Unregistering e t (.error err, e)
  | absent {d : DataType} (h : DataType.resolve e.rendering t = .ok d)
    (habsent : e.registry.contains d.kind? = false) : Unregistering e t (.ok (), e)
  | kind {k : Kind} (h : DataType.resolve e.rendering t = .ok (.concrete k))
    (hcontains : e.registry.contains (some k) = true) :
    Unregistering e t
      (.ok (), { e with
        registry := e.registry.erase (some k)
        log := e.log ++ [⟨.info, logger, "Unregistered scalar: " ++ k.name⟩] })
  | family {f : Family} (h : DataType.resolve e.rendering t = .ok (.abstract f))
    (hcontains : e.registry.contains none = true) :
    Unregistering e t
      (.error (.missingMember "NoneType" "value"), { e with registry := e.registry.erase none })

theorem unregister_outcome (e : Environment) (t : Value) : Unregistering e t ((unregister t).outcome e) := by
  cases hd : DataType.resolve e.rendering t with
  | error err => exact unregister_unresolved hd ▸ .unresolved hd
  | ok d =>
    cases hcontains : e.registry.contains d.kind? with
    | false => exact unregister_absent hd hcontains ▸ .absent hd hcontains
    | true =>
      cases d with
      | concrete k => exact unregister_kind hd hcontains ▸ .kind hd hcontains
      | abstract f => exact unregister_family hd hcontains ▸ .family hd hcontains

end TypedScalar.Registry
