import TypedScalar.Proofs.Config.Validate
import TypedScalar.Proofs.Registry

/-! Questions to a registry: whether a type has a class, which one, and what kinds there are.
They agree with each other, and a type without a class is refused as an unknown one. But the refusal
tells the type and the kinds that are registered, and so it goes wrong where there is no telling: a
value that cannot be shown, a family, and a registry that holds a class for families. -/

namespace TypedScalar

open TypedScalar.Action

variable {r : Rendering} {e : Environment} {t : Value} {d : DataType} {k : Kind}

/-! ### Classes -/

namespace Registry

/-- Whether a type has no class and there is no telling so: it has no name, or some key has none. -/
def Untold (r : Registry) (t : Value) : Prop :=
  ∃ d, DataType.denoted? t = some d ∧ r.contains d.kind? = false ∧
    (d.kind? = none ∨ r.contains none = true)

theorem listTypes_outcome (e : Environment) : listTypes.outcome e = (e.registry.names, e) := rfl

theorem isRegistered_denoted (h : DataType.denoted? t = some d) :
    (isRegistered t).outcome e = (.ok (e.registry.contains d.kind?), e) := by
  rw [isRegistered, outcome_bind_ok outcome_get, Config.resolve_eq_ok_iff.2 h]
  rfl

theorem isRegistered_refused {err : Error} (h : DataType.resolve e.rendering t = .error err) :
    (isRegistered t).outcome e =
      (if err.isA .unknownDataType then .ok false else .error err, e) := by
  rw [isRegistered, outcome_bind_ok outcome_get, h]
  dsimp only
  split_ifs <;> rfl

theorem lookup_eq (t : Value) (e : Environment) :
    (lookup t).outcome e = ((DataType.resolve e.rendering t).bind e.registry.classFor, e) := by
  cases h : DataType.resolve e.rendering t with
  | error err => rw [lookup, resolve_bind_error h]; rfl
  | ok d => rw [lookup, resolve_bind_ok h]; rfl

theorem lookup_denoted (h : DataType.denoted? t = some d) :
    (lookup t).outcome e = (e.registry.classFor d, e) := by
  rw [lookup_eq, Config.resolve_eq_ok_iff.2 h]
  rfl

theorem lookup_refused {err : Error} (h : DataType.resolve e.rendering t = .error err) :
    (lookup t).outcome e = (.error err, e) := by
  rw [lookup_eq, h]
  rfl

theorem lookup_eq_ok_iff {c : ScalarClass} :
    (lookup t).outcome e = (.ok c, e) ↔
      ∃ d, DataType.denoted? t = some d ∧ e.registry.find? d.kind? = some c := by
  rw [lookup_eq, Prod.mk.injEq, Config.bind_eq_ok_iff]
  simp only [Config.resolve_eq_ok_iff, classFor_eq_ok_iff, and_true]

/-- Where there is no telling, no class is found. -/
theorem Untold.lookup_ne (h : e.registry.Untold t) (c : ScalarClass) :
    (lookup t).outcome e ≠ (.ok c, e) := by
  obtain ⟨d, hd, habsent, -⟩ := h
  intro hlookup
  obtain ⟨d', hd', hfind⟩ := lookup_eq_ok_iff.1 hlookup
  obtain rfl := Option.some.inj (hd.symm.trans hd')
  exact absurd ((contains_iff.2 ⟨c, hfind⟩).symm.trans habsent) (by simp)

/-- What the two questions for the class of a type come to together. -/
inductive Asking (e : Environment) (t : Value) :
    Except Error Bool × Environment → Except Error ScalarClass × Environment → Prop
  | registered {d : DataType} {c : ScalarClass} (h : DataType.denoted? t = some d)
    (hc : e.registry.find? d.kind? = some c) : Asking e t (.ok true, e) (.ok c, e)
  | unknown (hshowable : ¬ t.Unshowable) (htold : ¬ e.registry.Untold t) {err : Error}
    (herr : err.errorClass = .unknownDataType) : Asking e t (.ok false, e) (.error err, e)
  | untold (hshowable : ¬ t.Unshowable) (h : e.registry.Untold t) {err : Error}
    (herr : err.errorClass = .member) : Asking e t (.ok false, e) (.error err, e)
  | unshown {err : Error} (herr : t.Unshown err) : Asking e t (.error err, e) (.error err, e)

theorem asking_outcome (e : Environment) (t : Value) :
    Asking e t ((isRegistered t).outcome e) ((lookup t).outcome e) := by
  have hresolve := DataType.resolve_outcome e.rendering t
  generalize hx : DataType.resolve e.rendering t = x at hresolve
  cases hresolve with
  | unknown hd hshowable herr =>
    rw [isRegistered_refused hx, lookup_refused hx, if_pos (by simp [Error.isA, herr, ErrorClass.isA])]
    refine .unknown hshowable ?_ herr
    rintro ⟨d, hd', -⟩
    simp [hd] at hd'
  | unshown hd herr =>
    rw [isRegistered_refused hx, lookup_refused hx, herr.fault.isA_unknownDataType]
    exact .unshown herr
  | @denoted d hd =>
    have hshowable := DataType.not_unshowable hd
    have hclass := classFor_outcome e.registry d
    rw [isRegistered_denoted hd, lookup_denoted hd]
    generalize e.registry.classFor d = y at hclass
    cases hclass with
    | found hc =>
      rw [contains_iff.2 ⟨_, hc⟩]
      exact .registered hd hc
    | unregistered hk habsent hnames =>
      rw [hk, habsent]
      refine .unknown hshowable ?_ rfl
      rintro ⟨d', hd', -, hname⟩
      obtain rfl := Option.some.inj (hd.symm.trans hd')
      simp [hk, hnames] at hname
    | nameless habsent hname =>
      rw [habsent]
      exact .untold hshowable ⟨_, hd, habsent, hname⟩ rfl

/-- The kinds can be listed unless there is a class for families. Whether a type has a class is told
of every value but those that cannot be shown. A type has a class exactly if it is told to have one;
and where it has none, it is refused as unknown unless it cannot be shown or there is no telling. -/
theorem queries_answered (e : Environment) :
    ((∃ names, listTypes.outcome e = (.ok names, e)) ↔ e.registry.contains none = false) ∧
    ∀ t,
      ((∃ b, (isRegistered t).outcome e = (.ok b, e)) ↔ ¬ t.Unshowable) ∧
      ((∃ c, (lookup t).outcome e = (.ok c, e)) ↔ (isRegistered t).outcome e = (.ok true, e)) ∧
      ((∀ err e', (lookup t).outcome e = (.error err, e') → err.errorClass = .unknownDataType) ↔
        ¬ t.Unshowable ∧ ¬ e.registry.Untold t) := by
  constructor
  · rw [listTypes_outcome, names_eq]
    cases e.registry.contains none <;> simp
  · intro t
    have h := asking_outcome e t
    generalize (isRegistered t).outcome e = x at h ⊢
    generalize hlookup : (lookup t).outcome e = y at h ⊢
    cases h with
    | registered hd hc =>
      have htold : ¬ e.registry.Untold t := fun h => h.lookup_ne _ hlookup
      simp [DataType.not_unshowable hd, htold]
    | unknown hshowable htold herr => simp [hshowable, htold, herr]
    | untold hshowable h herr => simp [hshowable, h, herr]
    | unshown herr => rcases herr.fault.errorClass_eq with hclass | hclass <;> simp [herr.unshowable, hclass]

/-- An integer of too many digits is no type, but to ask for it fails; so does asking for the class of
a family, and listing the kinds once there is one for families. -/
theorem queries_answered_family :
    let e := Environment.initial
    let family : Value := .dataType (.abstract .integer)
    let e' := ((register (.dataType (.abstract .any)) (.abstract .any)).outcome e).2
    (¬ ∃ b, (isRegistered (.integer (10 ^ Text.digitLimit))).outcome e = (.ok b, e)) ∧
      (isRegistered family).outcome e = (.ok false, e) ∧
      (¬ ∀ err e', (lookup family).outcome e = (.error err, e') → err.errorClass = .unknownDataType) ∧
      e'.registry.Reachable ∧ ¬ ∃ names, listTypes.outcome e' = (.ok names, e') := by
  intro e family e'
  have hlong : (Value.integer (10 ^ Text.digitLimit)).Unshowable :=
    Value.unshowable_integer.2 (by simp [IsLong, Int.natAbs_pow])
  have huntold : e.registry.Untold family := ⟨_, rfl, rfl, .inl rfl⟩
  have hadded : e'.registry.contains none = true := by
    have hregister := register_family (e := e) (t := .dataType (.abstract .any)) (c := .abstract .any) rfl rfl
    simp only [e', hregister]
    rfl
  obtain ⟨-, hqueries⟩ := queries_answered e
  refine ⟨mt (hqueries _).1.1 (not_not.2 hlong), rfl, fun h => ((hqueries family).2.2.1 h).2 huntold,
    .register .builtIn _ _, fun h => ?_⟩
  simpa [hadded] using (queries_answered e').1.1 h

end Registry

end TypedScalar
