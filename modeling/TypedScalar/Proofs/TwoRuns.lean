import TypedScalar.Proofs.Action

/-! Two runs side by side. Computations keep step when states that correspond lead
to results and states that correspond. Errors correspond by their class, as messages
may show what the runs differ in. -/

namespace TypedScalar

variable {α α' β β' σ : Type} {R : α → α' → Prop} {Q : β → β' → Prop}

/-- Results that correspond: values by a relation, and errors by their class. -/
inductive Corresponds (R : α → α' → Prop) : Except Error α → Except Error α' → Prop
  | ok {x : α} {y : α'} (h : R x y) : Corresponds R (.ok x) (.ok y)
  | error {err err' : Error} (h : err.errorClass = err'.errorClass) :
    Corresponds R (.error err) (.error err')

namespace Corresponds

theorem refl (x : Except Error α) : Corresponds Eq x x := by
  cases x with
  | ok => exact .ok rfl
  | error => exact .error rfl

theorem mono {R' : α → α' → Prop} {x : Except Error α} {y : Except Error α'} (h : Corresponds R x y)
    (hR : ∀ a b, R a b → R' a b) :
    Corresponds R' x y := by
  cases h with
  | ok h => exact .ok (hR _ _ h)
  | error h => exact .error h

theorem symm {x : Except Error α} {y : Except Error α'} (h : Corresponds R x y) :
    Corresponds (fun b a => R a b) y x := by
  cases h with
  | ok h => exact .ok h
  | error h => exact .error h.symm

theorem trans {S : α' → β → Prop} {T : α → β → Prop} {x : Except Error α} {y : Except Error α'}
    {z : Except Error β} (h : Corresponds R x y) (h' : Corresponds S y z)
    (hT : ∀ a b c, R a b → S b c → T a c) : Corresponds T x z := by
  cases h with
  | ok h =>
    cases h' with
    | ok h' => exact .ok (hT _ _ _ h h')
  | error h =>
    cases h' with
    | error h' => exact .error (h.trans h')

theorem bind {x : Except Error α} {y : Except Error α'} {f : α → Except Error β} {g : α' → Except Error β'}
    (h : Corresponds R x y) (hfg : ∀ a b, R a b → Corresponds Q (f a) (g b)) :
    Corresponds Q (x.bind f) (y.bind g) := by
  cases h with
  | ok h => exact hfg _ _ h
  | error h => exact .error h

theorem map {x : Except Error α} {y : Except Error α'} {f : α → β} {g : α' → β'} (h : Corresponds R x y)
    (hfg : ∀ a b, R a b → Q (f a) (g b)) :
    Corresponds Q (x.map f) (y.map g) := by
  cases h with
  | ok h => exact .ok (hfg _ _ h)
  | error h => exact .error h

end Corresponds

/-- Whether two computations take corresponding states to corresponding results and
states. -/
def KeepsStep (S : σ → σ → Prop) (R : α → α' → Prop) (t : ExceptT Error (StateM σ) α)
    (u : ExceptT Error (StateM σ) α') : Prop :=
  ∀ s s', S s s' → Corresponds R (t.run.run s).1 (u.run.run s').1 ∧ S (t.run.run s).2 (u.run.run s').2

section

variable {S : σ → σ → Prop}

theorem keepsStep_pure {x : α} {y : α'} (h : R x y) : KeepsStep S R (pure x) (pure y) := fun _ _ hs =>
  ⟨.ok h, hs⟩

theorem keepsStep_throw {err err' : Error} (h : err.errorClass = err'.errorClass) :
    KeepsStep S R (throw err) (throw err') := fun _ _ hs => ⟨.error h, hs⟩

theorem keepsStep_get : KeepsStep S S get get := fun _ _ hs => ⟨.ok hs, hs⟩

theorem keepsStep_modify {f g : σ → σ} (h : ∀ s s', S s s' → S (f s) (g s')) :
    KeepsStep S Eq (modify f : ExceptT Error (StateM σ) PUnit) (modify g) := fun s s' hs =>
  ⟨.ok rfl, h s s' hs⟩

theorem KeepsStep.bind {t : ExceptT Error (StateM σ) α} {u : ExceptT Error (StateM σ) α'}
    {f : α → ExceptT Error (StateM σ) β} {g : α' → ExceptT Error (StateM σ) β'} (h : KeepsStep S R t u)
    (hfg : ∀ x y, R x y → KeepsStep S Q (f x) (g y)) :
    KeepsStep S Q (t >>= f) (u >>= g) := by
  intro s s' hs
  obtain ⟨hresult, hstate⟩ := h s s' hs
  rcases ht : t.run.run s with ⟨result, s₁⟩
  rcases hu : u.run.run s' with ⟨result', s₁'⟩
  rw [ht, hu] at hresult hstate
  cases hresult with
  | ok hxy =>
    rw [run_bind_ok ht, run_bind_ok hu]
    exact hfg _ _ hxy _ _ hstate
  | error herr =>
    rw [run_bind_error ht, run_bind_error hu]
    exact ⟨.error herr, hstate⟩

/-- The usual case, where what comes next sees one and the same value. -/
theorem KeepsStep.bind_eq {t u : ExceptT Error (StateM σ) α}
    {f : α → ExceptT Error (StateM σ) β} {g : α → ExceptT Error (StateM σ) β'} (h : KeepsStep S Eq t u)
    (hfg : ∀ x, KeepsStep S Q (f x) (g x)) :
    KeepsStep S Q (t >>= f) (u >>= g) := h.bind fun x _ hxy => hxy ▸ hfg x

end

end TypedScalar
