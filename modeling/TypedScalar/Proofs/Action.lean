import TypedScalar.Environment

/-! Outcomes of actions, step by step. A failing step ends an action, and leaves
the environment as the steps before it made it. -/

namespace TypedScalar

variable {α β σ : Type}

section

variable {t : ExceptT Error (StateM σ) α} {s s' : σ}

theorem run_bind_ok {x : α} (h : t.run.run s = (.ok x, s')) (f : α → ExceptT Error (StateM σ) β) :
    (t >>= f).run.run s = (f x).run.run s' := by
  show (t.run >>= ExceptT.bindCont f).run s = _
  rw [StateT.run_bind, h]
  rfl

theorem run_bind_error {err : Error} (h : t.run.run s = (.error err, s'))
    (f : α → ExceptT Error (StateM σ) β) :
    (t >>= f).run.run s = (.error err, s') := by
  show (t.run >>= ExceptT.bindCont f).run s = _
  rw [StateT.run_bind, h]
  rfl

theorem run_tryCatch_ok {x : α} (h : t.run.run s = (.ok x, s'))
    (handler : Error → ExceptT Error (StateM σ) α) :
    (tryCatch t handler).run.run s = (.ok x, s') := by
  show (ExceptT.tryCatch t handler).run.run s = _
  rw [ExceptT.tryCatch, ExceptT.run_mk, StateT.run_bind, show StateT.run t s = _ from h]
  rfl

theorem run_tryCatch_error {err : Error} (h : t.run.run s = (.error err, s'))
    (handler : Error → ExceptT Error (StateM σ) α) :
    (tryCatch t handler).run.run s = (handler err).run.run s' := by
  show (ExceptT.tryCatch t handler).run.run s = _
  rw [ExceptT.tryCatch, ExceptT.run_mk, StateT.run_bind, show StateT.run t s = _ from h]
  rfl

end

namespace Action

variable {e e' : Environment}

theorem outcome_bind_ok {a : Action α} {x : α} (h : a.outcome e = (.ok x, e')) (f : α → Action β) :
    (a >>= f).outcome e = (f x).outcome e' := run_bind_ok h f

theorem outcome_bind_error {a : Action α} {err : Error} (h : a.outcome e = (.error err, e'))
    (f : α → Action β) :
    (a >>= f).outcome e = (.error err, e') := run_bind_error h f

/-- What succeeds has succeeded step by step. -/
theorem ok_of_outcome_bind {a : Action α} {f : α → Action β} {y : β}
    (h : (a >>= f).outcome e = (.ok y, e')) :
    ∃ x e₁, a.outcome e = (.ok x, e₁) ∧ (f x).outcome e₁ = (.ok y, e') := by
  rcases houtcome : a.outcome e with ⟨err | x, e₁⟩
  · rw [outcome_bind_error houtcome] at h
    simp at h
  · exact ⟨x, e₁, rfl, by rwa [outcome_bind_ok houtcome] at h⟩

@[simp] theorem outcome_pure (x : α) : (pure x : Action α).outcome e = (.ok x, e) := rfl

@[simp] theorem outcome_get : (get : Action Environment).outcome e = (.ok e, e) := rfl

@[simp] theorem outcome_rendering : rendering.outcome e = (.ok e.rendering, e) := rfl

@[simp] theorem outcome_ofExcept (x : Except Error α) : (ofExcept x).outcome e = (x, e) := rfl

@[simp] theorem outcome_record (level : Level) (logger message : String) :
    (record level logger message).outcome e =
      (.ok (), { e with log := e.log ++ [⟨level, logger, message⟩] }) := rfl

theorem eq_of_outcome_pure {x y : α} (h : (pure x : Action α).outcome e = (.ok y, e')) : y = x :=
  (Except.ok.inj (Prod.mk.inj h).1).symm

theorem ok_of_ofExcept_bind {x : Except Error α} {f : α → Action β} {y : β}
    (h : (ofExcept x >>= f).outcome e = (.ok y, e')) :
    ∃ a, x = .ok a ∧ (f a).outcome e = (.ok y, e') := by
  obtain ⟨a, e₁, ha, hrest⟩ := ok_of_outcome_bind h
  obtain ⟨rfl, rfl⟩ := Prod.mk.inj ha
  exact ⟨a, rfl, hrest⟩

end Action

end TypedScalar
