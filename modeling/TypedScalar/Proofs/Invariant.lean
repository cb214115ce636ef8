import TypedScalar.Proofs.Action

/-! Invariants of computations. A computation maintains a property of the state if the property holds
afterwards wherever it held before, also if the computation fails; and what it gives may have a
property of its own. -/

namespace TypedScalar

variable {α β σ : Type} {P : σ → Prop} {Q Q' : α → Prop} {R : β → Prop}

/-- Whether a computation maintains a property of the state, and gives results of another one. -/
def Maintains (P : σ → Prop) (Q : α → Prop) (t : ExceptT Error (StateM σ) α) : Prop :=
  ∀ s, P s → P (t.run.run s).2 ∧ ∀ x, (t.run.run s).1 = .ok x → Q x

/-- Whether a computation maintains a property of the state, whatever it gives. -/
abbrev Preserves (P : σ → Prop) (t : ExceptT Error (StateM σ) α) : Prop := Maintains P (fun _ => True) t

theorem Maintains.mono {t : ExceptT Error (StateM σ) α} (h : Maintains P Q t) (hQ : ∀ x, Q x → Q' x) :
    Maintains P Q' t := fun s hs => ⟨(h s hs).1, fun x hx => hQ x ((h s hs).2 x hx)⟩

theorem Maintains.preserves {t : ExceptT Error (StateM σ) α} (h : Maintains P Q t) : Preserves P t :=
  h.mono fun _ _ => trivial

/-- What holds of every state is preserved by whatever is done. -/
theorem preserves_of_forall (h : ∀ s, P s) (t : ExceptT Error (StateM σ) α) : Preserves P t := fun _ _ =>
  ⟨h _, fun _ _ => trivial⟩

theorem maintains_pure {x : α} (h : Q x) : Maintains P Q (pure x) := by
  rintro s hs
  refine ⟨hs, ?_⟩
  rintro _ ⟨⟩
  exact h

theorem maintains_throw (err : Error) : Maintains P Q (throw err) := fun _ hs => ⟨hs, nofun⟩

theorem maintains_get : Maintains P P get := by
  rintro s hs
  refine ⟨hs, ?_⟩
  rintro _ ⟨⟩
  exact hs

theorem preserves_modify {f : σ → σ} (h : ∀ s, P s → P (f s)) :
    Preserves P (modify f : ExceptT Error (StateM σ) PUnit) := fun s hs => ⟨h s hs, fun _ _ => trivial⟩

theorem Maintains.bind {t : ExceptT Error (StateM σ) α} {f : α → ExceptT Error (StateM σ) β}
    (h : Maintains P Q t) (hf : ∀ x, Q x → Maintains P R (f x)) : Maintains P R (t >>= f) := by
  intro s hs
  obtain ⟨hstate, hresult⟩ := h s hs
  rcases ht : t.run.run s with ⟨err | x, s'⟩
  · rw [run_bind_error ht]
    rw [ht] at hstate
    exact ⟨hstate, nofun⟩
  · rw [run_bind_ok ht]
    rw [ht] at hstate hresult
    exact hf x (hresult x rfl) s' hstate

/-- The usual case, where nothing is known of what comes in between. -/
theorem Maintains.andThen {t : ExceptT Error (StateM σ) α} {f : α → ExceptT Error (StateM σ) β}
    (h : Preserves P t) (hf : ∀ x, Maintains P R (f x)) : Maintains P R (t >>= f) := h.bind fun x _ => hf x

theorem Maintains.map {t : ExceptT Error (StateM σ) α} {f : α → β} (h : Maintains P Q t)
    (hf : ∀ x, Q x → R (f x)) : Maintains P R (f <$> t) :=
  show Maintains P R (t >>= fun x => pure (f x)) from h.bind fun x hx => maintains_pure (hf x hx)

theorem Maintains.discard {t : ExceptT Error (StateM σ) α} (h : Preserves P t) :
    Preserves P (discard t : ExceptT Error (StateM σ) PUnit) := h.map fun _ _ => trivial

theorem Maintains.tryCatch {t : ExceptT Error (StateM σ) α} {handler : Error → ExceptT Error (StateM σ) α}
    (h : Maintains P Q t) (hhandler : ∀ err, Maintains P Q (handler err)) :
    Maintains P Q (tryCatch t handler) := by
  intro s hs
  obtain ⟨hstate, hresult⟩ := h s hs
  rcases ht : t.run.run s with ⟨err | x, s'⟩
  · rw [run_tryCatch_error ht]
    rw [ht] at hstate
    exact hhandler err s' hstate
  · rw [run_tryCatch_ok ht]
    rw [ht] at hstate hresult
    exact ⟨hstate, hresult⟩

end TypedScalar
