import TypedScalar.Proofs.Action

/-! Errors that a handler catches. Of a handler that takes some errors only it is told exactly when an
error escapes it. One step after another lets an error escape if the first one does, or gives a result
with which the second one does. -/

namespace TypedScalar

open TypedScalar.Action

variable {α β : Type} {catches catches' : Error → Bool}

/-! ### What never escapes -/

/-- Whether a handler catches the error, if there is one. -/
def CaughtBy (catches : Error → Bool) (x : Except Error α) : Prop := ∀ err, x = .error err → catches err = true

namespace CaughtBy

variable {x : Except Error α}

theorem ok (a : α) : CaughtBy catches (.ok a : Except Error α) := nofun

theorem error {err : Error} (h : catches err = true) : CaughtBy catches (.error err : Except Error α) := by
  rintro _ ⟨⟩
  exact h

theorem mono (h : CaughtBy catches x) (hcatches : ∀ err, catches err = true → catches' err = true) :
    CaughtBy catches' x := fun err herr => hcatches err (h err herr)

theorem bind {f : α → Except Error β} (h : CaughtBy catches x) (hf : ∀ a, CaughtBy catches (f a)) :
    CaughtBy catches (x.bind f) := by
  cases x with
  | error err => exact .error (h err rfl)
  | ok a => exact hf a

end CaughtBy

/-- Whether a handler catches every error of an action. -/
def Action.Catchable (catches : Error → Bool) (a : Action α) : Prop := ∀ e, CaughtBy catches (a.outcome e).1

namespace Action

theorem Catchable.mono {a : Action α} (h : Catchable catches a)
    (hcatches : ∀ err, catches err = true → catches' err = true) : Catchable catches' a :=
  fun e => (h e).mono hcatches

theorem Catchable.bind {a : Action α} {f : α → Action β} (h : Catchable catches a)
    (hf : ∀ x, Catchable catches (f x)) : Catchable catches (a >>= f) := by
  intro e
  have he := h e
  rcases houtcome : a.outcome e with ⟨err | x, e'⟩
  · rw [houtcome] at he
    rw [outcome_bind_error houtcome]
    exact .error (he err rfl)
  · rw [outcome_bind_ok houtcome]
    exact hf x e'

end Action

/-! ### Handlers -/

namespace Action

/-- Tries an action; an error that is caught is reported as a result. -/
def attempt (catches : Error → Bool) (a : Action α) (report : Error → α) : Action α :=
  tryCatch a fun err => if catches err then pure (report err) else throw err

variable {a : Action α} {report : Error → α} {e e' : Environment} {err : Error}

theorem attempt_ok {x : α} (h : a.outcome e = (.ok x, e')) :
    (attempt catches a report).outcome e = (.ok x, e') := run_tryCatch_ok h _

theorem attempt_caught (h : a.outcome e = (.error err, e')) (herr : catches err = true) :
    (attempt catches a report).outcome e = (.ok (report err), e') := by
  refine (run_tryCatch_error h _).trans ?_
  rw [if_pos herr]
  rfl

theorem attempt_escaped (h : a.outcome e = (.error err, e')) (herr : catches err = false) :
    (attempt catches a report).outcome e = (.error err, e') := by
  refine (run_tryCatch_error h _).trans ?_
  rw [if_neg (by simp [herr])]
  rfl

end Action

/-! ### What escapes in some cases -/

/-- The outcomes of what lets an error escape a handler in some cases, and only there. -/
inductive CaughtUnless (catches : Error → Bool) (escapes : Prop) : Except Error α → Prop
  | ok (h : ¬ escapes) (x : α) : CaughtUnless catches escapes (.ok x)
  | caught (h : ¬ escapes) {err : Error} (herr : catches err = true) : CaughtUnless catches escapes (.error err)
  | escaped (h : escapes) {err : Error} (herr : catches err = false) : CaughtUnless catches escapes (.error err)

namespace CaughtUnless

variable {escapes escapes' : Prop} {next : α → Prop} {x : Except Error α}

theorem congr (h : CaughtUnless catches escapes x) (hiff : escapes ↔ escapes') :
    CaughtUnless catches escapes' x := by
  rwa [propext hiff] at h

theorem map (h : CaughtUnless catches escapes x) (f : α → β) : CaughtUnless catches escapes (x.map f) := by
  cases h with
  | ok h a => exact .ok h (f a)
  | caught h herr => exact .caught h herr
  | escaped h herr => exact .escaped h herr

end CaughtUnless

end TypedScalar
