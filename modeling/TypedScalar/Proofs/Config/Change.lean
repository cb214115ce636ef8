import TypedScalar.Config.Change
import TypedScalar.Proofs.Action
import TypedScalar.Proofs.Config.Validate

/-! Changing the configuration. A configuration is made active if it is valid; but it is recorded then, and
one whose letter case cannot be shown is left active by a call that fails. -/

namespace TypedScalar

namespace Config

variable {r : Rendering} {c : Config} {v : Value}

/-! ### Showing configurations -/

theorem Denotes.not_unshowable {family : Family} (h : Denotes family v) : ¬ v.Unshowable := by
  obtain ⟨d, hd, -⟩ := h
  exact DataType.not_unshowable hd

/-- A valid configuration can be shown if its letter case can. -/
theorem shown_failsAlike (h : c.Valid) : FailsAlike (c.upperHex.shown r) (c.shown r) := by
  obtain ⟨token, htoken⟩ := (Value.okUnless_shown r c.nullToken).exists_ok h.nullToken.not_unshowable
  obtain ⟨integer, hinteger⟩ := (Value.okUnless_shown r c.integerDefault).exists_ok h.integerDefault.not_unshowable
  obtain ⟨float, hfloat⟩ := (Value.okUnless_shown r c.floatDefault).exists_ok h.floatDefault.not_unshowable
  simp only [shown, htoken, hinteger, hfloat, bind, Except.bind]
  cases c.upperHex.shown r with
  | ok upper => exact .ok _ _
  | error err => exact .error err

/-! ### Activation -/

/-- What becomes of a configuration that is to be made active. -/
inductive Activating (e : Environment) (new : Except Error Config) : Except Error Config × Environment → Prop
  | refused {err : Error} (h : ∀ c, new = .ok c → ¬ c.Valid) : Activating e new (.error err, e)
  | unshown {c : Config} (hnew : new = .ok c) (hvalid : c.Valid) {err : Error}
    (herr : c.upperHex.Unshown err) : Activating e new (.error err, { e with config := c })
  | active {c : Config} (hnew : new = .ok c) (hvalid : c.Valid) (hshowable : ¬ c.upperHex.Unshowable)
    (log : List Record) : Activating e new (.ok c, { e with config := c, log := log })

theorem activate_outcome (config : Option Config) (overrides : List (String × Value)) (e : Environment) :
    Activating e ((config.getD e.config).update overrides) ((activate config overrides).outcome e) := by
  have hlookup := Action.outcome_ofExcept (e := e) ((config.getD e.config).update overrides)
  rw [activate, Action.outcome_bind_ok Action.outcome_get]
  cases hnew : (config.getD e.config).update overrides with
  | error err => exact .refused (by simp)
  | ok c =>
    rw [Action.outcome_bind_ok (Action.outcome_ofExcept (.ok c))]
    cases hvalidate : c.validate e.rendering with
    | error err =>
      refine .refused fun c' hc' => ?_
      obtain rfl := Except.ok.inj hc'
      rw [← validate_eq_ok_iff (r := e.rendering), hvalidate]
      simp
    | ok _ =>
      have hvalid : c.Valid := validate_eq_ok_iff.1 hvalidate
      have hshown := shown_failsAlike (r := c.rendering) hvalid
      rw [Action.outcome_bind_ok (Action.outcome_ofExcept (.ok ()))]
      cases hupper : c.upperHex.shown c.rendering with
      | error err =>
        rw [hshown.error_iff.1 hupper]
        exact .unshown rfl hvalid (Value.unshown_of_shown hupper)
      | ok text =>
        rw [hupper] at hshown
        generalize c.shown c.rendering = x at hshown ⊢
        cases hshown with
        | ok => exact .active rfl hvalid (Value.not_unshowable_of_shown hupper) _

/-- Whether a configuration is valid, but cannot be shown in a record. -/
def Unrecordable (c : Config) : Prop := (∀ r, c.validate r = .ok ()) ∧ c.upperHex.Unshowable

theorem unrecordable_iff : c.Unrecordable ↔ c.Valid ∧ c.upperHex.Unshowable := by
  refine and_congr_left' ⟨fun h => ?_, fun h r => validate_eq_ok_iff.2 h⟩
  exact validate_eq_ok_iff.1 (h initial.rendering)

/-- A call that succeeds returns the configuration that is active then, and this is valid. A call
that fails leaves everything as it was, unless the new configuration cannot be recorded: this one is
active then. -/
theorem kept_of_failure (config : Option Config) (overrides : List (String × Value)) (e : Environment) :
    let new := (config.getD e.config).update overrides
    let result := (activate config overrides).outcome e
    (∀ c, result.1 = .ok c → result.2.config = c ∧ ∀ r, c.validate r = .ok ()) ∧
    ((∀ c, new = .ok c → ¬ c.Unrecordable) → ∀ err, result.1 = .error err → result.2 = e) ∧
    ∀ c, new = .ok c → c.Unrecordable →
      ∃ err, c.upperHex.Fault err ∧ result = (.error err, { e with config := c }) := by
  intro new result
  have h : Activating e new result := activate_outcome config overrides e
  clear_value new result
  cases h with
  | refused h =>
    exact ⟨nofun, fun _ _ _ => rfl, fun c hc hlate => absurd (unrecordable_iff.1 hlate).1 (h c hc)⟩
  | unshown hnew hvalid herr =>
    refine ⟨nofun, fun h => absurd (unrecordable_iff.2 ⟨hvalid, herr.unshowable⟩) (h _ hnew), fun c hc _ => ?_⟩
    rw [hnew] at hc
    obtain rfl := Except.ok.inj hc
    exact ⟨_, herr.fault, rfl⟩
  | active hnew hvalid hshowable log =>
    refine ⟨fun c hc => ?_, nofun, fun c hc hlate => ?_⟩
    · obtain rfl := Except.ok.inj hc
      exact ⟨rfl, fun r => validate_eq_ok_iff.2 hvalid⟩
    · rw [hnew] at hc
      obtain rfl := Except.ok.inj hc
      exact absurd (unrecordable_iff.1 hlate).2 hshowable

/-- A null token that could be a number is refused and changes nothing. A letter case that is given
as a long integer fails as well, but the null token beside it is active then. -/
theorem kept_of_failure_long :
    let e := Environment.initial
    let long : Value := .integer ((10 ^ Text.digitLimit : ℕ) : ℤ)
    (∃ err, (activate none [("null_token", .text "0")]).outcome e = (.error err, e)) ∧
      ∃ err e', (activate none [("null_token", .text "NA"), ("binary_uppercase", long)]).outcome e =
        (.error err, e') ∧ e.rendering.nullToken = "null" ∧ e'.rendering.nullToken = "NA" := by
  intro e long
  have hlong : long.Unshowable := Value.unshowable_integer.2 (by rw [IsLong, Int.natAbs_natCast])
  obtain ⟨-, hkept, -⟩ := kept_of_failure none [("null_token", .text "0")] e
  obtain ⟨-, -, hlate⟩ := kept_of_failure none [("null_token", .text "NA"), ("binary_uppercase", long)] e
  obtain ⟨err, -, hresult⟩ := hlate _ rfl ⟨fun r => rfl, hlong⟩
  refine ⟨⟨_, Prod.ext rfl (hkept ?_ _ rfl)⟩, err, _, hresult, rfl, rfl⟩
  rintro c hc ⟨hvalidate, -⟩
  obtain rfl := Except.ok.inj hc
  exact absurd (congrArg Except.isOk (hvalidate e.rendering)) Bool.false_ne_true

end Config

end TypedScalar
