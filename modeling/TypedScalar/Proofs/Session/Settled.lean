import TypedScalar.Proofs.Config.Settled
import TypedScalar.Proofs.Session.Frame

/-! Settings in sessions. Whatever a session carries out, and whether it fails or not, the active
configuration stays fit, as long as no letter case is given that is not a boolean. -/

namespace TypedScalar.Session

variable {P : Config × Registry → Prop} {clock : Log.Clock} {files : Files} {o : Operation} {s : Session}

/-- Whether settings give no letter case but a boolean. -/
def Fields.GiveBoolean (fields : Fields) : Prop :=
  ∀ t, ("binary_uppercase", t) ∈ fields → ∃ b, t = .value (.boolean b)

/-- Whether an operation gives no letter case to be active but a boolean. -/
def Operation.GivesBoolean (files : Files) : Operation → Prop
  | .setConfig config overrides => (∀ fields ∈ config, fields.GiveBoolean) ∧ overrides.GiveBoolean
  | .loadConfig path activate => activate = true → Config.FileGivesBoolean files path
  | .commandLine arguments =>
    ∀ q path, CommandLine.Request.ofArguments arguments = .ok (some q) → q.config = some path →
      Config.FileGivesBoolean files path
  | _ => True

theorem evaluate_maintains {t : Term} {field : String}
    (h : field = "binary_uppercase" → ∃ b, t = .value (.boolean b)) :
    Maintains (fun s => P s.environment.unlogged) (fun v => field = "binary_uppercase" → ¬ v.Unshowable)
      (evaluate t) := by
  by_cases hfield : field = "binary_uppercase"
  · obtain ⟨b, rfl⟩ := h hfield
    exact maintains_pure fun _ => Config.not_unshowable_boolean b
  · exact (evaluate_keeps t).mono fun v _ hv => absurd hv hfield

theorem evaluateEntries_maintains {fields : Fields} (h : fields.GiveBoolean) :
    Maintains (fun s => P s.environment.unlogged)
      (fun values => ∀ v, ("binary_uppercase", v) ∈ values → ¬ v.Unshowable) (evaluateEntries fields) := by
  induction fields with
  | nil => exact maintains_pure (by simp)
  | cons entry rest ih =>
    obtain ⟨field, t⟩ := entry
    have hfirst : field = "binary_uppercase" → ∃ b, t = .value (.boolean b) := by
      rintro rfl
      exact h t List.mem_cons_self
    refine (evaluate_maintains hfirst).bind fun v hv => ?_
    refine (ih fun t ht => h t (List.mem_cons_of_mem _ ht)).bind fun values hvalues => maintains_pure ?_
    intro w hw
    rcases List.mem_cons.1 hw with heq | hw
    · obtain ⟨rfl, rfl⟩ := Prod.mk.inj heq
      exact hv rfl
    · exact hvalues w hw

theorem setConfig_keeps {config : Option Fields} {overrides : Fields}
    (hconfig : ∀ fields ∈ config, fields.GiveBoolean) (hoverrides : overrides.GiveBoolean) :
    Keeps Settled (perform clock files (.setConfig config overrides)) := by
  have hrest (c : Option Config) (hc : ∀ d ∈ c, ¬ d.upperHex.Unshowable) : Keeps Settled (do
      let fs ← evaluateEntries overrides
      return Answer.config (← lift (Config.activate c fs)) : Task Answer) := by
    refine (evaluateEntries_maintains hoverrides).bind fun values hvalues => ?_
    refine (keeps_lift (Config.activate_keeps fun base hbase d hd => ?_)).andThen fun _ => keeps_pure _
    refine Config.not_unshowable_update ?_ hvalues hd
    cases c with
    | none => exact (Config.fit_iff.1 hbase).2
    | some c => exact hc c rfl
  cases config with
  | none => exact (maintains_pure (by simp)).bind hrest
  | some fields =>
    refine (evaluateEntries_maintains (hconfig fields rfl)).bind fun values hvalues => ?_
    refine Maintains.bind (Maintains.map (maintains_lift (maintains_ofExcept _)) ?_) hrest
    rintro d hd _ ⟨⟩
    exact Config.not_unshowable_update (Config.not_unshowable_boolean true) hvalues hd

theorem perform_settled (h : o.GivesBoolean files) : Keeps Settled (perform clock files o) := by
  cases o with
  | register type choice =>
    exact (ClassChoice.run_keeps choice).andThen fun c => (evaluate_keeps type).andThen fun t =>
      (keeps_lift (Registry.register_keeps (fun _ _ _ => id) t c)).andThen fun _ =>
        (keeps_lift Registry.listTypes_keeps).andThen fun _ => keeps_pure _
  | unregister type =>
    exact (evaluate_keeps type).andThen fun t =>
      (keeps_lift (Registry.unregister_keeps (fun _ _ _ => id) t)).andThen fun _ =>
        (keeps_lift Registry.listTypes_keeps).andThen fun _ => keeps_pure _
  | resetConfig => exact (keeps_lift Config.reset_keeps).andThen fun _ => keeps_pure _
  | setConfig config overrides => exact setConfig_keeps h.1 h.2
  | loadConfig path activate =>
    cases activate with
    | false => exact (keeps_lift (Config.load_maintains files path).preserves).andThen fun _ => keeps_pure _
    | true =>
      exact (maintains_lift (Config.load_showable (h rfl))).bind fun c hc =>
        (keeps_lift (Config.activate_showable_keeps hc)).discard.andThen fun _ => keeps_pure _
  | commandLine arguments =>
    exact (keeps_lift (CommandLine.run_keeps clock h)).andThen fun _ => keeps_pure _
  | _ => exact perform_keeps rfl

/-! ### Reachable sessions -/

/-- The sessions that operations lead to, whatever the files and whether they fail or not, where no
letter case is given but a boolean. -/
inductive Reachable : Session → Prop
  | initial : Reachable initial
  | step {s : Session} (h : Reachable s) (clock : Log.Clock) (files : Files) {o : Operation}
    (ho : o.GivesBoolean files) : Reachable (s.step clock files o).2

theorem step_settled (h : o.GivesBoolean files) (hs : Settled s.environment.unlogged) :
    Settled (s.step clock files o).2.environment.unlogged := by
  have hkeeps : Keeps Settled (perform clock files o) := perform_settled h
  have hperform : Settled (outcome (perform clock files o) s).2.environment.unlogged := (hkeeps s hs).1
  rw [step]
  split
  · next hresult => rwa [hresult] at hperform
  · next hresult => rwa [hresult] at hperform

theorem Reachable.settled (h : s.Reachable) : Settled s.environment.unlogged := by
  induction h with
  | initial => exact Config.fit_initial
  | step _ _ _ ho ih => exact step_settled ho ih

open Config in
/-- In every session that is reachable, the active configuration is valid, and a change of one setting
is accepted or refused for the new value alone. So two changes of different settings that are accepted
give the same configuration in either order, and neither is lost. -/
theorem settings_valid (h : s.Reachable) :
    (∀ r, s.environment.config.validate r = .ok ()) ∧
    (∀ f v, Accepts s.environment f v ↔ Admits f v) ∧
    ∀ f v g w, f ≠ g → Accepts s.environment f v → Accepts s.environment g w →
      ∃ c e₁ e₂, (activateBoth f v g w).outcome s.environment = (.ok c, e₁) ∧
        (activateBoth g w f v).outcome s.environment = (.ok c, e₂) ∧ e₁.config = c ∧ e₂.config = c ∧
        c.get? f = some v ∧ c.get? g = some w ∧
        ∀ x, x ≠ f → x ≠ g → c.get? x = s.environment.config.get? x := by
  have hfit : s.environment.config.Fit := h.settled
  refine ⟨fun r => validate_eq_ok_iff.2 (fit_iff.1 hfit).1, fun f v => accepts_iff hfit, ?_⟩
  intro f v g w hfg hv hw
  exact activateBoth_comm hfit hfg ((accepts_iff hfit).1 hv) ((accepts_iff hfit).1 hw)

open Config in
/-- After a change of the null token, and another one that is refused, the defaults can be changed in
either order. -/
theorem settings_valid_defaults :
    let token (t : String) : Operation := .setConfig none [("null_token", .value (.text t))]
    let s := ((Session.initial.step "" ⟨[]⟩ (token "NA")).2.step "" ⟨[]⟩ (token "0")).2
    let integer := "default_integer_type"
    let float := "default_float_type"
    ∃ c e₁ e₂,
      (activateBoth integer (.text "int8") float (.text "float")).outcome s.environment = (.ok c, e₁) ∧
      (activateBoth float (.text "float") integer (.text "int8")).outcome s.environment = (.ok c, e₂) ∧
      e₁.config = c ∧ e₂.config = c ∧ c.get? "null_token" = some (.text "NA") := by
  intro token s integer float
  have htoken (t : String) : (token t).GivesBoolean ⟨[]⟩ := ⟨by simp, by simp [Fields.GiveBoolean]⟩
  have hs : s.Reachable := .step (.step .initial "" ⟨[]⟩ (htoken "NA")) "" ⟨[]⟩ (htoken "0")
  obtain ⟨-, haccepts, hboth⟩ := settings_valid hs
  have hinteger : Accepts s.environment integer (.text "int8") := (haccepts _ _).2 ⟨_, rfl, rfl⟩
  have hfloat : Accepts s.environment float (.text "float") := (haccepts _ _).2 ⟨_, rfl, rfl⟩
  obtain ⟨c, e₁, e₂, h₁, h₂, hc₁, hc₂, -, -, hothers⟩ := hboth _ _ _ _ (by decide) hinteger hfloat
  exact ⟨c, e₁, e₂, h₁, h₂, hc₁, hc₂, hothers "null_token" (by decide) (by decide)⟩

end TypedScalar.Session
