import TypedScalar.Config.Load
import TypedScalar.Proofs.Config.Change

/-! Settings by name. What makes a configuration fit to be active falls into one condition for each
setting, so a change of one setting is accepted or refused for the new value alone, and changes of
two settings do not meet. -/

namespace TypedScalar.Config

variable {c d : Config} {f g : String} {v w : Value}

/-- Whether a value can be given to the setting of a name. -/
def Admits (field : String) (v : Value) : Prop :=
  match field with
  | "null_token" => IsToken v
  | "binary_uppercase" => ¬ v.Unshowable
  | "default_integer_type" => Denotes .integer v
  | "default_float_type" => Denotes .floating v
  | _ => False

/-- Whether each setting has a value that can be given to it. -/
def Fit (c : Config) : Prop := ∀ f v, c.get? f = some v → Admits f v

theorem fit_iff : c.Fit ↔ c.Valid ∧ ¬ c.upperHex.Unshowable := by
  constructor
  · intro h
    exact ⟨⟨h "null_token" _ rfl, h "default_integer_type" _ rfl, h "default_float_type" _ rfl⟩,
      h "binary_uppercase" _ rfl⟩
  · rintro ⟨⟨htoken, hinteger, hfloat⟩, hshowable⟩ f v hv
    unfold get? at hv
    split at hv
    · exact Option.some.inj hv ▸ htoken
    · exact Option.some.inj hv ▸ hshowable
    · exact Option.some.inj hv ▸ hinteger
    · exact Option.some.inj hv ▸ hfloat
    · simp at hv

theorem mem_fieldNames (h : Admits f v) : f ∈ fieldNames := by
  unfold Admits at h
  split at h
  · simp [fieldNames]
  · simp [fieldNames]
  · simp [fieldNames]
  · simp [fieldNames]
  · exact h.elim

theorem get?_set_self (hf : f ∈ fieldNames) (c : Config) (v : Value) : (c.set f v).get? f = some v := by
  simp only [fieldNames, List.mem_cons, List.not_mem_nil, or_false] at hf
  rcases hf with rfl | rfl | rfl | rfl <;> rfl

theorem get?_set_of_ne (h : f ≠ g) (c : Config) (v : Value) : (c.set f v).get? g = c.get? g := by
  unfold set
  split
  · unfold get?
    split <;> simp_all
  · unfold get?
    split <;> simp_all
  · unfold get?
    split <;> simp_all
  · unfold get?
    split <;> simp_all
  · rfl

theorem ext_get? (h : ∀ f ∈ fieldNames, c.get? f = d.get? f) : c = d := by
  obtain ⟨token, upper, integer, float⟩ := c
  obtain ⟨token', upper', integer', float'⟩ := d
  obtain rfl : token = token' := Option.some.inj (h "null_token" (by decide))
  obtain rfl : upper = upper' := Option.some.inj (h "binary_uppercase" (by decide))
  obtain rfl : integer = integer' := Option.some.inj (h "default_integer_type" (by decide))
  obtain rfl : float = float' := Option.some.inj (h "default_float_type" (by decide))
  rfl

theorem set_comm (h : f ≠ g) (hf : f ∈ fieldNames) (hg : g ∈ fieldNames) (c : Config) (v w : Value) :
    (c.set f v).set g w = (c.set g w).set f v := by
  refine ext_get? fun x _ => ?_
  by_cases hgx : g = x
  · subst hgx
    rw [get?_set_self hg, get?_set_of_ne h, get?_set_self hg]
  by_cases hfx : f = x
  · subst hfx
    rw [get?_set_of_ne (Ne.symm h), get?_set_self hf, get?_set_self hf]
  · rw [get?_set_of_ne hgx, get?_set_of_ne hfx, get?_set_of_ne hfx, get?_set_of_ne hgx]

theorem fit_set_iff (hc : c.Fit) (hf : f ∈ fieldNames) : (c.set f v).Fit ↔ Admits f v := by
  constructor
  · intro h
    exact h f v (get?_set_self hf c v)
  · intro h g w hw
    by_cases hfg : f = g
    · subst hfg
      rw [get?_set_self hf] at hw
      exact Option.some.inj hw ▸ h
    · rw [get?_set_of_ne hfg] at hw
      exact hc g w hw

theorem update_singleton (hf : f ∈ fieldNames) (c : Config) (v : Value) :
    c.update [(f, v)] = .ok (c.set f v) := by
  simp [update, hf]

theorem mem_fieldNames_of_update (h : c.update [(f, v)] = .ok d) : f ∈ fieldNames := by
  by_contra hf
  simp [update, hf] at h

/-! ### Activation -/

variable {e e' : Environment} {config : Option Config} {overrides : List (String × Value)}

/-- What is made active by a call that succeeds. -/
theorem fit_of_activate (h : (activate config overrides).outcome e = (.ok c, e')) :
    (config.getD e.config).update overrides = .ok c ∧ c.Fit ∧ e'.config = c := by
  have hactivating := activate_outcome config overrides e
  rw [h] at hactivating
  cases hactivating with
  | active hnew hvalid hshowable => exact ⟨hnew, fit_iff.2 ⟨hvalid, hshowable⟩, rfl⟩

theorem activate_of_fit (hnew : (config.getD e.config).update overrides = .ok c) (hc : c.Fit) :
    ∃ log, (activate config overrides).outcome e = (.ok c, { e with config := c, log := log }) := by
  have hactivating := activate_outcome config overrides e
  obtain ⟨hvalid, hshowable⟩ := fit_iff.1 hc
  rw [hnew] at hactivating
  generalize (activate config overrides).outcome e = result at hactivating ⊢
  cases hactivating with
  | refused h => exact absurd hvalid (h c rfl)
  | unshown h _ herr =>
    obtain rfl := Except.ok.inj h
    exact absurd herr.unshowable hshowable
  | active h _ _ log =>
    obtain rfl := Except.ok.inj h
    exact ⟨log, rfl⟩

/-- Whether a change of one setting is accepted. -/
def Accepts (e : Environment) (field : String) (v : Value) : Prop :=
  ∃ c e', (activate none [(field, v)]).outcome e = (.ok c, e')

theorem activate_singleton (he : e.config.Fit) (hv : Admits f v) :
    ∃ log, (activate none [(f, v)]).outcome e =
      (.ok (e.config.set f v), { e with config := e.config.set f v, log := log }) :=
  have hf := mem_fieldNames hv
  activate_of_fit (update_singleton hf e.config v) ((fit_set_iff he hf).2 hv)

theorem accepts_iff (he : e.config.Fit) : Accepts e f v ↔ Admits f v := by
  constructor
  · rintro ⟨c, e', h⟩
    obtain ⟨hnew, hc, -⟩ := fit_of_activate h
    have hf : f ∈ fieldNames := mem_fieldNames_of_update hnew
    replace hnew : e.config.update [(f, v)] = .ok c := hnew
    rw [update_singleton hf] at hnew
    obtain rfl := Except.ok.inj hnew
    exact (fit_set_iff he hf).1 hc
  · intro hv
    obtain ⟨log, h⟩ := activate_singleton he hv
    exact ⟨_, _, h⟩

/-- A change of one setting and then of another one. -/
def activateBoth (f : String) (v : Value) (g : String) (w : Value) : Action Config := do
  let _ ← activate none [(f, v)]
  activate none [(g, w)]

theorem activateBoth_outcome (he : e.config.Fit) (hv : Admits f v) (hw : Admits g w) :
    ∃ e', (activateBoth f v g w).outcome e = (.ok ((e.config.set f v).set g w), e') ∧
      e'.config = (e.config.set f v).set g w := by
  obtain ⟨log, hfirst⟩ := activate_singleton he hv
  have hfit := (fit_set_iff he (mem_fieldNames hv)).2 hv
  obtain ⟨log', hsecond⟩ :=
    activate_singleton (e := { e with config := e.config.set f v, log := log }) hfit hw
  exact ⟨_, (Action.outcome_bind_ok hfirst _).trans hsecond, rfl⟩

/-- Changes of two settings give the same configuration in either order, and neither is lost. -/
theorem activateBoth_comm (he : e.config.Fit) (h : f ≠ g) (hv : Admits f v) (hw : Admits g w) :
    ∃ c e₁ e₂, (activateBoth f v g w).outcome e = (.ok c, e₁) ∧
      (activateBoth g w f v).outcome e = (.ok c, e₂) ∧ e₁.config = c ∧ e₂.config = c ∧
      c.get? f = some v ∧ c.get? g = some w ∧ ∀ x, x ≠ f → x ≠ g → c.get? x = e.config.get? x := by
  have hf := mem_fieldNames hv
  have hg := mem_fieldNames hw
  obtain ⟨e₁, hfirst, hconfig₁⟩ := activateBoth_outcome he hv hw
  obtain ⟨e₂, hsecond, hconfig₂⟩ := activateBoth_outcome he hw hv
  rw [← set_comm h hf hg] at hsecond hconfig₂
  refine ⟨_, e₁, e₂, hfirst, hsecond, hconfig₁, hconfig₂, ?_, get?_set_self hg _ _, fun x hxf hxg => ?_⟩
  · rw [get?_set_of_ne h.symm, get?_set_self hf]
  · rw [get?_set_of_ne hxg.symm, get?_set_of_ne hxf.symm]

/-! ### Letter cases -/

theorem upperHex_set (c : Config) (f : String) (v : Value) :
    (c.set f v).upperHex = if f = "binary_uppercase" then v else c.upperHex := by
  unfold set
  split <;> simp_all

theorem not_unshowable_foldl_set (fields : List (String × Value)) (hc : ¬ c.upperHex.Unshowable)
    (hfields : ∀ v, ("binary_uppercase", v) ∈ fields → ¬ v.Unshowable) :
    ¬ (fields.foldl (fun c f => c.set f.1 f.2) c).upperHex.Unshowable := by
  induction fields generalizing c with
  | nil => exact hc
  | cons field rest ih =>
    obtain ⟨f, v⟩ := field
    refine ih ?_ fun v hv => hfields v (List.mem_cons_of_mem _ hv)
    rw [upperHex_set]
    split_ifs with hf
    · subst hf
      exact hfields v List.mem_cons_self
    · exact hc

theorem not_unshowable_update {fields : List (String × Value)} (hc : ¬ c.upperHex.Unshowable)
    (hfields : ∀ v, ("binary_uppercase", v) ∈ fields → ¬ v.Unshowable) (h : c.update fields = .ok d) :
    ¬ d.upperHex.Unshowable := by
  unfold update at h
  split at h
  · simp at h
  · exact Except.ok.inj h ▸ not_unshowable_foldl_set fields hc hfields

/-! ### Documents -/

theorem get?_taken (d : Yaml.Document) (hf : f ∈ fieldNames) (c : Config) :
    (((d.get? f).map (c.set f)).getD c).get? g = if f = g then (d.get? g).or (c.get? g) else c.get? g := by
  cases hv : d.get? f with
  | none =>
    split_ifs with hfg
    · rw [← hfg, hv, Option.none_or, Option.map_none, Option.getD_none]
    · rw [Option.map_none, Option.getD_none]
  | some v =>
    rw [Option.map_some, Option.getD_some]
    split_ifs with hfg
    · rw [← hfg, hv, Option.some_or, get?_set_self hf]
    · rw [get?_set_of_ne hfg]

theorem get?_foldl_taken (d : Yaml.Document) {names : List String} (hnames : ∀ f ∈ names, f ∈ fieldNames)
    (hnodup : names.Nodup) (c : Config) :
    (names.foldl (fun c f => ((d.get? f).map (c.set f)).getD c) c).get? g =
      if g ∈ names then (d.get? g).or (c.get? g) else c.get? g := by
  induction names generalizing c with
  | nil => simp
  | cons f rest ih =>
    rw [List.forall_mem_cons] at hnames
    obtain ⟨hf, hrest⟩ := List.nodup_cons.1 hnodup
    rw [List.foldl_cons, ih hnames.2 hrest, get?_taken d hnames.1]
    by_cases hfg : f = g
    · subst hfg
      simp [hf]
    · simp [hfg, Ne.symm hfg]

/-- A setting has the value that the document gives to it, and its initial one if the document gives none. -/
theorem get?_ofDocument (d : Yaml.Document) (hf : f ∈ fieldNames) :
    (ofDocument d).get? f = (d.get? f).or (initial.get? f) := by
  rw [ofDocument, get?_foldl_taken d (fun _ => id) (by decide), if_pos hf]

theorem upperHex_ofDocument (d : Yaml.Document) :
    (ofDocument d).upperHex = (d.get? "binary_uppercase").getD initial.upperHex := by
  have hupper := get?_ofDocument d (f := "binary_uppercase") (by decide)
  refine Option.some.inj (hupper.trans ?_)
  cases d.get? "binary_uppercase" <;> rfl

end TypedScalar.Config
