import TypedScalar.CommandLine
import TypedScalar.Proofs.Action
import TypedScalar.Proofs.Scalar.Renumber

/-! Two runs in lockstep. They give results that are related, or one and the same error, which also shows
the same. So do all actions in environments that differ only in the numbers of scalars among the settings
and in the log: neither is ever looked at, but for the log that a command line keeps for itself. -/

namespace TypedScalar

variable {α α' β β' σ : Type} {R : α → α' → Prop} {Q : β → β' → Prop}

/-- Results that coincide: values that are related, or the same error. -/
inductive Coincides (R : α → α' → Prop) : Except Error α → Except Error α' → Prop
  | ok {x : α} {y : α'} (h : R x y) : Coincides R (.ok x) (.ok y)
  | error (err : Error) : Coincides R (.error err) (.error err)

namespace Coincides

theorem refl (x : Except Error α) : Coincides Eq x x := by
  cases x with
  | error err => exact .error err
  | ok a => exact .ok rfl

theorem eq {x y : Except Error α} (h : Coincides Eq x y) : x = y := by
  cases h with
  | ok h => exact congrArg Except.ok h
  | error err => rfl

theorem of_eq_map {x : Except Error α} {y : Except Error α'} {f : α → α'} (h : y = x.map f) :
    Coincides (fun a b => b = f a) x y := by
  subst h
  cases x with
  | error err => exact .error err
  | ok a => exact .ok rfl

theorem of_map_eq {x : Except Error α} {y : Except Error α'} {f : α → β} {g : α' → β}
    (h : x.map f = y.map g) : Coincides (fun a b => f a = g b) x y := by
  cases x with
  | error err =>
    cases y with
    | error err' =>
      obtain rfl := Except.error.inj h
      exact .error err
    | ok b => cases h
  | ok a =>
    cases y with
    | error err' => cases h
    | ok b => exact .ok (Except.ok.inj h)

theorem map {x : Except Error α} {y : Except Error α'} {f : α → β} {g : α' → β'} (h : Coincides R x y)
    (hfg : ∀ a b, R a b → Q (f a) (g b)) : Coincides Q (x.map f) (y.map g) := by
  cases h with
  | ok h => exact .ok (hfg _ _ h)
  | error err => exact .error err

theorem bind {x : Except Error α} {y : Except Error α'} {f : α → Except Error β} {g : α' → Except Error β'}
    (h : Coincides R x y) (hfg : ∀ a b, R a b → Coincides Q (f a) (g b)) :
    Coincides Q (x.bind f) (y.bind g) := by
  cases h with
  | ok h => exact hfg _ _ h
  | error err => exact .error err

end Coincides

/-- Whether two computations take related states to results that coincide and to related states. -/
def InStep (S : σ → σ → Prop) (R : α → α' → Prop) (t : ExceptT Error (StateM σ) α)
    (u : ExceptT Error (StateM σ) α') : Prop :=
  ∀ s s', S s s' → Coincides R (t.run.run s).1 (u.run.run s').1 ∧ S (t.run.run s).2 (u.run.run s').2

section

variable {S : σ → σ → Prop}

theorem inStep_pure {x : α} {y : α'} (h : R x y) : InStep S R (pure x) (pure y) := fun _ _ hs => ⟨.ok h, hs⟩

theorem inStep_throw (err : Error) : InStep S R (throw err) (throw err) := fun _ _ hs => ⟨.error err, hs⟩

theorem inStep_get : InStep S S get get := fun _ _ hs => ⟨.ok hs, hs⟩

theorem inStep_modify {f g : σ → σ} (h : ∀ s s', S s s' → S (f s) (g s')) :
    InStep S Eq (modify f : ExceptT Error (StateM σ) PUnit) (modify g) := fun s s' hs => ⟨.ok rfl, h s s' hs⟩

theorem InStep.bind {t : ExceptT Error (StateM σ) α} {u : ExceptT Error (StateM σ) α'}
    {f : α → ExceptT Error (StateM σ) β} {g : α' → ExceptT Error (StateM σ) β'} (h : InStep S R t u)
    (hfg : ∀ x y, R x y → InStep S Q (f x) (g y)) : InStep S Q (t >>= f) (u >>= g) := by
  intro s s' hs
  obtain ⟨hresult, hstate⟩ := h s s' hs
  rcases ht : t.run.run s with ⟨result, s₁⟩
  rcases hu : u.run.run s' with ⟨result', s₁'⟩
  rw [ht, hu] at hresult hstate
  cases hresult with
  | ok hxy =>
    rw [run_bind_ok ht, run_bind_ok hu]
    exact hfg _ _ hxy _ _ hstate
  | error err =>
    rw [run_bind_error ht, run_bind_error hu]
    exact ⟨.error err, hstate⟩

/-- The usual cases, where what comes next sees one and the same value, or a value and its image. -/
theorem InStep.bind_eq {t u : ExceptT Error (StateM σ) α} {f : α → ExceptT Error (StateM σ) β}
    {g : α → ExceptT Error (StateM σ) β'} (h : InStep S Eq t u) (hfg : ∀ x, InStep S Q (f x) (g x)) :
    InStep S Q (t >>= f) (u >>= g) := by
  apply h.bind
  rintro x _ rfl
  exact hfg x

theorem InStep.bind_image {t : ExceptT Error (StateM σ) α} {u : ExceptT Error (StateM σ) α'} {m : α → α'}
    {f : α → ExceptT Error (StateM σ) β} {g : α' → ExceptT Error (StateM σ) β'}
    (h : InStep S (fun x y => y = m x) t u) (hfg : ∀ x, InStep S Q (f x) (g (m x))) :
    InStep S Q (t >>= f) (u >>= g) := by
  apply h.bind
  rintro x _ rfl
  exact hfg x

theorem InStep.map {t : ExceptT Error (StateM σ) α} {u : ExceptT Error (StateM σ) α'} {f : α → β}
    {g : α' → β'} (h : InStep S R t u) (hfg : ∀ x y, R x y → Q (f x) (g y)) :
    InStep S Q (f <$> t) (g <$> u) :=
  show InStep S Q (t >>= fun x => pure (f x)) (u >>= fun y => pure (g y)) from
    h.bind fun x y hxy => inStep_pure (hfg x y hxy)

theorem InStep.discard {t : ExceptT Error (StateM σ) α} {u : ExceptT Error (StateM σ) α'}
    (h : InStep S R t u) : InStep S Eq (discard t : ExceptT Error (StateM σ) PUnit) (discard u) :=
  h.map fun _ _ _ => rfl

theorem InStep.tryCatch {t : ExceptT Error (StateM σ) α} {u : ExceptT Error (StateM σ) α'}
    {handler : Error → ExceptT Error (StateM σ) α} {handler' : Error → ExceptT Error (StateM σ) α'}
    (h : InStep S R t u) (hhandler : ∀ err, InStep S R (handler err) (handler' err)) :
    InStep S R (tryCatch t handler) (tryCatch u handler') := by
  intro s s' hs
  obtain ⟨hresult, hstate⟩ := h s s' hs
  rcases ht : t.run.run s with ⟨result, s₁⟩
  rcases hu : u.run.run s' with ⟨result', s₁'⟩
  rw [ht, hu] at hresult hstate
  cases hresult with
  | ok hxy =>
    rw [run_tryCatch_ok ht, run_tryCatch_ok hu]
    exact ⟨.ok hxy, hstate⟩
  | error err =>
    rw [run_tryCatch_error ht, run_tryCatch_error hu]
    exact hhandler err _ _ hstate

end

/-! ### Environments -/

/-- A configuration whose scalars are told apart by nothing but what they are. -/
def Config.anonymous (c : Config) : Config := c.renumber fun _ => 0

/-- A relation on logs that holds on when one record is added to both. -/
class LogRelation (L : List Record → List Record → Prop) : Prop where
  append {l l' : List Record} (r : Record) (h : L l l') : L (l ++ [r]) (l' ++ [r])

instance : LogRelation Eq where
  append r h := congrArg (· ++ [r]) h

instance : LogRelation fun _ _ => True where
  append _ _ := trivial

/-- Whether two environments have the same settings, but for numbers, the same registry, and related
logs. -/
structure Environment.Alike (L : List Record → List Record → Prop) (e e' : Environment) : Prop where
  config : e.config.anonymous = e'.config.anonymous
  registry : e.registry = e'.registry
  log : L e.log e'.log

variable {L : List Record → List Record → Prop} {e e' : Environment} {ρ : ℕ → ℕ}

/-- What does not depend on numbers is the same for configurations that differ in nothing else. -/
theorem Config.eq_of_anonymous {f : Config → α} (hf : ∀ (ρ : ℕ → ℕ) (c : Config), f (c.renumber ρ) = f c)
    {c c' : Config} (h : c.anonymous = c'.anonymous) : f c = f c' := by
  rw [← hf (fun _ => 0) c, ← hf (fun _ => 0) c']
  exact congrArg f h

theorem Environment.Alike.rendering_eq (h : Environment.Alike L e e') : e.rendering = e'.rendering :=
  Config.eq_of_anonymous (fun ρ c => c.rendering_renumber ρ) h.config

namespace Action

/-- Whether two actions are in lockstep in environments that are alike. -/
abbrev Tallies (L : List Record → List Record → Prop) (R : α → α' → Prop) (a : Action α)
    (b : Action α') : Prop := InStep (Environment.Alike L) R a b

theorem tallies_ofExcept {x : Except Error α} {y : Except Error α'} (h : Coincides R x y) :
    Tallies L R (ofExcept x) (ofExcept y) := fun _ _ he => ⟨h, he⟩

theorem tallies_ofExcept_eq {x y : Except Error α} (h : x = y) : Tallies L Eq (ofExcept x) (ofExcept y) := by
  subst h
  exact tallies_ofExcept (.refl x)

theorem tallies_rendering : Tallies L Eq rendering rendering := fun _ _ he => ⟨.ok he.rendering_eq, he⟩

theorem tallies_record [LogRelation L] (level : Level) (logger message : String) :
    Tallies L Eq (record level logger message) (record level logger message) :=
  inStep_modify fun _ _ he => ⟨he.config, he.registry, LogRelation.append _ he.log⟩

end Action

open TypedScalar.Action

/-! ### The registry -/

namespace Registry

theorem resolve_tallies (t : Value) : Tallies L Eq (resolve t) (resolve (t.renumber ρ)) := by
  apply tallies_rendering.bind_eq
  intro r
  exact tallies_ofExcept_eq (t.resolve_renumber ρ r).symm

theorem classFor_tallies (d : DataType) :
    Tallies L Eq (do Action.ofExcept ((← get).registry.classFor d))
      (do Action.ofExcept ((← get).registry.classFor d)) := by
  apply inStep_get.bind
  intro e e' he
  rw [he.registry]
  exact tallies_ofExcept (.refl _)

theorem lookup_tallies (t : Value) : Tallies L Eq (lookup t) (lookup (t.renumber ρ)) :=
  (resolve_tallies t).bind_eq fun d => classFor_tallies d

theorem listTypes_tallies : Tallies L Eq listTypes listTypes := by
  apply inStep_get.bind
  intro e e' he
  rw [he.registry]
  exact tallies_ofExcept (.refl _)

theorem isRegistered_tallies (t : Value) : Tallies L Eq (isRegistered t) (isRegistered (t.renumber ρ)) := by
  apply inStep_get.bind
  intro e e' he
  rw [t.resolve_renumber ρ, he.rendering_eq, he.registry]
  split
  · exact inStep_pure rfl
  · split_ifs
    · exact inStep_pure rfl
    · exact inStep_throw _

variable [LogRelation L]

theorem register_tallies (t : Value) (c : ScalarClass) :
    Tallies L Eq (register t c) (register (t.renumber ρ) c) := by
  apply (resolve_tallies t).bind_eq
  intro d
  have hinsert : Tallies L Eq (modify fun e => { e with registry := e.registry.insert d.kind? c })
      (modify fun e => { e with registry := e.registry.insert d.kind? c }) :=
    inStep_modify fun e e' he => ⟨he.config, congrArg (insert · d.kind? c) he.registry, he.log⟩
  have hrest : Tallies L Eq
      (do
        modify fun e => { e with registry := e.registry.insert d.kind? c }
        let name ← Action.ofExcept (keyName d.kind?)
        record .info logger ("Registered scalar: " ++ name ++ " -> " ++ c.name))
      (do
        modify fun e => { e with registry := e.registry.insert d.kind? c }
        let name ← Action.ofExcept (keyName d.kind?)
        record .info logger ("Registered scalar: " ++ name ++ " -> " ++ c.name)) :=
    hinsert.bind_eq fun _ => (tallies_ofExcept (.refl _)).bind_eq fun _ => tallies_record _ _ _
  by_cases hc : c.kind? = d.kind?
  · simp only [hc, ne_eq, not_true_eq_false, ↓reduceIte]
    apply inStep_get.bind
    intro e e' he
    rw [he.registry]
    split_ifs
    · exact (tallies_ofExcept (.refl _)).bind_eq fun _ => (tallies_record _ _ _).bind_eq fun _ => hrest
    · exact hrest
  · simp only [hc, ne_eq, not_false_eq_true, ↓reduceIte]
    split
    · exact inStep_throw _
    · exact inStep_throw _

theorem unregister_tallies (t : Value) : Tallies L Eq (unregister t) (unregister (t.renumber ρ)) := by
  apply (resolve_tallies t).bind_eq
  intro d
  have herase : Tallies L Eq (modify fun e => { e with registry := e.registry.erase d.kind? })
      (modify fun e => { e with registry := e.registry.erase d.kind? }) :=
    inStep_modify fun e e' he => ⟨he.config, congrArg (erase · d.kind?) he.registry, he.log⟩
  apply inStep_get.bind
  intro e e' he
  rw [he.registry]
  split_ifs
  · exact herase.bind_eq fun _ => (tallies_ofExcept (.refl _)).bind_eq fun _ => tallies_record _ _ _
  · exact inStep_pure rfl

end Registry

/-! ### Scalars -/

/-- What was made, with the number of a scalar that somebody held replaced. -/
def Made.renumber (ρ : ℕ → ℕ) : Made → Made
  | same h => same (h.renumber ρ)
  | fresh s => fresh s

namespace Scalar

theorem build_tallies (c : ScalarClass) (v : Value) :
    Action.Tallies L Eq (build c v) (build c (v.renumber ρ)) := by
  apply tallies_rendering.bind_eq
  intro r
  exact tallies_ofExcept_eq (v.make_renumber ρ r c).symm

theorem create_tallies (t v : Value) :
    Action.Tallies L Eq (create t v) (create (t.renumber ρ) (v.renumber ρ)) :=
  (Registry.lookup_tallies t).bind_eq fun c => build_tallies c v

theorem copy_tallies (s : Scalar) : Action.Tallies L Eq (copy s) (copy s) := by
  apply tallies_rendering.bind_eq
  intro r
  exact tallies_ofExcept (.refl _)

theorem pickle_tallies (address : ScalarClass → ClassAddress) (s : Scalar) :
    Action.Tallies L Eq (pickle address s) (pickle address s) :=
  (tallies_ofExcept_eq rfl).bind_eq fun _ => copy_tallies s

theorem parseAs_tallies (c : ScalarClass) (text : Value) (t : Option Value) :
    Action.Tallies L Eq (parseAs c text t) (parseAs c (text.renumber ρ) (t.map (Value.renumber ρ))) := by
  have hread (target : ScalarClass) : Action.Tallies L Eq
      (do
        let r ← rendering
        let source ← Action.ofExcept (sourceOf r text)
        Action.ofExcept (parse r target source))
      (do
        let r ← rendering
        let source ← Action.ofExcept (sourceOf r (text.renumber ρ))
        Action.ofExcept (parse r target source)) := by
    apply tallies_rendering.bind_eq
    intro r
    exact (tallies_ofExcept_eq (text.sourceOf_renumber ρ r).symm).bind_eq fun _ => tallies_ofExcept (.refl _)
  cases t with
  | some t => exact (Registry.lookup_tallies t).bind_eq hread
  | none =>
    rw [parseAs, Option.map_none, parseAs]
    dsimp only
    split_ifs
    · exact (inStep_throw (R := Eq) _).bind_eq hread
    · exact (inStep_pure rfl).bind_eq hread

/-- Whether two actions make the same, but for the number of a scalar that somebody held. -/
abbrev Remakes (L : List Record → List Record → Prop) (ρ : ℕ → ℕ) (a b : Action Made) : Prop :=
  Action.Tallies L (fun m m' => m' = m.renumber ρ) a b

theorem fresh_remakes {a b : Action Scalar} (h : Action.Tallies L Eq a b) :
    Remakes L ρ (do return .fresh (← a)) (do return .fresh (← b)) :=
  h.bind_eq fun _ => inStep_pure rfl

variable [LogRelation L]

theorem cast_remakes (h : Held) (t : Value) :
    Remakes L ρ (Scalar.cast h t) (Scalar.cast (h.renumber ρ) (t.renumber ρ)) := by
  apply (Registry.resolve_tallies t).bind_eq
  intro d
  apply inStep_get.bind
  intro e e' he
  rw [he.registry, he.rendering_eq]
  apply (tallies_ofExcept (.refl _)).bind_eq
  intro c
  have hnull : Remakes L ρ (do return .fresh (← build c .none)) (do return .fresh (← build c .none)) :=
    fresh_remakes (build_tallies (ρ := ρ) c .none)
  dsimp only [Held.renumber]
  split
  · exact hnull
  · split_ifs
    · exact hnull
    · exact inStep_pure rfl
    · exact (tallies_ofExcept (.refl _)).bind_eq fun _ => (tallies_record _ _ _).bind_eq fun _ =>
        fresh_remakes (tallies_ofExcept (.refl _))

theorem ofValue_remakes (v : Value) (t : Option Value) :
    Remakes L ρ (ofValue v t) (ofValue (v.renumber ρ) (t.map (Value.renumber ρ))) := by
  have hcreate (t : Value) : Remakes L ρ (do return .fresh (← create t v))
      (do return .fresh (← create (t.renumber ρ) (v.renumber ρ))) := fresh_remakes (create_tallies t v)
  have hinferred : Remakes L ρ
      (do
        let d ← Action.ofExcept (DataType.infer (← get).config v)
        return .fresh (← create (.dataType d) v))
      (do
        let d ← Action.ofExcept (DataType.infer (← get).config (v.renumber ρ))
        return .fresh (← create (.dataType d) (v.renumber ρ))) := by
    apply inStep_get.bind
    intro e e' he
    have hinfer : DataType.infer e.config v = DataType.infer e'.config (v.renumber ρ) := by
      rw [v.infer_renumber ρ]
      apply Config.eq_of_anonymous (f := fun c => DataType.infer c v) _ he.config
      exact fun ρ c => c.infer_renumber ρ v
    exact (tallies_ofExcept_eq hinfer).bind_eq fun d => hcreate (.dataType d)
  cases v with
  | scalar h =>
    cases t with
    | none => exact inStep_pure rfl
    | some t => exact cast_remakes h t
  | _ =>
    cases t with
    | none => exact hinferred
    | some t => exact hcreate t

end Scalar

/-! ### The configuration -/

namespace Config

theorem anonymous_renumber (c : Config) : (c.renumber ρ).anonymous = c.anonymous := by
  simp only [anonymous, renumber, Value.renumber_renumber]
  rfl

/-- Changes with the same values but for numbers lead to configurations that differ in numbers alone. -/
theorem update_coincides {c c' : Config} (h : c.anonymous = c'.anonymous) (fields : List (String × Value)) :
    Coincides (fun c c' => c.anonymous = c'.anonymous) (c.update fields)
      (c'.update (Value.renumberFields ρ fields)) := by
  apply Coincides.of_map_eq
  unfold anonymous
  rw [← update_renumber, ← update_renumber, Value.renumberFields_renumberFields]
  exact congrArg (update · (Value.renumberFields (fun _ => 0) fields)) h

theorem reset_tallies : Action.Tallies L Eq reset reset := by
  have hinitial : Action.Tallies L Eq (modify fun e => { e with config := initial })
      (modify fun e => { e with config := initial }) :=
    inStep_modify fun e e' he => ⟨rfl, he.registry, he.log⟩
  exact hinitial.bind_eq fun _ => inStep_pure rfl

variable [LogRelation L]

theorem warnUnknown_tallies (r : Rendering) (keys : List Value) :
    Action.Tallies L Eq (warnUnknown r keys) (warnUnknown r keys) := by
  induction keys with
  | nil => exact inStep_pure rfl
  | cons k rest ih =>
    rw [warnUnknown]
    split_ifs
    · exact (tallies_ofExcept (.refl _)).bind_eq fun _ => (tallies_record _ _ _).bind_eq fun _ => ih
    · exact ih

theorem load_tallies (files : Files) (path : String) :
    Action.Tallies L Eq (load files path) (load files path) := by
  unfold load
  split
  · exact inStep_throw _
  · exact inStep_throw _
  · exact inStep_throw _
  · refine (tallies_ofExcept (.refl _)).bind_eq fun d => (tallies_ofExcept (.refl _)).bind_eq fun keys => ?_
    refine tallies_rendering.bind_eq fun r => (warnUnknown_tallies r keys).bind_eq fun _ => ?_
    refine (tallies_ofExcept (.refl _)).bind_eq fun _ => (tallies_record _ _ _).bind_eq fun _ => ?_
    exact inStep_pure rfl

theorem activate_tallies {config config' : Option Config} {overrides : List (String × Value)}
    (h : Option.Rel (fun c c' : Config => c.anonymous = c'.anonymous) config config') :
    Action.Tallies L (fun c c' => c.anonymous = c'.anonymous) (activate config overrides)
      (activate config' (Value.renumberFields ρ overrides)) := by
  apply inStep_get.bind
  intro e e' he
  have hbase : (config.getD e.config).anonymous = (config'.getD e'.config).anonymous := by
    cases h with
    | none => exact he.config
    | some h => exact h
  apply (tallies_ofExcept (update_coincides hbase overrides)).bind
  intro new new' hnew
  have hvalidate : new.validate e.rendering = new'.validate e'.rendering := by
    rw [he.rendering_eq]
    exact eq_of_anonymous (fun ρ c => c.validate_renumber ρ _) hnew
  have hshown : new.shown new.rendering = new'.shown new'.rendering := by
    rw [eq_of_anonymous (fun ρ c => c.rendering_renumber ρ) hnew]
    exact eq_of_anonymous (fun ρ c => c.shown_renumber ρ _) hnew
  have hactive : Action.Tallies L Eq (modify fun e => { e with config := new })
      (modify fun e => { e with config := new' }) := inStep_modify fun e e' he => ⟨hnew, he.registry, he.log⟩
  refine (tallies_ofExcept_eq hvalidate).bind_eq fun _ => hactive.bind_eq fun _ => ?_
  exact (tallies_ofExcept_eq hshown).bind_eq fun _ => (tallies_record _ _ _).bind_eq fun _ => inStep_pure hnew

/-- A configuration that is made active as it is. -/
theorem activate_as_tallies (c : Config) :
    Action.Tallies L (fun c c' => c.anonymous = c'.anonymous) (activate (some c) [])
      (activate (some c) []) := activate_tallies (ρ := id) (.some rfl)

end Config

/-! ### The command line -/

namespace CommandLine

theorem catching_tallies (catches : Error → Bool) {a : Action α} {f : Error → α}
    (h : Action.Tallies L Eq a a) :
    Action.Tallies L Eq (tryCatch a fun err => if catches err then pure (f err) else throw err)
      (tryCatch a fun err => if catches err then pure (f err) else throw err) := by
  apply h.tryCatch
  intro err
  split_ifs
  · exact inStep_pure rfl
  · exact inStep_throw err

/-- A log of one's own is the same wherever it is kept. -/
theorem withOwnLog_tallies {a : Action α} (h : Action.Tallies Eq Eq a a) :
    Action.Tallies L Eq (withOwnLog a) (withOwnLog a) := by
  intro e e' he
  obtain ⟨hresult, hafter⟩ := h { e with log := [] } { e' with log := [] } ⟨he.config, he.registry, rfl⟩
  refine ⟨?_, hafter.config, hafter.registry, he.log⟩
  show Coincides Eq (Except.map _ _) (Except.map _ _)
  apply hresult.map
  rintro x _ rfl
  exact congrArg (Prod.mk x) hafter.log

section

variable [LogRelation L]

theorem failure_tallies (message : String) : Action.Tallies L Eq (failure message) (failure message) :=
  (tallies_record _ _ _).bind_eq fun _ => inStep_pure rfl

theorem loadConfig_tallies (files : Files) (path : String) :
    Action.Tallies L Eq (loadConfig files path) (loadConfig files path) := by
  apply (Config.load_tallies files path).bind_eq
  intro c
  exact (Config.activate_as_tallies c).discard

theorem build_tallies (q : Request) : Action.Tallies L Eq (build q) (build q) := by
  apply tallies_rendering.bind_eq
  intro r
  have hlookup : Action.Tallies L Eq (Registry.lookup q.type.value) (Registry.lookup q.type.value) := by
    cases q.type with
    | none => exact Registry.lookup_tallies (ρ := id) (.list [])
    | some t => exact Registry.lookup_tallies (ρ := id) (.text t)
  refine hlookup.bind_eq fun c => (tallies_ofExcept (.refl _)).bind_eq fun s => ?_
  split
  · exact inStep_pure rfl
  · exact inStep_pure rfl
  · next t _ _ =>
    apply (Scalar.cast_remakes (ρ := id) ⟨0, s⟩ (.text t)).bind_image
    intro made
    apply inStep_pure
    cases made <;> rfl

/-- What is done to load a file that a request names, and then the rest. -/
theorem configured_tallies {files : Files} {q : Request} {rest : Option Error → Action β}
    (hrest : ∀ loaded, Action.Tallies L Eq (rest loaded) (rest loaded)) :
    let configured : Action β := do
      let loaded ←
        match q.config with
        | none | some "" => pure none
        | some path =>
          tryCatch (do loadConfig files path; pure none) fun e =>
            if isConfigFailure e then pure (some e) else throw e
      rest loaded
    Action.Tallies L Eq configured configured := by
  intro configured
  unfold configured
  split
  · exact (inStep_pure rfl).bind_eq hrest
  · exact (inStep_pure rfl).bind_eq hrest
  · next path _ _ =>
    have hload : Action.Tallies L Eq (do loadConfig files path; pure none : Action (Option Error))
        (do loadConfig files path; pure none) :=
      (loadConfig_tallies files path).bind_eq fun _ => inStep_pure rfl
    exact (catching_tallies isConfigFailure hload).bind_eq hrest

theorem answer_tallies (files : Files) (q : Request) :
    Action.Tallies L Eq (answer files q) (answer files q) := by
  apply configured_tallies
  intro loaded
  cases loaded with
  | some err => exact failure_tallies _
  | none =>
    have hbuild : Action.Tallies L Eq (Except.ok <$> build q : Action (Except Error Scalar))
        (Except.ok <$> build q) := (build_tallies q).map fun _ _ h => congrArg Except.ok h
    apply (catching_tallies (fun err => err.isA .scalar) hbuild).bind_eq
    intro built
    cases built with
    | error err => exact failure_tallies _
    | ok s => exact tallies_rendering.bind_eq fun r => (tallies_record _ _ _).bind_eq fun _ => inStep_pure rfl

end

theorem run_tallies (clock : Log.Clock) (files : Files) (arguments : List String) :
    Action.Tallies L Eq (run clock files arguments) (run clock files arguments) := by
  unfold run
  split
  · exact inStep_pure rfl
  · exact inStep_pure rfl
  · split
    · exact inStep_throw _
    · exact (withOwnLog_tallies (answer_tallies files _)).bind_eq fun _ => inStep_pure rfl

end CommandLine

end TypedScalar
