import TypedScalar.Proofs.Lockstep
import TypedScalar.Session.Operation

/-! Sessions in lockstep. Two sessions that differ in the numbers of their scalars and in the log alone give
the same answers to every operation whose terms stay within the names that both know, and differ in no more
afterwards. -/

namespace TypedScalar

/-! ### Terms within names -/

mutual

/-- Whether a term refers to visible names only, and writes out no scalar by its number. -/
def Term.Within (visible : String → Prop) : Term → Prop
  | .value v => v.isPlain = true
  | .machineInteger _ _ | .duration _ => True
  | .list items | .tuple items => Term.AllWithin visible items
  | .dictionary entries => Term.EntriesWithin visible entries
  | .scalar _ content => Term.OptionalWithin visible content
  | .reference name => visible name

def Term.AllWithin (visible : String → Prop) : List Term → Prop
  | [] => True
  | t :: rest => t.Within visible ∧ Term.AllWithin visible rest

def Term.EntriesWithin (visible : String → Prop) : List (String × Term) → Prop
  | [] => True
  | (_, t) :: rest => t.Within visible ∧ Term.EntriesWithin visible rest

def Term.OptionalWithin (visible : String → Prop) : Option Term → Prop
  | none => True
  | some t => t.Within visible

end

namespace Session

variable {visible : String → Prop}

def Construction.Within (visible : String → Prop) : Construction → Prop
  | .make _ value => Term.OptionalWithin visible value
  | .ofValue value type => value.Within visible ∧ Term.OptionalWithin visible type
  | .create type value => type.Within visible ∧ Term.OptionalWithin visible value
  | .parse _ text type => text.Within visible ∧ Term.OptionalWithin visible type
  | .cast scalar type => scalar.Within visible ∧ type.Within visible
  | .copy scalar | .pickle scalar | .look scalar => scalar.Within visible

def DataTypeQuery.Within (visible : String → Prop) : DataTypeQuery → Prop
  | .infer t | .resolve t | .ofName t | .ofId t | .ofStorage t => t.Within visible
  | .ofClass _ => True

/-- Whether all terms of an operation refer to visible names only, and write out no scalar. -/
def Operation.Within (visible : String → Prop) : Operation → Prop
  | .construct c _ => c.Within visible
  | .equal a b given =>
    a.Within visible ∧ b.Within visible ∧ ∀ fields ∈ given, Term.EntriesWithin visible fields
  | .compare a b | .compareHashes a b | .setAttribute a _ b => a.Within visible ∧ b.Within visible
  | .group terms | .makeError _ terms => Term.AllWithin visible terms
  | .options fields | .validateConfig fields => Term.EntriesWithin visible fields
  | .deleteAttribute t _ | .register t _ | .unregister t | .isRegistered t | .classFor t => t.Within visible
  | .dataType q => q.Within visible
  | .setConfig config overrides =>
    (∀ fields ∈ config, Term.EntriesWithin visible fields) ∧ Term.EntriesWithin visible overrides
  | .listTypes | .getConfig | .resetConfig | .loadConfig _ _ | .commandLine _ | .logging _ => True

/-- An answer with all scalars in it given one number. -/
def Answer.anonymous : Answer → Answer
  | .equal verdict => .equal verdict.anonymous
  | .options fields => .options (Value.renumberFields (fun _ => 0) fields)
  | .config c => .config c.anonymous
  | a => a

/-! ### Relations that last -/

/-- Whether a relation of sessions tells all that tasks look at, with the numbers of scalars replaced, and
lasts while tasks act on the environment and number scalars. -/
structure Lasting (ρ : ℕ → ℕ) (visible : String → Prop) (S : Session → Session → Prop) : Prop where
  environment {s s' : Session} (h : S s s') : Environment.Alike (fun _ _ => True) s.environment s'.environment
  classes {s s' : Session} (h : S s s') : s.classes = s'.classes
  bindings {s s' : Session} (h : S s s') {name : String} (hname : visible name) :
    s'.bindings.lookup name = (s.bindings.lookup name).map (Held.renumber ρ)
  next {s s' : Session} (h : S s s') : s'.next = ρ s.next
  act {s s' : Session} (h : S s s') {e e' : Environment} (he : Environment.Alike (fun _ _ => True) e e') :
    S { s with environment := e } { s' with environment := e' }
  count {s s' : Session} (h : S s s') : S { s with next := s.next + 1 } { s' with next := s'.next + 1 }

section

variable {α α' : Type} {ρ : ℕ → ℕ} {S : Session → Session → Prop} {R : α → α' → Prop}

theorem lift_inStep (hS : Lasting ρ visible S) {a : Action α} {a' : Action α'}
    (h : Action.Tallies (fun _ _ => True) R a a') : InStep S R (lift a) (lift a') := by
  intro s s' hs
  obtain ⟨hresult, henvironment⟩ := h _ _ (hS.environment hs)
  exact ⟨hresult, hS.act hs henvironment⟩

theorem result_inStep (hS : Lasting ρ visible S) {x : Except Error α} {y : Except Error α'}
    (h : Coincides R x y) : InStep S R (lift (Action.ofExcept x)) (lift (Action.ofExcept y)) :=
  lift_inStep hS (Action.tallies_ofExcept h)

theorem result_inStep_eq (hS : Lasting ρ visible S) {x y : Except Error α} (h : x = y) :
    InStep S Eq (lift (Action.ofExcept x)) (lift (Action.ofExcept y)) :=
  lift_inStep hS (Action.tallies_ofExcept_eq h)

theorem classNamed_inStep (hS : Lasting ρ visible S) (name : String) :
    InStep S Eq (classNamed name) (classNamed name) := by
  apply inStep_get.bind
  intro s s' hs
  rw [hS.classes hs]
  split
  · exact inStep_pure rfl
  · exact inStep_throw _

theorem stored_inStep (hS : Lasting ρ visible S) {name : String} (hname : visible name) :
    InStep S (fun h h' => h' = h.renumber ρ) (stored name) (stored name) := by
  apply inStep_get.bind
  intro s s' hs
  rw [hS.bindings hs hname]
  cases s.bindings.lookup name with
  | none => exact inStep_throw _
  | some h => exact inStep_pure rfl

theorem hold_inStep (hS : Lasting ρ visible S) (x : Scalar) :
    InStep S (fun h h' => h' = h.renumber ρ) (hold x) (hold x) := by
  intro s s' hs
  refine ⟨.ok ?_, hS.count hs⟩
  show Held.mk s'.next x = ⟨ρ s.next, x⟩
  rw [hS.next hs]

theorem holdMade_inStep (hS : Lasting ρ visible S) (m : Made) :
    InStep S (fun h h' => h' = h.renumber ρ) (holdMade m) (holdMade (m.renumber ρ)) := by
  cases m with
  | same h => exact inStep_pure rfl
  | fresh x => exact hold_inStep hS x

/-! ### Terms -/

theorem machineInteger_coincides (k : IntegerKind) (n : Int) :
    Coincides (fun v w => w = v.renumber ρ) (machineInteger k n) (machineInteger k n) := by
  unfold machineInteger
  split_ifs
  · exact .ok rfl
  · cases integerText n with
    | error err => exact .error err
    | ok text => exact .error _

theorem duration_coincides (seconds : Int) :
    Coincides (fun v w => w = v.renumber ρ) (duration seconds) (duration seconds) := by
  unfold duration
  dsimp only
  split_ifs
  · exact .ok rfl
  · exact .error _

theorem renumber_dictionary (fields : List (String × Value)) :
    Value.dictionary ((Value.renumberFields ρ fields).map fun e => (.text e.1, e.2)) =
      (Value.dictionary (fields.map fun e => (.text e.1, e.2))).renumber ρ := by
  simp [Value.renumber, Value.renumberEntries_eq, Value.renumberFields, Function.comp_def]

theorem getD_renumber (v : Option Value) :
    (v.map (Value.renumber ρ)).getD .none = (v.getD .none).renumber ρ := by
  cases v <;> rfl

mutual

theorem evaluate_inStep (hS : Lasting ρ visible S) :
    (t : Term) → t.Within visible → InStep S (fun v w => w = v.renumber ρ) (evaluate t) (evaluate t)
  | .value v, h => inStep_pure (Value.renumber_of_isPlain ρ v h).symm
  | .machineInteger k n, _ => result_inStep hS (machineInteger_coincides k n)
  | .duration seconds, _ => result_inStep hS (duration_coincides seconds)
  | .list items, h => (evaluateAll_inStep hS items h).bind_image fun _ => inStep_pure rfl
  | .tuple items, h => (evaluateAll_inStep hS items h).bind_image fun _ => inStep_pure rfl
  | .dictionary entries, h =>
    (evaluateEntries_inStep hS entries h).bind_image fun fields => inStep_pure (renumber_dictionary fields)
  | .scalar className value, h => by
    refine (classNamed_inStep hS className).bind_eq fun c => ?_
    refine (evaluateOptional_inStep hS value h).bind_image fun v => ?_
    rw [getD_renumber]
    refine (lift_inStep hS (Scalar.build_tallies c _)).bind_eq fun x => ?_
    exact (hold_inStep hS x).bind_image fun _ => inStep_pure rfl
  | .reference _, h => (stored_inStep hS h).bind_image fun _ => inStep_pure rfl

theorem evaluateAll_inStep (hS : Lasting ρ visible S) : (terms : List Term) → Term.AllWithin visible terms →
    InStep S (fun vs ws => ws = Value.renumberItems ρ vs) (evaluateAll terms) (evaluateAll terms)
  | [], _ => inStep_pure rfl
  | t :: rest, h =>
    (evaluate_inStep hS t h.1).bind_image fun _ =>
      (evaluateAll_inStep hS rest h.2).bind_image fun _ => inStep_pure rfl

theorem evaluateEntries_inStep (hS : Lasting ρ visible S) :
    (entries : List (String × Term)) → Term.EntriesWithin visible entries →
      InStep S (fun fs gs => gs = Value.renumberFields ρ fs) (evaluateEntries entries)
        (evaluateEntries entries)
  | [], _ => inStep_pure rfl
  | (_, t) :: rest, h =>
    (evaluate_inStep hS t h.1).bind_image fun _ =>
      (evaluateEntries_inStep hS rest h.2).bind_image fun _ => inStep_pure rfl

theorem evaluateOptional_inStep (hS : Lasting ρ visible S) :
    (t : Option Term) → Term.OptionalWithin visible t →
      InStep S (fun v w => w = v.map (Value.renumber ρ)) (evaluateOptional t) (evaluateOptional t)
  | none, _ => inStep_pure rfl
  | some t, h => (evaluate_inStep hS t h).bind_image fun _ => inStep_pure rfl

end

/-! ### Constructions -/

theorem Construction.run_inStep (hS : Lasting ρ visible S) {c : Construction} (h : c.Within visible) :
    InStep S (fun m m' => m' = m.renumber ρ) c.run c.run := by
  cases c with
  | make className value =>
    refine (classNamed_inStep hS className).bind_eq fun c => ?_
    refine (evaluateOptional_inStep hS value h).bind_image fun v => ?_
    rw [getD_renumber]
    exact (lift_inStep hS (Scalar.build_tallies c _)).bind_eq fun _ => inStep_pure rfl
  | ofValue value type =>
    refine (evaluate_inStep hS value h.1).bind_image fun v => ?_
    refine (evaluateOptional_inStep hS type h.2).bind_image fun t => ?_
    exact lift_inStep hS (Scalar.ofValue_remakes v t)
  | create type value =>
    refine (evaluate_inStep hS type h.1).bind_image fun t => ?_
    refine (evaluateOptional_inStep hS value h.2).bind_image fun v => ?_
    rw [getD_renumber]
    exact (lift_inStep hS (Scalar.create_tallies t _)).bind_eq fun _ => inStep_pure rfl
  | parse className text type =>
    refine (classNamed_inStep hS className).bind_eq fun c => ?_
    refine (evaluate_inStep hS text h.1).bind_image fun v => ?_
    refine (evaluateOptional_inStep hS type h.2).bind_image fun t => ?_
    exact (lift_inStep hS (Scalar.parseAs_tallies c v t)).bind_eq fun _ => inStep_pure rfl
  | cast scalar type =>
    refine (evaluate_inStep hS scalar h.1).bind_image fun v => ?_
    refine (evaluate_inStep hS type h.2).bind_image fun t => ?_
    refine (result_inStep hS (.of_eq_map (v.asCastable_renumber ρ t))).bind_image fun held => ?_
    exact lift_inStep hS (Scalar.cast_remakes held t)
  | copy scalar =>
    refine (evaluate_inStep hS scalar h).bind_image fun v => ?_
    refine (result_inStep hS (.of_eq_map (v.asCopyable_renumber ρ))).bind_image fun held => ?_
    exact (lift_inStep hS (Scalar.copy_tallies held.scalar)).bind_eq fun _ => inStep_pure rfl
  | pickle scalar =>
    refine (evaluate_inStep hS scalar h).bind_image fun v => ?_
    refine (result_inStep hS (.of_eq_map (v.asCopyable_renumber ρ))).bind_image fun held => ?_
    exact (lift_inStep hS (Scalar.pickle_tallies _ held.scalar)).bind_eq fun _ => inStep_pure rfl
  | look scalar =>
    refine (evaluate_inStep hS scalar h).bind_image fun v => ?_
    refine (result_inStep hS (.of_eq_map (v.asScalar_renumber ρ "data_type"))).bind_image fun _ => ?_
    exact inStep_pure rfl

/-- Whether two tasks in lockstep give answers that differ in the numbers of scalars alone. -/
abbrev Answers (S : Session → Session → Prop) (t u : Task Answer) : Prop :=
  InStep S (fun a a' => a.anonymous = a'.anonymous) t u

/-- Whether a relation lasts while a scalar is stored under a name. -/
def StoresUnder (ρ : ℕ → ℕ) (S : Session → Session → Prop) (name : String) : Prop :=
  ∀ s s' h, S s s' →
    S { s with bindings := (name, h) :: s.bindings }
      { s' with bindings := (name, h.renumber ρ) :: s'.bindings }

/-- Whether a relation lasts while classes are made known. -/
def AddsClasses (S : Session → Session → Prop) : Prop :=
  ∀ s s' c, S s s' → S { s with classes := c :: s.classes } { s' with classes := c :: s'.classes }

theorem get_inStep {f g : Session → Task Answer} (h : ∀ s s', S s s' → Answers S (f s) (g s')) :
    Answers S (get >>= f) (get >>= g) := inStep_get.bind h

theorem construct_inStep (hS : Lasting ρ visible S) {c : Construction} (h : c.Within visible)
    {storeAs : Option String} (hstore : ∀ name ∈ storeAs, StoresUnder ρ S name) :
    Answers S (construct c storeAs) (construct c storeAs) := by
  refine (Construction.run_inStep hS h).bind_image fun made => ?_
  refine (holdMade_inStep hS made).bind_image fun held => ?_
  have hsame : (made.renumber ρ).isSame = made.isSame := by
    cases made <;> rfl
  have hanswer (same : Option Bool) : Answers S
      (do return .scalar (held.scalar.view (← get).environment.rendering) same)
      (do return .scalar ((held.renumber ρ).scalar.view (← get).environment.rendering) same) := by
    apply get_inStep
    intro s s' hs
    rw [(hS.environment hs).rendering_eq]
    exact inStep_pure rfl
  rw [hsame]
  cases storeAs with
  | none => exact (inStep_pure (R := Eq) rfl).bind_eq fun _ => hanswer _
  | some name =>
    have hstored : InStep S Eq (store name held) (store name (held.renumber ρ)) :=
      inStep_modify fun s s' hs => hstore name rfl s s' held hs
    exact hstored.bind_eq fun _ => hanswer _

/-! ### Operations -/

theorem ClassChoice.run_inStep (hS : Lasting ρ visible S) (hadd : AddsClasses S) (choice : ClassChoice) :
    InStep S Eq choice.run choice.run := by
  cases choice with
  | named name => exact classNamed_inStep hS name
  | subclass name parent =>
    refine (classNamed_inStep hS parent).bind_eq fun c => ?_
    have hadded : InStep S Eq (addClass (.subclass name c)) (addClass (.subclass name c)) :=
      inStep_modify fun s s' hs => hadd s s' _ hs
    exact hadded.bind_eq fun _ => inStep_pure rfl

theorem DataTypeQuery.run_inStep (hS : Lasting ρ visible S) {q : DataTypeQuery} (h : q.Within visible)
    (r : Rendering) {config config' : Config} (hconfig : config.anonymous = config'.anonymous) :
    InStep S Eq (q.run r config) (q.run r config') := by
  cases q with
  | infer value =>
    refine (evaluate_inStep hS value h).bind_image fun v => result_inStep_eq hS ?_
    rw [v.infer_renumber ρ]
    exact Config.eq_of_anonymous (f := fun c => DataType.infer c v) (fun ρ c => c.infer_renumber ρ v) hconfig
  | resolve type =>
    exact (evaluate_inStep hS type h).bind_image fun v => result_inStep_eq hS (v.resolve_renumber ρ r).symm
  | ofName name =>
    exact (evaluate_inStep hS name h).bind_image fun v => result_inStep_eq hS (v.ofName_renumber ρ r).symm
  | ofId id =>
    exact (evaluate_inStep hS id h).bind_image fun v => result_inStep_eq hS (v.ofId_renumber ρ r).symm
  | ofStorage code =>
    refine (evaluate_inStep hS code h).bind_image fun v => ?_
    exact result_inStep_eq hS (v.ofStorageCode_renumber ρ r).symm
  | ofClass className =>
    rw [run, run]
    split
    · exact inStep_pure rfl
    · exact inStep_throw _

theorem types_inStep (hS : Lasting ρ visible S) :
    Answers S (do return Answer.types (← lift Registry.listTypes))
      (do return Answer.types (← lift Registry.listTypes)) :=
  (lift_inStep hS Registry.listTypes_tallies).bind_eq fun _ => inStep_pure rfl

/-- The verdict on a scalar and whatever it is compared with. -/
theorem verdict_inStep (hS : Lasting ρ visible S) (h : Held) (w : Value) (o : EqualOptions) :
    Answers S
      (match w with
        | .scalar k => do return Answer.equal (← lift (Action.ofExcept (h.scalar.equalUnder o k.scalar)))
        | _ => return .equal (.boolean false))
      (match w.renumber ρ with
        | .scalar k => do
          return Answer.equal
            (← lift (Action.ofExcept ((h.renumber ρ).scalar.equalUnder (o.renumber ρ) k.scalar)))
        | _ => return .equal (.boolean false)) := by
  cases w with
  | scalar k =>
    refine (result_inStep hS (.of_eq_map (EqualOptions.equalUnder_renumber ρ o _ _))).bind_image fun v => ?_
    exact inStep_pure (congrArg Answer.equal (v.anonymous_renumber ρ).symm)
  | _ => exact inStep_pure rfl

/-- The configuration that settings give. -/
theorem ofFields_coincides (fields : List (String × Value)) :
    Coincides (fun c c' : Config => c.anonymous = c'.anonymous) (Config.ofFields fields)
      (Config.ofFields (Value.renumberFields ρ fields)) := Config.update_coincides rfl fields

theorem config_inStep (hS : Lasting ρ visible S) {a a' : Action Config}
    (h : Action.Tallies (fun _ _ => True) (fun c c' => c.anonymous = c'.anonymous) a a') :
    Answers S (do return Answer.config (← lift a)) (do return Answer.config (← lift a')) :=
  (lift_inStep hS h).bind fun _ _ hc => inStep_pure (congrArg Answer.config hc)

/-- The name that an operation stores a scalar under. -/
def Operation.stored? : Operation → Option String
  | .construct _ storeAs => storeAs
  | _ => none

/-- Whether an operation registers a class, which it may make known by name first. -/
def Operation.registers : Operation → Bool
  | .register _ _ => true
  | _ => false

variable {clock : Log.Clock} {files : Files}

/-- Whether an operation gives the same answers in lockstep with itself. -/
abbrev Keeping (S : Session → Session → Prop) (clock : Log.Clock) (files : Files) (o : Operation) : Prop :=
  Answers S (perform clock files o) (perform clock files o)

theorem equal_inStep (hS : Lasting ρ visible S) {a b : Term} {options : Option Fields}
    (h : (Operation.equal a b options).Within visible) : Keeping S clock files (.equal a b options) := by
  refine (evaluate_inStep hS a h.1).bind_image fun v => ?_
  refine (evaluate_inStep hS b h.2.1).bind_image fun w => ?_
  refine (result_inStep hS (.of_eq_map (v.asScalar_renumber ρ "equal"))).bind_image fun held => ?_
  cases options with
  | none =>
    have hexact : InStep S (fun o o' => o' = o.renumber ρ) (pure EqualOptions.exact)
        (pure EqualOptions.exact) := inStep_pure rfl
    exact hexact.bind_image fun o => verdict_inStep hS held w o
  | some fields =>
    refine (evaluateEntries_inStep hS fields (h.2.2 fields rfl)).bind_image fun fs => ?_
    refine (result_inStep hS (.of_eq_map (EqualOptions.ofFields_renumber ρ fs))).bind_image fun o => ?_
    exact verdict_inStep hS held w o

/-- What two values have in common does not depend on their numbers. -/
theorem both_inStep (hS : Lasting ρ visible S) {a b : Term} (ha : a.Within visible) (hb : b.Within visible)
    {f : Value → Value → Except Error Bool} (hf : ∀ v w, f (v.renumber ρ) (w.renumber ρ) = f v w)
    (answer : Bool → Answer) :
    let judged : Task Answer := do
      let v ← evaluate a
      let w ← evaluate b
      return answer (← lift (Action.ofExcept (f v w)))
    Answers S judged judged := by
  refine (evaluate_inStep hS a ha).bind_image fun v => ?_
  refine (evaluate_inStep hS b hb).bind_image fun w => ?_
  exact (result_inStep_eq hS (hf v w).symm).bind_eq fun _ => inStep_pure rfl

theorem group_inStep (hρ : Function.Injective ρ) (hS : Lasting ρ visible S) {items : List Term}
    (h : (Operation.group items).Within visible) : Keeping S clock files (.group items) := by
  refine (evaluateAll_inStep hS items h).bind_image fun vs => ?_
  rw [Value.findSome?_unhashable?_renumber, Value.groups_renumber hρ]
  split
  · exact inStep_throw _
  · exact inStep_pure rfl

theorem options_inStep (hS : Lasting ρ visible S) {fields : Fields}
    (h : (Operation.options fields).Within visible) : Keeping S clock files (.options fields) := by
  refine (evaluateEntries_inStep hS fields h).bind_image fun fs => ?_
  refine (result_inStep hS (.of_eq_map (EqualOptions.ofFields_renumber ρ fs))).discard.bind_eq fun _ => ?_
  rw [EqualOptions.givenOptions_renumber]
  have hsame := Value.renumberFields_renumberFields ρ (fun _ => 0) (givenOptions fs)
  exact inStep_pure (congrArg Answer.options hsame.symm)

theorem setAttribute_inStep (hS : Lasting ρ visible S) {object value : Term} {name : String}
    (h : (Operation.setAttribute object name value).Within visible) :
    Keeping S clock files (.setAttribute object name value) := by
  refine (evaluate_inStep hS object h.1).bind_image fun v => ?_
  refine (evaluate_inStep hS value h.2).discard.bind_eq fun _ => ?_
  rw [v.refuseSetting_renumber]
  exact inStep_throw _

theorem deleteAttribute_inStep (hS : Lasting ρ visible S) {object : Term} {name : String}
    (h : (Operation.deleteAttribute object name).Within visible) :
    Keeping S clock files (.deleteAttribute object name) := by
  refine (evaluate_inStep hS object h).bind_image fun v => ?_
  rw [v.refuseDeletion_renumber]
  exact inStep_throw _

theorem dataType_inStep (hS : Lasting ρ visible S) {q : DataTypeQuery} (h : q.Within visible) :
    Keeping S clock files (.dataType q) := by
  apply get_inStep
  intro s s' hs
  dsimp only
  rw [(hS.environment hs).rendering_eq]
  exact (DataTypeQuery.run_inStep hS h _ (hS.environment hs).config).bind_eq fun _ => inStep_pure rfl

theorem register_inStep (hS : Lasting ρ visible S) (hadd : AddsClasses S) {type : Term} {choice : ClassChoice}
    (h : type.Within visible) : Keeping S clock files (.register type choice) := by
  refine (ClassChoice.run_inStep hS hadd choice).bind_eq fun c => ?_
  refine (evaluate_inStep hS type h).bind_image fun t => ?_
  exact (lift_inStep hS (Registry.register_tallies t c)).bind_eq fun _ => types_inStep hS

theorem unregister_inStep (hS : Lasting ρ visible S) {type : Term} (h : type.Within visible) :
    Keeping S clock files (.unregister type) := by
  refine (evaluate_inStep hS type h).bind_image fun t => ?_
  exact (lift_inStep hS (Registry.unregister_tallies t)).bind_eq fun _ => types_inStep hS

theorem isRegistered_inStep (hS : Lasting ρ visible S) {type : Term} (h : type.Within visible) :
    Keeping S clock files (.isRegistered type) := by
  refine (evaluate_inStep hS type h).bind_image fun t => ?_
  exact (lift_inStep hS (Registry.isRegistered_tallies t)).bind_eq fun _ => inStep_pure rfl

theorem classFor_inStep (hS : Lasting ρ visible S) {type : Term} (h : type.Within visible) :
    Keeping S clock files (.classFor type) := by
  refine (evaluate_inStep hS type h).bind_image fun t => ?_
  exact (lift_inStep hS (Registry.lookup_tallies t)).bind_eq fun _ => inStep_pure rfl

theorem getConfig_inStep (hS : Lasting ρ visible S) : Keeping S clock files .getConfig :=
  get_inStep fun _ _ hs => inStep_pure (congrArg Answer.config (hS.environment hs).config)

theorem setConfig_inStep (hS : Lasting ρ visible S) {config : Option Fields} {overrides : Fields}
    (h : (Operation.setConfig config overrides).Within visible) :
    Keeping S clock files (.setConfig config overrides) := by
  have hrest (c c' : Option Config) (hc : Option.Rel (fun c c' : Config => c.anonymous = c'.anonymous) c c') :
      Answers S
        (do
          let fs ← evaluateEntries overrides
          return Answer.config (← lift (Config.activate c fs)))
        (do
          let fs ← evaluateEntries overrides
          return Answer.config (← lift (Config.activate c' fs))) :=
    (evaluateEntries_inStep hS overrides h.2).bind_image fun fs =>
      config_inStep hS (Config.activate_tallies hc)
  cases config with
  | none => exact (inStep_pure .none).bind hrest
  | some fields =>
    refine (evaluateEntries_inStep hS fields (h.1 fields rfl)).bind_image fun fs => ?_
    have hgiven : InStep S (Option.Rel fun c c' : Config => c.anonymous = c'.anonymous)
        (some <$> lift (Action.ofExcept (Config.ofFields fs)))
        (some <$> lift (Action.ofExcept (Config.ofFields (Value.renumberFields ρ fs)))) :=
      (result_inStep hS (ofFields_coincides fs)).map fun _ _ hc => .some hc
    exact hgiven.bind hrest

theorem validateConfig_inStep (hS : Lasting ρ visible S) {config : Fields}
    (h : (Operation.validateConfig config).Within visible) : Keeping S clock files (.validateConfig config) := by
  refine (evaluateEntries_inStep hS config h).bind_image fun fs => ?_
  refine (result_inStep hS (ofFields_coincides fs)).bind fun c c' hc => ?_
  have hvalidate : Action.Tallies (fun _ _ => True) Eq
      (do Action.ofExcept (c.validate (← Action.rendering)))
      (do Action.ofExcept (c'.validate (← Action.rendering))) := by
    refine Action.tallies_rendering.bind_eq fun r => Action.tallies_ofExcept_eq ?_
    exact Config.eq_of_anonymous (fun ρ c => c.validate_renumber ρ r) hc
  exact (lift_inStep hS hvalidate).bind_eq fun _ => inStep_pure (congrArg Answer.config hc)

theorem loadConfig_inStep (hS : Lasting ρ visible S) (path : String) (activate : Bool) :
    Keeping S clock files (.loadConfig path activate) := by
  refine (lift_inStep hS (Config.load_tallies files path)).bind_eq fun c => ?_
  cases activate with
  | false => exact inStep_pure rfl
  | true => exact (lift_inStep hS (Config.activate_as_tallies c)).discard.bind_eq fun _ => inStep_pure rfl

theorem commandLine_inStep (hS : Lasting ρ visible S) (arguments : List String) :
    Keeping S clock files (.commandLine arguments) :=
  (lift_inStep hS (CommandLine.run_tallies clock files arguments)).bind_eq fun _ => inStep_pure rfl

theorem makeError_inStep (hS : Lasting ρ visible S) {c : ErrorClass} {values : List Term}
    (h : (Operation.makeError c values).Within visible) : Keeping S clock files (.makeError c values) := by
  refine (evaluateAll_inStep hS values h).bind_image fun vs => get_inStep fun s s' hs => ?_
  rw [(hS.environment hs).rendering_eq, Value.errorText_renumber]
  exact (result_inStep_eq hS rfl).bind_eq fun _ => inStep_pure rfl

theorem perform_inStep (hρ : Function.Injective ρ) (hS : Lasting ρ visible S) (clock : Log.Clock)
    (files : Files) {o : Operation} (h : o.Within visible) (hstore : ∀ name ∈ o.stored?, StoresUnder ρ S name)
    (hadd : o.registers = true → AddsClasses S) : Keeping S clock files o := by
  cases o with
  | construct c storeAs => exact construct_inStep hS h hstore
  | equal a b options => exact equal_inStep hS h
  | compare a b => exact both_inStep hS h.1 h.2 (Value.compare_renumber hρ) .compared
  | compareHashes a b => exact both_inStep hS h.1 h.2 (Value.sameHash_renumber ρ) .hashesEqual
  | group items => exact group_inStep hρ hS h
  | options fields => exact options_inStep hS h
  | setAttribute object name value => exact setAttribute_inStep hS h
  | deleteAttribute object name => exact deleteAttribute_inStep hS h
  | dataType q => exact dataType_inStep hS h
  | register type choice => exact register_inStep hS (hadd rfl) h
  | unregister type => exact unregister_inStep hS h
  | listTypes => exact types_inStep hS
  | isRegistered type => exact isRegistered_inStep hS h
  | classFor type => exact classFor_inStep hS h
  | getConfig => exact getConfig_inStep hS
  | resetConfig => exact (lift_inStep hS Config.reset_tallies).bind_eq fun _ => inStep_pure rfl
  | setConfig config overrides => exact setConfig_inStep hS h
  | validateConfig config => exact validateConfig_inStep hS h
  | loadConfig path activate => exact loadConfig_inStep hS path activate
  | commandLine arguments => exact commandLine_inStep hS arguments
  | logging steps => exact inStep_pure rfl
  | makeError c values => exact makeError_inStep hS h

/-! ### Runs -/

variable {s s' : Session} (clock : Log.Clock) (files : Files)

theorem step_inStep {o : Operation} (h : Answers S (perform clock files o) (perform clock files o))
    (hs : S s s') :
    (s.step clock files o).1.anonymous = (s'.step clock files o).1.anonymous ∧
      S (s.step clock files o).2 (s'.step clock files o).2 := by
  obtain ⟨hresult, hafter⟩ := h s s' hs
  change Coincides _ (outcome (perform clock files o) s).1 (outcome (perform clock files o) s').1 at hresult
  change S (outcome (perform clock files o) s).2 (outcome (perform clock files o) s').2 at hafter
  rw [step, step]
  generalize outcome (perform clock files o) s = x at hresult hafter ⊢
  generalize outcome (perform clock files o) s' = y at hresult hafter ⊢
  obtain ⟨result, after⟩ := x
  obtain ⟨result', after'⟩ := y
  cases hresult with
  | ok ha => exact ⟨ha, hafter⟩
  | error err => exact ⟨rfl, hafter⟩

/-- Whether two sessions differ, as far as the visible names go, in the numbers of scalars and the log
alone. -/
structure Matches (ρ : ℕ → ℕ) (visible : String → Prop) (s s' : Session) : Prop where
  environment : Environment.Alike (fun _ _ => True) s.environment s'.environment
  classes : s.classes = s'.classes
  bindings {name : String} (hname : visible name) :
    s'.bindings.lookup name = (s.bindings.lookup name).map (Held.renumber ρ)
  next (i : ℕ) : s'.next + i = ρ (s.next + i)

theorem lasting_matches : Lasting ρ visible (Matches ρ visible) where
  environment h := h.environment
  classes h := h.classes
  bindings h _ hname := h.bindings hname
  next h := h.next 0
  act h _ _ he := ⟨he, h.classes, h.bindings, h.next⟩
  count {s s'} h := by
    refine ⟨h.environment, h.classes, h.bindings, fun i => ?_⟩
    show s'.next + 1 + i = ρ (s.next + 1 + i)
    rw [Nat.add_assoc, Nat.add_assoc, h.next]

theorem storesUnder_matches (name : String) : StoresUnder ρ (Matches ρ visible) name := by
  intro s s' held h
  refine ⟨h.environment, h.classes, fun {other} hother => ?_, h.next⟩
  show List.lookup other ((name, held.renumber ρ) :: s'.bindings) =
    (List.lookup other ((name, held) :: s.bindings)).map _
  rw [List.lookup_cons, List.lookup_cons, h.bindings hother]
  split <;> rfl

theorem addsClasses_matches : AddsClasses (Matches ρ visible) := fun _ _ c h =>
  ⟨h.environment, congrArg (c :: ·) h.classes, h.bindings, h.next⟩

theorem step_matches (hρ : Function.Injective ρ) (hs : s.Matches ρ visible s') {o : Operation}
    (h : o.Within visible) :
    (s.step clock files o).1.anonymous = (s'.step clock files o).1.anonymous ∧
      (s.step clock files o).2.Matches ρ visible (s'.step clock files o).2 := by
  refine step_inStep clock files ?_ hs
  exact perform_inStep hρ lasting_matches clock files h (fun name _ => storesUnder_matches name) fun _ =>
    addsClasses_matches

/-- Sessions that match give the same answers, operation by operation. -/
theorem run_matches (hρ : Function.Injective ρ) (hs : s.Matches ρ visible s') {operations : List Operation}
    (h : ∀ o ∈ operations, o.Within visible) :
    (s.run clock files operations).1.map Answer.anonymous =
      (s'.run clock files operations).1.map Answer.anonymous := by
  induction operations generalizing s s' with
  | nil => rfl
  | cons o rest ih =>
    rw [List.forall_mem_cons] at h
    obtain ⟨hanswer, hafter⟩ := step_matches clock files hρ hs h.1
    exact congrArg₂ List.cons hanswer (ih hafter h.2)

end

end Session

end TypedScalar
