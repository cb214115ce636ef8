import TypedScalar.Proofs.Frame
import TypedScalar.Session.Operation

/-! What operations leave alone, and what they show. Only registering and unregistering change the registry, and
only the operations on the configuration and command lines change the settings; every other operation changes
nothing of the environment but the log. Only constructions show scalars, and as they are. -/

namespace TypedScalar.Session

variable {α : Type} {P : Config × Registry → Prop}

/-- Whether a task keeps a property of the settings and the registry. -/
def Keeps (P : Config × Registry → Prop) (t : Task α) : Prop :=
  Preserves (fun s => P s.environment.unlogged) t

theorem maintains_lift {P : Environment → Prop} {Q : α → Prop} {a : Action α} (h : Maintains P Q a) :
    Maintains (fun s => P s.environment) Q (lift a) := fun s hs => h s.environment hs

theorem keeps_lift {a : Action α} (h : a.Keeps P) : Keeps P (lift a) := maintains_lift h

theorem keeps_ofExcept (x : Except Error α) : Keeps P (lift (Action.ofExcept x)) :=
  keeps_lift (Action.keeps_ofExcept x)

theorem keeps_pure (x : α) : Keeps P (pure x) := maintains_pure trivial

theorem keeps_throw (err : Error) : Keeps P (throw err : Task α) := maintains_throw err

theorem keeps_get : Keeps P get := maintains_get.preserves

theorem classNamed_keeps (name : String) : Keeps P (classNamed name) := by
  refine keeps_get.andThen fun s => ?_
  split
  · exact keeps_pure _
  · exact keeps_throw _

theorem addClass_keeps (c : ScalarClass) : Keeps P (addClass c) := preserves_modify fun _ hs => hs

theorem stored_keeps (name : String) : Keeps P (stored name) := by
  refine keeps_get.andThen fun s => ?_
  split
  · exact keeps_pure _
  · exact keeps_throw _

theorem store_keeps (name : String) (h : Held) : Keeps P (store name h) := preserves_modify fun _ hs => hs

theorem hold_keeps (x : Scalar) : Keeps P (hold x) := by
  refine keeps_get.andThen fun s => ?_
  have hnext : Keeps P (modify fun s' => { s' with next := s.next + 1 }) := preserves_modify fun _ hs => hs
  exact hnext.andThen fun _ => keeps_pure _

theorem holdMade_keeps (m : Made) : Keeps P (holdMade m) := by
  cases m with
  | same h => exact keeps_pure _
  | fresh s => exact hold_keeps s

/-! ### Terms -/

mutual

theorem evaluate_keeps : (t : Term) → Keeps P (evaluate t)
  | .value _ => keeps_pure _
  | .machineInteger _ _ => keeps_ofExcept _
  | .duration _ => keeps_ofExcept _
  | .list items => (evaluateAll_keeps items).andThen fun _ => keeps_pure _
  | .tuple items => (evaluateAll_keeps items).andThen fun _ => keeps_pure _
  | .dictionary entries => (evaluateEntries_keeps entries).andThen fun _ => keeps_pure _
  | .scalar className value =>
    (classNamed_keeps className).andThen fun c => (evaluateOptional_keeps value).andThen fun _ =>
      (keeps_lift (Scalar.build_keeps c _)).andThen fun s => (hold_keeps s).andThen fun _ => keeps_pure _
  | .reference name => (stored_keeps name).andThen fun _ => keeps_pure _

theorem evaluateAll_keeps : (terms : List Term) → Keeps P (evaluateAll terms)
  | [] => keeps_pure _
  | t :: rest => (evaluate_keeps t).andThen fun _ => (evaluateAll_keeps rest).andThen fun _ => keeps_pure _

theorem evaluateEntries_keeps : (entries : List (String × Term)) → Keeps P (evaluateEntries entries)
  | [] => keeps_pure _
  | (_, t) :: rest =>
    (evaluate_keeps t).andThen fun _ => (evaluateEntries_keeps rest).andThen fun _ => keeps_pure _

theorem evaluateOptional_keeps : (t : Option Term) → Keeps P (evaluateOptional t)
  | none => keeps_pure _
  | some t => (evaluate_keeps t).andThen fun _ => keeps_pure _

end

/-! ### Operations -/

theorem Construction.run_keeps (c : Construction) : Keeps P c.run := by
  cases c with
  | make className value =>
    exact (classNamed_keeps className).andThen fun c => (evaluateOptional_keeps value).andThen fun v =>
      (keeps_lift (Scalar.build_keeps c _)).andThen fun _ => keeps_pure _
  | ofValue value type =>
    exact (evaluate_keeps value).andThen fun v => (evaluateOptional_keeps type).andThen fun t =>
      keeps_lift (Scalar.ofValue_keeps v t)
  | create type value =>
    exact (evaluate_keeps type).andThen fun t => (evaluateOptional_keeps value).andThen fun v =>
      (keeps_lift (Scalar.create_keeps t _)).andThen fun _ => keeps_pure _
  | parse className text type =>
    exact (classNamed_keeps className).andThen fun c => (evaluate_keeps text).andThen fun v =>
      (evaluateOptional_keeps type).andThen fun t =>
        (keeps_lift (Scalar.parseAs_keeps c v t)).andThen fun _ => keeps_pure _
  | cast scalar type =>
    exact (evaluate_keeps scalar).andThen fun v => (evaluate_keeps type).andThen fun t =>
      (keeps_ofExcept _).andThen fun h => keeps_lift (Scalar.cast_keeps h t)
  | copy scalar =>
    exact (evaluate_keeps scalar).andThen fun v => (keeps_ofExcept _).andThen fun h =>
      (keeps_lift (Scalar.copy_keeps h.scalar)).andThen fun _ => keeps_pure _
  | pickle scalar =>
    exact (evaluate_keeps scalar).andThen fun v => (keeps_ofExcept _).andThen fun h =>
      (keeps_lift (Scalar.pickle_keeps _ h.scalar)).andThen fun _ => keeps_pure _
  | look scalar =>
    exact (evaluate_keeps scalar).andThen fun v => (keeps_ofExcept _).andThen fun h => keeps_pure _

/-- Whether an answer that shows a scalar shows one that there is. -/
def Answer.ShowsScalar : Answer → Prop
  | .scalar view _ => ∃ (x : Scalar) (r : Rendering), view = x.view r
  | _ => True

/-- Whether a task that answers keeps a property of the settings and the registry, and shows no more than
scalars. -/
abbrev KeepsShowing (P : Config × Registry → Prop) (t : Task Answer) : Prop :=
  Maintains (fun s => P s.environment.unlogged) Answer.ShowsScalar t

theorem construct_keeps (c : Construction) (storeAs : Option String) : KeepsShowing P (construct c storeAs) := by
  refine (Construction.run_keeps c).andThen fun made => (holdMade_keeps made).andThen fun h => ?_
  have hanswer (same : Option Bool) :
      KeepsShowing P (do return .scalar (h.scalar.view (← get).environment.rendering) same) :=
    keeps_get.andThen fun _ => maintains_pure ⟨_, _, rfl⟩
  cases storeAs with
  | none => exact hanswer _
  | some name => exact (store_keeps name h).andThen fun _ => hanswer _

theorem ClassChoice.run_keeps (choice : ClassChoice) : Keeps P choice.run := by
  cases choice with
  | named name => exact classNamed_keeps name
  | subclass name parent =>
    exact (classNamed_keeps parent).andThen fun c => (addClass_keeps _).andThen fun _ => keeps_pure _

theorem DataTypeQuery.run_keeps (r : Rendering) (config : Config) (q : DataTypeQuery) :
    Keeps P (q.run r config) := by
  cases q with
  | ofClass className =>
    rw [run]
    split
    · exact keeps_pure _
    · exact keeps_throw _
  | infer value | resolve value | ofName value | ofId value | ofStorage value =>
    exact (evaluate_keeps value).andThen fun _ => keeps_ofExcept _

/-- Whether an operation may change the settings or the registry. -/
def Operation.isChange : Operation → Bool
  | .register .. | .unregister _ | .resetConfig | .setConfig .. | .loadConfig .. | .commandLine _ => true
  | _ => false

variable {clock : Log.Clock} {files : Files}

/-- The verdict on a scalar and whatever it is compared with. -/
theorem verdict_keeps (h : Held) (w : Value) (o : EqualOptions) :
    KeepsShowing P
      (match w with
        | .scalar k => do return Answer.equal (← lift (Action.ofExcept (h.scalar.equalUnder o k.scalar)))
        | _ => return .equal (.boolean false)) := by
  cases w with
  | scalar k => exact (keeps_ofExcept _).andThen fun _ => maintains_pure trivial
  | _ => exact maintains_pure trivial

theorem equal_keeps (a b : Term) (options : Option Fields) :
    KeepsShowing P (perform clock files (.equal a b options)) := by
  refine (evaluate_keeps a).andThen fun v => (evaluate_keeps b).andThen fun w => ?_
  refine (keeps_ofExcept _).andThen fun h => ?_
  cases options with
  | none => exact (keeps_pure _).andThen fun o => verdict_keeps h w o
  | some fields =>
    exact (evaluateEntries_keeps fields).andThen fun _ => (keeps_ofExcept _).andThen fun o => verdict_keeps h w o

theorem group_keeps (items : List Term) : KeepsShowing P (perform clock files (.group items)) := by
  refine (evaluateAll_keeps items).andThen fun vs => ?_
  split
  · exact maintains_throw _
  · exact maintains_pure trivial

theorem validateConfig_keeps (config : Fields) : KeepsShowing P (perform clock files (.validateConfig config)) := by
  refine (evaluateEntries_keeps config).andThen fun _ => (keeps_ofExcept _).andThen fun c => ?_
  have hvalidate : Keeps P (lift (do Action.ofExcept (c.validate (← Action.rendering)))) :=
    keeps_lift (Action.keeps_rendering.andThen fun _ => Action.keeps_ofExcept _)
  exact hvalidate.andThen fun _ => maintains_pure trivial

/-- The registered types, as an answer. -/
theorem types_keeps : KeepsShowing P (do return Answer.types (← lift Registry.listTypes)) :=
  (keeps_lift Registry.listTypes_keeps).andThen fun _ => maintains_pure trivial

/-- A property of all settings and registries is kept also where the settings change. -/
theorem setConfig_shows (h : ∀ x, P x) (config : Option Fields) (overrides : Fields) :
    KeepsShowing P (perform clock files (.setConfig config overrides)) := by
  have hall {α : Type} (t : Task α) : Keeps P t := preserves_of_forall (fun _ => h _) t
  have hanswer (c : Option Config) :
      KeepsShowing P (do
        let fs ← evaluateEntries overrides
        return .config (← lift (Config.activate c fs))) :=
    (evaluateEntries_keeps overrides).andThen fun _ => (hall _).andThen fun _ => maintains_pure trivial
  cases config with
  | none => exact (keeps_pure _).andThen hanswer
  | some fields =>
    exact (evaluateEntries_keeps fields).andThen fun _ => (hall _).andThen hanswer

/-- An operation that is no change keeps every property of the settings and the registry, and any operation shows
no more than scalars. -/
theorem perform_maintains {o : Operation} (h : o.isChange = true → ∀ x, P x) :
    KeepsShowing P (perform clock files o) := by
  have hall (hchange : o.isChange = true) {α : Type} (t : Task α) : Keeps P t :=
    preserves_of_forall (fun _ => h hchange _) t
  cases o with
  | construct c storeAs => exact construct_keeps c storeAs
  | equal a b options => exact equal_keeps a b options
  | compare a b | compareHashes a b =>
    exact (evaluate_keeps a).andThen fun _ => (evaluate_keeps b).andThen fun _ =>
      (keeps_ofExcept _).andThen fun _ => maintains_pure trivial
  | group items => exact group_keeps items
  | options fields =>
    exact (evaluateEntries_keeps fields).andThen fun _ => (keeps_ofExcept _).discard.andThen fun _ =>
      maintains_pure trivial
  | setAttribute object name value =>
    exact (evaluate_keeps object).andThen fun _ => (evaluate_keeps value).discard.andThen fun _ =>
      maintains_throw _
  | deleteAttribute object name => exact (evaluate_keeps object).andThen fun _ => maintains_throw _
  | dataType q =>
    exact keeps_get.andThen fun _ => (DataTypeQuery.run_keeps _ _ q).andThen fun _ => maintains_pure trivial
  | register type choice =>
    exact (ClassChoice.run_keeps choice).andThen fun _ => (evaluate_keeps type).andThen fun _ =>
      (hall rfl _).andThen fun _ => types_keeps
  | unregister type => exact (evaluate_keeps type).andThen fun _ => (hall rfl _).andThen fun _ => types_keeps
  | listTypes => exact types_keeps
  | isRegistered type =>
    exact (evaluate_keeps type).andThen fun t =>
      (keeps_lift (Registry.isRegistered_keeps t)).andThen fun _ => maintains_pure trivial
  | classFor type =>
    exact (evaluate_keeps type).andThen fun t =>
      (keeps_lift (Registry.lookup_keeps t)).andThen fun _ => maintains_pure trivial
  | getConfig => exact keeps_get.andThen fun _ => maintains_pure trivial
  | resetConfig => exact (hall rfl _).andThen fun _ => maintains_pure trivial
  | setConfig config overrides => exact setConfig_shows (h rfl) config overrides
  | validateConfig config => exact validateConfig_keeps config
  | loadConfig path activate =>
    refine (hall rfl _).andThen fun c => ?_
    cases activate with
    | false => exact maintains_pure trivial
    | true => exact (hall rfl _).andThen fun _ => maintains_pure trivial
  | commandLine arguments => exact (hall rfl _).andThen fun _ => maintains_pure trivial
  | logging steps => exact maintains_pure trivial
  | makeError c values =>
    exact (evaluateAll_keeps values).andThen fun _ => keeps_get.andThen fun _ =>
      (keeps_ofExcept _).andThen fun _ => maintains_pure trivial

theorem perform_keeps {o : Operation} (h : o.isChange = false) : Keeps P (perform clock files o) :=
  (perform_maintains (by simp [h])).preserves

end TypedScalar.Session
