import Mathlib.Data.List.Forall2
import TypedScalar.Proofs.Scalar.Settings
import TypedScalar.Session.Operation

/-! Two sessions that differ in their settings alone. The operations that build,
cast, copy, compare and register go the same way in both: they give the same
scalars, whose values and plain contents are the same, and the same verdicts, or
errors of one class. -/

namespace TypedScalar.Session

variable {α : Type}

/-- Whether two sessions differ in nothing but the settings and the log. -/
structure Agrees (s s' : Session) : Prop where
  environment : s.environment.Agrees s'.environment
  classes : s.classes = s'.classes
  bindings : s.bindings = s'.bindings
  next : s.next = s'.next

/-- Whether a task does the same in sessions that agree, but for messages. -/
def IgnoresSettings (t : Task α) : Prop := KeepsStep Agrees Eq t t

theorem lift_ignoresSettings {a : Action α} (h : a.IgnoresSettings) : IgnoresSettings (lift a) := by
  intro s s' hs
  obtain ⟨hresult, he⟩ := h _ _ hs.environment
  exact ⟨hresult, he, hs.classes, hs.bindings, hs.next⟩

theorem lift_ofExcept_ignoresSettings (x : Except Error α) : IgnoresSettings (lift (Action.ofExcept x)) :=
  lift_ignoresSettings (Action.keepsStep_ofExcept (.refl x))

theorem classNamed_ignoresSettings (name : String) : IgnoresSettings (classNamed name) := by
  refine keepsStep_get.bind fun s s' hs => ?_
  rw [hs.classes]
  split
  · exact keepsStep_pure rfl
  · exact keepsStep_throw rfl

theorem stored_ignoresSettings (name : String) : IgnoresSettings (stored name) := by
  refine keepsStep_get.bind fun s s' hs => ?_
  rw [hs.bindings]
  split
  · exact keepsStep_pure rfl
  · exact keepsStep_throw rfl

theorem addClass_ignoresSettings (c : ScalarClass) : IgnoresSettings (addClass c) :=
  keepsStep_modify fun _ _ hs => ⟨hs.environment, congrArg (List.cons _) hs.classes, hs.bindings, hs.next⟩

theorem store_ignoresSettings (name : String) (h : Held) : IgnoresSettings (store name h) :=
  keepsStep_modify fun _ _ hs => ⟨hs.environment, hs.classes, congrArg (List.cons _) hs.bindings, hs.next⟩

theorem hold_ignoresSettings (x : Scalar) : IgnoresSettings (hold x) := by
  refine keepsStep_get.bind fun s s' hs => ?_
  rw [hs.next]
  have hnext : IgnoresSettings (modify fun s => { s with next := s'.next + 1 }) :=
    keepsStep_modify fun _ _ hs => ⟨hs.environment, hs.classes, hs.bindings, rfl⟩
  exact hnext.bind_eq fun _ => keepsStep_pure rfl

theorem holdMade_ignoresSettings (m : Made) : IgnoresSettings (holdMade m) := by
  cases m with
  | same h => exact keepsStep_pure rfl
  | fresh s => exact hold_ignoresSettings s

/-! ### Terms -/

mutual

theorem evaluate_ignoresSettings : (t : Term) → IgnoresSettings (evaluate t)
  | .value _ => keepsStep_pure rfl
  | .machineInteger _ _ => lift_ofExcept_ignoresSettings _
  | .duration _ => lift_ofExcept_ignoresSettings _
  | .list items => (evaluateAll_ignoresSettings items).bind_eq fun _ => keepsStep_pure rfl
  | .tuple items => (evaluateAll_ignoresSettings items).bind_eq fun _ => keepsStep_pure rfl
  | .dictionary entries => (evaluateEntries_ignoresSettings entries).bind_eq fun _ => keepsStep_pure rfl
  | .scalar className value =>
    (classNamed_ignoresSettings className).bind_eq fun c =>
      (evaluateOptional_ignoresSettings value).bind_eq fun _ =>
        (lift_ignoresSettings (Scalar.build_ignoresSettings c _)).bind_eq fun s =>
          (hold_ignoresSettings s).bind_eq fun _ => keepsStep_pure rfl
  | .reference name => (stored_ignoresSettings name).bind_eq fun _ => keepsStep_pure rfl

theorem evaluateAll_ignoresSettings : (terms : List Term) → IgnoresSettings (evaluateAll terms)
  | [] => keepsStep_pure rfl
  | t :: rest =>
    (evaluate_ignoresSettings t).bind_eq fun _ =>
      (evaluateAll_ignoresSettings rest).bind_eq fun _ => keepsStep_pure rfl

theorem evaluateEntries_ignoresSettings :
    (entries : List (String × Term)) → IgnoresSettings (evaluateEntries entries)
  | [] => keepsStep_pure rfl
  | (_, t) :: rest =>
    (evaluate_ignoresSettings t).bind_eq fun _ =>
      (evaluateEntries_ignoresSettings rest).bind_eq fun _ => keepsStep_pure rfl

theorem evaluateOptional_ignoresSettings : (t : Option Term) → IgnoresSettings (evaluateOptional t)
  | none => keepsStep_pure rfl
  | some t => (evaluate_ignoresSettings t).bind_eq fun _ => keepsStep_pure rfl

end

/-! ### Operations -/

/-- Whether a construction looks at no setting. Parsing looks at the null token, and
inference at the types of plain numbers. -/
def Construction.isIndependent : Construction → Bool
  | .parse .. | .ofValue _ none => false
  | _ => true

/-- The operations that look at no setting: those that build, cast, copy or show a
scalar, compare values or their hashes, or change the registry. -/
def Operation.isIndependent : Operation → Bool
  | .construct c _ => c.isIndependent
  | .equal .. | .compare .. | .compareHashes .. | .register .. | .unregister _ => true
  | _ => false

/-- Whether two answers differ at most in the text by which they show a scalar, or in
the message of an error. -/
inductive Answer.Alike : Answer → Answer → Prop
  | scalar (s : Scalar) (r r' : Rendering) (same : Option Bool) :
    Alike (.scalar (s.view r) same) (.scalar (s.view r') same)
  | failure {err err' : Error} (h : err.errorClass = err'.errorClass) : Alike (.failure err) (.failure err')
  | refl (a : Answer) : Alike a a

theorem Construction.run_ignoresSettings {c : Construction} (h : c.isIndependent = true) :
    IgnoresSettings c.run := by
  cases c with
  | make className value =>
    exact (classNamed_ignoresSettings className).bind_eq fun c =>
      (evaluateOptional_ignoresSettings value).bind_eq fun v =>
        (lift_ignoresSettings (Scalar.build_ignoresSettings c _)).bind_eq fun s => keepsStep_pure rfl
  | ofValue value type =>
    cases type with
    | none => simp [isIndependent] at h
    | some type =>
      have htype : KeepsStep Agrees (fun x y => x = y ∧ x.isSome = true) (evaluateOptional (some type))
          (evaluateOptional (some type)) :=
        (evaluate_ignoresSettings type).bind_eq fun t => keepsStep_pure ⟨rfl, rfl⟩
      refine (evaluate_ignoresSettings value).bind_eq fun v => htype.bind ?_
      rintro x _ ⟨rfl, hx⟩
      obtain ⟨t, rfl⟩ := Option.isSome_iff_exists.1 hx
      exact lift_ignoresSettings (Scalar.ofValue_ignoresSettings v t)
  | create type value =>
    exact (evaluate_ignoresSettings type).bind_eq fun t =>
      (evaluateOptional_ignoresSettings value).bind_eq fun v =>
        (lift_ignoresSettings (Scalar.create_ignoresSettings t _)).bind_eq fun s => keepsStep_pure rfl
  | parse => simp [isIndependent] at h
  | cast scalar type =>
    exact (evaluate_ignoresSettings scalar).bind_eq fun v =>
      (evaluate_ignoresSettings type).bind_eq fun t =>
        (lift_ofExcept_ignoresSettings _).bind_eq fun held =>
          lift_ignoresSettings (Scalar.cast_ignoresSettings held t)
  | copy scalar =>
    exact (evaluate_ignoresSettings scalar).bind_eq fun v =>
      (lift_ofExcept_ignoresSettings _).bind_eq fun held =>
        (lift_ignoresSettings (Scalar.copy_ignoresSettings held.scalar)).bind_eq fun s => keepsStep_pure rfl
  | pickle scalar =>
    exact (evaluate_ignoresSettings scalar).bind_eq fun v =>
      (lift_ofExcept_ignoresSettings _).bind_eq fun held =>
        (lift_ignoresSettings (Scalar.pickle_ignoresSettings _ held.scalar)).bind_eq fun s => keepsStep_pure rfl
  | look scalar =>
    exact (evaluate_ignoresSettings scalar).bind_eq fun v =>
      (lift_ofExcept_ignoresSettings _).bind_eq fun held => keepsStep_pure rfl

theorem construct_keepsStep {c : Construction} (h : c.isIndependent = true) (storeAs : Option String) :
    KeepsStep Agrees Answer.Alike (construct c storeAs) (construct c storeAs) := by
  refine (Construction.run_ignoresSettings h).bind_eq fun made => ?_
  refine (holdMade_ignoresSettings made).bind_eq fun held => ?_
  have hanswer (same : Option Bool) :
      KeepsStep Agrees Answer.Alike
        (do return Answer.scalar (held.scalar.view (← get).environment.rendering) same : Task Answer)
        (do return Answer.scalar (held.scalar.view (← get).environment.rendering) same) :=
    keepsStep_get.bind fun s s' _ => keepsStep_pure (.scalar held.scalar _ _ same)
  cases storeAs with
  | none => exact (keepsStep_pure (R := Eq) rfl).bind_eq fun _ => hanswer _
  | some name => exact (store_ignoresSettings name held).bind_eq fun _ => hanswer _

theorem ClassChoice.run_ignoresSettings (choice : ClassChoice) : IgnoresSettings choice.run := by
  cases choice with
  | named name => exact classNamed_ignoresSettings name
  | subclass name parent =>
    exact (classNamed_ignoresSettings parent).bind_eq fun c =>
      (addClass_ignoresSettings _).bind_eq fun _ => keepsStep_pure rfl

/-- The registered types, as an answer. -/
theorem types_keepsStep :
    KeepsStep Agrees Answer.Alike (do return Answer.types (← lift Registry.listTypes) : Task Answer)
      (do return Answer.types (← lift Registry.listTypes)) :=
  (lift_ignoresSettings Registry.listTypes_ignoresSettings).bind_eq fun _ => keepsStep_pure (.refl _)

/-- The verdict on a scalar and whatever it is compared with, as an answer. -/
theorem verdict_keepsStep (held : Held) (w : Value) (o : EqualOptions) :
    KeepsStep Agrees Answer.Alike
      (match w with
        | .scalar k => do return Answer.equal (← lift (Action.ofExcept (held.scalar.equalUnder o k.scalar)))
        | _ => return .equal (.boolean false) : Task Answer)
      (match w with
        | .scalar k => do return Answer.equal (← lift (Action.ofExcept (held.scalar.equalUnder o k.scalar)))
        | _ => return .equal (.boolean false)) := by
  cases w with
  | scalar k => exact (lift_ofExcept_ignoresSettings _).bind_eq fun _ => keepsStep_pure (.refl _)
  | _ => exact keepsStep_pure (.refl _)

variable (clock : Log.Clock) (files : Files)

theorem perform_keepsStep {o : Operation} (h : o.isIndependent = true) :
    KeepsStep Agrees Answer.Alike (perform clock files o) (perform clock files o) := by
  cases o with
  | construct c storeAs => exact construct_keepsStep h storeAs
  | equal a b options =>
    refine (evaluate_ignoresSettings a).bind_eq fun v => (evaluate_ignoresSettings b).bind_eq fun w => ?_
    refine (lift_ofExcept_ignoresSettings _).bind_eq fun held => ?_
    cases options with
    | none => exact (keepsStep_pure (R := Eq) rfl).bind_eq fun o => verdict_keepsStep held w o
    | some fields =>
      exact (evaluateEntries_ignoresSettings fields).bind_eq fun _ =>
        (lift_ofExcept_ignoresSettings _).bind_eq fun o => verdict_keepsStep held w o
  | compare a b =>
    exact (evaluate_ignoresSettings a).bind_eq fun v => (evaluate_ignoresSettings b).bind_eq fun w =>
      (lift_ofExcept_ignoresSettings _).bind_eq fun _ => keepsStep_pure (.refl _)
  | compareHashes a b =>
    exact (evaluate_ignoresSettings a).bind_eq fun v => (evaluate_ignoresSettings b).bind_eq fun w =>
      (lift_ofExcept_ignoresSettings _).bind_eq fun _ => keepsStep_pure (.refl _)
  | register type choice =>
    exact (ClassChoice.run_ignoresSettings choice).bind_eq fun c =>
      (evaluate_ignoresSettings type).bind_eq fun t =>
        (lift_ignoresSettings (Registry.register_ignoresSettings t c)).bind_eq fun _ => types_keepsStep
  | unregister type =>
    exact (evaluate_ignoresSettings type).bind_eq fun t =>
      (lift_ignoresSettings (Registry.unregister_ignoresSettings t)).bind_eq fun _ => types_keepsStep
  | _ => simp [Operation.isIndependent] at h

variable {s s' : Session}

theorem step_agrees (hs : s.Agrees s') {o : Operation} (h : o.isIndependent = true) :
    Answer.Alike (s.step clock files o).1 (s'.step clock files o).1 ∧
      (s.step clock files o).2.Agrees (s'.step clock files o).2 := by
  obtain ⟨hanswer, hafter⟩ := perform_keepsStep clock files h s s' hs
  change Corresponds _ (outcome (perform clock files o) s).1 (outcome (perform clock files o) s').1 at hanswer
  change Agrees (outcome (perform clock files o) s).2 (outcome (perform clock files o) s').2 at hafter
  rw [step, step]
  generalize outcome (perform clock files o) s = result at hanswer hafter ⊢
  generalize outcome (perform clock files o) s' = result' at hanswer hafter ⊢
  obtain ⟨answer, after⟩ := result
  obtain ⟨answer', after'⟩ := result'
  cases hanswer with
  | ok halike => exact ⟨halike, hafter⟩
  | error herr => exact ⟨.failure herr, hafter⟩

theorem run_agrees (hs : s.Agrees s') {operations : List Operation}
    (h : ∀ o ∈ operations, o.isIndependent = true) :
    List.Forall₂ Answer.Alike (s.run clock files operations).1 (s'.run clock files operations).1 ∧
      (s.run clock files operations).2.Agrees (s'.run clock files operations).2 := by
  induction operations generalizing s s' with
  | nil => exact ⟨.nil, hs⟩
  | cons o rest ih =>
    obtain ⟨hanswer, hafter⟩ := step_agrees clock files hs (h o List.mem_cons_self)
    obtain ⟨hanswers, hend⟩ := ih hafter fun o' ho' => h o' (List.mem_cons_of_mem _ ho')
    exact ⟨.cons hanswer hanswers, hend⟩

/-- In two sessions that differ in their settings, and in what they have recorded, the
operations that look at no setting lead to the same: the scalars that are shown, with
their class, validity and payload, the verdicts of comparisons, and the class of every
error. Casts do not look at the settings even for their messages. -/
theorem settings_ignored (hs : s.Agrees s') {operations : List Operation}
    (h : ∀ o ∈ operations, o.isIndependent = true) :
    List.Forall₂ Answer.Alike (s.run clock files operations).1 (s'.run clock files operations).1 ∧
      (s.run clock files operations).2.Agrees (s'.run clock files operations).2 ∧
      ∀ r r' c k (p : Kind.Payload k), Scalar.castPayload r c k p = Scalar.castPayload r' c k p := by
  obtain ⟨hanswers, hend⟩ := run_agrees clock files hs h
  exact ⟨hanswers, hend, Scalar.castPayload_eq⟩

/-- Bytes and a null that are cast to string and shown, and a text that is the null
token in one of the sessions. -/
theorem settings_ignored_token :
    let s := Session.initial
    let config : Config := { Config.initial with nullToken := .text "NA", upperHex := .boolean false }
    let s' : Session := { s with environment := { s.environment with config } }
    let castTo (type className : String) (v : Option Value) : Operation :=
      .construct (.cast (.scalar className (v.map .value)) (.value (.text type))) none
    let operations := [castTo "string" "BinaryScalar" (some (.bytes .plain [0x61])),
      castTo "string" "Int8Scalar" none, castTo "int8" "StringScalar" (some (.text "NA"))]
    config.validate s.environment.rendering = .ok () ∧ s.environment.rendering ≠ s'.environment.rendering ∧
      List.Forall₂ Answer.Alike (s.run "" ⟨[]⟩ operations).1 (s'.run "" ⟨[]⟩ operations).1 := by
  intro s config s' castTo operations
  have hagrees : s.Agrees s' := ⟨rfl, rfl, rfl, rfl⟩
  exact ⟨rfl, by decide, (settings_ignored "" ⟨[]⟩ hagrees (by decide)).1⟩

end TypedScalar.Session
