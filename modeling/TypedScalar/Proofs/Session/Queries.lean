import TypedScalar.Proofs.CommandLine.Library
import TypedScalar.Proofs.Session.Copying
import TypedScalar.Proofs.Session.Frame
import TypedScalar.Proofs.Session.Lockstep
import TypedScalar.Proofs.Session.Representation

/-! Queries. An operation that asks something changes neither the registry nor the settings, and leaves
nothing behind but a scalar that it was told to store, and numbers that are taken. So the other operations
of a run cannot tell whether queries stand between them, as long as they do not ask for what was stored. -/

namespace TypedScalar

/-! ### What is handed out -/

namespace Value

theorem eq_of_asScalar {v : Value} {member : String} {h : Held} (hv : v.asScalar member = .ok h) :
    v = .scalar h := by
  cases v with
  | scalar k => exact congrArg scalar (Except.ok.inj hv)
  | _ => cases hv

theorem eq_of_asCastable {v t : Value} {h : Held} (hv : v.asCastable t = .ok h) : v = .scalar h := by
  unfold asCastable at hv
  split at hv
  · cases hv
  · cases hv
  · exact eq_of_asScalar hv

end Value

namespace Scalar

/-- Whether every scalar that an action hands out, other than a new one, has a property. -/
def Hands (P : Held → Prop) (a : Action Made) : Prop := ∀ e k e', a.outcome e = (.ok (.same k), e') → P k

variable {P : Held → Prop}

theorem hands_bind {α : Type} {a : Action α} {f : α → Action Made} (h : ∀ x, Hands P (f x)) :
    Hands P (a >>= f) := by
  intro e k e' ho
  obtain ⟨x, e₁, -, ho⟩ := Action.ok_of_outcome_bind ho
  exact h x e₁ k e' ho

theorem hands_same {h : Held} (hP : P h) : Hands P (pure (.same h)) := by
  rintro e k e' ⟨⟩
  exact hP

theorem hands_fresh (a : Action Scalar) : Hands P (do return .fresh (← a)) := by
  intro e k e' ho
  obtain ⟨x, e₁, -, hpure⟩ := Action.ok_of_outcome_bind ho
  cases hpure

/-- A cast hands out the scalar that is cast, or a new one. -/
theorem cast_hands (h : Held) (t : Value) : Hands (· = h) (Scalar.cast h t) := by
  refine hands_bind fun d => hands_bind fun e => hands_bind fun c => ?_
  dsimp only
  split
  · exact hands_fresh _
  · split_ifs
    · exact hands_fresh _
    · exact hands_same rfl
    · exact hands_bind fun _ => hands_bind fun _ => hands_fresh _

/-- A value gives the scalar that it is, or a new one. -/
theorem ofValue_hands (v : Value) (t : Option Value) : Hands (fun k => v = .scalar k) (ofValue v t) := by
  cases v with
  | scalar h =>
    cases t with
    | none => exact hands_same rfl
    | some t =>
      intro e k e' ho
      rw [cast_hands h t e k e' ho]
  | _ =>
    cases t with
    | none => exact hands_bind fun _ => hands_bind fun _ => hands_fresh _
    | some t => exact hands_fresh _

end Scalar

namespace Session

variable {s s' base : Session} (clock : Log.Clock) (files : Files) {o : Operation}

/-! ### The registry and the settings -/

/-- Whether a list of arguments names a configuration file. -/
def namesConfig (arguments : List String) : Bool :=
  match CommandLine.Request.ofArguments arguments with
  | .ok (some q) => q.config.any (· != "")
  | _ => false

/-- Whether an operation is none of those that change the registry or the settings: registering,
unregistering, setting or resetting the configuration, loading one to be active, and a command line that
names a configuration file. -/
def Operation.isQuery : Operation → Bool
  | .register .. | .unregister _ | .setConfig .. | .resetConfig => false
  | .loadConfig _ activate => !activate
  | .commandLine arguments => !namesConfig arguments
  | _ => true

/-- A command line that names no file leaves everything as it is. -/
theorem commandLine_after {arguments : List String} (h : namesConfig arguments = false) (e : Environment) :
    ((CommandLine.run clock files arguments).outcome e).2 = e := by
  cases hrequest : CommandLine.Request.ofArguments arguments with
  | error fault => rw [CommandLine.run, hrequest]; rfl
  | ok request =>
    cases request with
    | none => rw [CommandLine.run, hrequest]; rfl
    | some q =>
      rw [namesConfig, hrequest] at h
      have hloaded : q.loaded? files e = none := by
        have hempty (path : String) (hpath : q.config = some path) : path = "" := by simpa [hpath] using h
        unfold CommandLine.Request.loaded? CommandLine.Request.loads?
        cases hconfig : q.config with
        | none => simp
        | some path => simp [hempty path hconfig]
      rw [CommandLine.run_after clock files e hrequest, hloaded]
      rfl

theorem commandLine_keeps {arguments : List String} (h : namesConfig arguments = false)
    {P : Config × Registry → Prop} : (CommandLine.run clock files arguments).Keeps P := by
  intro e he
  refine ⟨?_, fun _ _ => trivial⟩
  show P ((CommandLine.run clock files arguments).outcome e).2.unlogged
  rwa [commandLine_after clock files h]

theorem perform_keeps_query {P : Config × Registry → Prop} (h : o.isQuery = true) :
    Keeps P (perform clock files o) := by
  cases o with
  | register | unregister | setConfig | resetConfig => cases h
  | loadConfig path activate =>
    cases activate with
    | true => cases h
    | false => exact (keeps_lift (Config.load_valid files path).preserves).andThen fun _ => keeps_pure _
  | commandLine arguments =>
    have hnames : namesConfig arguments = false := by simpa [Operation.isQuery] using h
    exact (keeps_lift (commandLine_keeps clock files hnames)).andThen fun _ => keeps_pure _
  | _ => exact perform_keeps rfl

/-- A query leaves the registry and the settings as they are. -/
theorem step_unlogged (h : o.isQuery = true) :
    (s.step clock files o).2.environment.unlogged = s.environment.unlogged := by
  have hkeeps : Keeps (fun x => x = s.environment.unlogged) (perform clock files o) :=
    perform_keeps_query clock files h
  have hafter : (outcome (perform clock files o) s).2.environment.unlogged = _ := (hkeeps s rfl).1
  rw [step]
  split
  · next hresult => rwa [hresult] at hafter
  · next hresult => rwa [hresult] at hafter

/-! ### Classes, stored scalars and numbers -/

/-- Whether a session has gone on from another one: the visible names stand for the same scalars, and if
classes are fixed they are the same. -/
structure Extends (visible : String → Prop) (fixed : Prop) (base s : Session) : Prop where
  classes (h : fixed) : s.classes = base.classes
  bindings {name : String} (hname : visible name) : s.bindings.lookup name = base.bindings.lookup name
  next : base.next ≤ s.next

theorem Extends.refl (visible : String → Prop) (fixed : Prop) (s : Session) : Extends visible fixed s s :=
  ⟨fun _ => rfl, fun _ => rfl, Nat.le_refl _⟩

/-- Whether two sessions that differ in the log alone have both gone on from a third one. -/
structure Beside (visible : String → Prop) (fixed : Prop) (base s s' : Session) : Prop where
  environment : Environment.Alike (fun _ _ => True) s.environment s'.environment
  classes : s.classes = s'.classes
  bindings : s.bindings = s'.bindings
  next : s.next = s'.next
  gone : Extends visible fixed base s

variable {visible : String → Prop} {fixed : Prop} {α β : Type} {R : α → α → Prop}

theorem lasting_beside : Lasting id (fun _ => True) (Beside visible fixed base) where
  environment h := h.environment
  classes h := h.classes
  bindings {s s'} h name _ := by
    rw [h.bindings]
    cases s'.bindings.lookup name <;> rfl
  next h := h.next.symm
  act h _ _ he := ⟨he, h.classes, h.bindings, h.next, h.gone.classes, h.gone.bindings, h.gone.next⟩
  count h :=
    ⟨h.environment, h.classes, h.bindings, congrArg (· + 1) h.next, h.gone.classes, h.gone.bindings,
      Nat.le_succ_of_le h.gone.next⟩

theorem storesUnder_beside {name : String} (hname : ¬ visible name) :
    StoresUnder id (Beside visible fixed base) name := by
  intro s s' held h
  refine ⟨h.environment, h.classes, congrArg ((name, held) :: ·) h.bindings, h.next, h.gone.classes, ?_,
    h.gone.next⟩
  intro other hother
  have hne : (other == name) = false := by
    rw [beq_eq_false_iff_ne]
    rintro rfl
    exact hname hother
  show List.lookup other ((name, held) :: s.bindings) = _
  rw [List.lookup_cons, hne]
  exact h.gone.bindings hother

theorem addsClasses_beside (h : ¬ fixed) : AddsClasses (Beside visible fixed base) := fun _ _ c hs =>
  ⟨hs.environment, congrArg (c :: ·) hs.classes, hs.bindings, hs.next, fun hfixed => absurd hfixed h,
    hs.gone.bindings, hs.gone.next⟩

theorem Beside.refl (s : Session) : Beside visible fixed s s s :=
  ⟨⟨rfl, rfl, trivial⟩, rfl, rfl, rfl, .refl visible fixed s⟩

/-- A task in lockstep with itself leads to a session that has gone on. -/
theorem extends_of_inStep {t : Task α} (h : InStep (Beside (fun _ => True) True s) R t t) {x : Except Error α}
    (ho : outcome t s = (x, s')) : Extends (fun _ => True) True s s' := by
  have hgone : Extends (fun _ => True) True s (outcome t s).2 := (h s s (.refl s)).2.gone
  rwa [ho] at hgone

/-- An operation leaves the other names alone than the one it stores a scalar under, and classes unless it
registers one. -/
theorem step_extends (h : o.Within fun _ => True) :
    Extends (fun name => o.stored? ≠ some name) (o.registers = false) s (s.step clock files o).2 := by
  let S := Beside (fun name => o.stored? ≠ some name) (o.registers = false) s
  have hstore : ∀ name ∈ o.stored?, StoresUnder id S name := fun name hname =>
    storesUnder_beside fun hne => hne hname
  have hadd (hregisters : o.registers = true) : AddsClasses S := addsClasses_beside (by simp [hregisters])
  have hanswers := perform_inStep Function.injective_id lasting_beside clock files h hstore hadd
  exact (step_inStep clock files hanswers (.refl s)).2.gone

/-- Whether all stored scalars have numbers that are taken. -/
def Numbered (s : Session) : Prop := ∀ name h, s.bindings.lookup name = some h → h.identity < s.next

theorem Extends.numbered (h : Extends (fun _ => True) fixed base s) (hbase : base.Numbered) : s.Numbered := by
  intro name held hlookup
  rw [h.bindings trivial] at hlookup
  exact Nat.lt_of_lt_of_le (hbase name held hlookup) h.next

theorem ok_of_outcome_bind {t : Task α} {f : α → Task β} {y : β} (h : outcome (t >>= f) s = (.ok y, s')) :
    ∃ x s₁, outcome t s = (.ok x, s₁) ∧ outcome (f x) s₁ = (.ok y, s') := by
  rcases ht : outcome t s with ⟨err | x, s₁⟩
  · rw [outcome, run_bind_error ht] at h
    cases h
  · exact ⟨x, s₁, rfl, by rwa [outcome_bind_ok ht] at h⟩

theorem lookup_of_stored {name : String} {k : Held} (h : outcome (stored name) s = (.ok k, s')) :
    s.bindings.lookup name = some k ∧ s' = s := by
  rw [stored, outcome_bind_ok outcome_get] at h
  cases hlookup : s.bindings.lookup name with
  | none =>
    rw [hlookup] at h
    cases h
  | some held =>
    rw [hlookup] at h
    cases h
    exact ⟨rfl, rfl⟩

/-- The only scalars that a term stands for are a new one and a stored one. -/
theorem evaluate_numbered (hs : s.Numbered) {t : Term} (h : t.Within fun _ => True) {k : Held}
    (ho : outcome (evaluate t) s = (.ok (.scalar k), s')) : k.identity < s'.next := by
  cases t with
  | value v =>
    obtain rfl : v = .scalar k := Except.ok.inj (Prod.mk.inj ho).1
    cases h
  | machineInteger kind n =>
    have hresult : machineInteger kind n = .ok (.scalar k) := (Prod.mk.inj ho).1
    unfold machineInteger at hresult
    split_ifs at hresult
    · cases hresult
    · exact absurd hresult Config.refusal_ne_ok
  | duration seconds =>
    have hresult : duration seconds = .ok (.scalar k) := (Prod.mk.inj ho).1
    unfold duration at hresult
    dsimp only at hresult
    split_ifs at hresult
    cases hresult
  | list items | tuple items | dictionary items =>
    obtain ⟨vs, s₁, -, hpure⟩ := ok_of_outcome_bind ho
    cases hpure
  | scalar className value =>
    obtain ⟨c, s₁, -, ho⟩ := ok_of_outcome_bind ho
    obtain ⟨v, s₂, -, ho⟩ := ok_of_outcome_bind ho
    obtain ⟨x, s₃, -, ho⟩ := ok_of_outcome_bind ho
    obtain ⟨held, s₄, hhold, hpure⟩ := ok_of_outcome_bind ho
    cases hpure
    cases hhold
    exact Nat.lt_succ_self _
  | reference name =>
    obtain ⟨held, s₁, hstored, hpure⟩ := ok_of_outcome_bind ho
    cases hpure
    obtain ⟨hlookup, rfl⟩ := lookup_of_stored hstored
    exact hs name k hlookup

theorem outcome_of_lift {a : Action α} {x : α} (h : outcome (lift a) s = (.ok x, s')) :
    a.outcome s.environment = (.ok x, s'.environment) ∧ s'.next = s.next := by
  obtain ⟨hresult, hafter⟩ := Prod.mk.inj h
  rw [← hafter]
  exact ⟨Prod.ext hresult rfl, rfl⟩

/-- Whether a task never hands out a scalar that somebody holds. -/
abbrev NeverHands (k : Held) (t : Task Made) : Prop := Maintains (fun _ => True) (fun m => m ≠ .same k) t

theorem neverHands_bind {k : Held} {t : Task α} {f : α → Task Made} (h : ∀ x, NeverHands k (f x)) :
    NeverHands k (t >>= f) := (preserves_of_forall (fun _ => trivial) t).andThen h

theorem neverHands_fresh {k : Held} (t : Task Scalar) : NeverHands k (do return .fresh (← t)) :=
  neverHands_bind fun _ => maintains_pure nofun

/-- A construction hands out no other scalar than the one that it was given. -/
theorem Construction.run_numbered (hs : s.Numbered) {c : Construction} (h : c.Within fun _ => True) {k : Held}
    (ho : outcome c.run s = (.ok (.same k), s')) : k.identity < s'.next := by
  have hnever (h : NeverHands k c.run) : k.identity < s'.next :=
    absurd rfl ((h s trivial).2 (.same k) (congrArg Prod.fst ho))
  cases c with
  | make | create | copy | pickle => exact hnever (neverHands_bind fun _ => neverHands_bind fun _ => neverHands_fresh _)
  | parse =>
    exact hnever (neverHands_bind fun _ => neverHands_bind fun _ => neverHands_bind fun _ => neverHands_fresh _)
  | look scalar =>
    obtain ⟨v, s₁, hv, ho⟩ := ok_of_outcome_bind ho
    obtain ⟨held, s₂, hheld, hpure⟩ := ok_of_outcome_bind ho
    cases hpure
    obtain ⟨hscalar, hnext⟩ := outcome_of_lift hheld
    obtain rfl := Value.eq_of_asScalar (Prod.mk.inj hscalar).1
    rw [hnext]
    exact evaluate_numbered hs h hv
  | cast scalar type =>
    obtain ⟨v, s₁, hv, ho⟩ := ok_of_outcome_bind ho
    obtain ⟨t, s₂, ht, ho⟩ := ok_of_outcome_bind ho
    obtain ⟨held, s₃, hheld, ho⟩ := ok_of_outcome_bind ho
    obtain ⟨hscalar, hnext⟩ := outcome_of_lift hheld
    obtain ⟨hcast, hnext'⟩ := outcome_of_lift ho
    obtain rfl := Value.eq_of_asCastable (Prod.mk.inj hscalar).1
    obtain rfl := Scalar.cast_hands held t _ k _ hcast
    have hgone := extends_of_inStep (evaluate_inStep lasting_beside type h.2) ht
    rw [hnext', hnext]
    exact Nat.lt_of_lt_of_le (evaluate_numbered hs h.1 hv) hgone.next
  | ofValue value type =>
    obtain ⟨v, s₁, hv, ho⟩ := ok_of_outcome_bind ho
    obtain ⟨t, s₂, ht, ho⟩ := ok_of_outcome_bind ho
    obtain ⟨hmade, hnext⟩ := outcome_of_lift ho
    obtain rfl := Scalar.ofValue_hands v t _ k _ hmade
    have hgone := extends_of_inStep (evaluateOptional_inStep lasting_beside type h.2) ht
    rw [hnext]
    exact Nat.lt_of_lt_of_le (evaluate_numbered hs h.1 hv) hgone.next

theorem holdMade_numbered (hs : s.Numbered) {made : Made} (h : ∀ k, made = .same k → k.identity < s.next) :
    ∃ held s', outcome (holdMade made) s = (.ok held, s') ∧ s'.Numbered ∧ held.identity < s'.next := by
  cases made with
  | same k => exact ⟨k, s, rfl, hs, h k rfl⟩
  | fresh x =>
    refine ⟨⟨s.next, x⟩, { s with next := s.next + 1 }, rfl, fun name held hlookup => ?_, Nat.lt_succ_self _⟩
    exact Nat.lt_succ_of_lt (hs name held hlookup)

/-- The scalar that is made has a number that is taken, also where it is stored. -/
theorem construct_numbered (hs : s.Numbered) {c : Construction} (h : c.Within fun _ => True)
    (storeAs : Option String) : (outcome (construct c storeAs) s).2.Numbered := by
  rcases hrun : outcome c.run s with ⟨result, s₁⟩
  have hgone := extends_of_inStep (Construction.run_inStep lasting_beside h) hrun
  cases result with
  | error err =>
    have hfailed : outcome (construct c storeAs) s = (.error err, s₁) := run_bind_error hrun _
    rw [hfailed]
    exact hgone.numbered hs
  | ok made =>
    have hmade (k : Held) (hk : made = .same k) : k.identity < s₁.next :=
      Construction.run_numbered hs h (hk ▸ hrun)
    obtain ⟨held, s₂, hheld, hs₂, hlt⟩ := holdMade_numbered (hgone.numbered hs) hmade
    rw [construct, outcome_bind_ok hrun, outcome_bind_ok hheld]
    cases storeAs with
    | none => exact hs₂
    | some name =>
      intro other k hlookup
      change List.lookup other ((name, held) :: s₂.bindings) = some k at hlookup
      show k.identity < s₂.next
      rw [List.lookup_cons] at hlookup
      split at hlookup
      · obtain rfl := Option.some.inj hlookup
        exact hlt
      · exact hs₂ other k hlookup

theorem step_numbered (hs : s.Numbered) (h : o.Within fun _ => True) :
    (s.step clock files o).2.Numbered := by
  have hextends := step_extends (s := s) clock files h
  cases o with
  | construct c storeAs =>
    have hconstruct := construct_numbered hs h storeAs
    rw [step, perform]
    split
    · next hresult => rwa [hresult] at hconstruct
    · next hresult => rwa [hresult] at hconstruct
  | _ =>
    intro name k hlookup
    rw [hextends.bindings (by simp [Operation.stored?])] at hlookup
    exact Nat.lt_of_lt_of_le (hs name k hlookup) hextends.next

/-! ### Runs with and without queries -/

/-- What is not marked in a list. -/
def unmarked {α : Type} (xs : List (Bool × α)) : List α :=
  xs.filterMap fun x => if x.1 then none else some x.2

theorem mem_unmarked {α : Type} {x : α} {xs : List (Bool × α)} : x ∈ unmarked xs ↔ (false, x) ∈ xs := by
  simp [unmarked]

/-- Moves the numbers from a bound on. -/
def shift (bound distance i : ℕ) : ℕ := if i < bound then i else i + distance

theorem shift_injective (bound distance : ℕ) : Function.Injective (shift bound distance) := by
  intro i j h
  unfold shift at h
  split_ifs at h <;> omega

/-- After a query, a session matches itself as it was before, but for the name that a scalar was stored
under. -/
theorem matches_query (hs : s.Numbered) (h : o.Within fun _ => True) (hquery : o.isQuery = true) :
    s.Matches (shift s.next ((s.step clock files o).2.next - s.next)) (fun name => o.stored? ≠ some name)
      (s.step clock files o).2 := by
  have hunlogged := step_unlogged (s := s) clock files hquery
  have hextends := step_extends (s := s) clock files h
  generalize (s.step clock files o).2 = s' at hunlogged hextends ⊢
  obtain ⟨hconfig, hregistry⟩ := Prod.mk.inj hunlogged
  have hclasses : s'.classes = s.classes := hextends.classes (by cases o <;> first | rfl | cases hquery)
  refine ⟨⟨congrArg Config.anonymous hconfig.symm, hregistry.symm, trivial⟩, hclasses.symm, ?_, fun i => ?_⟩
  · intro name hname
    rw [hextends.bindings hname]
    cases hlookup : s.bindings.lookup name with
    | none => rfl
    | some k =>
      have hlt := hs name k hlookup
      simp [Held.renumber, shift, hlt]
  · have hle := hextends.next
    unfold shift
    rw [if_neg (by omega)]
    omega

theorem unmarked_answers (hs : s.Numbered) {marked : List (Bool × Operation)}
    (hplain : ∀ m ∈ marked, m.2.Within fun _ => True)
    (hquery : ∀ m ∈ marked, m.1 = true → m.2.isQuery = true)
    (hunused : marked.Pairwise fun m m' =>
      m.1 = true → m'.1 = false → m'.2.Within fun name => m.2.stored? ≠ some name) :
    (unmarked ((marked.map Prod.fst).zip (s.run clock files (marked.map Prod.snd)).1)).map Answer.anonymous =
      (s.run clock files (unmarked marked)).1.map Answer.anonymous := by
  induction marked generalizing s with
  | nil => rfl
  | cons m rest ih =>
    obtain ⟨mark, o⟩ := m
    rw [List.forall_mem_cons] at hplain hquery
    rw [List.pairwise_cons] at hunused
    have hs' : (s.step clock files o).2.Numbered := step_numbered clock files hs hplain.1
    have hrest := ih hs' hplain.2 hquery.2 hunused.2
    cases mark with
    | false => exact congrArg ((s.step clock files o).1.anonymous :: ·) hrest
    | true =>
      -- The rest answers as it does without the query: after it all later numbers are shifted, no more.
      have hwithin : ∀ o' ∈ unmarked rest, o'.Within fun name => o.stored? ≠ some name := by
        intro o' ho'
        exact hunused.1 _ (mem_unmarked.1 ho') rfl rfl
      have hmatches := matches_query clock files hs hplain.1 (hquery.1 rfl)
      exact hrest.trans (run_matches clock files (shift_injective _ _) hmatches hwithin).symm

theorem numbered_initial : initial.Numbered := by
  intro name k hlookup
  have hempty : initial.bindings = [] := rfl
  rw [hempty] at hlookup
  cases hlookup

/-- Whatever queries stand between the operations of a run, and whether they fail or not, the other operations
give the answers that they give without them, up to the numbers of scalars, as long as none of them refers to
a name that a query before it stored a scalar under. No query changes the registry or the settings. -/
theorem queries_unnoticed {marked : List (Bool × Operation)}
    (hplain : ∀ m ∈ marked, m.2.Within fun _ => True)
    (hquery : ∀ m ∈ marked, m.1 = true → m.2.isQuery = true)
    (hunused : marked.Pairwise fun m m' =>
      m.1 = true → m'.1 = false → m'.2.Within fun name => m.2.stored? ≠ some name) :
    (unmarked ((marked.map Prod.fst).zip (initial.run clock files (marked.map Prod.snd)).1)).map
        Answer.anonymous = (initial.run clock files (unmarked marked)).1.map Answer.anonymous ∧
      ∀ (s : Session) (o : Operation), o.isQuery = true →
        (s.step clock files o).2.environment.registry = s.environment.registry ∧
          (s.step clock files o).2.environment.config = s.environment.config := by
  refine ⟨unmarked_answers clock files numbered_initial hplain hquery hunused, fun s o ho => ?_⟩
  obtain ⟨hconfig, hregistry⟩ := Prod.mk.inj (step_unlogged (s := s) clock files ho)
  exact ⟨hregistry, hconfig⟩

/-- A cast that is stored, a number out of range and a file that is missing, between the making of a scalar
and the grouping of it with an equal one. -/
theorem queries_unnoticed_between :
    let five : Term := .scalar "Int8Scalar" (some (.value (.integer 5)))
    let marked : List (Bool × Operation) :=
      [(false, .construct (.make "Int8Scalar" (some (.value (.integer 5)))) (some "x")),
        (true, .construct (.cast (.reference "x") (.value (.text "int16"))) (some "y")),
        (true, .construct (.make "Int8Scalar" (some (.value (.integer 500)))) none),
        (true, .loadConfig "missing.yaml" false),
        (true, .compare (.reference "y") five),
        (false, .group [.reference "x", five])]
    (∀ m ∈ marked, m.1 = true → m.2.isQuery = true) ∧
      (unmarked ((marked.map Prod.fst).zip (initial.run "" ⟨[]⟩ (marked.map Prod.snd)).1)).map
          Answer.anonymous = (initial.run "" ⟨[]⟩ (unmarked marked)).1.map Answer.anonymous := by
  intro five marked
  have hplain : ∀ m ∈ marked, m.2.Within fun _ => True := by
    simp [marked, five, Operation.Within, Construction.Within, Term.Within, Term.OptionalWithin,
      Term.AllWithin, Value.isPlain]
  have hquery : ∀ m ∈ marked, m.1 = true → m.2.isQuery = true := by
    simp [marked, Operation.isQuery]
  have hunused : marked.Pairwise fun m m' =>
      m.1 = true → m'.1 = false → m'.2.Within fun name => m.2.stored? ≠ some name := by
    simp [marked, five, Operation.Within, Operation.stored?, Term.Within, Term.OptionalWithin, Term.AllWithin,
      Value.isPlain]
  exact ⟨hquery, (queries_unnoticed "" ⟨[]⟩ hplain hquery hunused).1⟩

end Session

end TypedScalar
