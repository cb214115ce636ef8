import TypedScalar.Proofs.Config.Load
import TypedScalar.Proofs.Config.Settled
import TypedScalar.Proofs.Scalar.Refusing

/-! The answers of the command line. A request goes through two stages, of which the first may load a
configuration and the second builds a scalar; each reports the errors that it expects, with exit code 1.
Other errors escape: where the path leads to no file but is not missing, where the document of a file
goes wrong other than as YAML, where one of its settings takes too many levels to be shown, where there is no
telling that a type has no class, and where a numeral has too many digits for an integer. -/

namespace TypedScalar.CommandLine

open TypedScalar.Action

variable {clock : Log.Clock} {files : Files} {q : Request} {e e₁ : Environment} {path : String} {err : Error}

/-! ### Loading -/

/-- Loads what a request asks for, if anything. -/
def Request.load (files : Files) (q : Request) : Action Unit :=
  match q.config with
  | none | some "" => pure ()
  | some path => loadConfig files path

theorem load_of_none (h : ∀ path, q.config = some path → path = "") : q.load files = pure () := by
  unfold Request.load
  split
  · rfl
  · rfl
  · next hempty hpath => exact absurd (h _ hpath) hempty

theorem load_of_path (h : q.config = some path) (hne : path ≠ "") : q.load files = loadConfig files path := by
  unfold Request.load
  split
  · next hnone => cases h.symm.trans hnone
  · next hempty => exact absurd (Option.some.inj (h.symm.trans hempty)) hne
  · next hpath => rw [Option.some.inj (h.symm.trans hpath)]

theorem Given.not_unshowable (g : Given) : ¬ g.value.Unshowable := by
  cases g with
  | none => exact Value.not_unshowable rfl (fun _ => nofun)
  | some s => exact Value.not_unshowable_of_text? rfl

section

variable {catches : Error → Bool} {atLookup : Prop} {atParse : ScalarClass → Prop}
  {atCast : Scalar → String → Prop}

end

/-- Records what was built, and writes it or its description. -/
def Request.write (q : Request) (s : Scalar) : Action (Nat × String) := do
  let r ← rendering
  Action.record .debug logger ("Built " ++ s.shown r)
  return (0, (if q.describe then CommandLine.describe r s else s.text r) ++ "\n")

/-- Both stages report the errors that they expect. -/
theorem answer_eq (files : Files) (q : Request) :
    answer files q = (do
      match ← attempt isConfigFailure (do q.load files; pure none) some with
      | some err => failure ("Failed to load config: " ++ err.message)
      | none =>
        match ← attempt isScalarFault (do return Except.ok (← build q)) Except.error with
        | .error err => failure err.message
        | .ok s => q.write s) := by
  rw [answer]
  -- The block goes on in each case of the path by itself.
  split
  · next hnone =>
    rw [load_of_none (by simp [hnone])]
    rfl
  · next hempty =>
    rw [load_of_none (by simp [hempty])]
    rfl
  · next hempty hpath =>
    rw [load_of_path hpath hempty]
    rfl

/-- The record of a failure. -/
def failureRecord (message : String) : Record := ⟨.error, logger, message⟩

/-- The record of a scalar that was built. -/
def builtRecord (s : Scalar) (r : Rendering) : Record := ⟨.debug, logger, "Built " ++ s.shown r⟩

/-- All that answering a request comes to. -/
inductive Answering (files : Files) (q : Request) (e : Environment) :
    Except Error (Nat × String) × Environment → Prop
  | loadEscapes {err : Error} {e₁ : Environment} (hload : (q.load files).outcome e = (.error err, e₁))
    (herr : isConfigFailure err = false) : Answering files q e (.error err, e₁)
  | loadFails {err : Error} {e₁ : Environment} (hload : (q.load files).outcome e = (.error err, e₁))
    (herr : isConfigFailure err = true) :
    Answering files q e
      (.ok (1, ""), { e₁ with log := e₁.log ++ [failureRecord ("Failed to load config: " ++ err.message)] })
  | buildEscapes {e₁ : Environment} (hload : (q.load files).outcome e = (.ok (), e₁)) {err : Error}
    {e₂ : Environment} (hbuild : (build q).outcome e₁ = (.error err, e₂)) (herr : isScalarFault err = false) :
    Answering files q e (.error err, e₂)
  | buildFails {e₁ : Environment} (hload : (q.load files).outcome e = (.ok (), e₁)) {err : Error}
    {e₂ : Environment} (hbuild : (build q).outcome e₁ = (.error err, e₂)) (herr : isScalarFault err = true) :
    Answering files q e (.ok (1, ""), { e₂ with log := e₂.log ++ [failureRecord err.message] })
  | built {e₁ : Environment} (hload : (q.load files).outcome e = (.ok (), e₁)) {s : Scalar}
    {e₂ : Environment} (hbuild : (build q).outcome e₁ = (.ok s, e₂)) :
    Answering files q e
      (.ok (0, (if q.describe then describe e₂.rendering s else s.text e₂.rendering) ++ "\n"),
        { e₂ with log := e₂.log ++ [builtRecord s e₂.rendering] })

theorem answer_outcome (files : Files) (q : Request) (e : Environment) :
    Answering files q e ((answer files q).outcome e) := by
  rw [answer_eq]
  rcases hload : (q.load files).outcome e with ⟨err | ⟨⟩, e₁⟩
  · cases herr : isConfigFailure err with
    | false =>
      rw [outcome_bind_error (attempt_escaped (outcome_bind_error hload _) herr)]
      exact .loadEscapes hload herr
    | true =>
      rw [outcome_bind_ok (attempt_caught (outcome_bind_error hload _) herr)]
      exact .loadFails hload herr
  · rw [outcome_bind_ok (attempt_ok (outcome_bind_ok hload _))]
    dsimp only
    rcases hbuild : (build q).outcome e₁ with ⟨err | s, e₂⟩
    · cases herr : isScalarFault err with
      | false =>
        rw [outcome_bind_error (attempt_escaped (outcome_bind_error hbuild _) herr)]
        exact .buildEscapes hload hbuild herr
      | true =>
        rw [outcome_bind_ok (attempt_caught (outcome_bind_error hbuild _) herr)]
        exact .buildFails hload hbuild herr
    · rw [outcome_bind_ok (attempt_ok (outcome_bind_ok hbuild _))]
      exact .built hload hbuild

variable {arguments : List String}

theorem run_unleveled (hq : Request.ofArguments arguments = .ok (some q)) (hlevel : q.level = none) :
    (run clock files arguments).outcome e = (.error (.missingMember "list" "upper"), e) := by
  rw [run, hq]
  simp only [hlevel]
  rfl

theorem withOwnLog_outcome {α : Type} {a : Action α} {result : Except Error α}
    (h : a.outcome { e with log := [] } = (result, e₁)) :
    (withOwnLog a).outcome e = (result.map fun x => (x, e₁.log), { e₁ with log := e.log }) := by
  show ((a.outcome { e with log := [] }).1.map fun x => (x, (a.outcome { e with log := [] }).2.log),
    { (a.outcome { e with log := [] }).2 with log := e.log }) = _
  rw [h]

/-- A run answers with a log of its own, and writes it. -/
theorem run_outcome (hq : Request.ofArguments arguments = .ok (some q)) {level : Level}
    (hlevel : q.level = some level) {result : Except Error (Nat × String)}
    (h : (answer files q).outcome { e with log := [] } = (result, e₁)) :
    (run clock files arguments).outcome e =
      (result.map fun a => ⟨a.1, a.2, logText clock level e₁.log⟩, { e₁ with log := e.log }) := by
  have hown := withOwnLog_outcome h
  rw [run, hq]
  simp only [hlevel]
  cases result with
  | error err => rw [outcome_bind_error hown]; rfl
  | ok a => rw [outcome_bind_ok hown]; rfl

end TypedScalar.CommandLine
