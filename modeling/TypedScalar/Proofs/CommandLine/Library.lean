import TypedScalar.Proofs.CommandLine.Answer
import TypedScalar.Proofs.Lockstep
import TypedScalar.Proofs.Scalar.Reading

/-! The command line and the library. A run that ends with exit code 0 has written what the library gives
under the configuration that is active then, and every other run has written nothing. What a run leaves
behind is the configuration of a file that could be loaded, whatever happens afterwards. -/

namespace TypedScalar

open TypedScalar.Action

variable {files : Files} {path : String} {e e₁ e₂ : Environment}

/-- An action that is in lockstep with itself gives the same wherever the settings and the registry are the
same. -/
theorem Action.Tallies.result_eq {α : Type} {a : Action α} (h : Tallies (fun _ _ => True) Eq a a)
    (he : e₁.unlogged = e₂.unlogged) : (a.outcome e₁).1 = (a.outcome e₂).1 := by
  obtain ⟨hconfig, hregistry⟩ := Prod.mk.inj he
  obtain ⟨hresult, -⟩ := h e₁ e₂ ⟨congrArg Config.anonymous hconfig, hregistry, trivial⟩
  exact hresult.eq

/-- What an action keeps of the settings and the registry, it keeps as a whole. -/
theorem Action.Keeps.unlogged_eq {α : Type} {a : Action α} (h : Keeps (fun x => x = e.unlogged) a) :
    (a.outcome e).2.unlogged = e.unlogged := (h e rfl).1

theorem Action.outcome_discard {α : Type} (a : Action α) (e : Environment) :
    ((discard a : Action PUnit).outcome e).2 = (a.outcome e).2 := by
  show ((a >>= fun _ => pure ()).outcome e).2 = _
  rcases houtcome : a.outcome e with ⟨err | x, e'⟩
  · rw [outcome_bind_error houtcome]
  · rw [outcome_bind_ok houtcome]
    rfl

/-! ### Loading -/

namespace Config

/-- Only valid configurations are loaded. -/
theorem load_valid {P : Config × Registry → Prop} (files : Files) (path : String) :
    Maintains (fun e => P e.unlogged) Valid (load files path) := by
  rw [load_eq]
  refine (keeps_ofExcept _).andThen fun d => (keeps_ofExcept _).andThen fun keys => ?_
  refine keeps_rendering.andThen fun r => (warnUnknown_keeps r keys).andThen fun _ => ?_
  refine (maintains_ofExcept _).bind fun _ hvalidate => (keeps_record _ _ _).andThen fun _ => ?_
  exact maintains_pure (validate_eq_ok_iff.1 hvalidate)

theorem load_unlogged (files : Files) (path : String) (e : Environment) :
    ((load files path).outcome e).2.unlogged = e.unlogged :=
  Keeps.unlogged_eq (load_valid (P := fun x => x = e.unlogged) files path).preserves

/-- A valid configuration becomes active, also where it cannot be recorded. -/
theorem activate_unlogged {c : Config} (hvalid : c.Valid) (e : Environment) :
    ((activate (some c) []).outcome e).2.unlogged = (c, e.registry) := by
  have hactivating : Activating e (.ok c) ((activate (some c) []).outcome e) := activate_outcome (some c) [] e
  generalize (activate (some c) []).outcome e = result at hactivating ⊢
  cases hactivating with
  | refused h => exact absurd hvalid (h c rfl)
  | unshown hnew => rw [Except.ok.inj hnew]; rfl
  | active hnew => rw [Except.ok.inj hnew]; rfl

end Config

namespace CommandLine

variable {q : Request}

/-- The configuration that a path leads to becomes active, if there is one. -/
theorem loadConfig_unlogged (files : Files) (path : String) (e : Environment) :
    ((loadConfig files path).outcome e).2.unlogged =
      (((Config.load files path).outcome e).1.toOption.getD e.config, e.registry) := by
  have hunlogged := Config.load_unlogged files path e
  obtain ⟨-, hvalid⟩ := Config.load_valid (P := fun _ => True) files path e trivial
  rcases hload : (Config.load files path).outcome e with ⟨err | c, e₁⟩
  · rw [hload] at hunlogged
    rw [loadConfig, outcome_bind_error hload]
    exact hunlogged
  · rw [hload] at hunlogged
    have hactive := Config.activate_unlogged (hvalid c (congrArg Prod.fst hload)) e₁
    rw [loadConfig, outcome_bind_ok hload, outcome_discard, hactive]
    exact congrArg (Prod.mk c) (congrArg Prod.snd hunlogged)

/-- The configuration of the file that a request names, if it names one that a configuration can be loaded
from: one that `Config.load` gives. A letter case in it that cannot be shown makes it fail to be recorded
afterwards, when it is active already: the request then reports `Failed to load config`, unless the error escapes,
but it has loaded. -/
def Request.loads? (files : Files) (q : Request) (e : Environment) : Option Config := do
  let path ← q.config
  if path = "" then none else ((Config.load files path).outcome e).1.toOption

theorem load_unlogged (files : Files) (q : Request) (e : Environment) :
    ((q.load files).outcome e).2.unlogged = ((q.loads? files e).getD e.config, e.registry) := by
  unfold Request.load Request.loads?
  split
  · next hnone => simp [hnone, Environment.unlogged]
  · next hempty => simp [hempty, Environment.unlogged]
  · next path hempty hpath =>
    have hne : path ≠ "" := hempty
    simp [hpath, hne, loadConfig_unlogged]

/-- What is loaded does not depend on the log. -/
theorem load_result_congr (files : Files) (path : String) (h : e₁.unlogged = e₂.unlogged) :
    ((Config.load files path).outcome e₁).1 = ((Config.load files path).outcome e₂).1 :=
  (Config.load_tallies files path).result_eq h

theorem loads?_congr (files : Files) (q : Request) (h : e₁.unlogged = e₂.unlogged) :
    q.loads? files e₁ = q.loads? files e₂ := by
  unfold Request.loads?
  simp only [load_result_congr files _ h]

/-! ### Building -/

theorem unlogged_of_build {result : Except Error Scalar} (h : (build q).outcome e = (result, e₁)) :
    e₁.unlogged = e.unlogged := by
  have hkept := Keeps.unlogged_eq (build_keeps (P := fun x => x = e.unlogged) q)
  rwa [h] at hkept

theorem answer_unlogged (files : Files) (q : Request) (e : Environment) :
    ((answer files q).outcome e).2.unlogged = ((q.loads? files e).getD e.config, e.registry) := by
  have hloaded := load_unlogged files q e
  have hanswering := answer_outcome files q e
  generalize (answer files q).outcome e = result at hanswering ⊢
  cases hanswering with
  | loadEscapes hload | loadFails hload =>
    rw [hload] at hloaded
    exact hloaded
  | buildEscapes hload hbuild | buildFails hload hbuild | built hload hbuild =>
    rw [hload] at hloaded
    exact (unlogged_of_build hbuild).trans hloaded

/-- The configuration that a run loads: that of the file that its request names, provided that the log is
given a level. -/
def Request.loaded? (files : Files) (q : Request) (e : Environment) : Option Config :=
  if q.level = none then none else q.loads? files e

theorem loaded?_eq {level : Level} (hlevel : q.level = some level) (files : Files) (e : Environment) :
    q.loaded? files e = q.loads? files e := by
  simp [Request.loaded?, hlevel]

/-- An answer leaves the loaded configuration behind, or else the one before; the log does not matter. -/
theorem unlogged_of_answer {level : Level} (hlevel : q.level = some level)
    {result : Except Error (ℕ × String)} (h : (answer files q).outcome e₁ = (result, e₂))
    (he : e₁.unlogged = e.unlogged) : e₂.unlogged = ((q.loaded? files e).getD e.config, e.registry) := by
  have hunlogged := answer_unlogged files q e₁
  obtain ⟨hconfig, hregistry⟩ := Prod.mk.inj he
  rwa [h, loads?_congr files q he, hconfig, hregistry, ← loaded?_eq hlevel] at hunlogged

variable {arguments : List String}

/-- A run leaves the loaded configuration behind, or else the one before, and changes nothing else. -/
theorem run_after (clock : Log.Clock) (files : Files) (e : Environment)
    (hq : Request.ofArguments arguments = .ok (some q)) :
    ((run clock files arguments).outcome e).2 = { e with config := (q.loaded? files e).getD e.config } := by
  cases hlevel : q.level with
  | none =>
    rw [run_unleveled hq hlevel, Request.loaded?, if_pos hlevel]
    rfl
  | some level =>
    rcases hanswer : (answer files q).outcome { e with log := [] } with ⟨answered, e₁⟩
    obtain ⟨hconfig, hregistry⟩ := Prod.mk.inj (unlogged_of_answer (e := e) hlevel hanswer rfl)
    rw [run_outcome hq hlevel hanswer, ← hconfig, ← hregistry]

end CommandLine

end TypedScalar
