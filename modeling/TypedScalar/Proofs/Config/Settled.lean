import TypedScalar.Proofs.Config.Fields
import TypedScalar.Proofs.Frame

/-! Whoever changes the configuration leaves it fit: the calls that set and reset it, and the command
line with a file. What they are given may be anything, but for a letter case, which is a boolean. -/

namespace TypedScalar

open TypedScalar.Action

variable {α : Type} {P : Config × Registry → Prop}

/-- Whether the settings are fit to be active. -/
def Settled (x : Config × Registry) : Prop := x.1.Fit

theorem maintains_ofExcept (x : Except Error α) :
    Maintains (fun e => P e.unlogged) (fun a => x = .ok a) (Action.ofExcept x) :=
  fun _ he => ⟨he, fun _ h => h⟩

namespace Config

variable {config : Option Config} {overrides : List (String × Value)} {files : Files} {path : String}

theorem not_unshowable_boolean (b : Bool) : ¬ (Value.boolean b).Unshowable :=
  Value.not_unshowable rfl (by simp)

theorem fit_initial : initial.Fit :=
  fit_iff.2 ⟨validate_eq_ok_iff.1 (show initial.validate initial.rendering = .ok () from rfl),
    not_unshowable_boolean true⟩

theorem activate_keeps (h : ∀ base : Config, base.Fit → ∀ c, (config.getD base).update overrides = .ok c →
    ¬ c.upperHex.Unshowable) : Keeps Settled (activate config overrides) := by
  intro e he
  refine ⟨?_, fun _ _ => trivial⟩
  have hactivating := activate_outcome config overrides e
  show Settled ((activate config overrides).outcome e).2.unlogged
  generalize (activate config overrides).outcome e = result at hactivating ⊢
  cases hactivating with
  | refused => exact he
  | unshown hnew _ herr => exact absurd herr.unshowable (h e.config he _ hnew)
  | active _ hvalid hshowable => exact fit_iff.2 ⟨hvalid, hshowable⟩

theorem reset_keeps : Keeps Settled reset := by
  have hinitial : Keeps Settled (modify fun e => { e with config := initial }) :=
    preserves_modify fun _ _ => fit_initial
  exact hinitial.andThen fun _ => keeps_pure _

/-- Whether the document of a file gives no letter case but a boolean. -/
def FileGivesBoolean (files : Files) (path : String) : Prop :=
  ∀ text d v, files.find path = .file text → readDocument path text = .ok d →
    d.get? "binary_uppercase" = some v → ∃ b, v = .boolean b

/-- What is loaded comes from the document of the file. -/
theorem load_maintains (files : Files) (path : String) :
    Maintains (fun e => P e.unlogged)
      (fun c => ∃ text d, files.find path = .file text ∧ readDocument path text = .ok d ∧ c = ofDocument d)
      (load files path) := by
  unfold load
  split
  · exact maintains_throw _
  · exact maintains_throw _
  · exact maintains_throw _
  · next text hfile =>
    refine (maintains_ofExcept _).bind fun d hd => (keeps_ofExcept _).andThen fun keys => ?_
    refine keeps_rendering.andThen fun r => (warnUnknown_keeps r keys).andThen fun _ => ?_
    exact (keeps_ofExcept _).andThen fun _ => (keeps_record _ _ _).andThen fun _ =>
      maintains_pure ⟨text, d, hfile, hd, rfl⟩

theorem load_showable (h : FileGivesBoolean files path) :
    Maintains (fun e => P e.unlogged) (fun c => ¬ c.upperHex.Unshowable) (load files path) := by
  refine (load_maintains files path).mono ?_
  rintro _ ⟨text, d, hfile, hd, rfl⟩
  rw [upperHex_ofDocument]
  cases hv : d.get? "binary_uppercase" with
  | none => exact not_unshowable_boolean true
  | some v =>
    obtain ⟨b, rfl⟩ := h text d v hfile hd hv
    exact not_unshowable_boolean b

theorem activate_showable_keeps {c : Config} (hc : ¬ c.upperHex.Unshowable) :
    Keeps Settled (activate (some c) []) := by
  refine activate_keeps ?_
  rintro base - d hd
  obtain rfl := Except.ok.inj hd
  exact hc

end Config

namespace CommandLine

variable {files : Files} {q : Request}

theorem loadConfig_keeps {path : String} (h : Config.FileGivesBoolean files path) :
    Keeps Settled (loadConfig files path) :=
  (Config.load_showable h).bind fun _ hc => (Config.activate_showable_keeps hc).discard

theorem withOwnLog_keeps {a : Action α} (h : a.Keeps P) : Keeps P (withOwnLog a) := by
  intro e he
  obtain ⟨hafter, -⟩ := h { e with log := [] } he
  exact ⟨hafter, fun _ _ => trivial⟩

/-- What is done to load a file that a request names, and then the rest. -/
theorem configured_keeps {β : Type} {rest : Option Error → Action β}
    (hrest : ∀ loaded, Keeps Settled (rest loaded))
    (h : ∀ path, q.config = some path → Config.FileGivesBoolean files path) :
    Keeps Settled (do
      let loaded ←
        match q.config with
        | none | some "" => pure none
        | some path =>
          tryCatch (do loadConfig files path; pure none) fun e =>
            if isConfigFailure e then pure (some e) else throw e
      rest loaded) := by
  split
  · exact (keeps_pure _).andThen hrest
  · exact (keeps_pure _).andThen hrest
  · next path _ hpath =>
    refine Maintains.andThen (Maintains.tryCatch ?_ fun err => ?_) hrest
    · exact (loadConfig_keeps (h path hpath)).andThen fun _ => keeps_pure _
    · split_ifs
      · exact keeps_pure _
      · exact maintains_throw _

theorem answer_keeps (h : ∀ path, q.config = some path → Config.FileGivesBoolean files path) :
    Keeps Settled (answer files q) := by
  have hfailure (message : String) : Keeps Settled (failure message) :=
    (keeps_record _ _ _).andThen fun _ => keeps_pure _
  refine configured_keeps (fun loaded => ?_) h
  cases loaded with
  | some err => exact hfailure _
  | none =>
    have hbuilt : Keeps Settled (Except.ok <$> build q : Action (Except Error Scalar)) :=
      (build_keeps q).map fun _ _ => trivial
    refine Maintains.andThen (Maintains.tryCatch hbuilt fun err => ?_) fun built => ?_
    · split_ifs
      · exact keeps_pure _
      · exact maintains_throw _
    · cases built with
      | error err => exact hfailure _
      | ok s => exact keeps_rendering.andThen fun r => (keeps_record _ _ _).andThen fun _ => keeps_pure _

theorem run_keeps (clock : Log.Clock) {arguments : List String}
    (h : ∀ q path, Request.ofArguments arguments = .ok (some q) → q.config = some path →
      Config.FileGivesBoolean files path) : Keeps Settled (run clock files arguments) := by
  unfold run
  split
  · exact keeps_pure _
  · exact keeps_pure _
  · next q hq =>
    split
    · exact maintains_throw _
    · exact (withOwnLog_keeps (answer_keeps fun path => h q path hq)).andThen fun _ => keeps_pure _

end CommandLine

end TypedScalar
