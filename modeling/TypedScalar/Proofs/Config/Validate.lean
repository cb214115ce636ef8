import TypedScalar.Config.Validate
import TypedScalar.Proofs.Value.Shown

/-! Valid configurations. Validation judges three settings, each by itself and whatever the rendering of its
messages, and never the letter case. A configuration that is not valid is refused as one, unless its refusal
would show a default type that cannot be shown. -/

namespace TypedScalar

/-- The descriptor that a value denotes, if it denotes one. -/
def DataType.denoted? : Value → Option DataType
  | .dataType d => some d
  | .typeId k => some (.concrete k)
  | v => (v.text?.bind Kind.ofName?).map .concrete

theorem DataType.denoted?_of_ne {v : Value} (hd : ∀ d, v ≠ .dataType d) (hk : ∀ k, v ≠ .typeId k) :
    denoted? v = (v.text?.bind Kind.ofName?).map .concrete := by
  unfold denoted?
  split
  · exact absurd rfl (hd _)
  · exact absurd rfl (hk _)
  · rfl

/-- Only a descriptor denotes a family. -/
theorem DataType.denoted?_eq_abstract_iff {v : Value} {f : Family} :
    denoted? v = some (.abstract f) ↔ v = .dataType (.abstract f) := by
  unfold denoted?
  split
  · simp
  · simp
  · next hv _ =>
    refine iff_of_false (fun h => ?_) (hv _)
    obtain ⟨k, -, hk⟩ := Option.map_eq_some_iff.1 h
    cases hk

namespace Config

variable {r : Rendering} {c : Config} {v : Value}

/-! ### Valid configurations -/

/-- Whether a value can be the null token. -/
def IsToken (v : Value) : Prop :=
  ∃ token, v.text? = some token ∧ Text.strip token.toList ≠ [] ∧ collides token.toList = false

/-- Whether a value denotes a descriptor of a family. -/
def Denotes (family : Family) (v : Value) : Prop := ∃ d, DataType.denoted? v = some d ∧ d.family = family

/-- Whether a configuration is valid. -/
structure Valid (c : Config) : Prop where
  nullToken : IsToken c.nullToken
  integerDefault : Denotes .integer c.integerDefault
  floatDefault : Denotes .floating c.floatDefault

theorem refusal_ne_ok {α : Type} {x : Except Error String} {refusal : String → Error} {y : α} :
    (x.bind fun s => .error (refusal s)) ≠ .ok y := by
  cases x <;> simp [Except.bind]

theorem bind_eq_ok_iff {α β : Type} {x : Except Error α} {f : α → Except Error β} {y : β} :
    x.bind f = .ok y ↔ ∃ a, x = .ok a ∧ f a = .ok y := by
  cases x <;> simp [Except.bind]

theorem IsToken.not_unshowable (h : IsToken v) : ¬ v.Unshowable := by
  obtain ⟨token, htext, -⟩ := h
  exact Value.not_unshowable_of_text? htext

/-! ### Types -/

theorem resolve_eq_ok_iff {d : DataType} : DataType.resolve r v = .ok d ↔ DataType.denoted? v = some d := by
  unfold DataType.resolve
  split
  · simp [DataType.denoted?]
  · simp [DataType.denoted?]
  · next hd hk =>
    rw [DataType.denoted?_of_ne hd hk]
    cases v.text? with
    | none => exact iff_of_false refusal_ne_ok (by simp)
    | some s =>
      rw [Option.bind_some]
      dsimp only
      cases Kind.ofName? s with
      | none => exact iff_of_false refusal_ne_ok (by simp)
      | some k => simp

end Config

namespace DataType

variable {r : Rendering} {t : Value} {d : DataType}

/-- What denotes a descriptor can be shown. -/
theorem not_unshowable (h : denoted? t = some d) : ¬ t.Unshowable := by
  unfold denoted? at h
  split at h
  · exact Value.not_unshowable rfl (by simp)
  · exact Value.not_unshowable rfl (by simp)
  · cases htext : t.text? with
    | none => simp [htext] at h
    | some s => exact Value.not_unshowable_of_text? htext

/-- What a value comes to where a type is asked for. -/
inductive Resolving (t : Value) : Except Error DataType → Prop
  | denoted {d : DataType} (h : denoted? t = some d) : Resolving t (.ok d)
  | unknown (h : denoted? t = none) (hshowable : ¬ t.Unshowable) {err : Error}
    (herr : err.errorClass = .unknownDataType) : Resolving t (.error err)
  | unshown (h : denoted? t = none) {err : Error} (herr : t.Unshown err) : Resolving t (.error err)

/-- A refusal to take a value for a type. -/
theorem Resolving.refusal (h : denoted? t = none) {refusal : String → Error}
    (herr : ∀ s, (refusal s).errorClass = .unknownDataType) :
    Resolving t ((t.shown r).bind fun s => .error (refusal s)) := by
  rcases Value.shown_outcome r t with ⟨hshowable, s, hs⟩ | ⟨err, hunshown⟩
  · rw [hs]
    exact .unknown h hshowable (herr s)
  · rw [hunshown r]
    exact .unshown h hunshown

theorem resolve_outcome (r : Rendering) (t : Value) : Resolving t (resolve r t) := by
  cases hd : denoted? t with
  | some d =>
    rw [Config.resolve_eq_ok_iff.2 hd]
    exact .denoted hd
  | none =>
    unfold resolve
    split
    · simp [denoted?] at hd
    · simp [denoted?] at hd
    · cases htext : t.text? with
      | none => exact .refusal hd fun _ => rfl
      | some s =>
        cases hkind : Kind.ofName? s with
        | none => simpa [htext, hkind] using .refusal hd fun _ => rfl
        | some k => simp_all [denoted?]

end DataType

namespace Config

variable {r : Rendering} {c : Config} {v : Value}

/-! ### Judgements -/

theorem checkToken_outcome (r : Rendering) (v : Value) :
    IsToken v ∧ checkToken r v = .ok () ∨ ¬ IsToken v ∧ ∃ fault, checkToken r v = .error (.config fault) := by
  rw [checkToken, IsToken]
  cases htext : v.text? with
  | none => exact .inr ⟨by simp, _, rfl⟩
  | some token =>
    simp only [List.isEmpty_iff, Option.some.injEq, exists_eq_left']
    split_ifs with hblank hcollides
    · exact .inr ⟨by simp [hblank], _, rfl⟩
    · obtain ⟨s, hs⟩ := (Value.okUnless_shown r v).exists_ok (Value.not_unshowable_of_text? htext)
      exact .inr ⟨by simp [hcollides], _, by rw [hs]; rfl⟩
    · exact .inl ⟨by simp [hblank, hcollides], rfl⟩

theorem checkToken_eq_ok_iff : checkToken r v = .ok () ↔ IsToken v := by
  rcases checkToken_outcome r v with ⟨htoken, hok⟩ | ⟨htoken, fault, herr⟩
  · exact iff_of_true hok htoken
  · rw [herr]
    exact iff_of_false nofun htoken

/-- What a value comes to as a default type. -/
inductive Defaulting (v : Value) : Except Error DataType → Prop
  | denoted {d : DataType} (h : DataType.denoted? v = some d) : Defaulting v (.ok d)
  | unknown (h : DataType.denoted? v = none) (hshowable : ¬ v.Unshowable) (fault : ConfigFault) :
    Defaulting v (.error (.config fault))
  | unshown (h : DataType.denoted? v = none) {err : Error} (herr : v.Unshown err) : Defaulting v (.error err)

theorem resolveDefault_outcome (r : Rendering) (v : Value) : Defaulting v (resolveDefault r v) := by
  have hresolve := DataType.resolve_outcome r v
  rw [resolveDefault]
  generalize DataType.resolve r v = x at hresolve
  cases hresolve with
  | denoted h => exact .denoted h
  | @unknown h hshowable err herr =>
    have hunknown : err.isA .unknownDataType = true := by rw [Error.isA, herr]; rfl
    simp only [hunknown, ↓reduceIte]
    exact .unknown h hshowable _
  | unshown h herr =>
    simp only [herr.fault.isA_unknownDataType, Bool.false_eq_true, ↓reduceIte]
    exact .unshown h herr

theorem resolveDefault_eq_ok_iff {d : DataType} : resolveDefault r v = .ok d ↔ DataType.denoted? v = some d := by
  have hdefaulting := resolveDefault_outcome r v
  generalize resolveDefault r v = x at hdefaulting
  cases hdefaulting with
  | denoted h => simp [h]
  | unknown h | unshown h => simp [h]

theorem resolveDefault_of_unshown {err : Error} (h : v.Unshown err) : resolveDefault r v = .error err := by
  have hdefaulting := resolveDefault_outcome r v
  generalize resolveDefault r v = x at hdefaulting
  cases hdefaulting with
  | denoted hd => exact absurd h.unshowable (DataType.not_unshowable hd)
  | unknown _ hshowable => exact absurd h.unshowable hshowable
  | unshown _ herr => rw [h.eq herr]

/-- The refusal of a default type that is not of its family. -/
theorem refuseFamily_outcome {d : DataType} (hd : DataType.denoted? v = some d) {refusal : String → ConfigFault}
    {err : Error} (h : ((v.shown r).bind fun s => .error (.config (refusal s)) : Except Error Unit) = .error err) :
    ∃ fault, err = .config fault := by
  obtain ⟨s, hs⟩ := (Value.okUnless_shown r v).exists_ok (DataType.not_unshowable hd)
  rw [hs] at h
  cases h
  exact ⟨refusal s, rfl⟩

/-- The error in place of the refusal of a configuration: that of showing a default type which is none. The null
token is judged first, and the type of integers before that of numbers with a point. -/
inductive Unrefused (c : Config) (err : Error) : Prop
  | integer (htoken : IsToken c.nullToken) (herr : c.integerDefault.Unshown err)
  | float (htoken : IsToken c.nullToken) {d : DataType} (hd : DataType.denoted? c.integerDefault = some d)
    (herr : c.floatDefault.Unshown err)

theorem Unrefused.isToken {err : Error} (h : c.Unrefused err) : IsToken c.nullToken := by
  cases h with
  | integer htoken => exact htoken
  | float htoken => exact htoken

theorem Unrefused.fault {err : Error} (h : c.Unrefused err) : c.integerDefault.Fault err ∨ c.floatDefault.Fault err := by
  cases h with
  | integer _ herr => exact .inl herr.fault
  | float _ _ herr => exact .inr herr.fault

theorem Unrefused.validate_eq {err : Error} (h : c.Unrefused err) (r : Rendering) : c.validate r = .error err := by
  cases h with
  | integer htoken herr => rw [validate, checkToken_eq_ok_iff.2 htoken, resolveDefault_of_unshown herr]; rfl
  | float htoken hd herr =>
    rw [validate, checkToken_eq_ok_iff.2 htoken, resolveDefault_eq_ok_iff.2 hd, resolveDefault_of_unshown herr]
    rfl

theorem not_unrefused {integer : DataType} (hinteger : DataType.denoted? c.integerDefault = some integer)
    (hfloat : ¬ c.floatDefault.Unshowable) (err : Error) : ¬ c.Unrefused err := by
  rintro (⟨-, herr⟩ | ⟨-, -, herr⟩)
  · exact DataType.not_unshowable hinteger herr.unshowable
  · exact hfloat herr.unshowable

/-- What is wrong with a configuration is told as a fault of it, unless it cannot be told. -/
theorem refusal_of_validate {err : Error} (h : c.validate r = .error err) :
    c.Unrefused err ∨ (∀ err', ¬ c.Unrefused err') ∧ ∃ fault, err = .config fault := by
  have hinteger := resolveDefault_outcome r c.integerDefault
  have hfloat := resolveDefault_outcome r c.floatDefault
  unfold validate at h
  rcases checkToken_outcome r c.nullToken with ⟨htoken, hok⟩ | ⟨htoken, fault, herr⟩
  swap
  · rw [herr] at h
    cases h
    refine .inr ⟨?_, fault, rfl⟩
    rintro err' (⟨h, -⟩ | ⟨h, -⟩)
    · exact htoken h
    · exact htoken h
  rw [hok] at h
  simp only [Except.bind] at h
  generalize resolveDefault r c.integerDefault = x at hinteger h
  cases hinteger with
  | unshown hnone herr =>
    cases h
    exact .inl (.integer htoken herr)
  | unknown hnone hshowable fault =>
    cases h
    refine .inr ⟨?_, fault, rfl⟩
    rintro err (⟨-, herr⟩ | ⟨-, hd, -⟩)
    · exact hshowable herr.unshowable
    · cases hnone.symm.trans hd
  | denoted hinteger =>
    generalize resolveDefault r c.floatDefault = y at hfloat h
    cases hfloat with
    | unshown hnone herr =>
      cases h
      exact .inl (.float htoken hinteger herr)
    | unknown hnone hshowable fault =>
      cases h
      exact .inr ⟨not_unrefused hinteger hshowable, fault, rfl⟩
    | denoted hfloat =>
      refine .inr ⟨not_unrefused hinteger (DataType.not_unshowable hfloat), ?_⟩
      dsimp only at h
      split_ifs at h
      · exact refuseFamily_outcome hinteger h
      · exact refuseFamily_outcome hfloat h

/-- What is wrong with a configuration is an error of value, unless a value takes too many levels to be shown. -/
theorem isA_value_of_validate {err : Error} (h : c.validate r = .error err) :
    err.isA .value = true ∧ ¬ c.Unrefused .shownTooDeep ∨
      err = .shownTooDeep ∧ c.Unrefused .shownTooDeep ∧
        (c.integerDefault.Exceeds Value.levelLimit ∨ c.floatDefault.Exceeds Value.levelLimit) := by
  rcases refusal_of_validate h with herr | ⟨hnone, fault, rfl⟩
  · by_cases hdeep : err = .shownTooDeep
    · subst hdeep
      refine .inr ⟨rfl, herr, herr.fault.imp ?_ ?_⟩
      · rintro ⟨⟩
        assumption
      · rintro ⟨⟩
        assumption
    · refine .inl ⟨?_, fun herr' => hdeep (Except.error.inj (h.symm.trans (herr'.validate_eq r)))⟩
      rcases herr.fault with (_ | _) | (_ | _)
      · rfl
      · exact absurd rfl hdeep
      · rfl
      · exact absurd rfl hdeep
  · exact .inl ⟨rfl, hnone _⟩

/-- Validation judges whatever the rendering of its messages. -/
theorem validate_eq_ok_iff : c.validate r = .ok () ↔ c.Valid := by
  simp only [validate, bind_eq_ok_iff, resolveDefault_eq_ok_iff]
  constructor
  · rintro ⟨⟨⟩, htoken, integer, hinteger, float, hfloat, h⟩
    split_ifs at h with hisInteger hisFloating
    · exact absurd h refusal_ne_ok
    · exact absurd h refusal_ne_ok
    · simp only [DataType.isInteger, DataType.isFloating, Bool.not_eq_true', Bool.not_eq_false,
        beq_iff_eq] at hisInteger hisFloating
      exact ⟨checkToken_eq_ok_iff.1 htoken, ⟨integer, hinteger, hisInteger⟩, ⟨float, hfloat, hisFloating⟩⟩
  · rintro ⟨htoken, ⟨integer, hinteger, hisInteger⟩, ⟨float, hfloat, hisFloating⟩⟩
    refine ⟨(), checkToken_eq_ok_iff.2 htoken, integer, hinteger, float, hfloat, ?_⟩
    simp [DataType.isInteger, DataType.isFloating, hisInteger, hisFloating]

end Config

end TypedScalar
