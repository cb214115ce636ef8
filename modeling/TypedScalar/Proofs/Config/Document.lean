import TypedScalar.Proofs.Config.Fields
import TypedScalar.Proofs.Config.Load
import TypedScalar.Proofs.Yaml.Mapping

/-! What a configuration takes from a document. A mapping gives the settings that it names, warns of the
other keys in their order, and is judged by what it gives to the settings alone. A document that is no
mapping is refused if its value counts as true; one whose value counts as false is taken for an empty
mapping. -/

namespace TypedScalar.Config

open TypedScalar.Action

variable {files : Files} {path text : String} {d : Yaml.Document} {e : Environment} {c : Config}

/-- The record of a configuration that was loaded. -/
def loadedRecord (path : String) : Record :=
  ⟨.info, logger, "Loaded scalar config from " ++ Files.normalPath path⟩

/-- The warnings of keys that name no setting, in order. -/
def keyWarnings (keys : List String) : List Record :=
  (keys.filter fun s => !fieldNames.contains s).map fun s =>
    ⟨.warning, logger, "Ignoring unknown config key: " ++ s⟩

theorem warnUnknown_outcome (r : Rendering) (keys : List String) (e : Environment) :
    (warnUnknown r (keys.map .text)).outcome e = (.ok (), { e with log := e.log ++ keyWarnings keys }) := by
  induction keys generalizing e with
  | nil => simp [warnUnknown, keyWarnings]
  | cons s rest ih =>
    rw [List.map_cons, warnUnknown, isSetting]
    cases hs : fieldNames.contains s with
    | true =>
      have hrest : keyWarnings (s :: rest) = keyWarnings rest := by
        rw [keyWarnings, List.filter_cons_of_neg (by rw [hs]; exact Bool.false_ne_true), keyWarnings]
      rw [hrest]
      exact ih e
    | false =>
      have hrest : keyWarnings (s :: rest) =
          ⟨.warning, logger, "Ignoring unknown config key: " ++ s⟩ :: keyWarnings rest := by
        rw [keyWarnings, List.filter_cons_of_pos (by rw [hs]; rfl), List.map_cons, keyWarnings]
      rw [hrest]
      refine (ih { e with log := e.log ++ [⟨.warning, logger, "Ignoring unknown config key: " ++ s⟩] }).trans ?_
      rw [List.append_assoc, List.singleton_append]

theorem load_outcome (hfind : files.find path = .file text) (hread : readDocument path text = .ok d)
    (e : Environment) : (load files path).outcome e = (takeDocument path d).outcome e := by
  rw [load_eq, documentAt, hfind]
  exact outcome_bind_ok (congrArg (·, e) hread) _

/-- Only a configuration that is valid is recorded as loaded. -/
theorem takeDocument_outcome {keys : List String} (hkeys : documentKeys path d = .ok (keys.map .text))
    (e : Environment) :
    (takeDocument path d).outcome e =
      match (ofDocument d).validate e.rendering with
      | .ok () => (.ok (ofDocument d), { e with log := e.log ++ keyWarnings keys ++ [loadedRecord path] })
      | .error err => (.error err, { e with log := e.log ++ keyWarnings keys }) := by
  have hfirst : (ofExcept (documentKeys path d)).outcome e = (.ok (keys.map .text), e) := congrArg (·, e) hkeys
  rw [takeDocument, outcome_bind_ok hfirst, outcome_bind_ok outcome_rendering,
    outcome_bind_ok (warnUnknown_outcome _ keys e)]
  dsimp only
  cases (ofDocument d).validate e.rendering <;> rfl

/-! ### Documents that are no mappings -/

theorem ofDocument_eq_initial (hd : d.mapping? = none) : ofDocument d = initial := by
  have hentries : d.entries? = none := Option.map_eq_none_iff.1 hd
  have hget (f : String) : d.get? f = none := by rw [Yaml.Document.get?, hentries]; rfl
  simp [ofDocument, fieldNames, hget]

/-- A document that is no mapping is refused with an error that says so, exactly if its value counts as true.
In place of any other the initial configuration is loaded. -/
theorem load_nonmapping (hfind : files.find path = .file text) (hread : readDocument path text = .ok d)
    (hvalue : ∀ entries, d.value ≠ .dictionary entries) (e : Environment) :
    (load files path).outcome e =
        (if d.value.isTruthy then (.error (.notAMapping path), e)
        else (.ok initial, { e with log := e.log ++ [loadedRecord path] })) ∧
      (Error.notAMapping path).isA .value = true ∧
      (Error.notAMapping path).message = "Config file must contain a mapping: " ++ path := by
  refine ⟨?_, rfl, rfl⟩
  have hmapping := (Yaml.Document.mapping?_eq_none_iff (coherent_readDocument hread)).2 hvalue
  have hkeys : d.keys? = none := by rw [Yaml.Document.keys?_eq, hmapping, Option.map_none]
  rw [load_outcome hfind hread, ← d.isTruthy_eq]
  split_ifs with htrue
  · have hrefused : documentKeys path d = .error (.notAMapping path) := by
      rw [documentKeys, hkeys, if_pos htrue]
    exact outcome_bind_error (congrArg (·, e) hrefused) _
  · have hnone : documentKeys path d = .ok ([].map .text) := by
      rw [documentKeys, hkeys, if_neg htrue, List.map_nil]
    have hvalid : initial.validate e.rendering = .ok () := rfl
    rw [takeDocument_outcome hnone, ofDocument_eq_initial hmapping, hvalid]
    dsimp only
    rw [keyWarnings, List.filter_nil, List.map_nil, List.append_nil]

theorem load_nonmapping_empty :
    let files : Files := ⟨[("c.yaml", "[]")]⟩
    ∃ d, readDocument "c.yaml" "[]" = .ok d ∧ (∀ entries, d.value ≠ .dictionary entries) ∧
      d.value.isTruthy = false ∧
      (load files "c.yaml").outcome .initial =
        (.ok initial, { Environment.initial with log := [loadedRecord "c.yaml"] }) := by
  intro files
  have hfind : files.find "c.yaml" = .file "[]" := by decide +kernel
  have hempty : (readDocument "c.yaml" "[]").toOption.map (fun d => (d.mapping?.isNone, d.isTruthy)) =
      some (true, false) := by decide +kernel
  cases hread : readDocument "c.yaml" "[]" with
  | error err => simp [hread, Except.toOption] at hempty
  | ok d =>
    rw [hread] at hempty
    obtain ⟨hmapping, hfalse⟩ := Prod.mk.inj (Option.some.inj hempty)
    have hvalue : ∀ entries, d.value ≠ .dictionary entries :=
      (Yaml.Document.mapping?_eq_none_iff (coherent_readDocument hread)).1 (Option.isNone_iff_eq_none.1 hmapping)
    rw [d.isTruthy_eq] at hfalse
    obtain ⟨houtcome, -⟩ := load_nonmapping hfind hread hvalue .initial
    rw [hfalse] at houtcome
    exact ⟨d, rfl, hvalue, hfalse, houtcome⟩

/-! ### Mappings -/

/-- Whether a configuration is valid is independent of the rendering. -/
theorem validate_ok_of_ok {r : Rendering} (h : c.validate r = .ok ()) (r' : Rendering) : c.validate r' = .ok () :=
  validate_eq_ok_iff.2 (validate_eq_ok_iff.1 h)

theorem ofDocument_congr {d' : Yaml.Document} (h : ∀ f ∈ fieldNames, d'.get? f = d.get? f) :
    ofDocument d' = ofDocument d :=
  List.foldl_ext _ _ _ fun c f hf => by rw [h f hf]

variable {entries : List (String × Value)}

/-- Whether a file holds a mapping with texts as keys, with these entries in this order. -/
def HoldsMapping (files : Files) (path : String) (entries : List (String × Value)) : Prop :=
  ∃ text d, files.find path = .file text ∧ readDocument path text = .ok d ∧
    d.mapping? = some (entries.map fun x => (.text x.1, x.2))

theorem mem_texts_iff {f : String} {v : Value} :
    (.text f, v) ∈ entries.map (fun x => (Value.text x.1, x.2)) ↔ (f, v) ∈ entries := by
  simp [Prod.ext_iff]

/-- The texts of an entry of two texts. -/
def texts? : Value × Value → Option (String × String)
  | (.text s, .text t) => some (s, t)
  | _ => none

theorem texts?_eq_some_iff {x : Value × Value} {p : String × String} :
    texts? x = some p ↔ x = (.text p.1, .text p.2) := by
  unfold texts?
  split
  · simp [Prod.ext_iff]
  · next hx => exact iff_of_false nofun fun h => hx _ _ h

theorem eq_of_map_texts? {m : List (Value × Value)} {pairs : List (String × String)}
    (h : m.map texts? = pairs.map some) : m = pairs.map fun p => (.text p.1, .text p.2) := by
  induction m generalizing pairs with
  | nil => cases pairs <;> simp_all
  | cons x rest ih =>
    cases pairs with
    | nil => simp at h
    | cons p ps =>
      obtain ⟨hx, hrest⟩ := List.cons.inj h
      rw [List.map_cons, ← ih hrest, texts?_eq_some_iff.1 hx]

/-- A file that holds a mapping of texts to texts. -/
theorem holdsMapping_of_texts (pairs : List (String × String)) (hfind : files.find path = .file text)
    (hread : ((readDocument path text).toOption.bind fun d => d.mapping?.map (List.map texts?)) =
      some (pairs.map some)) :
    HoldsMapping files path (pairs.map fun p => (p.1, .text p.2)) := by
  obtain ⟨d, hd, hmap⟩ := Option.bind_eq_some_iff.1 hread
  obtain ⟨m, hm, hpairs⟩ := Option.map_eq_some_iff.1 hmap
  have hdocument : readDocument path text = .ok d := by
    cases hx : readDocument path text with
    | error err => simp [hx, Except.toOption] at hd
    | ok d' => simpa [hx, Except.toOption] using hd
  refine ⟨text, d, hfind, hdocument, ?_⟩
  rw [hm, eq_of_map_texts? hpairs, List.map_map]
  rfl

/-- What is read of a file that holds a mapping: no key twice, each setting from its entry, and the keys in
order. -/
theorem HoldsMapping.read (h : HoldsMapping files path entries) :
    (entries.map Prod.fst).Nodup ∧ ∃ d, (∀ f v, d.get? f = some v ↔ (f, v) ∈ entries) ∧
      documentKeys path d = .ok ((entries.map Prod.fst).map .text) ∧
      ∀ e, (load files path).outcome e = (takeDocument path d).outcome e := by
  obtain ⟨text, d, hfind, hread, hmapping⟩ := h
  have hdistinct := Yaml.Document.textKeysDistinct (coherent_readDocument hread) hmapping
  constructor
  · rw [Yaml.Document.TextKeysDistinct, List.pairwise_map] at hdistinct
    exact List.pairwise_map.2 (hdistinct.imp fun {x y} hne hxy => hne x.1 rfl (congrArg Value.text hxy.symm))
  · refine ⟨d, fun f v => ?_, ?_, load_outcome hfind hread⟩
    · rw [Yaml.Document.get?_eq hmapping, Yaml.Document.lookup?_eq_some_iff hdistinct, mem_texts_iff]
    · rw [documentKeys, Yaml.Document.keys?_eq, hmapping]
      simp

/-- Loading a mapping gives each setting the value of its entry, or its initial value if there is none,
warns once of every other key, in order, and then returns this configuration exactly if it is valid, whatever
configuration is active. It fails with an error of value otherwise, unless a default type that is none takes too
many levels to be shown. It activates nothing, and other entries have no part in the result. -/
theorem load_exact (h : HoldsMapping files path entries) :
    (entries.map Prod.fst).Nodup ∧
    ∃ c : Config,
      (∀ f ∈ fieldNames, ∀ v,
        c.get? f = some v ↔ (f, v) ∈ entries ∨ (∀ w, (f, w) ∉ entries) ∧ initial.get? f = some v) ∧
      ∀ e,
        (∀ r, c.validate r = .ok () → (load files path).outcome e =
          (.ok c, { e with log := e.log ++ keyWarnings (entries.map Prod.fst) ++ [loadedRecord path] })) ∧
        (∀ r, c.validate r ≠ .ok () → ∃ err,
          (load files path).outcome e =
            (.error err, { e with log := e.log ++ keyWarnings (entries.map Prod.fst) }) ∧
          (err.isA .value = true ∧ ¬ c.Unrefused .shownTooDeep ∨
            err = .shownTooDeep ∧ c.Unrefused .shownTooDeep ∧
              (c.integerDefault.Exceeds Value.levelLimit ∨ c.floatDefault.Exceeds Value.levelLimit))) ∧
        ∀ files' path' entries', HoldsMapping files' path' entries' →
          (∀ f ∈ fieldNames, ∀ v, (f, v) ∈ entries ↔ (f, v) ∈ entries') →
          ((load files' path').outcome e).1 = ((load files path).outcome e).1 := by
  obtain ⟨hnodup, d, hget, hkeys, hload⟩ := h.read
  refine ⟨hnodup, ofDocument d, fun f hf v => ?_, fun e => ⟨fun r hvalid => ?_, fun r hinvalid => ?_, ?_⟩⟩
  · have habsent : d.get? f = none ↔ ∀ w, (f, w) ∉ entries := by
      simp only [← hget, Option.eq_none_iff_forall_ne_some, ne_eq]
    rw [get?_ofDocument d hf, Option.or_eq_some_iff, hget, habsent]
  · rw [hload, takeDocument_outcome hkeys, validate_ok_of_ok hvalid e.rendering]
  · cases hvalid : (ofDocument d).validate e.rendering with
    | ok => exact absurd (validate_ok_of_ok hvalid r) hinvalid
    | error err =>
      refine ⟨err, ?_, isA_value_of_validate hvalid⟩
      rw [hload, takeDocument_outcome hkeys, hvalid]
  · intro files' path' entries' h' hsame
    obtain ⟨-, d', hget', hkeys', hload'⟩ := h'.read
    have hconfig : ofDocument d' = ofDocument d := by
      refine ofDocument_congr fun f hf => Option.ext fun v => ?_
      rw [hget', hget, hsame f hf v]
    rw [hload, hload', takeDocument_outcome hkeys, takeDocument_outcome hkeys', hconfig]
    cases (ofDocument d).validate e.rendering <;> rfl

/-- Two files with the same settings, each with another key beside them, and one with a token that is
refused. -/
theorem load_exact_beside :
    let files : Files := ⟨[("c.yaml", "null_token: NA\ncolour: blue"),
      ("d.yaml", "shade: red\nnull_token: NA"), ("e.yaml", "null_token: nan")]⟩
    let loaded : Config := { Config.initial with nullToken := .text "NA" }
    (load files "c.yaml").outcome .initial = (.ok loaded, { Environment.initial with
        log := [⟨.warning, logger, "Ignoring unknown config key: colour"⟩, loadedRecord "c.yaml"] }) ∧
      ((load files "d.yaml").outcome .initial).1 = .ok loaded ∧
      ∃ err, err.isA .value = true ∧ (load files "e.yaml").outcome .initial = (.error err, .initial) := by
  intro files loaded
  have hfind₁ : files.find "c.yaml" = .file "null_token: NA\ncolour: blue" := by decide +kernel
  have hfind₂ : files.find "d.yaml" = .file "shade: red\nnull_token: NA" := by decide +kernel
  have hfind₃ : files.find "e.yaml" = .file "null_token: nan" := by decide +kernel
  have hfirst := holdsMapping_of_texts [("null_token", "NA"), ("colour", "blue")] hfind₁ (by decide +kernel)
  have hsecond := holdsMapping_of_texts [("shade", "red"), ("null_token", "NA")] hfind₂ (by decide +kernel)
  have hthird := holdsMapping_of_texts [("null_token", "nan")] hfind₃ (by decide +kernel)
  obtain ⟨-, c, hc, houtcome⟩ := load_exact hfirst
  obtain ⟨hvalid, -, hother⟩ := houtcome .initial
  obtain rfl : c = loaded := by
    refine ext_get? fun f hf => ?_
    simp only [fieldNames, List.mem_cons, List.not_mem_nil, or_false] at hf
    rcases hf with rfl | rfl | rfl | rfl
    · exact (hc _ (by decide) _).2 (.inl List.mem_cons_self)
    all_goals exact (hc _ (by decide) _).2 (.inr ⟨by simp, rfl⟩)
  have hloaded := hvalid initial.rendering rfl
  obtain ⟨-, c₃, hc₃, houtcome₃⟩ := load_exact hthird
  obtain ⟨-, hinvalid, -⟩ := houtcome₃ .initial
  have hnan : c₃.nullToken = .text "nan" :=
    Option.some.inj ((hc₃ "null_token" (by decide) _).2 (.inl List.mem_cons_self))
  have hnotToken : ¬ IsToken c₃.nullToken := by
    rintro ⟨token, htext, -, hcollides⟩
    rw [hnan] at htext
    obtain rfl := Option.some.inj htext
    exact absurd hcollides (by decide +kernel)
  obtain ⟨err, herr, hclass⟩ := hinvalid initial.rendering fun h => hnotToken (validate_eq_ok_iff.1 h).nullToken
  have hvalue : err.isA .value = true := by
    rcases hclass with ⟨hvalue, -⟩ | ⟨-, hdeep, -⟩
    · exact hvalue
    · exact absurd hdeep.isToken hnotToken
  refine ⟨hloaded, ?_, err, hvalue, herr⟩
  rw [hother _ _ _ hsecond (by simp [fieldNames]), hloaded]

end TypedScalar.Config
