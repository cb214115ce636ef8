import TypedScalar.Proofs.Registry

/-! Calls that fail and what they leave behind. They leave everything as it was,
but for the calls on a family: an abstract class is added for it, or removed, and
only then the call finds that a family has no name. -/

namespace TypedScalar.Registry

/-- Whether registering adds an abstract class, for a family that has none. -/
def AddsAbstract (e : Environment) (t : Value) (c : ScalarClass) : Prop :=
  (∃ f, DataType.resolve e.rendering t = .ok (.abstract f)) ∧ c.kind? = none ∧
    e.registry.contains none = false

/-- Whether unregistering removes an abstract class, of a family. -/
def RemovesAbstract (e : Environment) (t : Value) : Prop :=
  (∃ f, DataType.resolve e.rendering t = .ok (.abstract f)) ∧ e.registry.contains none = true

variable {r : Registry} {key : Option Kind}

theorem entries_insert (h : r.contains key = false) (c : ScalarClass) :
    (r.insert key c).entries = r.entries ++ [(key, c)] := by
  simp [insert, h]

theorem erase_ne (h : r.contains key = true) : r.erase key ≠ r := by
  intro heq
  obtain ⟨c, hc⟩ := Option.isSome_iff_exists.1 h
  obtain ⟨before, after, hentries, -⟩ := List.lookup_eq_some_iff.1 hc
  have hmem : (key, c) ∈ (r.erase key).entries := by rw [heq, hentries]; simp
  simpa using (List.mem_filter.1 hmem).2

/-- A call that fails changes nothing at all, unless it adds an abstract class for
a family, or removes the one that is there: then the registry has changed. -/
theorem unchanged_of_failure (e : Environment) :
    (∀ t c err e', (register t c).outcome e = (.error err, e') →
      (¬ AddsAbstract e t c → e' = e) ∧
      (AddsAbstract e t c → e'.registry.entries = e.registry.entries ++ [(none, c)])) ∧
    ∀ t err e', (unregister t).outcome e = (.error err, e') →
      (¬ RemovesAbstract e t → e' = e) ∧
      (RemovesAbstract e t → e'.registry = e.registry.erase none ∧ e'.registry ≠ e.registry) := by
  constructor
  · intro t c err e' h
    have houtcome := register_outcome e t c
    rw [h] at houtcome
    cases houtcome with
    | unresolved hd =>
      refine ⟨fun _ => rfl, ?_⟩
      rintro ⟨⟨f, hf⟩, -, -⟩
      simp [hf] at hd
    | mismatched hd hne =>
      refine ⟨fun _ => rfl, ?_⟩
      rintro ⟨⟨f, hf⟩, hc, -⟩
      rw [hf] at hd
      obtain rfl := Except.ok.inj hd
      exact absurd hc hne
    | family hd hc =>
      cases hcontains : e.registry.contains none with
      | false =>
        exact ⟨fun hadds => absurd ⟨⟨_, hd⟩, hc, hcontains⟩ hadds, fun _ => entries_insert hcontains c⟩
      | true => exact ⟨fun _ => rfl, fun hadds => by simp [hadds.2.2] at hcontains⟩
  · intro t err e' h
    have houtcome := unregister_outcome e t
    rw [h] at houtcome
    cases houtcome with
    | unresolved hd =>
      refine ⟨fun _ => rfl, ?_⟩
      rintro ⟨⟨f, hf⟩, -⟩
      simp [hf] at hd
    | family hd hcontains =>
      exact ⟨fun hremoves => absurd ⟨⟨_, hd⟩, hcontains⟩ hremoves, fun _ => ⟨rfl, erase_ne hcontains⟩⟩

/-- A class of another kind is refused and changes nothing. The class of all scalars
stays behind when it is refused for the most general family, and the kinds that are
registered can no longer be listed. -/
theorem unchanged_of_failure_family :
    let e := Environment.initial
    let int8 : Kind := .integer ⟨true, .w8⟩
    let int16 : Kind := .integer ⟨true, .w16⟩
    let fault : Error := .missingMember "NoneType" "value"
    (∃ e', (register (.text "int16") (.concrete int8)).outcome e =
      (.error (.wrongHolder "Int8Scalar" int8 int16), e') ∧ e' = e) ∧
    ∃ e', (register (.dataType (.abstract .any)) (.abstract .any)).outcome e = (.error fault, e') ∧
      e'.registry.entries = e.registry.entries ++ [(none, .abstract .any)] ∧
      e'.registry.names = .error fault := by
  intro e int8 int16 fault
  have hint16 : DataType.resolve e.rendering (.text "int16") = .ok (.concrete int16) :=
    DataType.resolve_name _ int16
  have hfamily : DataType.resolve e.rendering (.dataType (.abstract .any)) = .ok (.abstract .any) := rfl
  have hrefused := register_mismatched (c := .concrete int8) hint16 (by decide)
  have hadded := register_family (c := .abstract .any) hfamily rfl
  have hadds : AddsAbstract e (.dataType (.abstract .any)) (.abstract .any) := ⟨⟨_, hfamily⟩, rfl, rfl⟩
  refine ⟨⟨e, hrefused, ((unchanged_of_failure e).1 _ _ _ _ hrefused).1 ?_⟩, _, hadded,
    ((unchanged_of_failure e).1 _ _ _ _ hadded).2 hadds, rfl⟩
  rintro ⟨⟨f, hf⟩, -⟩
  simp [hint16] at hf

end TypedScalar.Registry
