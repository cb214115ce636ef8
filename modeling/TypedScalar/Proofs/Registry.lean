import Mathlib.Tactic.SplitIfs
import TypedScalar.Proofs.Registry.Change

/-! The registry as a map. Every class that is registered holds the kind it is
registered for; registering checks this, and nothing else adds a class. So it is
in every registry that can be reached from the built-in one. -/

namespace TypedScalar

theorem Kind.mem_all (k : Kind) : k ∈ Kind.all := by
  cases k with
  | integer i =>
    obtain ⟨signed, width⟩ := i
    cases signed <;> cases width <;> decide
  | floating k => cases k <;> decide
  | _ => decide

/-- Every kind is known by its name. -/
theorem Kind.ofName?_name (k : Kind) : Kind.ofName? k.name = some k := by
  have hall : ∀ k ∈ Kind.all, Kind.ofName? k.name = some k := by decide +kernel
  exact hall k k.mem_all

theorem Kind.name_injective : Function.Injective Kind.name := by
  intro j k hname
  have hj := j.ofName?_name
  rw [hname, k.ofName?_name] at hj
  exact (Option.some.inj hj).symm

theorem DataType.resolve_name (r : Rendering) (k : Kind) :
    DataType.resolve r (.text k.name) = .ok (.concrete k) := by
  simp only [DataType.resolve, Value.text?, Kind.ofName?_name]

namespace Registry

variable {r : Registry} {key : Option Kind} {c : ScalarClass}

/-- Every class that is registered holds the kind it is registered for. -/
def Sound (r : Registry) : Prop := ∀ x ∈ r.entries, x.2.kind? = x.1

theorem Sound.kind?_eq (h : r.Sound) (hc : r.find? key = some c) : c.kind? = key := by
  obtain ⟨before, after, hentries, -⟩ := List.lookup_eq_some_iff.1 hc
  exact h (key, c) (by simp [hentries])

theorem sound_builtIn : builtIn.Sound := by
  intro x hx
  obtain ⟨k, -, rfl⟩ := List.mem_map.1 hx
  rfl

theorem Sound.insert (h : r.Sound) (hc : c.kind? = key) : (r.insert key c).Sound := by
  unfold Registry.insert
  split_ifs with hcontains
  · intro x hx
    obtain ⟨y, hy, rfl⟩ := List.mem_map.1 hx
    by_cases hkey : y.1 = key
    · rw [if_pos hkey]
      exact hc
    · rw [if_neg hkey]
      exact h y hy
  · intro x hx
    rcases List.mem_append.1 hx with hx | hx
    · exact h x hx
    · rw [List.mem_singleton.1 hx]
      exact hc

theorem Sound.erase (h : r.Sound) (key : Option Kind) : (r.erase key).Sound := fun x hx =>
  h x ((List.mem_filter.1 hx).1)

variable {e : Environment}

/-- A class is only added where it holds the kind, even if the call fails then. -/
theorem Sound.register (h : e.registry.Sound) (t : Value) (c : ScalarClass) :
    ((Registry.register t c).outcome e).2.registry.Sound := by
  have houtcome := register_outcome e t c
  generalize (Registry.register t c).outcome e = outcome at houtcome ⊢
  cases houtcome with
  | unresolved | mismatched => exact h
  | kind _ hc => exact h.insert hc
  | family _ hc =>
    split_ifs
    · exact h
    · exact h.insert hc

theorem Sound.unregister (h : e.registry.Sound) (t : Value) :
    ((Registry.unregister t).outcome e).2.registry.Sound := by
  have houtcome := unregister_outcome e t
  generalize (Registry.unregister t).outcome e = outcome at houtcome ⊢
  cases houtcome with
  | unresolved | absent => exact h
  | kind | family => exact h.erase _

/-- The registries that calls make of the built-in one, in turn, failing calls
among them. The settings may change in between. -/
inductive Reachable : Registry → Prop
  | builtIn : Reachable builtIn
  | register {e : Environment} (h : Reachable e.registry) (t : Value) (c : ScalarClass) :
    Reachable ((Registry.register t c).outcome e).2.registry
  | unregister {e : Environment} (h : Reachable e.registry) (t : Value) :
    Reachable ((Registry.unregister t).outcome e).2.registry

theorem Reachable.sound (h : r.Reachable) : r.Sound := by
  induction h with
  | builtIn => exact sound_builtIn
  | register _ t c ih => exact ih.register t c
  | unregister _ t ih => exact ih.unregister t

end Registry

end TypedScalar
