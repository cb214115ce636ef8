import TypedScalar.Proofs.Association
import TypedScalar.Proofs.Registry.Queries

/-! A registry is what its changes have made of it. The class of a kind is that of its last registration if
no removal followed, and the kinds stand in the order in which they last became present: registering over a
class keeps the place of its kind, and a kind that was removed and registered again stands last. -/

namespace TypedScalar

open Association (lookup_cons lookup_mapValues)

/-- The kind that is spelled by a value: a descriptor, an identifier, a name or an alias. -/
def Kind.spelled? (t : Value) : Option Kind := (DataType.denoted? t).bind DataType.kind?

theorem Kind.spelled?_eq_some_iff {k : Kind} {t : Value} :
    Kind.spelled? t = some k ↔ DataType.denoted? t = some (.concrete k) := by
  rw [Kind.spelled?, Option.bind_eq_some_iff]
  constructor
  · rintro ⟨d, hd, hk⟩
    cases d with
    | concrete j => rw [hd, Option.some.inj hk]
    | abstract f => cases hk
  · intro hd
    exact ⟨_, hd, rfl⟩

namespace Registry

variable {r : Registry} {key key' : Option Kind} {c : ScalarClass} {j k : Kind}

/-! ### Keys -/

def keys (r : Registry) : List (Option Kind) := r.entries.map Prod.fst

theorem mem_keys_iff : key ∈ r.keys ↔ r.contains key = true := by
  rw [keys, contains, find?, List.mem_map]
  constructor
  · rintro ⟨x, hx, rfl⟩
    by_contra hnone
    rw [Option.not_isSome_iff_eq_none, List.lookup_eq_none_iff] at hnone
    simpa using hnone x hx
  · intro hsome
    obtain ⟨c, hc⟩ := Option.isSome_iff_exists.1 hsome
    obtain ⟨before, after, hentries, -⟩ := List.lookup_eq_some_iff.1 hc
    exact ⟨(key, c), by simp [hentries], rfl⟩

theorem keys_insert : (r.insert key c).keys = if r.contains key then r.keys else r.keys ++ [key] := by
  unfold insert keys
  split_ifs with hcontains
  · rw [List.map_map]
    refine List.map_congr_left fun x _ => ?_
    rw [Function.comp_apply]
    split_ifs with hx
    · exact hx.symm
    · rfl
  · rw [List.map_append, List.map_singleton]

theorem keys_erase : (r.erase key).keys = r.keys.filter (· ≠ key) := by
  rw [keys, erase, keys, List.filter_map]
  rfl

theorem lookup_overwrite (entries : List (Option Kind × ScalarClass)) :
    (entries.map fun x => if x.1 = key then (key, c) else x).lookup key' =
      if key' = key then (entries.lookup key).map fun _ => c else entries.lookup key' := by
  have hmap : (entries.map fun x => if x.1 = key then (key, c) else x) =
      entries.map fun x => (x.1, if x.1 = key then c else x.2) := by
    refine List.map_congr_left fun x _ => ?_
    by_cases hx : x.1 = key <;> simp [hx]
  rw [hmap, lookup_mapValues fun a v => if a = key then c else v]
  by_cases hkey : key' = key
  · subst hkey
    simp
  · simp [hkey]

theorem find?_insert : (r.insert key c).find? key' = if key' = key then some c else r.find? key' := by
  unfold insert
  by_cases hcontains : r.contains key = true
  · obtain ⟨c', hc'⟩ := contains_iff.1 hcontains
    rw [find?] at hc'
    rw [if_pos hcontains, find?, lookup_overwrite, hc', Option.map_some, find?]
  · have habsent : r.entries.lookup key = none := Option.not_isSome_iff_eq_none.1 hcontains
    rw [if_neg hcontains, find?, List.lookup_append, lookup_cons, List.lookup_nil, find?]
    split_ifs with hkey
    · rw [hkey, habsent, Option.none_or]
    · rw [Option.or_none]

theorem find?_erase : (r.erase key).find? key' = if key' = key then none else r.find? key' := by
  obtain ⟨entries⟩ := r
  rw [find?, erase, find?]
  induction entries with
  | nil => simp
  | cons x rest ih =>
    rw [lookup_cons]
    by_cases hx : x.1 = key
    · rw [List.filter_cons_of_neg (by simp [hx]), ih]
      split_ifs with hkey hkey'
      · rfl
      · exact absurd (hkey'.trans hx) hkey
      · rfl
    · rw [List.filter_cons_of_pos (by simp [hx]), lookup_cons, ih]
      split_ifs with hkey hkey'
      · exact absurd (hkey.symm.trans hkey') hx
      · rfl
      · rfl
      · rfl

/-! ### Histories -/

/-- A change of the class of a kind. -/
inductive Change
  | put (k : Kind) (c : ScalarClass)
  | remove (k : Kind)
  deriving DecidableEq

namespace Change

def kind : Change → Kind
  | put k _ => k
  | remove k => k

def apply (r : Registry) : Change → Registry
  | put k c => r.insert (some k) c
  | remove k => r.erase (some k)

end Change

variable {h before after : List Change} {x y : Change} {m n : Nat}

/-- Whether the last change of a kind put a class. -/
def Holds (h : List Change) (k : Kind) (c : ScalarClass) : Prop :=
  ∃ before after, h = before ++ .put k c :: after ∧ ∀ x ∈ after, x.kind ≠ k

def Present (h : List Change) (k : Kind) : Prop := ∃ c, Holds h k c

/-- Whether a kind was absent before the change of a number, which put a class for it, and was not removed
after it. -/
def PresentSince (h : List Change) (k : Kind) (n : Nat) : Prop :=
  ∃ before c after, h = before ++ .put k c :: after ∧ before.length = n ∧ ¬ Present before k ∧ .remove k ∉ after

/-- Whether of two kinds the first was present earlier. -/
def Precedes (h : List Change) (j k : Kind) : Prop := ∀ m n, PresentSince h j m → PresentSince h k n → m < n

theorem snoc_eq_append_cons_iff :
    h ++ [x] = before ++ y :: after ↔
      (h = before ∧ x = y ∧ after = []) ∨ ∃ rest, after = rest ++ [x] ∧ h = before ++ y :: rest := by
  constructor
  · intro heq
    rcases List.eq_nil_or_concat after with rfl | ⟨rest, z, rfl⟩
    · obtain ⟨hbefore, hx⟩ := List.append_singleton_inj.1 heq
      exact .inl ⟨hbefore, hx, rfl⟩
    · rw [List.concat_eq_append, ← List.cons_append, ← List.append_assoc] at heq
      obtain ⟨hrest, rfl⟩ := List.append_singleton_inj.1 heq
      exact .inr ⟨rest, List.concat_eq_append, hrest⟩
  · rintro (⟨rfl, rfl, rfl⟩ | ⟨rest, rfl, rfl⟩)
    · rfl
    · rw [List.append_assoc, List.cons_append]

theorem not_holds_nil : ¬ Holds [] k c := by
  rintro ⟨before, after, heq, -⟩
  simp at heq

theorem holds_snoc : Holds (h ++ [x]) k c ↔ x = .put k c ∨ x.kind ≠ k ∧ Holds h k c := by
  constructor
  · rintro ⟨before, after, heq, hafter⟩
    rcases snoc_eq_append_cons_iff.1 heq with ⟨-, rfl, -⟩ | ⟨rest, rfl, rfl⟩
    · exact .inl rfl
    · rw [List.forall_mem_append] at hafter
      exact .inr ⟨hafter.2 x List.mem_cons_self, before, rest, rfl, hafter.1⟩
  · rintro (rfl | ⟨hx, before, after, rfl, hafter⟩)
    · exact ⟨h, [], rfl, by simp⟩
    · refine ⟨before, after ++ [x], by simp, List.forall_mem_append.2 ⟨hafter, ?_⟩⟩
      simpa using hx

theorem presentSince_snoc :
    PresentSince (h ++ [x]) k n ↔
      ((∃ c, x = .put k c) ∧ ¬ Present h k ∧ h.length = n) ∨ x ≠ .remove k ∧ PresentSince h k n := by
  constructor
  · rintro ⟨before, c, after, heq, hlength, habsent, hafter⟩
    rcases snoc_eq_append_cons_iff.1 heq with ⟨rfl, rfl, -⟩ | ⟨rest, rfl, rfl⟩
    · exact .inl ⟨⟨c, rfl⟩, habsent, hlength⟩
    · rw [List.mem_append, List.mem_singleton, not_or] at hafter
      exact .inr ⟨Ne.symm hafter.2, before, c, rest, rfl, hlength, habsent, hafter.1⟩
  · rintro (⟨⟨c, rfl⟩, habsent, hlength⟩ | ⟨hx, before, c, after, rfl, hlength, habsent, hafter⟩)
    · exact ⟨h, c, [], rfl, hlength, habsent, by simp⟩
    · refine ⟨before, c, after ++ [x], by simp, hlength, habsent, ?_⟩
      simpa [hafter] using hx.symm

theorem PresentSince.lt_length (hk : PresentSince h k n) : n < h.length := by
  obtain ⟨before, c, after, rfl, rfl, -⟩ := hk
  rw [List.length_append, List.length_cons]
  omega

theorem present_snoc : Present (h ++ [x]) k ↔ (∃ c, x = .put k c) ∨ x.kind ≠ k ∧ Present h k := by
  simp only [Present, holds_snoc, exists_or, exists_and_left]

/-- A kind is present if it has been so since some change. -/
theorem present_iff_presentSince : Present h k ↔ ∃ n, PresentSince h k n := by
  induction h using List.reverseRecOn with
  | nil => simp [Present, not_holds_nil, PresentSince]
  | append_singleton h x ih =>
    rw [present_snoc]
    simp only [presentSince_snoc]
    constructor
    · rintro (hput | ⟨hx, hpresent⟩)
      · by_cases hpresent : Present h k
        · obtain ⟨c, rfl⟩ := hput
          exact (ih.1 hpresent).imp fun n hn => .inr ⟨nofun, hn⟩
        · exact ⟨h.length, .inl ⟨hput, hpresent, rfl⟩⟩
      · refine (ih.1 hpresent).imp fun n hn => .inr ⟨?_, hn⟩
        rintro rfl
        exact hx rfl
    · rintro ⟨n, ⟨hput, -, -⟩ | ⟨hx, hn⟩⟩
      · exact .inl hput
      · by_cases hkind : x.kind = k
        · cases x with
          | put j c => exact .inl ⟨c, by rw [← hkind]; rfl⟩
          | remove j => exact absurd (by rw [← hkind]; rfl) hx
        · exact .inr ⟨hkind, ih.2 ⟨n, hn⟩⟩

theorem precedes_irrefl (hk : Present h k) : ¬ Precedes h k k := by
  obtain ⟨n, hn⟩ := present_iff_presentSince.1 hk
  exact fun hprecedes => Nat.lt_irrefl n (hprecedes n n hn hn)

/-! ### What follows a history -/

/-- Whether a registry is what changes make of an empty one: it holds the last class of each kind, and its
kinds in the order in which they became present. -/
structure Follows (r : Registry) (h : List Change) : Prop where
  find : ∀ k c, r.find? (some k) = some c ↔ Holds h k c
  ordered : ∃ kinds : List Kind, r.keys = kinds.map some ∧ kinds.Pairwise (Precedes h)

theorem Follows.contains_iff (hr : r.Follows h) : r.contains (some k) = true ↔ Present h k := by
  rw [Registry.contains_iff]
  exact exists_congr (hr.find k)

theorem Follows.mem_iff (hr : r.Follows h) {kinds : List Kind} (hkinds : r.keys = kinds.map some) :
    k ∈ kinds ↔ Present h k := by
  rw [← hr.contains_iff, ← mem_keys_iff, hkinds]
  simp

theorem follows_nil : Follows ⟨[]⟩ [] :=
  ⟨fun _ _ => iff_of_false nofun not_holds_nil, [], rfl, .nil⟩

/-- No change alters the order of two kinds that are present: if it puts a class for one of them, the kind has
been present since before. -/
theorem Precedes.snoc (hprecedes : Precedes h j k) (hj : Present h j) (hk : Present h k) :
    Precedes (h ++ [x]) j k := by
  intro m n hm hn
  rcases presentSince_snoc.1 hm with ⟨-, habsent, -⟩ | ⟨-, hm⟩
  · exact absurd hj habsent
  rcases presentSince_snoc.1 hn with ⟨-, habsent, -⟩ | ⟨-, hn⟩
  · exact absurd hk habsent
  exact hprecedes m n hm hn

/-- A kind that becomes present stands last. -/
theorem precedes_snoc_put (hj : Present h j) (hk : ¬ Present h k) : Precedes (h ++ [.put k c]) j k := by
  intro m n hm hn
  rcases presentSince_snoc.1 hm with ⟨-, habsent, -⟩ | ⟨-, hm⟩
  · exact absurd hj habsent
  rcases presentSince_snoc.1 hn with ⟨-, -, rfl⟩ | ⟨-, hn⟩
  · exact hm.lt_length
  · exact absurd (present_iff_presentSince.2 ⟨n, hn⟩) hk

theorem Follows.pairwise_snoc (hr : r.Follows h) {kinds : List Kind} (hkinds : r.keys = kinds.map some)
    (hordered : kinds.Pairwise (Precedes h)) (x : Change) : kinds.Pairwise (Precedes (h ++ [x])) := by
  have hpresent (k : Kind) (hk : k ∈ kinds) : Present h k := (hr.mem_iff hkinds).1 hk
  exact hordered.imp_of_mem fun hj hk hprecedes => hprecedes.snoc (hpresent _ hj) (hpresent _ hk)

theorem Follows.put (hr : r.Follows h) (k : Kind) (c : ScalarClass) :
    (r.insert (some k) c).Follows (h ++ [.put k c]) := by
  obtain ⟨kinds, hkinds, hordered⟩ := hr.ordered
  have hkept := hr.pairwise_snoc hkinds hordered (.put k c)
  refine ⟨fun j c' => ?_, ?_⟩
  · rw [find?_insert, holds_snoc]
    by_cases hj : j = k
    · subst hj
      simp [Change.kind]
    · simp [hj, Ne.symm hj, Change.kind, hr.find]
  · rw [keys_insert]
    split_ifs with hcontains
    · exact ⟨kinds, hkinds, hkept⟩
    · refine ⟨kinds ++ [k], by rw [hkinds, List.map_append, List.map_singleton], ?_⟩
      refine List.pairwise_append.2 ⟨hkept, List.pairwise_singleton _ _, fun j hj k' hk' => ?_⟩
      obtain rfl := List.mem_singleton.1 hk'
      exact precedes_snoc_put ((hr.mem_iff hkinds).1 hj) (mt hr.contains_iff.2 hcontains)

theorem Follows.remove (hr : r.Follows h) (k : Kind) : (r.erase (some k)).Follows (h ++ [.remove k]) := by
  obtain ⟨kinds, hkinds, hordered⟩ := hr.ordered
  refine ⟨fun j c => ?_, kinds.filter (· ≠ k), ?_, ?_⟩
  · rw [find?_erase, holds_snoc]
    by_cases hj : j = k
    · subst hj
      simp [Change.kind]
    · simp [hj, Ne.symm hj, Change.kind, hr.find]
  · rw [keys_erase, hkinds, List.filter_map]
    simp only [Function.comp_def, ne_eq, Option.some.injEq]
  · exact (hr.pairwise_snoc hkinds hordered (.remove k)).sublist List.filter_sublist

theorem Follows.apply (hr : r.Follows h) (x : Change) : (x.apply r).Follows (h ++ [x]) := by
  cases x with
  | put k c => exact hr.put k c
  | remove k => exact hr.remove k

theorem Follows.foldl (hr : r.Follows h) (changes : List Change) :
    (changes.foldl Change.apply r).Follows (h ++ changes) := by
  induction changes generalizing r h with
  | nil => rwa [List.append_nil]
  | cons x rest ih =>
    rw [List.append_cons]
    exact ih (hr.apply x)

/-- The registrations that the built-in registry starts with. -/
def founding : List Change := Kind.all.map fun k => .put k (.concrete k)

theorem follows_builtIn : builtIn.Follows founding := by
  have hbuilt : founding.foldl Change.apply ⟨[]⟩ = builtIn := by decide +kernel
  exact hbuilt ▸ follows_nil.foldl founding

/-! ### Calls -/

/-- A call that registers a class for a type, or unregisters a type. -/
inductive Call
  | register (t : Value) (c : ScalarClass)
  | unregister (t : Value)

namespace Call

def type : Call → Value
  | register t _ | unregister t => t

def perform : Call → Action Unit
  | register t c => Registry.register t c
  | unregister t => Registry.unregister t

/-- The change that a call is to make. A type that is no kind asks for none, and neither does a class that
does not hold the kind. -/
def change? : Call → Option Change
  | register t c => (Kind.spelled? t).bind fun k => if c.kind? = some k then some (.put k c) else none
  | unregister t => (Kind.spelled? t).map .remove

end Call

/-- Performs calls in turn, those that fail among them. -/
def run (calls : List Call) (e : Environment) : Environment :=
  calls.foldl (fun e x => (x.perform.outcome e).2) e

variable {e : Environment}

theorem erase_of_absent (h : r.contains key = false) : r.erase key = r := by
  have hall : ∀ x ∈ r.entries, x.1 ≠ key := by
    rintro x hx rfl
    simp [mem_keys_iff.1 (List.mem_map_of_mem hx)] at h
  rw [erase, List.filter_eq_self.2 fun x hx => by simpa using hall x hx]

/-- All that a call can come to: it makes its change, or it asks for none and fails. -/
inductive Performing (e : Environment) (x : Call) : Except Error Unit × Environment → Prop
  | accepted {y : Change} (h : x.change? = some y) (log : List Record) :
    Performing e x (.ok (), { e with registry := y.apply e.registry, log := log })
  | rejected (h : x.change? = none) (err : Error) : Performing e x (.error err, e)

/-- The kind of a type that is no family is that of the descriptor it resolves to, if it resolves. -/
theorem spelled?_eq {t : Value} (ht : ∀ f, t ≠ .dataType (.abstract f)) (r : Rendering) :
    (∃ k, Kind.spelled? t = some k ∧ DataType.resolve r t = .ok (.concrete k)) ∨
      ∃ err, Kind.spelled? t = none ∧ DataType.resolve r t = .error err := by
  cases hresolve : DataType.resolve r t with
  | ok d =>
    have hd := Config.resolve_eq_ok_iff.1 hresolve
    cases d with
    | concrete k => exact .inl ⟨k, Kind.spelled?_eq_some_iff.2 hd, rfl⟩
    | abstract f => exact absurd (DataType.denoted?_eq_abstract_iff.1 hd) (ht f)
  | error err =>
    refine .inr ⟨err, ?_, rfl⟩
    by_contra hsome
    obtain ⟨k, hk⟩ := Option.ne_none_iff_exists'.1 hsome
    rw [Config.resolve_eq_ok_iff.2 (Kind.spelled?_eq_some_iff.1 hk)] at hresolve
    cases hresolve

theorem perform_outcome {x : Call} (hx : ∀ f, x.type ≠ .dataType (.abstract f)) (e : Environment) :
    Performing e x (x.perform.outcome e) := by
  cases x with
  | register t c =>
    have ht : ∀ f, t ≠ .dataType (.abstract f) := hx
    rcases spelled?_eq ht e.rendering with ⟨k, hk, hresolve⟩ | ⟨err, hk, hresolve⟩
    · by_cases hc : c.kind? = some k
      · rw [Call.perform, register_kind hresolve hc]
        exact .accepted (y := .put k c) (by rw [Call.change?, hk, Option.bind_some, if_pos hc]) _
      · rw [Call.perform, register_mismatched hresolve hc]
        exact .rejected (by rw [Call.change?, hk, Option.bind_some, if_neg hc]) _
    · rw [Call.perform, register_unresolved hresolve]
      exact .rejected (by rw [Call.change?, hk, Option.bind_none]) err
  | unregister t =>
    have ht : ∀ f, t ≠ .dataType (.abstract f) := hx
    rcases spelled?_eq ht e.rendering with ⟨k, hk, hresolve⟩ | ⟨err, hk, hresolve⟩
    · have hchange : (Call.unregister t).change? = some (.remove k) := by rw [Call.change?, hk, Option.map_some]
      cases hcontains : e.registry.contains (some k) with
      | true =>
        rw [Call.perform, unregister_kind hresolve hcontains]
        exact .accepted hchange _
      | false =>
        have hsame : (Change.remove k).apply e.registry = e.registry := erase_of_absent hcontains
        have houtcome : Performing e (.unregister t)
            (.ok (), { e with registry := (Change.remove k).apply e.registry, log := e.log }) :=
          .accepted hchange _
        rw [hsame] at houtcome
        rw [Call.perform, unregister_absent hresolve hcontains]
        exact houtcome
    · rw [Call.perform, unregister_unresolved hresolve]
      exact .rejected (by rw [Call.change?, hk, Option.map_none]) err

theorem run_follows (hr : e.registry.Follows h) {calls : List Call}
    (hcalls : ∀ x ∈ calls, ∀ f, x.type ≠ .dataType (.abstract f)) :
    (run calls e).registry.Follows (h ++ calls.filterMap Call.change?) := by
  induction calls generalizing e h with
  | nil => rwa [List.filterMap_nil, List.append_nil]
  | cons x rest ih =>
    rw [List.forall_mem_cons] at hcalls
    have hperform := perform_outcome hcalls.1 e
    rw [run, List.foldl_cons, ← run]
    generalize x.perform.outcome e = result at hperform ⊢
    cases hperform with
    | @accepted y hy log =>
      rw [List.filterMap_cons_some hy, List.append_cons]
      exact ih (hr.apply y) hcalls.2
    | rejected hnone err =>
      rw [List.filterMap_cons_none hnone]
      exact ih hr hcalls.2

/-- Whether the answers about the kinds of a registry are those of a history. -/
structure Answers (e : Environment) (h : List Change) : Prop where
  listed : ∃ kinds : List Kind, listTypes.outcome e = (.ok (kinds.map Kind.name), e) ∧ kinds.Nodup ∧
    (∀ k, k ∈ kinds ↔ ∃ n, PresentSince h k n) ∧ kinds.Pairwise (Precedes h)
  found : ∀ k t, Kind.spelled? t = some k → ∀ c, (lookup t).outcome e = (.ok c, e) ↔ Holds h k c
  agreed : ∀ (k : Kind) t, Kind.spelled? t = some k → ∃ b names, (isRegistered t).outcome e = (.ok b, e) ∧
    listTypes.outcome e = (.ok names, e) ∧ (b = true ↔ k.name ∈ names) ∧
    (b = true ↔ ∃ c, (lookup t).outcome e = (.ok c, e))

theorem Follows.answers (hr : e.registry.Follows h) : Answers e h := by
  obtain ⟨kinds, hkinds, hordered⟩ := hr.ordered
  have hmem (k : Kind) : k ∈ kinds ↔ Present h k := hr.mem_iff hkinds
  have hlisted : listTypes.outcome e = (.ok (kinds.map Kind.name), e) := by
    have hnone : e.registry.contains none = false := by
      rw [← Bool.not_eq_true, ← mem_keys_iff, hkinds]
      simp
    have hnames : e.registry.entries.filterMap (fun x => x.1.map Kind.name) = kinds.map Kind.name := by
      have hkeys := congrArg (List.filterMap fun key => key.map Kind.name) hkinds
      simpa [keys, List.filterMap_map, Function.comp_def] using hkeys
    rw [listTypes_outcome, names_eq, hnone, if_neg Bool.false_ne_true, hnames]
  have hfound (k : Kind) (t : Value) (ht : Kind.spelled? t = some k) (c : ScalarClass) :
      (lookup t).outcome e = (.ok c, e) ↔ Holds h k c := by
    rw [lookup_denoted (Kind.spelled?_eq_some_iff.1 ht), ← hr.find, Prod.mk.injEq, classFor_eq_ok_iff]
    exact and_iff_left rfl
  refine ⟨⟨kinds, hlisted, ?_, fun k => (hmem k).trans present_iff_presentSince, hordered⟩, hfound,
    fun k t ht => ?_⟩
  · refine hordered.imp_of_mem fun hj hk hprecedes => ?_
    rintro rfl
    exact precedes_irrefl ((hmem _).1 hj) hprecedes
  · refine ⟨_, _, isRegistered_denoted (Kind.spelled?_eq_some_iff.1 ht), hlisted, ?_, ?_⟩
    · rw [List.mem_map_of_injective Kind.name_injective, hmem]
      exact hr.contains_iff
    · simp only [hfound k t ht]
      exact hr.contains_iff

theorem resolve_congr {t t' : Value} (ht : Kind.spelled? t = some k) (ht' : Kind.spelled? t' = some k)
    (r : Rendering) : DataType.resolve r t = DataType.resolve r t' :=
  (Config.resolve_eq_ok_iff.2 (Kind.spelled?_eq_some_iff.1 ht)).trans
    (Config.resolve_eq_ok_iff.2 (Kind.spelled?_eq_some_iff.1 ht')).symm

/-- The answers about a registry after any calls, none of them on a family, are those of the changes that
the calls were to make: the first registrations and then those of the calls that are accepted. Descriptors,
identifiers, names and aliases of one kind make the same call. -/
theorem run_answers {calls : List Call} (hcalls : ∀ x ∈ calls, ∀ f, x.type ≠ .dataType (.abstract f))
    (he : e.registry = builtIn) :
    Answers (run calls e) (founding ++ calls.filterMap Call.change?) ∧
    (∀ x ∈ calls, ∀ e, (∃ e', x.perform.outcome e = (.ok (), e')) ↔ ∃ y, x.change? = some y) ∧
    (∀ k t t', Kind.spelled? t = some k → Kind.spelled? t' = some k →
      register t = register t' ∧ unregister t = unregister t' ∧ lookup t = lookup t' ∧
      isRegistered t = isRegistered t') ∧
    ∀ k, Kind.spelled? (.dataType (.concrete k)) = some k ∧ Kind.spelled? (.typeId k) = some k ∧
      Kind.spelled? (.text k.name) = some k ∧
      ∀ s, (s, k) ∈ Kind.aliases → Kind.spelled? (.text s) = some k := by
  refine ⟨?_, fun x hx e => ?_, fun k t t' ht ht' => ?_, fun k => ⟨rfl, rfl, ?_, fun s hs => ?_⟩⟩
  · exact (run_follows (he ▸ follows_builtIn) hcalls).answers
  · have hperform := perform_outcome (hcalls x hx) e
    generalize x.perform.outcome e = result at hperform
    cases hperform with
    | accepted h log => simp [h]
    | rejected h err => simp [h]
  · have hresolve : resolve t = resolve t' := by simp only [resolve, resolve_congr ht ht']
    refine ⟨funext fun c => ?_, ?_, ?_, ?_⟩
    · rw [register, hresolve, ← register]
    · rw [unregister, hresolve, ← unregister]
    · rw [lookup, hresolve, ← lookup]
    · simp only [isRegistered, resolve_congr ht ht']
  · have hdenoted : DataType.denoted? (.text k.name) = some (.concrete k) := by
      simp [DataType.denoted?, Value.text?, Kind.ofName?_name]
    exact Kind.spelled?_eq_some_iff.2 hdenoted
  · have haliases : ∀ x ∈ Kind.aliases, Kind.ofName? x.1 = some x.2 := by decide +kernel
    have hdenoted : DataType.denoted? (.text s) = some (.concrete k) := by
      simp [DataType.denoted?, Value.text?, haliases _ hs]
    exact Kind.spelled?_eq_some_iff.2 hdenoted

/-- A kind that was removed and registered again has its new class and stands last. -/
theorem run_answers_readded :
    let int8 : Kind := .integer ⟨true, .w8⟩
    let narrow : ScalarClass := .subclass "Narrow" (.concrete int8)
    let calls : List Call :=
      [.unregister (.text " INT8 "), .register (.text "string") narrow, .register (.typeId int8) narrow]
    let h := founding ++ [.remove int8, .put int8 narrow]
    let e := run calls .initial
    Answers e h ∧ (lookup (.text "int8")).outcome e = (.ok narrow, e) ∧
      ∀ k, k ≠ int8 → Present h k → Precedes h k int8 := by
  intro int8 narrow calls h e
  have hcalls : ∀ x ∈ calls, ∀ f, x.type ≠ .dataType (.abstract f) := by simp [calls, Call.type]
  have hchanges : calls.filterMap Call.change? = [.remove int8, .put int8 narrow] := by decide +kernel
  obtain ⟨hanswers, -⟩ := run_answers (e := .initial) hcalls rfl
  rw [hchanges] at hanswers
  have hsplit : h = (founding ++ [.remove int8]) ++ [.put int8 narrow] := by simp [h]
  have hlast : Holds h int8 narrow := hsplit ▸ holds_snoc.2 (.inl rfl)
  refine ⟨hanswers, (hanswers.found int8 _ (by decide +kernel) narrow).2 hlast, fun k hk hpresent => ?_⟩
  have habsent : ¬ Present (founding ++ [.remove int8]) int8 := by
    rw [present_snoc]
    simp [Change.kind]
  rw [hsplit, present_snoc] at hpresent
  rw [hsplit]
  refine precedes_snoc_put ?_ habsent
  rcases hpresent with ⟨c, hput⟩ | ⟨-, hpresent⟩
  · exact absurd (congrArg Change.kind hput).symm hk
  · exact hpresent

end Registry

end TypedScalar
