import Mathlib.Order.Interval.Set.Nat
import TypedScalar.Proofs.Scalar.Equality
import TypedScalar.Scalar.Hash

/-! Scalars and data types as keys of a dictionary. Equal ones have the same hash, so that
what shares a key is one scalar or equal, which is an equivalence, NaNs included. Keys
are numbered as they are first seen; another order renumbers them. -/

namespace TypedScalar

/-! ### Hashes -/

namespace HashKey

mutual

@[simp] theorem same_self : ∀ k : HashKey, k.same k = true
  | nothing => rfl
  | number n => beq_self_eq_true n
  | memory b => beq_self_eq_true b
  | duration n => beq_self_eq_true n
  | date s => beq_self_eq_true s
  | tuple items => by rw [same, sameItems_self items]

theorem sameItems_self : ∀ ks : List HashKey, sameItems ks ks = true
  | [] => rfl
  | k :: ks => by rw [sameItems, same_self k, sameItems_self ks, Bool.and_true]

end

/-- The zeros of either sign are hashed alike. -/
theorem ofReal?_zero (negative : Bool) : ofReal? (.zero negative) = some (number 0) := by
  have hresidue : Residue.ofDouble (.zero negative) = 0 := by
    cases negative <;> decide +kernel
  rw [ofReal?, hresidue]
  rfl

theorem ofPayload_eq {k : Kind} {p q : k.Payload} (h : k.SamePayload p q) : ofPayload k p = ofPayload k q := by
  cases k with
  | floating f =>
    have hequals := Floating.Number.equals_iff_sameValue.2 h
    obtain ⟨-, rfl | ⟨hx, hy⟩⟩ := Floating.Number.equals_iff.1 hequals
    · rfl
    · obtain ⟨s, rfl⟩ := Floating.Number.isZero_iff.1 hx
      obtain ⟨t, rfl⟩ := Floating.Number.isZero_iff.1 hy
      simp only [ofPayload, f.toDouble_zero, ofReal?_zero]
  | null | boolean | integer | string | binary => exact congrArg _ h

end HashKey

theorem Scalar.Equal.hashKey_eq {a b : Scalar} (h : Equal a b) : a.hashKey = b.hashKey := by
  cases h with
  | null hc hd => rfl
  | valid hc hd h => simp [hashKey, HashKey.ofPayload_eq h]

/-! ### Keys -/

/-- What is used as a key: a scalar, which is told by its number, or a data type. -/
inductive KeyItem
  | scalar (number : ℕ)
  | dataType (d : DataType)
  deriving Inhabited

namespace KeyItem

variable (objects : ℕ → Scalar)

/-- The value of a key, given the scalars of all numbers: one number is one object. -/
def value : KeyItem → Value
  | scalar number => .scalar ⟨number, objects number⟩
  | dataType d => .dataType d

/-- Equality of keys. -/
inductive Equal : KeyItem → KeyItem → Prop
  | scalars {i j : ℕ} (h : Scalar.Equal (objects i) (objects j)) : Equal (scalar i) (scalar j)
  | dataTypes {d e : DataType} (h : d.kind? = e.kind?) : Equal (dataType d) (dataType e)

variable {objects} {a b c : KeyItem}

theorem compare_iff : Value.compare (a.value objects) (b.value objects) = .ok true ↔ Equal objects a b := by
  cases a with
  | scalar i =>
    cases b with
    | scalar j =>
      rw [value, value, Value.compare_scalars, Except.ok.injEq, Scalar.equal_iff]
      exact ⟨.scalars, fun h => by cases h; assumption⟩
    | dataType e =>
      rw [value, value, (Value.compare_scalar_other _ (by simp)).1]
      exact iff_of_false (by simp) nofun
  | dataType d =>
    cases b with
    | scalar j =>
      rw [value, value, (Value.compare_scalar_other _ (by simp)).2]
      exact iff_of_false (by simp) nofun
    | dataType e =>
      have hcompare : Value.compare (.dataType d) (.dataType e) = .ok (d.same e) := by
        simp [Value.compare, Value.quantity?, Value.equalsPlain]
      rw [value, value, hcompare, Except.ok.injEq, DataType.same, beq_iff_eq]
      exact ⟨.dataTypes, fun h => by cases h; assumption⟩

theorem Equal.symm (h : Equal objects a b) : Equal objects b a := by
  cases h with
  | scalars h => exact .scalars h.symm
  | dataTypes h => exact .dataTypes h.symm

theorem Equal.trans (h : Equal objects a b) (h' : Equal objects b c) : Equal objects a c := by
  cases h with
  | scalars h =>
    cases h' with
    | scalars h' => exact .scalars (h.trans h')
  | dataTypes h =>
    cases h' with
    | dataTypes h' => exact .dataTypes (h.trans h')

theorem Equal.sameKeys (h : Equal objects a b) :
    Value.sameKeys (a.value objects).hashKey? (b.value objects).hashKey? = true := by
  cases h with
  | scalars h =>
    rw [value, value, Value.hashKey?, Value.hashKey?, h.hashKey_eq]
    exact HashKey.same_self _
  | @dataTypes d e h =>
    cases d <;> cases e <;> simp_all [DataType.kind?, value, Value.hashKey?, Value.sameKeys]

theorem sameHash_of_equal (h : Equal objects a b) :
    Value.sameHash (a.value objects) (b.value objects) = .ok true := by
  have hhashable (a : KeyItem) : Value.unhashable? (a.value objects) = none := by
    cases a <;> rfl
  rw [Value.sameHash, hhashable a, hhashable b]
  exact congrArg Except.ok h.sameKeys

/-- Whether keys are one object or equal. -/
def SameKey (objects : ℕ → Scalar) (a b : KeyItem) : Prop :=
  a = b ∨ Value.compare (a.value objects) (b.value objects) = .ok true

theorem equals_iff : Value.equals (a.value objects) (b.value objects) = true ↔ Equal objects a b := by
  rw [← compare_iff, Value.equals]
  split <;> simp_all

theorem eq_of_isSame (h : (a.value objects).isSame (b.value objects) = true) : a = b := by
  cases a <;> cases b <;> simp_all [value, Value.isSame]

/-- A dictionary, which compares only what has the same hash, finds a key where there is one. -/
theorem sameKey_iff : Value.sameKey (a.value objects) (b.value objects) = true ↔ SameKey objects a b := by
  rw [Value.sameKey, Bool.or_eq_true, Bool.and_eq_true, equals_iff, SameKey, compare_iff]
  constructor
  · rintro (hsame | ⟨-, hequal⟩)
    · exact .inl (eq_of_isSame hsame)
    · exact .inr hequal
  · rintro (rfl | hequal)
    · cases a with
      | scalar i => exact .inl (beq_self_eq_true i)
      | dataType d => exact .inr ⟨Equal.sameKeys (.dataTypes rfl), .dataTypes rfl⟩
    · exact .inr ⟨hequal.sameKeys, hequal⟩

theorem SameKey.symm (h : SameKey objects a b) : SameKey objects b a := by
  rcases h with rfl | h
  · exact .inl rfl
  · exact .inr (compare_iff.2 (compare_iff.1 h).symm)

theorem SameKey.trans (h : SameKey objects a b) (h' : SameKey objects b c) : SameKey objects a c := by
  rcases h with rfl | h
  · exact h'
  · rcases h' with rfl | h'
    · exact .inr h
    · exact .inr (compare_iff.2 ((compare_iff.1 h).trans (compare_iff.1 h')))

/-- What is one key is an equivalence, also where NaNs are among the scalars. -/
def keySetoid (objects : ℕ → Scalar) : Setoid KeyItem where
  r := SameKey objects
  iseqv := ⟨fun _ => .inl rfl, SameKey.symm, SameKey.trans⟩

/-- The keys to which a list of items comes down. -/
def classes (objects : ℕ → Scalar) (items : List KeyItem) : Set (Quotient (keySetoid objects)) :=
  Quotient.mk _ '' {a | a ∈ items}

/-! ### Numbering -/

/-- Numbers for the items of a list: the same number for the same key, and the numbers
0, 1, … in the order in which they are first met. -/
structure Numbering (objects : ℕ → Scalar) (items : List KeyItem) (ν : KeyItem → ℕ) (count : ℕ) :
    Prop where
  eq_iff : ∀ a ∈ items, ∀ b ∈ items, ν a = ν b ↔ SameKey objects a b
  first : (items.map ν).eraseDups = List.range count

namespace Numbering

variable {items items' : List KeyItem} {ν ν' : KeyItem → ℕ} {count count' : ℕ}

theorem mem_iff (h : Numbering objects items ν count) {i : ℕ} : i < count ↔ ∃ a ∈ items, ν a = i := by
  rw [← List.mem_range, ← h.first, List.mem_eraseDups, List.mem_map]

/-- There are as many numbers as keys. -/
theorem ncard_classes (h : Numbering objects items ν count) : (classes objects items).ncard = count := by
  choose! rep hrep using fun i hi => (h.mem_iff (i := i)).1 hi
  let key (i : ℕ) : Quotient (keySetoid objects) := Quotient.mk _ (rep i)
  have himage : classes objects items = key '' Set.Iio count := by
    ext q
    constructor
    · rintro ⟨a, ha, rfl⟩
      have hlt : ν a < count := h.mem_iff.2 ⟨a, ha, rfl⟩
      refine ⟨ν a, hlt, Quotient.sound ?_⟩
      exact (h.eq_iff _ (hrep _ hlt).1 _ ha).1 (hrep _ hlt).2
    · rintro ⟨i, hi, rfl⟩
      exact ⟨rep i, (hrep i hi).1, rfl⟩
  have hinj : Set.InjOn key (Set.Iio count) := by
    intro i hi j hj hij
    have hkey : SameKey objects (rep i) (rep j) := Quotient.exact hij
    rw [← (hrep i hi).2, ← (hrep j hj).2]
    exact (h.eq_iff _ (hrep i hi).1 _ (hrep j hj).1).2 hkey
  rw [himage, hinj.ncard_image, Set.ncard_Iio_nat]

theorem count_eq_of_perm (h : Numbering objects items ν count) (h' : Numbering objects items' ν' count')
    (hperm : items'.Perm items) : count' = count := by
  have hclasses : classes objects items' = classes objects items := by
    simp only [classes, hperm.mem_iff]
  rw [← h.ncard_classes, ← h'.ncard_classes, hclasses]

/-- In another order, the items have the same keys under other numbers. -/
theorem exists_renumbering (h : Numbering objects items ν count) (h' : Numbering objects items' ν' count')
    (hperm : items'.Perm items) :
    ∃ π : ℕ → ℕ, Set.BijOn π (Set.Iio count) (Set.Iio count) ∧
      items'.map ν' = items'.map (π ∘ ν) := by
  obtain rfl := h.count_eq_of_perm h' hperm
  -- a number goes to the new number of some item that has it
  choose! rep hrep using fun i hi => (h.mem_iff (i := i)).1 hi
  have hkey {i : ℕ} {a : KeyItem} (hi : i < count') (ha : a ∈ items) :
      ν' (rep i) = ν' a ↔ i = ν a := by
    have hrep' := (hrep i hi).1
    rw [h'.eq_iff _ (hperm.mem_iff.2 hrep') _ (hperm.mem_iff.2 ha), ← h.eq_iff _ hrep' _ ha, (hrep i hi).2]
  refine ⟨fun i => ν' (rep i), ⟨fun i hi => ?_, fun i hi j hj hij => ?_, fun j hj => ?_⟩, ?_⟩
  · exact h'.mem_iff.2 ⟨rep i, hperm.mem_iff.2 (hrep i hi).1, rfl⟩
  · rw [← (hrep j hj).2]
    exact (hkey hi (hrep j hj).1).1 hij
  · obtain ⟨a, ha, rfl⟩ := h'.mem_iff.1 hj
    have ha' := hperm.mem_iff.1 ha
    have hlt : ν a < count' := h.mem_iff.2 ⟨a, ha', rfl⟩
    exact ⟨ν a, hlt, (hkey hlt ha').2 rfl⟩
  · refine List.map_congr_left fun a ha => ?_
    have ha' := hperm.mem_iff.1 ha
    exact ((hkey (h.mem_iff.2 ⟨a, ha', rfl⟩) ha').2 rfl).symm

end Numbering

/-! ### Insertion one after another -/

/-- The number of an item among keys. -/
def number (objects : ℕ → Scalar) (keys : List KeyItem) (a : KeyItem) : ℕ :=
  keys.findIdx fun k => Value.sameKey (k.value objects) (a.value objects)

/-- What is known of the keys once a list of items is inserted. -/
structure Keys (objects : ℕ → Scalar) (items keys : List KeyItem) : Prop where
  seen : ∀ a ∈ items, ∃ k ∈ keys, SameKey objects k a
  first : (items.map (number objects keys)).eraseDups = List.range keys.length

variable {items keys : List KeyItem}

theorem number_lt (h : ∃ k ∈ keys, SameKey objects k a) : number objects keys a < keys.length := by
  obtain ⟨k, hk, hsame⟩ := h
  exact List.findIdx_lt_length_of_exists ⟨k, hk, sameKey_iff.2 hsame⟩

theorem number_append (h : ∃ k ∈ keys, SameKey objects k a) :
    number objects (keys ++ [b]) a = number objects keys a := by
  rw [number, List.findIdx_append]
  exact if_pos (number_lt h)

theorem number_append_self (h : ∀ k ∈ keys, ¬ SameKey objects k a) :
    number objects (keys ++ [a]) a = keys.length := by
  have hnone : keys.findIdx (fun k => Value.sameKey (k.value objects) (a.value objects)) = keys.length := by
    refine List.findIdx_eq_length.2 fun k hk => ?_
    rw [Bool.eq_false_iff, ne_eq, sameKey_iff]
    exact h k hk
  have hself : Value.sameKey (a.value objects) (a.value objects) = true := sameKey_iff.2 (.inl rfl)
  rw [number, List.findIdx_append, hnone, if_neg (lt_irrefl _)]
  simp [hself]

theorem Keys.numbering (h : Keys objects items keys) :
    Numbering objects items (number objects keys) keys.length where
  first := h.first
  eq_iff a ha b hb := by
    constructor
    · intro hnumber
      have hlt := number_lt (h.seen a ha)
      have hlt' := number_lt (h.seen b hb)
      have hsame (a : KeyItem) (hlt : number objects keys a < keys.length) :
          SameKey objects (keys[number objects keys a]) a :=
        sameKey_iff.1 (List.findIdx_getElem (w := hlt))
      have hb' := hsame b hlt'
      simp only [← hnumber] at hb'
      exact (hsame a hlt).symm.trans hb'
    · intro hsame
      have hpredicate : (fun k : KeyItem => Value.sameKey (k.value objects) (a.value objects)) =
          fun k => Value.sameKey (k.value objects) (b.value objects) := by
        funext k
        rw [Bool.eq_iff_iff, sameKey_iff, sameKey_iff]
        exact ⟨fun h => h.trans hsame, fun h => h.trans hsame.symm⟩
      rw [number, number, hpredicate]

theorem eraseDups_append_of_mem {l : List ℕ} {n : ℕ} (h : n ∈ l) :
    (l ++ [n]).eraseDups = l.eraseDups := by
  simp [List.eraseDups_append, List.removeAll, h]

theorem eraseDups_append_of_not_mem {l : List ℕ} {n : ℕ} (h : n ∉ l) :
    (l ++ [n]).eraseDups = l.eraseDups ++ [n] := by
  simp [List.eraseDups_append, List.eraseDups_cons, List.removeAll, h]

/-- A value is found among the keys, or is a new key. -/
def insert (keys : List Value × List ℕ) (v : Value) : List Value × List ℕ :=
  match keys.1.findIdx? (Value.sameKey · v) with
  | some i => (keys.1, keys.2 ++ [i])
  | none => (keys.1 ++ [v], keys.2 ++ [keys.1.length])

theorem insert_of_seen (h : ∃ k ∈ keys, SameKey objects k a) (numbers : List ℕ) :
    insert (keys.map (value objects), numbers) (a.value objects) =
      (keys.map (value objects), numbers ++ [number objects keys a]) := by
  have hfind : (keys.map (value objects)).findIdx? (Value.sameKey · (a.value objects)) =
      some (number objects keys a) := by
    rw [List.findIdx?_map]
    exact List.findIdx?_eq_some_iff_findIdx_eq.2 ⟨number_lt h, rfl⟩
  simp only [insert, hfind]

theorem insert_of_new (h : ∀ k ∈ keys, ¬ SameKey objects k a) (numbers : List ℕ) :
    insert (keys.map (value objects), numbers) (a.value objects) =
      ((keys ++ [a]).map (value objects), numbers ++ [keys.length]) := by
  have hfind : (keys.map (value objects)).findIdx? (Value.sameKey · (a.value objects)) = none := by
    rw [List.findIdx?_map]
    refine List.findIdx?_eq_none_iff.2 fun k hk => ?_
    rw [Bool.eq_false_iff]
    exact fun hsame => h k hk (sameKey_iff.1 hsame)
  simp only [insert, hfind, List.map_append, List.map_singleton, List.length_map]

/-- The keys and the numbers after an insertion. -/
theorem insert_keys (h : Keys objects items keys) (a : KeyItem) :
    ∃ keys', insert (keys.map (value objects), items.map (number objects keys)) (a.value objects) =
        (keys'.map (value objects), (items ++ [a]).map (number objects keys')) ∧
      Keys objects (items ++ [a]) keys' := by
  by_cases hseen : ∃ k ∈ keys, SameKey objects k a
  · refine ⟨keys, ?_, fun b hb => ?_, ?_⟩
    · rw [insert_of_seen hseen, List.map_append, List.map_singleton]
    · rcases List.mem_append.1 hb with hb | hb
      · exact h.seen b hb
      · rwa [List.mem_singleton.1 hb]
    · have hmem : number objects keys a ∈ items.map (number objects keys) := by
        rw [← List.mem_eraseDups, h.first, List.mem_range]
        exact number_lt hseen
      rw [List.map_append, List.map_singleton, eraseDups_append_of_mem hmem, h.first]
  · have hnew : ∀ k ∈ keys, ¬ SameKey objects k a := by simpa using hseen
    have hmap : items.map (number objects (keys ++ [a])) = items.map (number objects keys) :=
      List.map_congr_left fun b hb => number_append (h.seen b hb)
    refine ⟨keys ++ [a], ?_, fun b hb => ?_, ?_⟩
    · rw [insert_of_new hnew, List.map_append, List.map_append, List.map_singleton, hmap, List.map_singleton,
        number_append_self hnew]
    · rcases List.mem_append.1 hb with hb | hb
      · obtain ⟨k, hk, hsame⟩ := h.seen b hb
        exact ⟨k, List.mem_append_left _ hk, hsame⟩
      · rw [List.mem_singleton.1 hb]
        exact ⟨a, by simp, .inl rfl⟩
    · have hmem : keys.length ∉ items.map (number objects keys) := by
        rw [← List.mem_eraseDups, h.first, List.mem_range]
        exact lt_irrefl _
      rw [List.map_append, List.map_singleton, hmap, number_append_self hnew,
        eraseDups_append_of_not_mem hmem, h.first, List.length_append, List.length_singleton, List.range_succ]

theorem foldl_insert (objects : ℕ → Scalar) (items : List KeyItem) :
    ∃ keys, (items.map (value objects)).foldl insert ([], []) =
        (keys.map (value objects), items.map (number objects keys)) ∧
      Keys objects items keys := by
  -- from the right, as each insertion is behind all others
  induction items using List.reverseRecOn with
  | nil => exact ⟨[], rfl, by simp, rfl⟩
  | append_singleton items a ih =>
    obtain ⟨keys, hfold, hkeys⟩ := ih
    rw [List.map_append, List.foldl_append, hfold]
    exact insert_keys hkeys a

/-- Insertion numbers the items of a list. -/
theorem exists_numbering (objects : ℕ → Scalar) (items : List KeyItem) :
    ∃ ν count, Value.groups (items.map (value objects)) = (items.map ν, count) ∧
      Numbering objects items ν count := by
  obtain ⟨keys, hfold, hkeys⟩ := foldl_insert objects items
  have hgroups : Value.groups (items.map (value objects)) =
      (((items.map (value objects)).foldl insert ([], [])).2,
        ((items.map (value objects)).foldl insert ([], [])).1.length) := rfl
  refine ⟨_, _, ?_, hkeys.numbering⟩
  rw [hgroups, hfold, List.length_map]

/-- Equal keys have the same hash. So inserted one after another, two items share a key
exactly if they are one object or equal, the keys are numbered as they are first seen,
there are as many as classes of such items, and another order only renumbers them. -/
theorem groups_classes (objects : ℕ → Scalar) :
    (∀ a b : KeyItem, Value.compare (a.value objects) (b.value objects) = .ok true →
      Value.sameHash (a.value objects) (b.value objects) = .ok true) ∧
    ∀ items : List KeyItem, ∃ (ν : KeyItem → ℕ) (count : ℕ),
      Value.groups (items.map (value objects)) = (items.map ν, count) ∧
      (∀ a ∈ items, ∀ b ∈ items, ν a = ν b ↔ SameKey objects a b) ∧
      (items.map ν).eraseDups = List.range count ∧
      count = (classes objects items).ncard ∧
      ∀ items' : List KeyItem, items'.Perm items → ∃ π : ℕ → ℕ,
        Set.BijOn π (Set.Iio count) (Set.Iio count) ∧
        Value.groups (items'.map (value objects)) = (items'.map (π ∘ ν), count) := by
  refine ⟨fun a b h => sameHash_of_equal (compare_iff.1 h), fun items => ?_⟩
  obtain ⟨ν, count, hgroups, hnumbering⟩ := exists_numbering objects items
  refine ⟨ν, count, hgroups, hnumbering.eq_iff, hnumbering.first, hnumbering.ncard_classes.symm,
    fun items' hperm => ?_⟩
  obtain ⟨ν', count', hgroups', hnumbering'⟩ := exists_numbering objects items'
  obtain ⟨π, hπ, hmap⟩ := hnumbering.exists_renumbering hnumbering' hperm
  refine ⟨π, hπ, ?_⟩
  rw [hgroups', hmap, hnumbering.count_eq_of_perm hnumbering' hperm]

/-- The zeros of either sign share a key, and two NaNs that are not one object do not. -/
theorem groups_classes_zeros :
    let single : Kind := .floating .single
    let objects (i : ℕ) : Scalar :=
      ⟨.concrete single, single, rfl, some (if i < 2 then .zero (i == 1) else .nan)⟩
    Value.sameHash ((scalar 0).value objects) ((scalar 1).value objects) = .ok true ∧
      ∃ ν count, Value.groups ([scalar 0, scalar 1, scalar 2, scalar 3].map (value objects)) =
          ([scalar 0, scalar 1, scalar 2, scalar 3].map ν, count) ∧
        ν (scalar 0) = ν (scalar 1) ∧ ν (scalar 2) ≠ ν (scalar 3) := by
  intro single objects
  obtain ⟨hhash, hgroups⟩ := groups_classes objects
  have hzeros : Value.compare ((scalar 0).value objects) ((scalar 1).value objects) = .ok true :=
    compare_iff.2 (.scalars (.valid rfl rfl (.finite rfl rfl rfl)))
  have hnans : ¬ SameKey objects (scalar 2) (scalar 3) := by
    rw [SameKey, compare_iff]
    rintro (h | h)
    · simp at h
    · cases h with
      | scalars h => exact absurd (Scalar.equal_iff.2 h) (by decide)
  obtain ⟨ν, count, hnumbers, hiff, -⟩ := hgroups [scalar 0, scalar 1, scalar 2, scalar 3]
  refine ⟨hhash _ _ hzeros, ν, count, hnumbers, ?_, ?_⟩
  · exact (hiff _ (by simp) _ (by simp)).2 (.inr hzeros)
  · rw [ne_eq, hiff _ (by simp) _ (by simp)]
    exact hnans

end KeyItem

end TypedScalar
