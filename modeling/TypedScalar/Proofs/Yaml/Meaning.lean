import Mathlib.Tactic.SplitIfs
import TypedScalar.Yaml.Document

/-! What documents hold. The nodes of a document are found to stand for values one after the other, and
whatever value is found for one is kept. So the values in a document are those that texts have under the tags
of scalars, and collections of them; and as the keys of a mapping have their values when it is filled, no
text is the key of two of its entries. -/

namespace TypedScalar.Yaml

variable {α β : Type}

/-! ### Computations on a builder -/

namespace Building

variable {b : Builder} {P : Builder → Prop} {Q : α → Builder → Prop} {R : β → Builder → Prop}

/-- What a computation makes of a builder if it succeeds. -/
def Makes (t : Building α) (b : Builder) (Q : α → Builder → Prop) : Prop :=
  ∀ x b', t.run b = .ok (x, b') → Q x b'

theorem makes_pure {x : α} (h : Q x b) : Makes (pure x) b Q := by
  rintro _ _ ⟨⟩
  exact h

theorem makes_throw (f : Failure) : Makes (throw f : Building α) b Q := nofun

theorem makes_modify {f : Builder → Builder} (h : P (f b)) : Makes (modify f) b fun _ => P := by
  rintro _ _ ⟨⟩
  exact h

theorem makes_lift {x : Except Failure α} (h : ∀ a, x = .ok a → Q a b) : Makes (liftM x) b Q := by
  intro a b' hrun
  cases x with
  | error err => cases hrun
  | ok x =>
    cases hrun
    exact h _ rfl

theorem run_bind_eq_ok {t : Building α} {f : α → Building β} {b b' : Builder} {y : β}
    (h : (t >>= f).run b = .ok (y, b')) :
    ∃ x b₁, t.run b = .ok (x, b₁) ∧ (f x).run b₁ = .ok (y, b') := by
  rw [StateT.run_bind] at h
  cases ht : t.run b with
  | error err =>
    rw [ht] at h
    cases h
  | ok r =>
    rw [ht] at h
    exact ⟨r.1, r.2, rfl, h⟩

theorem Makes.bind {t : Building α} {f : α → Building β} (h : Makes t b Q)
    (hf : ∀ x b', Q x b' → Makes (f x) b' R) : Makes (t >>= f) b R := by
  intro y b' hrun
  obtain ⟨x, b₁, ht, hrest⟩ := run_bind_eq_ok hrun
  exact hf x b₁ (h _ _ ht) _ _ hrest

theorem makes_get_bind {f : Builder → Building β} (h : Makes (f b) b R) : Makes (get >>= f) b R := h

theorem makes_forM {l : List α} {f : α → Building PUnit} (hf : ∀ a b, P b → Makes (f a) b fun _ => P)
    (hb : P b) : Makes (l.forM f) b fun _ => P := by
  induction l generalizing b with
  | nil => exact makes_pure hb
  | cons a l ih => exact (hf a b hb).bind fun _ _ hb' => ih hb'

theorem makes_mapM {l : List α} {f : α → Building β} (hf : ∀ a b, P b → Makes (f a) b fun _ => P)
    (hb : P b) : Makes (l.mapM f) b fun _ => P := by
  induction l generalizing b with
  | nil => exact makes_pure hb
  | cons a l ih =>
    rw [List.mapM_cons]
    exact (hf a b hb).bind fun _ _ hb' => (ih hb').bind fun _ _ hb'' => makes_pure hb''

end Building

open Building

/-! ### Values of nodes -/

/-- Whether a value is one that a text may have under a tag. -/
def IsWritten : Value → Prop
  | .none | .boolean _ | .integer _ | .real _ | .text _ | .bytes .plain _ | .date _ | .moment _ => True
  | _ => False

theorem Scalar.isWritten_timestamp {text : List Char} {v : Value} (h : Scalar.timestamp text = .ok v) :
    IsWritten v := by
  unfold timestamp at h
  split at h
  · cases h
  · next t _ =>
    simp only [bind, Except.bind, pure, Except.pure] at h
    split at h
    · next v hbuilt =>
      cases h
      -- Every way through the parts of a time ends in a fault, a date or a moment.
      revert hbuilt
      repeat' split
      all_goals rintro ⟨⟩
      all_goals trivial
    · cases h

theorem Scalar.eq_ok_of_lift {x : Except Error α} {a : α} (h : lift x = .ok a) : x = .ok a := by
  cases x with
  | ok b => exact congrArg _ (Except.ok.inj h)
  | error err => cases h

theorem Scalar.isWritten_of_lift_map {x : Except Error α} {f : α → Value} (hf : ∀ a, IsWritten (f a))
    {v : Value} (h : lift (x.map f) = .ok v) : IsWritten v := by
  have hx := eq_ok_of_lift h
  cases x with
  | ok a => exact Except.ok.inj hx ▸ hf a
  | error err => cases hx

theorem Scalar.isWritten_value {tag : Tag} {text : String} {v : Value} (h : Scalar.value tag text = .ok v) :
    IsWritten v := by
  unfold Scalar.value at h
  dsimp only at h
  split at h
  · cases h
    trivial
  · exact isWritten_of_lift_map (f := .boolean) (fun _ => trivial) h
  · exact isWritten_of_lift_map (f := .integer) (fun _ => trivial) h
  · exact isWritten_of_lift_map (f := .real) (fun _ => trivial) h
  · unfold binary at h
    split_ifs at h
    split at h <;> simp at h
    simp [← h, IsWritten]
  · exact isWritten_timestamp (eq_ok_of_lift h)
  · cases h
    trivial
  · cases h

theorem Graph.isWritten_plainValue {g : Graph} {n : Nat} {v : Value} (h : g.plainValue n = .ok v) :
    IsWritten v := by
  unfold plainValue at h
  split at h
  · cases hs : g.text n with
    | error => simp [hs, Except.bind] at h
    | ok s =>
      simp only [hs, Except.bind] at h
      split at h
      · cases h
      · exact Scalar.isWritten_value h
  · cases h

namespace Builder

variable {b b' b'' : Builder} {n : Nat} {m : Meaning}

theorem value?_eq_some_iff {v : Value} : b.value? n = some v ↔ b.meaning? n = some (.plain v) := by
  unfold value?
  split
  · next w hw => simp [hw]
  · next h => simpa using h v

/-! ### Keys -/

/-- Whether nodes have values, and no two of them the same text. -/
def Distinct (b : Builder) (keys : List Nat) : Prop :=
  (∀ k ∈ keys, ∃ v, b.value? k = some v) ∧
    keys.Pairwise fun j k => ∀ s, b.value? j = some (.text s) → b.value? k ≠ some (.text s)

theorem Distinct.mono {keys : List Nat} (h : b.Distinct keys)
    (hkept : ∀ n v, b.value? n = some v → b'.value? n = some v) : b'.Distinct keys := by
  have hback : ∀ k ∈ keys, ∀ v, b'.value? k = some v → b.value? k = some v := by
    intro k hk v hv
    obtain ⟨w, hw⟩ := h.1 k hk
    rw [hw, ← hv, hkept k w hw]
  refine ⟨fun k hk => (h.1 k hk).imp fun v hv => hkept k v hv, h.2.imp_of_mem fun hj hk hne s hs hs' => ?_⟩
  exact hne s (hback _ hj _ hs) (hback _ hk _ hs')

theorem sameKey_of_text {j k : Nat} {s : String} (hj : b.value? j = some (.text s))
    (hk : b.value? k = some (.text s)) : b.sameKey j k = true := by
  have hequal : (Value.text s).equals (.text s) = true := by
    simp [Value.equals, Value.compare, Value.quantity?, Value.equalsPlain, Value.number?, Value.text?]
  simp [sameKey, hj, hk, hequal]

theorem keys_insertEntry (b : Builder) (key value : Nat) (entries : List (Nat × Nat)) :
    (b.insertEntry key value entries).map Prod.fst =
      if entries.any (fun e => b.sameKey e.1 key) then entries.map Prod.fst
      else entries.map Prod.fst ++ [key] := by
  induction entries with
  | nil => rfl
  | cons e rest ih =>
    rw [insertEntry, List.any_cons]
    cases b.sameKey e.1 key with
    | true => simp
    | false =>
      rw [if_neg Bool.false_ne_true, List.map_cons, ih, Bool.false_or]
      split_ifs <;> rfl

theorem Distinct.insertEntry {entries : List (Nat × Nat)} (h : b.Distinct (entries.map Prod.fst)) {key : Nat}
    (hkey : ∃ v, b.value? key = some v) (value : Nat) :
    b.Distinct ((b.insertEntry key value entries).map Prod.fst) := by
  rw [keys_insertEntry]
  split_ifs with hseen
  · exact h
  · constructor
    · intro k hk
      rcases List.mem_append.1 hk with hk | hk
      · exact h.1 k hk
      · rw [List.mem_singleton.1 hk]
        exact hkey
    · refine List.pairwise_append.2 ⟨h.2, List.pairwise_singleton _ _, fun j hj k hk s hs hs' => ?_⟩
      obtain rfl := List.mem_singleton.1 hk
      obtain ⟨e, he, rfl⟩ := List.mem_map.1 hj
      exact hseen (List.any_eq_true.2 ⟨e, he, sameKey_of_text hs hs'⟩)

theorem Distinct.foldl_insertEntry {entries acc : List (Nat × Nat)} (h : b.Distinct (acc.map Prod.fst))
    (hkeys : ∀ e ∈ entries, ∃ v, b.value? e.1 = some v) :
    b.Distinct ((entries.foldl (fun acc e => b.insertEntry e.1 e.2 acc) acc).map Prod.fst) := by
  induction entries generalizing acc with
  | nil => exact h
  | cons e rest ih =>
    rw [List.forall_mem_cons] at hkeys
    exact ih (h.insertEntry hkeys.1 e.2) hkeys.2

/-! ### Progress -/

/-- Whether the values found are such as texts have, and no mapping has a text as the key of two entries. -/
structure Coherent (b : Builder) : Prop where
  written {n : Nat} {v : Value} (h : b.meaning? n = some (.plain v)) : IsWritten v
  distinct {n : Nat} {entries : List (Nat × Nat)} (h : b.meaning? n = some (.dictionary entries)) :
    b.Distinct (entries.map Prod.fst)

/-- Whether a node has been found to be a collection. -/
def IsCollection (b : Builder) (n : Nat) : Prop := ∃ m, b.meaning? n = some m ∧ ∀ v, m ≠ .plain v

/-- What is kept while nodes are found and filled. -/
structure Advances (b b' : Builder) : Prop where
  value {n : Nat} {v : Value} (h : b.value? n = some v) : b'.value? n = some v
  collection {n : Nat} (h : b.IsCollection n) : b'.IsCollection n
  coherent (h : b.Coherent) : b'.Coherent

theorem Advances.refl (b : Builder) : b.Advances b := ⟨id, id, id⟩

theorem Advances.trans (h : b.Advances b') (h' : b'.Advances b'') : b.Advances b'' :=
  ⟨fun hv => h'.value (h.value hv), fun hn => h'.collection (h.collection hn),
    fun hb => h'.coherent (h.coherent hb)⟩

theorem Advances.of_meanings_eq (h : b'.meanings = b.meanings) : b.Advances b' := by
  have hmeaning (n : Nat) : b'.meaning? n = b.meaning? n := by rw [meaning?, h, meaning?]
  have hvalue (n : Nat) : b'.value? n = b.value? n := by rw [value?, hmeaning, value?]
  refine ⟨fun hv => (hvalue _).trans hv, ?_, fun hb => ⟨?_, ?_⟩⟩
  · rintro n ⟨m, hm, hne⟩
    exact ⟨m, (hmeaning n).trans hm, hne⟩
  · intro n v hv
    exact hb.written (hmeaning n ▸ hv)
  · intro n entries hentries
    exact (hb.distinct (hmeaning n ▸ hentries)).mono fun k v hv => (hvalue k).trans hv

theorem meaning?_setIfInBounds (b : Builder) (n : Nat) (m : Meaning) (i : Nat) :
    meaning? { b with meanings := b.meanings.setIfInBounds n (some m) } i =
      if n = i ∧ n < b.meanings.size then some m else b.meaning? i := by
  simp only [meaning?, Array.getD_eq_getD_getElem?, Array.getElem?_setIfInBounds]
  by_cases hi : n = i
  · subst hi
    by_cases hn : n < b.meanings.size <;> simp [hn]
  · simp [hi]

/-- A node that has no value yet may be given a meaning. -/
theorem makes_setMeaning (hvalue : b.value? n = none) (hsort : b.IsCollection n → ∀ v, m ≠ .plain v)
    (hwritten : ∀ v, m = .plain v → IsWritten v)
    (hdistinct : ∀ entries, m = .dictionary entries → b.Distinct (entries.map Prod.fst)) :
    Makes (setMeaning n m) b fun _ => b.Advances := by
  refine makes_modify ?_
  have hmeaning := meaning?_setIfInBounds b n m
  generalize { b with meanings := b.meanings.setIfInBounds n (some m) } = b' at hmeaning ⊢
  have hkept : ∀ i v, b.value? i = some v → b'.value? i = some v := by
    intro i v hv
    rw [value?_eq_some_iff, hmeaning, if_neg, ← value?_eq_some_iff, hv]
    rintro ⟨rfl, -⟩
    simp [hvalue] at hv
  refine ⟨fun hv => hkept _ _ hv, ?_, fun hb => ⟨?_, ?_⟩⟩
  · rintro i ⟨m', hm', hne⟩
    rw [IsCollection, hmeaning]
    split_ifs with hi
    · obtain ⟨rfl, -⟩ := hi
      exact ⟨m, rfl, hsort ⟨m', hm', hne⟩⟩
    · exact ⟨m', hm', hne⟩
  · intro i v hv
    rw [hmeaning] at hv
    split_ifs at hv
    · exact hwritten v (Option.some.inj hv)
    · exact hb.written hv
  · intro i entries hentries
    rw [hmeaning] at hentries
    split_ifs at hentries
    · exact (hdistinct entries (Option.some.inj hentries)).mono hkept
    · exact (hb.distinct hentries).mono hkept

theorem find_makes (n : Nat) (b : Builder) : Makes (find n) b fun _ => b.Advances := by
  refine makes_get_bind ?_
  cases hn : b.meaning? n with
  | some m => exact makes_pure (.refl b)
  | none =>
    have hvalue : b.value? n = none := by rw [value?, hn]
    have hsort : ¬ b.IsCollection n := by
      rintro ⟨m, hm, -⟩
      simp [hn] at hm
    simp only [Option.isNone_none, ↓reduceIte]
    split
    · next m hm =>
      have hempty : (∀ v, m ≠ .plain v) ∧ ∀ entries, m = .dictionary entries → entries = [] := by
        unfold Tag.emptyCollection? at hm
        split at hm <;> cases hm <;> simp
      refine (makes_setMeaning hvalue (fun h => absurd h hsort) (fun v hv => absurd hv (hempty.1 v))
        fun entries hentries => ?_).bind fun _ b' hb' => makes_modify (hb'.trans (.of_meanings_eq rfl))
      rw [hempty.2 entries hentries]
      exact ⟨by simp, .nil⟩
    · refine (makes_lift (Q := fun v b' => b' = b ∧ IsWritten v) fun v hv =>
        ⟨rfl, Graph.isWritten_plainValue hv⟩).bind ?_
      rintro v _ ⟨rfl, hv⟩
      refine makes_setMeaning hvalue (fun h => absurd h hsort) ?_ (by simp)
      rintro _ ⟨⟩
      exact hv

theorem Advances.makes {t : Building α} (h : b.Advances b') (ht : Makes t b' fun _ => b'.Advances) :
    Makes t b' fun _ => b.Advances := fun x b'' hrun => h.trans (ht x b'' hrun)

/-- The loop over the entries of a mapping gives each key a value. -/
theorem findEach_makes (entries : List (Nat × Nat)) (b : Builder) :
    Makes (forIn entries PUnit.unit fun e _ => do
      find e.1
      if ((← get).value? e.1).isNone then throw (.fault .unhashableKey)
      find e.2
      return .yield PUnit.unit) b
      fun _ b' => b.Advances b' ∧ ∀ e ∈ entries, ∃ v, b'.value? e.1 = some v := by
  induction entries generalizing b with
  | nil => exact makes_pure ⟨.refl b, by simp⟩
  | cons e rest ih =>
    have hrest (b₁ : Builder) (h₁ : b.Advances b₁) (hkey : ∃ v, b₁.value? e.1 = some v) :
        Makes (do find e.2; pure (ForInStep.yield PUnit.unit)) b₁ fun step b₂ =>
          step = .yield PUnit.unit ∧ b.Advances b₂ ∧ ∃ v, b₂.value? e.1 = some v :=
      (find_makes _ b₁).bind fun _ _ h₂ => makes_pure ⟨rfl, h₁.trans h₂, hkey.imp fun _ hv => h₂.value hv⟩
    rw [List.forIn_cons]
    refine Makes.bind (Q := fun step b₂ =>
      step = .yield PUnit.unit ∧ b.Advances b₂ ∧ ∃ v, b₂.value? e.1 = some v) ?_ ?_
    · refine (find_makes _ b).bind fun _ b₁ h₁ => makes_get_bind ?_
      split_ifs with hnone
      · exact (makes_throw (Q := fun _ _ => False) _).bind fun _ _ h => h.elim
      · exact hrest b₁ h₁ (Option.ne_none_iff_exists'.1 (by simpa using hnone))
    · rintro _ b₂ ⟨rfl, h₂, v, hv⟩
      refine fun _ b₃ hrun => ?_
      obtain ⟨h₃, hkeys⟩ := ih b₂ _ _ hrun
      exact ⟨h₂.trans h₃, List.forall_mem_cons.2 ⟨⟨v, h₃.value hv⟩, hkeys⟩⟩

theorem findEntries_makes (n : Nat) (b : Builder) :
    Makes (findEntries n) b fun entries b' => b.Advances b' ∧ b'.Distinct (entries.map Prod.fst) := by
  refine makes_get_bind ((makes_lift (Q := fun _ => b.Advances) fun _ _ => .refl b).bind fun g b₁ hb₁ => ?_)
  refine (makes_modify (P := b.Advances) (hb₁.trans (.of_meanings_eq rfl))).bind fun _ b₂ hb₂ => ?_
  refine (findEach_makes _ b₂).bind fun _ b₃ hb₃ => makes_get_bind (makes_pure ?_)
  exact ⟨hb₂.trans hb₃.1, .foldl_insertEntry ⟨by simp, .nil⟩ hb₃.2⟩

theorem findPair_makes (n : Nat) (b : Builder) : Makes (findPair n) b fun _ => b.Advances := by
  refine makes_get_bind ?_
  split
  · exact (find_makes _ b).bind fun _ b₁ hb₁ => (find_makes _ b₁).bind fun _ b₂ hb₂ =>
      makes_pure (hb₁.trans hb₂)
  · exact makes_throw _

/-- A collection may be filled. -/
theorem makes_fill {m : Meaning} (hn : b.IsCollection n) (hplain : ∀ v, m ≠ .plain v)
    (hdistinct : ∀ entries, m = .dictionary entries → b.Distinct (entries.map Prod.fst)) :
    Makes (setMeaning n m) b fun _ => b.Advances := by
  have hvalue : b.value? n = none := by
    obtain ⟨m', hm', hne⟩ := hn
    cases hv : b.value? n with
    | none => rfl
    | some v =>
      rw [value?_eq_some_iff, hm'] at hv
      exact absurd (Option.some.inj hv) (hne v)
  exact makes_setMeaning hvalue (fun _ => hplain) (fun v hv => absurd hv (hplain v)) hdistinct

theorem fill_makes (n : Nat) (b : Builder) : Makes (fill n) b fun _ => b.Advances := by
  refine makes_get_bind ?_
  split
  · next hm =>
    have hn : b.IsCollection n := ⟨_, hm, by simp⟩
    split
    · refine (makes_forM (P := b.Advances) (fun a b' hb' => ?_) (.refl b)).bind fun _ b' hb' => ?_
      · exact hb'.makes (find_makes a b')
      · exact hb'.makes (makes_fill (hb'.collection hn) (by simp) (by simp))
    · exact makes_throw _
  · next hm =>
    have hn : b.IsCollection n := ⟨_, hm, by simp⟩
    split
    · refine (makes_mapM (P := b.Advances) (fun a b' hb' => ?_) (.refl b)).bind fun _ b' hb' => ?_
      · exact hb'.makes (findPair_makes a b')
      · exact hb'.makes (makes_fill (hb'.collection hn) (by simp) (by simp))
    · exact makes_throw _
  · next hm =>
    have hn : b.IsCollection n := ⟨_, hm, by simp⟩
    have hrest : Makes (do setMeaning n (.dictionary (← findEntries n))) b fun _ => b.Advances := by
      refine (findEntries_makes n b).bind fun entries b' hb' => ?_
      refine hb'.1.makes (makes_fill (hb'.1.collection hn) (by simp) ?_)
      rintro _ ⟨⟩
      exact hb'.2
    split_ifs
    · exact (makes_throw (Q := fun _ _ => False) _).bind fun _ _ h => h.elim
    · exact hrest
  · next hm =>
    have hn : b.IsCollection n := ⟨_, hm, by simp⟩
    have hrest : Makes (do setMeaning n (.set ((← findEntries n).map (·.1)))) b fun _ => b.Advances := by
      refine (findEntries_makes n b).bind fun entries b' hb' => ?_
      exact hb'.1.makes (makes_fill (hb'.1.collection hn) (by simp) (by simp))
    split_ifs
    · exact (makes_throw (Q := fun _ _ => False) _).bind fun _ _ h => h.elim
    · exact hrest
  · exact makes_pure (.refl b)

theorem fillAll_makes (fuel : Nat) (b : Builder) : Makes (fillAll fuel) b fun _ => b.Advances := by
  induction fuel generalizing b with
  | zero => exact makes_pure (.refl b)
  | succ fuel ih =>
    refine makes_get_bind ?_
    split
    · exact makes_pure (.refl b)
    · refine (makes_modify (P := b.Advances) (.of_meanings_eq rfl)).bind fun _ b₁ hb₁ => ?_
      exact (fill_makes _ b₁).bind fun _ b₂ hb₂ => (hb₁.trans hb₂).makes (ih b₂)

theorem coherent_start (g : Graph) : (start g).Coherent := by
  have hnone (n : Nat) (m : Meaning) : (start g).meaning? n ≠ some m := by
    simp only [meaning?, start, Array.getD_eq_getD_getElem?, Array.getElem?_replicate]
    split_ifs <;> simp
  exact ⟨fun h => absurd h (hnone _ _), fun h => absurd h (hnone _ _)⟩

theorem coherent_build {g : Graph} {n : Nat} {b : Builder} (h : build g n = .ok b) : b.Coherent := by
  have hmakes : Makes (do find n; fillAll (g.size + 1)) (start g) fun _ => (start g).Advances :=
    (find_makes n _).bind fun _ b₁ hb₁ => hb₁.makes (fillAll_makes _ b₁)
  have hrun : (StateT.run (do find n; fillAll (g.size + 1)) (start g)).map (·.2) = .ok b := h
  cases hresult : StateT.run (do find n; fillAll (g.size + 1)) (start g) with
  | error err => simp [hresult, Except.map] at hrun
  | ok r =>
    simp only [hresult, Except.map, Except.ok.injEq] at hrun
    rw [← hrun]
    exact (hmakes _ _ hresult).coherent (coherent_start g)

end Builder

namespace Document

theorem coherent_load {text : String} {d : Document} (h : load text = .ok d) : d.builder.Coherent := by
  unfold load at h
  cases hgraph : (Graph.ofText text.toList).mapError Failure.fault with
  | error f => simp [hgraph, Except.bind] at h
  | ok r =>
    obtain ⟨root, g⟩ := r
    simp only [hgraph, Except.bind] at h
    cases root with
    | none =>
      cases h
      exact Builder.coherent_start g
    | some n =>
      dsimp only at h
      cases hbuild : Builder.build g n with
      | error f => simp [hbuild, Except.map] at h
      | ok b =>
        rw [hbuild] at h
        cases h
        exact Builder.coherent_build hbuild

end Document

end TypedScalar.Yaml
