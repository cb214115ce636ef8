import Mathlib.Data.Nat.Notation
import Mathlib.Logic.Function.Basic
import TypedScalar.Proofs.Value.Keys

/-! Numbers of scalars. A scalar that somebody holds has a number, by which it is told from equal ones.
Nothing but whether two scalars are one and the same depends on the numbers: values are shown, compared
and hashed alike when every scalar in them gets another number, as long as different ones stay different. -/

namespace TypedScalar

def Held.renumber (ρ : ℕ → ℕ) (h : Held) : Held := ⟨ρ h.identity, h.scalar⟩

namespace Value

mutual

/-- A value with the numbers of all scalars in it replaced. -/
def renumber (ρ : ℕ → ℕ) : Value → Value
  | list items => list (renumberItems ρ items)
  | tuple items => tuple (renumberItems ρ items)
  | dictionary entries => dictionary (renumberEntries ρ entries)
  | set items => set (renumberItems ρ items)
  | scalar h => scalar (h.renumber ρ)
  | v => v

def renumberItems (ρ : ℕ → ℕ) : List Value → List Value
  | [] => []
  | v :: rest => v.renumber ρ :: renumberItems ρ rest

def renumberEntries (ρ : ℕ → ℕ) : List (Value × Value) → List (Value × Value)
  | [] => []
  | (k, v) :: rest => (k.renumber ρ, v.renumber ρ) :: renumberEntries ρ rest

end

variable (ρ : ℕ → ℕ)

theorem renumberItems_eq (items : List Value) : renumberItems ρ items = items.map (renumber ρ) := by
  induction items with
  | nil => rfl
  | cons v rest ih => rw [renumberItems, ih, List.map_cons]

theorem renumberEntries_eq (entries : List (Value × Value)) :
    renumberEntries ρ entries = entries.map fun e => (e.1.renumber ρ, e.2.renumber ρ) := by
  induction entries with
  | nil => rfl
  | cons e rest ih => rw [renumberEntries, ih, List.map_cons]

@[simp] theorem length_renumberItems (items : List Value) :
    (renumberItems ρ items).length = items.length := by
  rw [renumberItems_eq, List.length_map]

@[simp] theorem length_renumberEntries (entries : List (Value × Value)) :
    (renumberEntries ρ entries).length = entries.length := by
  rw [renumberEntries_eq, List.length_map]

@[simp] theorem isEmpty_renumberItems (items : List Value) :
    (renumberItems ρ items).isEmpty = items.isEmpty := by
  cases items <;> rfl

@[simp] theorem isEmpty_renumberEntries (entries : List (Value × Value)) :
    (renumberEntries ρ entries).isEmpty = entries.isEmpty := by
  cases entries <;> rfl

/-! ### What does not look at numbers -/

@[simp] theorem typeName_renumber (v : Value) : (v.renumber ρ).typeName = v.typeName := by
  cases v <;> rfl

@[simp] theorem qualifiedTypeName_renumber (v : Value) :
    (v.renumber ρ).qualifiedTypeName = v.qualifiedTypeName := by
  cases v <;> rfl

@[simp] theorem isNone_renumber (v : Value) : (v.renumber ρ).isNone = v.isNone := by
  cases v <;> rfl

@[simp] theorem text?_renumber (v : Value) : (v.renumber ρ).text? = v.text? := by
  cases v <;> rfl

@[simp] theorem copiedText?_renumber (v : Value) : (v.renumber ρ).copiedText? = v.copiedText? := by
  cases v <;> rfl

@[simp] theorem bytes?_renumber (v : Value) : (v.renumber ρ).bytes? = v.bytes? := by
  cases v <;> rfl

@[simp] theorem boolean?_renumber (v : Value) : (v.renumber ρ).boolean? = v.boolean? := by
  cases v <;> rfl

@[simp] theorem integer?_renumber (v : Value) : (v.renumber ρ).integer? = v.integer? := by
  cases v <;> rfl

@[simp] theorem real?_renumber (v : Value) : (v.renumber ρ).real? = v.real? := by
  cases v <;> rfl

@[simp] theorem number?_renumber (v : Value) : (v.renumber ρ).number? = v.number? := by
  cases v <;> rfl

@[simp] theorem quantity?_renumber (v : Value) : (v.renumber ρ).quantity? = v.quantity? := by
  cases v <;> rfl

@[simp] theorem comparesBytes_renumber (v : Value) (m : Machine) :
    (v.renumber ρ).comparesBytes m = v.comparesBytes m := by
  cases v <;> rfl

@[simp] theorem isTruthy_renumber (v : Value) : (v.renumber ρ).isTruthy = v.isTruthy := by
  cases v <;> simp [renumber, isTruthy]

theorem equalsItem_renumber (m : Machine) (v : Value) : equalsItem m (v.renumber ρ) = equalsItem m v := by
  cases v <;> rfl

theorem equalsPlain_renumber (v w : Value) : equalsPlain (v.renumber ρ) (w.renumber ρ) = equalsPlain v w := by
  cases v with
  | bytes form _ => cases form <;> cases w <;> rfl
  | _ => cases w <;> rfl

mutual

theorem shape_renumber : ∀ v : Value, (v.renumber ρ).shape = v.shape
  | list items | tuple items => by
    simp only [renumber, shape, shapes_renumber items, length_renumberItems]
  | none | boolean _ | integer _ | real _ | complex _ _ | text _ | dictionary _ | set _ | cycle _ | object
  | date _ | moment _ | machine _ | scalar _ | typeId _ | dataType _ => rfl
  | bytes _ _ | view _ => rfl

theorem shapes_renumber : ∀ items : List Value, shapes (renumberItems ρ items) = shapes items
  | [] => rfl
  | v :: rest => by rw [renumberItems, shapes, shapes, shape_renumber v, shapes_renumber rest]

end

theorem onlyItem_renumber (v : Value) : (v.renumber ρ).onlyItem = v.onlyItem.renumber ρ := by
  induction v using onlyItem.induct with
  | case1 v ih => simpa [renumber, renumberItems, onlyItem] using ih
  | case2 v ih => simpa [renumber, renumberItems, onlyItem] using ih
  | case3 form b rest => simp [renumber, onlyItem]
  | case4 w =>
    show onlyItem (view w) = renumber ρ (onlyItem (view w))
    simp only [onlyItem]
    cases w.items.items.head? <;> rfl
  | case5 v hlist htuple hbytes hview =>
    cases v with
    | list items =>
      match items with
      | [] | _ :: _ :: _ => rfl
      | [v] => exact absurd rfl (hlist v)
    | tuple items =>
      match items with
      | [] | _ :: _ :: _ => rfl
      | [v] => exact absurd rfl (htuple v)
    | bytes form content =>
      cases content with
      | nil => rfl
      | cons b rest => exact absurd rfl (hbytes form b rest)
    | view w => exact absurd rfl (hview w)
    | _ => rfl

theorem equalsMachine_renumber (m : Machine) (v : Value) :
    equalsMachine m (v.renumber ρ) = equalsMachine m v := by
  have hsequence : equalsSequence m (v.renumber ρ) = equalsSequence m v := by
    simp only [equalsSequence, shape_renumber, onlyItem_renumber, equalsItem_renumber]
  cases v with
  | list | tuple => exact hsequence
  | _ => rfl

/-! ### Showing and hashing -/

section

variable (r : Rendering)

mutual

theorem shownWithin_renumber : ∀ (levels : Nat) (v : Value),
    (v.renumber ρ).shownWithin r levels = v.shownWithin r levels
  | 0, _ => by rw [shownWithin, shownWithin]
  | levels + 1, list items | levels + 1, tuple items => by
    simp only [renumber, shownWithin, itemsWithin_renumber levels items, length_renumberItems]
  | levels + 1, set items => by
    simp only [renumber, shownWithin, itemsWithin_renumber (levels - 1) items]
  | levels + 1, dictionary entries => by
    simp only [renumber, shownWithin, entriesWithin_renumber levels entries]
  | _ + 1, none | _ + 1, boolean _ | _ + 1, integer _ | _ + 1, real _ | _ + 1, complex _ _ | _ + 1, text _
  | _ + 1, bytes _ _ | _ + 1, view _ | _ + 1, cycle _ | _ + 1, object | _ + 1, date _ | _ + 1, moment _
  | _ + 1, machine _ | _ + 1, scalar _ | _ + 1, typeId _ | _ + 1, dataType _ => by
    simp only [renumber, shownWithin, Held.renumber]

theorem itemsWithin_renumber (levels : Nat) : ∀ items : List Value,
    itemsWithin r levels (renumberItems ρ items) = itemsWithin r levels items
  | [] => rfl
  | v :: rest => by
    simp only [renumberItems, itemsWithin, shownWithin_renumber levels v, itemsWithin_renumber levels rest]

theorem entriesWithin_renumber (levels : Nat) : ∀ entries : List (Value × Value),
    entriesWithin r levels (renumberEntries ρ entries) = entriesWithin r levels entries
  | [] => rfl
  | (k, v) :: rest => by
    simp only [renumberEntries, entriesWithin, shownWithin_renumber levels k, shownWithin_renumber levels v,
      entriesWithin_renumber levels rest]

end

theorem shown_renumber (v : Value) : (v.renumber ρ).shown r = v.shown r := shownWithin_renumber ρ r levelLimit v

theorem plain_renumber (v : Value) : (v.renumber ρ).plain r = v.plain r := by
  cases v with
  | list | tuple | dictionary | set => exact shown_renumber ρ r _
  | _ => rfl

end

mutual

theorem unhashable?_renumber : ∀ v : Value, (v.renumber ρ).unhashable? = v.unhashable?
  | tuple items => unhashableIn?_renumber items
  | bytes form _ => by cases form <;> rfl
  | none | boolean _ | integer _ | real _ | complex _ _ | text _ | view _ | list _ | dictionary _ | set _
  | cycle _ | object | date _ | moment _ | machine _ | scalar _ | typeId _ | dataType _ => rfl

theorem unhashableIn?_renumber :
    ∀ items : List Value, unhashableIn? (renumberItems ρ items) = unhashableIn? items
  | [] => rfl
  | v :: rest => by
    rw [renumberItems, unhashableIn?, unhashableIn?, unhashable?_renumber v, unhashableIn?_renumber rest]

end

mutual

theorem hashKey?_renumber : ∀ v : Value, (v.renumber ρ).hashKey? = v.hashKey?
  | tuple items => by simp only [renumber, hashKey?, hashKeys?_renumber items]
  | dataType d => by cases d <;> rfl
  | none | boolean _ | integer _ | real _ | complex _ _ | text _ | bytes _ _ | view _ | list _ | dictionary _
  | set _ | cycle _ | object | date _ | moment _ | machine _ | scalar _ | typeId _ => rfl

theorem hashKeys?_renumber : ∀ items : List Value, hashKeys? (renumberItems ρ items) = hashKeys? items
  | [] => rfl
  | v :: rest => by simp only [renumberItems, hashKeys?, hashKey?_renumber v, hashKeys?_renumber rest]

end

/-! ### Comparing -/

/-- The comparison of values that are not both lists, tuples or dictionaries. -/
theorem compareOther_renumber (v w : Value) :
    (match (v.renumber ρ).quantity?, (w.renumber ρ).quantity? with
      | some m, _ => equalsMachine m (w.renumber ρ)
      | .none, some n =>
        if (v.renumber ρ).comparesBytes n then .ok (equalsPlain (v.renumber ρ) (w.renumber ρ))
        else equalsMachine n (v.renumber ρ)
      | .none, .none => .ok (equalsPlain (v.renumber ρ) (w.renumber ρ))) =
    match v.quantity?, w.quantity? with
      | some m, _ => equalsMachine m w
      | .none, some n => if v.comparesBytes n then .ok (equalsPlain v w) else equalsMachine n v
      | .none, .none => .ok (equalsPlain v w) := by
  simp only [quantity?_renumber, comparesBytes_renumber, equalsPlain_renumber, equalsMachine_renumber]

section

variable {ρ}

theorem isSame_renumber (hρ : Function.Injective ρ) (v w : Value) :
    (v.renumber ρ).isSame (w.renumber ρ) = v.isSame w := by
  cases v <;> cases w <;> try rfl
  exact Bool.eq_iff_iff.2 (by simp [renumber, isSame, Held.renumber, hρ.eq_iff])

mutual

theorem compare_renumber (hρ : Function.Injective ρ) (v w : Value) :
    compare (v.renumber ρ) (w.renumber ρ) = compare v w := by
  have hother := compareOther_renumber ρ v w
  match v with
  | list xs =>
    cases w with
    | list ys => simp only [renumber, compare, length_renumberItems, compareItems_renumber hρ xs ys]
    | _ => exact hother
  | tuple xs =>
    cases w with
    | tuple ys => simp only [renumber, compare, compareItems_renumber hρ xs ys]
    | _ => exact hother
  | dictionary xs =>
    cases w with
    | dictionary ys => simp only [renumber, compare, length_renumberEntries, compareEntries_renumber hρ ys xs]
    | _ => exact hother
  | none | boolean _ | integer _ | real _ | complex _ _ | text _ | bytes _ _ | view _ | set _ | cycle _ | object
  | date _ | moment _ | machine _ | scalar _ | typeId _ | dataType _ => exact hother

theorem compareItems_renumber (hρ : Function.Injective ρ) : ∀ xs ys : List Value,
    compareItems (renumberItems ρ xs) (renumberItems ρ ys) = compareItems xs ys
  | [], [] => rfl
  | [], _ :: _ | _ :: _, [] => rfl
  | x :: xs, y :: ys => by
    simp only [renumberItems, compareItems, isSame_renumber hρ, compare_renumber hρ x y,
      compareItems_renumber hρ xs ys]

theorem compareEntries_renumber (hρ : Function.Injective ρ) (ys : List (Value × Value)) :
    ∀ xs : List (Value × Value),
      compareEntries (renumberEntries ρ ys) (renumberEntries ρ xs) = compareEntries ys xs
  | [] => rfl
  | (k, v) :: xs => by
    have hfind : (renumberEntries ρ ys).find? (fun y => equalsPlain (k.renumber ρ) y.1) =
        (ys.find? fun y => equalsPlain k y.1).map fun y => (y.1.renumber ρ, y.2.renumber ρ) := by
      rw [renumberEntries_eq, List.find?_map]
      simp only [Function.comp_def, equalsPlain_renumber]
    simp only [renumberEntries, compareEntries, hfind]
    cases ys.find? fun y => equalsPlain k y.1 with
    | none => rfl
    | some y =>
      simp only [Option.map_some, isSame_renumber hρ, compare_renumber hρ v y.2,
        compareEntries_renumber hρ ys xs]

end

theorem equals_renumber (hρ : Function.Injective ρ) (v w : Value) :
    (v.renumber ρ).equals (w.renumber ρ) = v.equals w := by
  rw [equals, equals, compare_renumber hρ]

theorem sameKey_renumber (hρ : Function.Injective ρ) (v w : Value) :
    sameKey (v.renumber ρ) (w.renumber ρ) = sameKey v w := by
  simp only [sameKey, isSame_renumber hρ, hashKey?_renumber, equals_renumber hρ]

theorem insert_renumber (hρ : Function.Injective ρ) (keys : List Value × List ℕ) (v : Value) :
    KeyItem.insert (keys.1.map (renumber ρ), keys.2) (v.renumber ρ) =
      ((KeyItem.insert keys v).1.map (renumber ρ), (KeyItem.insert keys v).2) := by
  simp only [KeyItem.insert, List.findIdx?_map, Function.comp_def, sameKey_renumber hρ]
  cases keys.1.findIdx? (sameKey · v) with
  | none => simp
  | some i => rfl

theorem foldl_insert_renumber (hρ : Function.Injective ρ) (items : List Value) (keys : List Value × List ℕ) :
    (renumberItems ρ items).foldl KeyItem.insert (keys.1.map (renumber ρ), keys.2) =
      ((items.foldl KeyItem.insert keys).1.map (renumber ρ), (items.foldl KeyItem.insert keys).2) := by
  induction items generalizing keys with
  | nil => rfl
  | cons v rest ih =>
    rw [renumberItems, List.foldl_cons, List.foldl_cons, insert_renumber hρ]
    exact ih _

theorem groups_renumber (hρ : Function.Injective ρ) (items : List Value) :
    groups (renumberItems ρ items) = groups items := by
  have hfold := foldl_insert_renumber hρ items ([], [])
  show (((renumberItems ρ items).foldl KeyItem.insert ([], [])).2,
    ((renumberItems ρ items).foldl KeyItem.insert ([], [])).1.length) =
    ((items.foldl KeyItem.insert ([], [])).2, (items.foldl KeyItem.insert ([], [])).1.length)
  rw [List.map_nil] at hfold
  rw [hfold, List.length_map]

end

theorem sameHash_renumber (v w : Value) : sameHash (v.renumber ρ) (w.renumber ρ) = sameHash v w := by
  simp only [sameHash, unhashable?_renumber, hashKey?_renumber]

theorem findSome?_unhashable?_renumber (items : List Value) :
    (renumberItems ρ items).findSome? unhashable? = items.findSome? unhashable? := by
  rw [renumberItems_eq, List.findSome?_map]
  simp only [Function.comp_def, unhashable?_renumber]

/-! ### Values without numbers -/

mutual

theorem renumber_renumber (σ : ℕ → ℕ) : ∀ v : Value, (v.renumber ρ).renumber σ = v.renumber (σ ∘ ρ)
  | list items | tuple items | set items => by simp only [renumber, renumberItems_renumberItems σ items]
  | dictionary entries => by simp only [renumber, renumberEntries_renumberEntries σ entries]
  | none | boolean _ | integer _ | real _ | complex _ _ | text _ | bytes _ _ | view _ | cycle _ | object
  | date _ | moment _ | machine _ | scalar _ | typeId _ | dataType _ => rfl

theorem renumberItems_renumberItems (σ : ℕ → ℕ) :
    ∀ items : List Value, renumberItems σ (renumberItems ρ items) = renumberItems (σ ∘ ρ) items
  | [] => rfl
  | v :: rest => by simp only [renumberItems, renumber_renumber σ v, renumberItems_renumberItems σ rest]

theorem renumberEntries_renumberEntries (σ : ℕ → ℕ) : ∀ entries : List (Value × Value),
    renumberEntries σ (renumberEntries ρ entries) = renumberEntries (σ ∘ ρ) entries
  | [] => rfl
  | (k, v) :: rest => by
    simp only [renumberEntries, renumber_renumber σ k, renumber_renumber σ v,
      renumberEntries_renumberEntries σ rest]

end

/-- A value with all scalars given one number, so that nothing tells them apart but what they are. -/
def anonymous (v : Value) : Value := v.renumber fun _ => 0

@[simp] theorem anonymous_renumber (v : Value) : (v.renumber ρ).anonymous = v.anonymous :=
  renumber_renumber ρ _ v

mutual

/-- Whether a value holds no scalar. -/
def isPlain : Value → Bool
  | list items | tuple items | set items => arePlain items
  | dictionary entries => entriesArePlain entries
  | scalar _ => false
  | _ => true

def arePlain : List Value → Bool
  | [] => true
  | v :: rest => v.isPlain && arePlain rest

def entriesArePlain : List (Value × Value) → Bool
  | [] => true
  | (k, v) :: rest => k.isPlain && v.isPlain && entriesArePlain rest

end

mutual

theorem renumber_of_isPlain : ∀ v : Value, v.isPlain = true → v.renumber ρ = v
  | list items, h => congrArg list (renumberItems_of_arePlain items h)
  | tuple items, h => congrArg tuple (renumberItems_of_arePlain items h)
  | set items, h => congrArg set (renumberItems_of_arePlain items h)
  | dictionary entries, h => congrArg dictionary (renumberEntries_of_arePlain entries h)
  | scalar _, h => nomatch h
  | none, _ | boolean _, _ | integer _, _ | real _, _ | complex _ _, _ | text _, _ | bytes _ _, _ | view _, _
  | cycle _, _ | object, _ | date _, _ | moment _, _ | machine _, _ | typeId _, _ | dataType _, _ => rfl

theorem renumberItems_of_arePlain :
    ∀ items : List Value, arePlain items = true → renumberItems ρ items = items
  | [], _ => rfl
  | v :: rest, h => by
    rw [arePlain, Bool.and_eq_true] at h
    rw [renumberItems, renumber_of_isPlain v h.1, renumberItems_of_arePlain rest h.2]

theorem renumberEntries_of_arePlain :
    ∀ entries : List (Value × Value), entriesArePlain entries = true → renumberEntries ρ entries = entries
  | [], _ => rfl
  | (k, v) :: rest, h => by
    rw [entriesArePlain, Bool.and_eq_true, Bool.and_eq_true] at h
    rw [renumberEntries, renumber_of_isPlain k h.1.1, renumber_of_isPlain v h.1.2,
      renumberEntries_of_arePlain rest h.2]

end

end Value

end TypedScalar
