import TypedScalar.Proofs.Yaml.Meaning

/-! Documents as values. A document has one value, which decides whether it is a mapping and whether it counts
as true. The entries of a mapping have values of their own, and no text is the key of two of them, so that
the value under a text is that of the entry with this key, wherever the entry stands. -/

namespace TypedScalar.Yaml

namespace Builder

variable {b : Builder} {n : Nat}

theorem valueOf_of_value? {v : Value} (h : b.value? n = some v) : b.valueOf n = v := by
  rw [valueOf, unfold, value?_eq_some_iff.1 h]
  rfl

/-- The only nodes with a text as their value are those of texts. -/
theorem valueOf_eq_text_iff {s : String} : b.valueOf n = .text s ↔ b.value? n = some (.text s) := by
  refine ⟨fun h => ?_, valueOf_of_value?⟩
  rw [value?_eq_some_iff]
  rw [valueOf, unfold] at h
  cases hm : b.meaning? n with
  | none => simp [hm] at h
  | some m =>
    cases m with
    | plain v =>
      obtain rfl : v = .text s := by simpa [hm] using h
      rfl
    | _ => simp [hm] at h

end Builder

namespace Document

variable {d : Document} {entries m : List (Value × Value)} {f : String} {v w : Value}

/-- The value of a document. An empty one has none. -/
def value (d : Document) : Value := (d.root.map d.builder.valueOf).getD .none

/-- The entries of a document that is a mapping, in order. -/
def mapping? (d : Document) : Option (List (Value × Value)) :=
  d.entries?.map fun es => es.map fun e => (d.builder.valueOf e.1, d.builder.valueOf e.2)

theorem keys?_eq (d : Document) : d.keys? = d.mapping?.map fun m => m.map Prod.fst := by
  rw [keys?, mapping?]
  cases d.entries? <;> simp

/-- A document counts as true if its value does. -/
theorem isTruthy_eq (d : Document) : d.isTruthy = d.value.isTruthy := by
  obtain ⟨b, _ | n⟩ := d
  · rfl
  · simp only [isTruthy, value, Option.bind_some, Option.map_some, Option.getD_some]
    rw [Builder.valueOf, Builder.unfold]
    cases b.meaning? n with
    | none => rfl
    | some m => cases m <;> simp [Value.isTruthy]

/-- A document is a mapping if its value is one. -/
theorem mapping?_eq_none_iff (hd : d.builder.Coherent) :
    d.mapping? = none ↔ ∀ entries, d.value ≠ .dictionary entries := by
  obtain ⟨b, _ | n⟩ := d
  · simp [mapping?, entries?, value]
  · simp only [mapping?, entries?, value, Option.bind_some, Option.map_some, Option.getD_some]
    rw [Builder.valueOf, Builder.unfold]
    cases hm : b.meaning? n with
    | none => simp
    | some m =>
      cases m with
      | plain v =>
        have hwritten : IsWritten v := hd.written hm
        cases v <;> simp_all [IsWritten]
      | _ => simp

/-! ### Entries -/

/-- Whether no text is the key of two entries. -/
def TextKeysDistinct (m : List (Value × Value)) : Prop :=
  m.Pairwise fun x y => ∀ s, x.1 = .text s → y.1 ≠ .text s

/-- The value of the first entry with a text as its key. -/
def lookup? (m : List (Value × Value)) (f : String) : Option Value :=
  m.findSome? fun x =>
    match x.1 with
    | .text s => if s = f then some x.2 else none
    | _ => none

theorem get?_eq (hm : d.mapping? = some m) (f : String) : d.get? f = lookup? m f := by
  obtain ⟨es, hes, rfl⟩ := Option.map_eq_some_iff.1 hm
  rw [get?, hes, Option.getD_some, lookup?, List.findSome?_map]
  congr 1
  funext e
  simp only [Function.comp_apply]
  split
  · next s hs => rw [Builder.valueOf_of_value? hs]
  · next hne =>
    split
    · next s hs => exact absurd (Builder.valueOf_eq_text_iff.1 hs) (hne s)
    · rfl

theorem lookup?_cons_text (s : String) (w : Value) (m : List (Value × Value)) (f : String) :
    lookup? ((.text s, w) :: m) f = if s = f then some w else lookup? m f := by
  rw [lookup?, List.findSome?_cons]
  by_cases hs : s = f <;> simp [hs, lookup?]

theorem lookup?_cons_of_ne {k : Value} (hk : ∀ s, k ≠ .text s) (w : Value) (m : List (Value × Value))
    (f : String) : lookup? ((k, w) :: m) f = lookup? m f := by
  rw [lookup?, List.findSome?_cons]
  cases k with
  | text s => exact absurd rfl (hk s)
  | _ => rfl

theorem lookup?_eq_some_iff (hm : TextKeysDistinct m) : lookup? m f = some v ↔ (.text f, v) ∈ m := by
  induction m with
  | nil => simp [lookup?]
  | cons x rest ih =>
    obtain ⟨hx, hrest⟩ := List.pairwise_cons.1 hm
    obtain ⟨k, w⟩ := x
    by_cases hk : ∃ s, k = .text s
    · obtain ⟨s, rfl⟩ := hk
      rw [lookup?_cons_text]
      split_ifs with hs
      · subst hs
        have hout : (.text s, v) ∉ rest := fun hmem => hx _ hmem s rfl rfl
        simp [hout, eq_comm]
      · simp [ih hrest, Ne.symm hs]
    · replace hk : ∀ s, k ≠ .text s := not_exists.1 hk
      simp [lookup?_cons_of_ne hk, ih hrest, (hk f).symm]

theorem distinct_of_entries? (hd : d.builder.Coherent) {es : List (Nat × Nat)} (hes : d.entries? = some es) :
    d.builder.Distinct (es.map Prod.fst) := by
  unfold entries? at hes
  split at hes
  · next hroot =>
    cases hes
    obtain ⟨n, -, hn⟩ := Option.bind_eq_some_iff.1 hroot
    exact hd.distinct hn
  · cases hes

theorem textKeysDistinct (hd : d.builder.Coherent) (hm : d.mapping? = some m) : TextKeysDistinct m := by
  obtain ⟨es, hes, rfl⟩ := Option.map_eq_some_iff.1 hm
  obtain ⟨-, hdistinct⟩ := distinct_of_entries? hd hes
  rw [List.pairwise_map] at hdistinct
  refine List.pairwise_map.2 (hdistinct.imp fun {x y} hne s hx hy => ?_)
  exact hne s (Builder.valueOf_eq_text_iff.1 hx) (Builder.valueOf_eq_text_iff.1 hy)

end Document

end TypedScalar.Yaml
