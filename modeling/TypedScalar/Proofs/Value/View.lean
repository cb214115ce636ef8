import Mathlib.Data.List.Zip
import Mathlib.Data.Nat.Notation
import TypedScalar.Value.Comparison

/-! Views of memory beside bytes. A view equals the bytes that it shows only if it is a row of single bytes, and
its format takes each of them as the number that it is. -/

namespace TypedScalar

/-- The bits of a kind keep the integers within its bounds. -/
theorem IntegerKind.kept_eq_iff {k : IntegerKind} {n : ℤ} : k.kept n = n ↔ k.min ≤ n ∧ n ≤ k.max := by
  refine ⟨fun h => h ▸ k.kept_bounds n, fun ⟨hmin, hmax⟩ => ?_⟩
  obtain ⟨signed, width⟩ := k
  cases signed with
  | false =>
    cases width <;>
      simp only [kept, IntegerKind.min, IntegerKind.max, Width.bits, Bool.false_eq_true, if_false] at hmin hmax ⊢ <;>
      exact Int.emod_eq_of_lt hmin (by omega)
  | true =>
    cases width <;>
      simp only [kept, IntegerKind.min, IntegerKind.max, Width.bits, if_true] at hmin hmax ⊢ <;>
      exact Int.bmod_eq_of_le (by omega) (by omega)

namespace ItemFormat

/-- Whether an item of one byte is the number that the byte is. No character is a number. -/
def TakesAsIs : ItemFormat → UInt8 → Prop
  | truth, b => b.toNat ≤ 1
  | integer ⟨false, .w8⟩, _ => True
  | integer ⟨true, .w8⟩, b => b.toNat < 128
  | _, _ => False

/-- The format of the items of bytes. -/
def ofByte : ItemFormat := integer ⟨false, .w8⟩

variable {f : ItemFormat}

/-- Items of one byte are read off byte by byte. -/
theorem readItems_of_size (hsize : f.size = 1) (content : List UInt8) :
    f.readItems content.length content = content.map fun b => f.read [b] := by
  induction content with
  | nil => rfl
  | cons b rest ih =>
    rw [List.length_cons, readItems, hsize, List.map_cons]
    exact congrArg _ ih

theorem equalsUnpacked_read (hsize : f.size = 1) (b : UInt8) :
    Value.equalsUnpacked (ofByte.read [b]).unpacked (f.read [b]).unpacked = true ↔ f.TakesAsIs b := by
  have hb : b.toNat < 256 := b.toNat_lt
  have hbyte : (ofByte.read [b]).unpacked = .integer b.toNat := by
    have hself : (b.toNat : ℤ) % 256 = b.toNat := Int.emod_eq_of_lt (by omega) (by omega)
    simp [ofByte, read, Machine.unpacked, IntegerKind.wrap, IntegerKind.kept, Machine.word, Width.bits, hself]
  rw [hbyte]
  cases f with
  | character => simp [read, Machine.unpacked, Value.equalsUnpacked, Value.number?, Value.bytes?, TakesAsIs]
  | truth =>
    by_cases hzero : b = 0
    · simp [read, Machine.unpacked, Value.equalsUnpacked, Value.number?, Value.equalNumbers, TakesAsIs, hzero]
    · have hpos : b.toNat ≠ 0 := fun h => hzero (UInt8.toNat_inj.1 h)
      simp [read, Machine.unpacked, Value.equalsUnpacked, Value.number?, Value.equalNumbers, TakesAsIs, hzero]
      omega
  | integer k =>
    obtain ⟨signed, width⟩ := k
    cases width with
    | w8 =>
      have hkept : Value.equalsUnpacked (.integer b.toNat) (read (integer ⟨signed, .w8⟩) [b]).unpacked = true ↔
          b.toNat = IntegerKind.kept ⟨signed, .w8⟩ b.toNat := by
        simp [read, Machine.unpacked, Value.equalsUnpacked, Value.number?, Value.equalNumbers, IntegerKind.wrap,
          Machine.word]
      rw [hkept, eq_comm, IntegerKind.kept_eq_iff]
      cases signed <;> simp [IntegerKind.min, IntegerKind.max, Width.bits, TakesAsIs] <;> omega
    | w16 | w32 | w64 => simp [size, Width.bits] at hsize
  | half | single | double => simp [size] at hsize

end ItemFormat

/-- Whether a view is a row of single bytes, all taken as the numbers that they are. -/
def View.IsBytes (w : View) : Prop := w.shape = [w.content.length] ∧ ∀ b ∈ w.content, w.format.TakesAsIs b

namespace Value

theorem sameShape_row_iff {n : ℕ} {shape : List ℕ} : sameShape [n] shape = true ↔ shape = [n] := by
  match shape with
  | [] => simp [sameShape]
  | [m] =>
    simp only [sameShape, List.length_nil, beq_self_eq_true, Bool.true_and, Bool.or_true, Bool.and_true,
      beq_iff_eq, List.cons.injEq, and_true]
    exact eq_comm
  | m :: m' :: rest => simp [sameShape]

variable {w : View}

/-- A row of as many items as there are bytes has items of one byte. -/
theorem size_of_row (hrow : w.shape = [w.content.length]) (hcontent : w.content ≠ []) : w.format.size = 1 := by
  have hsized := w.sized
  rw [hrow, List.foldl_cons, List.foldl_nil, Nat.one_mul] at hsized
  exact (Nat.eq_of_mul_eq_mul_right (List.length_pos_iff.2 hcontent) ((Nat.one_mul _).trans hsized)).symm

/-- The items of such a row, against those of its bytes. -/
theorem all_items_iff (hrow : w.shape = [w.content.length]) :
    (((Items.ofBytes w.content).items.zip w.items.items).all fun p => equalsUnpacked p.1.unpacked p.2.unpacked) =
        true ↔ ∀ b ∈ w.content, w.format.TakesAsIs b := by
  rcases eq_or_ne w.content [] with hcontent | hcontent
  · simp [Items.ofBytes, hcontent, ItemFormat.readItems]
  · have hsize := size_of_row hrow hcontent
    have hitems : w.items.items = w.content.map fun b => w.format.read [b] := by
      rw [View.items, hrow, List.foldl_cons, List.foldl_nil, Nat.one_mul]
      exact ItemFormat.readItems_of_size hsize w.content
    have hbytes : (Items.ofBytes w.content).items = w.content.map fun b => ItemFormat.ofByte.read [b] :=
      ItemFormat.readItems_of_size rfl w.content
    rw [hitems, hbytes, List.zip_map', List.all_map, List.all_eq_true]
    exact forall₂_congr fun b _ => ItemFormat.equalsUnpacked_read hsize b

/-- The bytes that a view shows equal it just if it is a row of these bytes. -/
theorem equals_view_iff : (bytes .plain w.content).equals (view w) = true ↔ w.IsBytes := by
  have hequals : (bytes .plain w.content).equals (view w) = equalsMemory (bytes .plain w.content) (view w) := by
    simp [equals, compare, quantity?, equalsPlain]
  rw [hequals, equalsMemory]
  simp only [memory?, Bool.and_eq_true]
  refine (and_congr_left' sameShape_row_iff).trans ?_
  exact and_congr_right all_items_iff

end Value

end TypedScalar
