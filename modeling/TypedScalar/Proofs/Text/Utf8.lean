import Mathlib.Data.Nat.Notation
import Mathlib.Logic.Equiv.Defs
import Mathlib.Tactic.Convert
import Mathlib.Tactic.SplitIfs
import TypedScalar.Text.Utf8

/-! UTF-8. Bytes are well formed if they fall into sequences that each stand for a character, in
no more bytes than its number needs. Decoding takes exactly the well-formed bytes, and gives the
one text that is encoded so. -/

namespace TypedScalar.Text.Utf8

variable {a : UInt8} {c : Char} {n : ℕ} {bytes rest : List UInt8} {s : List Char} {p : Pending}

/-! ### Well-formed bytes -/

/-- A byte behind the first one of a sequence adds six bits to the number. -/
abbrev IsTail (b : UInt8) : Prop := 0x80 ≤ b.toNat ∧ b.toNat ≤ 0xbf

/-- The number that a sequence of bytes stands for, which need not be that of a character. The
first byte tells how many follow, and adds the bits that are left. -/
inductive Sequence : List UInt8 → ℕ → Prop
  | one {a : UInt8} (ha : a.toNat ≤ 0x7f) : Sequence [a] a.toNat
  | two {a b : UInt8} (ha : 0xc0 ≤ a.toNat ∧ a.toNat ≤ 0xdf) (hb : IsTail b) :
    Sequence [a, b] ((a.toNat - 0xc0) * 0x40 + (b.toNat - 0x80))
  | three {a b c : UInt8} (ha : 0xe0 ≤ a.toNat ∧ a.toNat ≤ 0xef) (hb : IsTail b) (hc : IsTail c) :
    Sequence [a, b, c] (((a.toNat - 0xe0) * 0x40 + (b.toNat - 0x80)) * 0x40 + (c.toNat - 0x80))
  | four {a b c d : UInt8} (ha : 0xf0 ≤ a.toNat ∧ a.toNat ≤ 0xf7) (hb : IsTail b) (hc : IsTail c)
    (hd : IsTail d) :
    Sequence [a, b, c, d]
      ((((a.toNat - 0xf0) * 0x40 + (b.toNat - 0x80)) * 0x40 + (c.toNat - 0x80)) * 0x40 + (d.toNat - 0x80))

/-- Whether bytes are a character: a sequence for its number, such that none is shorter. Surrogates
and the numbers above U+10FFFF are no characters. -/
def IsCharacter (bytes : List UInt8) : Prop :=
  ∃ n : ℕ, Sequence bytes n ∧ n.isValidChar ∧ ∀ other, Sequence other n → bytes.length ≤ other.length

/-- Whether bytes are one character after another, none of them cut off. -/
inductive WellFormed : List UInt8 → Prop
  | nil : WellFormed []
  | append {bytes rest : List UInt8} (h : IsCharacter bytes) (hrest : WellFormed rest) :
    WellFormed (bytes ++ rest)

theorem toNat_ofNat (h : n < 0x100) : (UInt8.ofNat n).toNat = n := by
  rw [UInt8.toNat_ofNat']
  exact Nat.mod_eq_of_lt h

theorem toNat_char_ofNat (h : n.isValidChar) : (Char.ofNat n).toNat = n := by
  rw [Char.ofNat, dif_pos h]
  rfl

theorem toNat_lt (c : Char) : c.toNat < 0x110000 := by
  have hvalid : c.toNat.isValidChar := c.valid
  rw [Nat.isValidChar] at hvalid
  omega

/-- A number is written in as few bytes as it needs. -/
theorem sequence_encodeChar (c : Char) : Sequence (encodeChar c) c.toNat := by
  have hlt := toNat_lt c
  have htail (m : ℕ) : (UInt8.ofNat (0x80 + m % 0x40)).toNat = 0x80 + m % 0x40 := toNat_ofNat (by omega)
  have hisTail (m : ℕ) : IsTail (UInt8.ofNat (0x80 + m % 0x40)) := by
    rw [IsTail, htail]
    omega
  rw [encodeChar]
  generalize c.toNat = n at hlt ⊢
  split_ifs with h₁ h₂ h₃
  · have ha := toNat_ofNat (n := n) (by omega)
    convert Sequence.one (a := UInt8.ofNat n) (by omega)
    omega
  · have ha := toNat_ofNat (n := 0xc0 + n / 0x40) (by omega)
    convert Sequence.two (a := UInt8.ofNat (0xc0 + n / 0x40)) (by omega) (hisTail n)
    rw [ha, htail]
    omega
  · have ha := toNat_ofNat (n := 0xe0 + n / 0x1000) (by omega)
    convert Sequence.three (a := UInt8.ofNat (0xe0 + n / 0x1000)) (by omega) (hisTail (n / 0x40)) (hisTail n)
    rw [ha, htail, htail]
    omega
  · have ha := toNat_ofNat (n := 0xf0 + n / 0x40000) (by omega)
    convert Sequence.four (a := UInt8.ofNat (0xf0 + n / 0x40000)) (by omega) (hisTail (n / 0x1000))
      (hisTail (n / 0x40)) (hisTail n)
    rw [ha, htail, htail, htail]
    omega

theorem encodeChar_ne_nil (c : Char) : encodeChar c ≠ [] := by
  intro h
  have hsequence := sequence_encodeChar c
  rw [h] at hsequence
  cases hsequence

/-- Of the sequences of one length, one at most stands for a number. -/
theorem Sequence.unique {x y : List UInt8} (hx : Sequence x n) (hy : Sequence y n)
    (hlength : x.length = y.length) : x = y := by
  generalize hm : n = m at hy
  cases hx <;> cases hy <;>
    simp only [List.length_cons, List.length_nil, Nat.reduceAdd, Nat.reduceEqDiff] at hlength
  · rw [UInt8.toNat_inj.1 hm]
  · simp only [List.cons.injEq, ← UInt8.toNat_inj, and_true]
    omega
  · simp only [List.cons.injEq, ← UInt8.toNat_inj, and_true]
    omega
  · simp only [List.cons.injEq, ← UInt8.toNat_inj, and_true]
    omega

theorem Sequence.length_encodeChar_le (h : Sequence bytes c.toNat) :
    (encodeChar c).length ≤ bytes.length := by
  generalize hn : c.toNat = n at h
  rw [encodeChar, hn]
  cases h <;> split_ifs <;> simp only [List.length_cons, List.length_nil] <;> omega

theorem isCharacter_iff : IsCharacter bytes ↔ ∃ c, bytes = encodeChar c := by
  constructor
  · rintro ⟨n, hbytes, hvalid, hshortest⟩
    rw [← toNat_char_ofNat hvalid] at hbytes hshortest
    have hencode := sequence_encodeChar (Char.ofNat n)
    exact ⟨_, hbytes.unique hencode (Nat.le_antisymm (hshortest _ hencode) hbytes.length_encodeChar_le)⟩
  · rintro ⟨c, rfl⟩
    exact ⟨_, sequence_encodeChar c, c.valid, fun _ hother => hother.length_encodeChar_le⟩

theorem wellFormed_encode (s : List Char) : WellFormed (encode s) := by
  induction s with
  | nil => exact .nil
  | cons c s ih =>
    rw [encode, List.flatMap_cons]
    exact .append (isCharacter_iff.2 ⟨c, rfl⟩) ih

theorem WellFormed.exists_encode (h : WellFormed bytes) : ∃ s, bytes = encode s := by
  induction h with
  | nil => exact ⟨[], rfl⟩
  | append h _ ih =>
    obtain ⟨c, rfl⟩ := isCharacter_iff.1 h
    obtain ⟨s, rfl⟩ := ih
    exact ⟨c :: s, by rw [encode, encode, List.flatMap_cons]⟩

/-! ### Decoding -/

/-- The bytes that complete a sequence in progress, and the number that it stands for then. -/
inductive Completes : Pending → List UInt8 → ℕ → Prop
  | last {p : Pending} {b : UInt8} (h : p.missing ≤ 1) (hb : p.low ≤ b.toNat ∧ b.toNat ≤ p.high) :
    Completes p [b] (p.bits * 0x40 + (b.toNat - 0x80))
  | more {p : Pending} {b : UInt8} {bytes : List UInt8} {n : ℕ} (h : 1 < p.missing)
    (hb : p.low ≤ b.toNat ∧ b.toNat ≤ p.high)
    (hrest : Completes
      ⟨p.lead, p.start, p.seen + 1, p.missing - 1, 0x80, 0xbf, p.bits * 0x40 + (b.toNat - 0x80)⟩ bytes n) :
    Completes p (b :: bytes) n

theorem map_cons_eq_ok_iff {x : Except Fault (List Char)} :
    x.map (c :: ·) = .ok s ↔ ∃ t, s = c :: t ∧ x = .ok t := by
  cases x with
  | error fault => simp [Except.map]
  | ok t => simp [Except.map, eq_comm]

/-- What is decoded with a sequence in progress begins with the character that is completed. -/
theorem decodeFrom_some_eq_ok_iff {offset : ℕ} :
    decodeFrom (some p) offset bytes = .ok s ↔
      ∃ tail n rest t, bytes = tail ++ rest ∧ Completes p tail n ∧ s = Char.ofNat n :: t ∧
        decodeFrom none (offset + tail.length) rest = .ok t := by
  induction bytes generalizing p offset with
  | nil =>
    refine iff_of_false (by simp [decodeFrom]) ?_
    rintro ⟨tail, n, rest, t, hbytes, hcompletes, -⟩
    cases hcompletes <;> simp at hbytes
  | cons b bytes ih =>
    rw [decodeFrom]
    split_ifs with hb hmissing
    · refine iff_of_false (by simp) ?_
      rintro ⟨tail, n, rest, t, hbytes, hcompletes, -⟩
      cases hcompletes with
      | last h hb' | more h hb' =>
        obtain ⟨rfl, -⟩ := List.cons.inj hbytes
        omega
    · rw [map_cons_eq_ok_iff]
      constructor
      · rintro ⟨t, hs, ht⟩
        exact ⟨[b], _, bytes, t, rfl, .last hmissing (by omega), hs, ht⟩
      · rintro ⟨tail, n, rest, t, hbytes, hcompletes, hs, ht⟩
        cases hcompletes with
        | last h hb' =>
          obtain ⟨rfl, rfl⟩ := List.cons.inj hbytes
          exact ⟨t, hs, ht⟩
        | more h hb' => omega
    · rw [ih]
      constructor
      · rintro ⟨tail, n, rest, t, rfl, hcompletes, hs, ht⟩
        refine ⟨b :: tail, n, rest, t, rfl, .more (by omega) (by omega) hcompletes, hs, ?_⟩
        rwa [List.length_cons, Nat.add_comm tail.length, ← Nat.add_assoc]
      · rintro ⟨tail, n, rest, t, hbytes, hcompletes, hs, ht⟩
        cases hcompletes with
        | last h hb' => omega
        | @more _ _ tail _ h hb' htail =>
          obtain ⟨rfl, rfl⟩ := List.cons.inj hbytes
          rw [List.length_cons, Nat.add_comm tail.length, ← Nat.add_assoc] at ht
          exact ⟨tail, n, rest, t, rfl, htail, hs, ht⟩

theorem completes_one_iff {lead : UInt8} {start seen low high bits : ℕ} {tail : List UInt8} :
    Completes ⟨lead, start, seen, 1, low, high, bits⟩ tail n ↔
      ∃ b : UInt8, tail = [b] ∧ (low ≤ b.toNat ∧ b.toNat ≤ high) ∧ bits * 0x40 + (b.toNat - 0x80) = n := by
  constructor
  · rintro (⟨-, hb⟩ | ⟨h, -, -⟩)
    · exact ⟨_, rfl, hb, rfl⟩
    · exact absurd h (Nat.lt_irrefl 1)
  · rintro ⟨b, rfl, hb, rfl⟩
    exact .last (Nat.le_refl 1) hb

theorem completes_more_iff {lead : UInt8} {start seen missing low high bits : ℕ} {tail : List UInt8} :
    Completes ⟨lead, start, seen, missing + 2, low, high, bits⟩ tail n ↔
      ∃ (b : UInt8) (rest : List UInt8), tail = b :: rest ∧ (low ≤ b.toNat ∧ b.toNat ≤ high) ∧
        Completes ⟨lead, start, seen + 1, missing + 1, 0x80, 0xbf, bits * 0x40 + (b.toNat - 0x80)⟩ rest n := by
  constructor
  · rintro (⟨h, -⟩ | ⟨-, hb, hrest⟩)
    · exact absurd h (by simp)
    · exact ⟨_, _, rfl, hb, hrest⟩
  · rintro ⟨b, rest, rfl, hb, hrest⟩
    exact .more (by simp) hb hrest

/-- How many bytes a number needs. -/
def byteCount (n : ℕ) : ℕ := if n < 0x80 then 1 else if n < 0x800 then 2 else if n < 0x10000 then 3 else 4

theorem length_encodeChar (c : Char) : (encodeChar c).length = byteCount c.toNat := by
  rw [encodeChar, byteCount]
  split_ifs <;> rfl

theorem Sequence.eq_encodeChar (h : Sequence bytes n) (hvalid : n.isValidChar)
    (hlength : bytes.length = byteCount n) : bytes = encodeChar (Char.ofNat n) := by
  have hn := toNat_char_ofNat hvalid
  refine Sequence.unique h ?_ ?_
  · simpa only [hn] using sequence_encodeChar (Char.ofNat n)
  · rw [hlength, length_encodeChar, hn]

/-- What a byte announces, and what completes that, make up a character. -/
theorem Completes.eq_encodeChar {offset : ℕ} {tail : List UInt8} (hp : Pending.ofLead? offset a = some p)
    (h : Completes p tail n) : n.isValidChar ∧ a :: tail = encodeChar (Char.ofNat n) := by
  suffices hsequence : Sequence (a :: tail) n ∧ n.isValidChar ∧ (a :: tail).length = byteCount n by
    obtain ⟨hsequence, hvalid, hlength⟩ := hsequence
    exact ⟨hvalid, hsequence.eq_encodeChar hvalid hlength⟩
  rw [Nat.isValidChar, byteCount]
  rw [Pending.ofLead?] at hp
  by_cases h₁ : a.toNat < 0xc2
  · simp [h₁] at hp
  by_cases h₂ : a.toNat < 0xe0
  · rw [if_neg h₁, if_pos h₂] at hp
    obtain rfl := Option.some.inj hp
    obtain ⟨b, rfl, hb, rfl⟩ := completes_one_iff.1 h
    refine ⟨.two (by omega) hb, by omega, ?_⟩
    rw [if_neg (by omega), if_pos (by omega)]
    rfl
  by_cases h₃ : a.toNat < 0xf0
  · rw [if_neg h₁, if_neg h₂, if_pos h₃] at hp
    obtain rfl := Option.some.inj hp
    obtain ⟨b, _, rfl, hb, h⟩ := completes_more_iff.1 h
    obtain ⟨c, rfl, hc, rfl⟩ := completes_one_iff.1 h
    -- without the first bound the form were overlong, without the second one a surrogate
    have hbounds : IsTail b ∧ (a.toNat = 0xe0 → 0xa0 ≤ b.toNat) ∧ (a.toNat = 0xed → b.toNat ≤ 0x9f) := by
      split_ifs at hb <;> omega
    refine ⟨.three (by omega) hbounds.1 hc, by omega, ?_⟩
    rw [if_neg (by omega), if_neg (by omega), if_pos (by omega)]
    rfl
  by_cases h₄ : a.toNat < 0xf5
  · rw [if_neg h₁, if_neg h₂, if_neg h₃, if_pos h₄] at hp
    obtain rfl := Option.some.inj hp
    obtain ⟨b, _, rfl, hb, h⟩ := completes_more_iff.1 h
    obtain ⟨c, _, rfl, hc, h⟩ := completes_more_iff.1 h
    obtain ⟨d, rfl, hd, rfl⟩ := completes_one_iff.1 h
    -- without the first bound the form were overlong, without the second one above U+10FFFF
    have hbounds : IsTail b ∧ (a.toNat = 0xf0 → 0x90 ≤ b.toNat) ∧ (a.toNat = 0xf4 → b.toNat ≤ 0x8f) := by
      split_ifs at hb <;> omega
    refine ⟨.four (by omega) hbounds.1 hc hd, by omega, ?_⟩
    rw [if_neg (by omega), if_neg (by omega), if_neg (by omega)]
    rfl
  · simp [h₁, h₂, h₃, h₄] at hp

/-- A character of more than one byte is what its first byte announces, completed by the others. -/
theorem exists_completes (h : ¬ c.toNat < 0x80) (hbytes : encodeChar c = a :: bytes) (offset : ℕ) :
    ∃ p, Pending.ofLead? offset a = some p ∧ Completes p bytes c.toNat := by
  have hsequence := sequence_encodeChar c
  have hlength := length_encodeChar c
  have hvalid : c.toNat.isValidChar := c.valid
  rw [hbytes] at hsequence hlength
  rw [byteCount, if_neg h] at hlength
  rw [Nat.isValidChar] at hvalid
  rw [Pending.ofLead?]
  generalize c.toNat = n at h hsequence hlength hvalid
  cases hsequence with
  | one ha => omega
  | @two _ b ha hb =>
    have hn : (a.toNat - 0xc0) * 0x40 + (b.toNat - 0x80) < 0x800 := by
      simp only [List.length_cons, List.length_nil] at hlength
      split_ifs at hlength <;> omega
    rw [if_neg (by omega), if_pos (by omega)]
    exact ⟨_, rfl, completes_one_iff.2 ⟨b, rfl, hb, rfl⟩⟩
  | @three _ b c ha hb hc =>
    have hn : ¬ ((a.toNat - 0xe0) * 0x40 + (b.toNat - 0x80)) * 0x40 + (c.toNat - 0x80) < 0x800 := by
      simp only [List.length_cons, List.length_nil] at hlength
      split_ifs at hlength <;> omega
    rw [if_neg (by omega), if_neg (by omega), if_pos (by omega)]
    refine ⟨_, rfl, completes_more_iff.2 ⟨b, _, rfl, ?_, completes_one_iff.2 ⟨c, rfl, hc, rfl⟩⟩⟩
    split_ifs <;> omega
  | @four _ b c d ha hb hc hd =>
    have hn : ¬ (((a.toNat - 0xf0) * 0x40 + (b.toNat - 0x80)) * 0x40 + (c.toNat - 0x80)) * 0x40
        + (d.toNat - 0x80) < 0x10000 := by
      simp only [List.length_cons, List.length_nil] at hlength
      split_ifs at hlength <;> omega
    rw [if_neg (by omega), if_neg (by omega), if_neg (by omega), if_pos (by omega)]
    refine ⟨_, rfl, completes_more_iff.2 ⟨b, _, rfl, ?_, completes_more_iff.2 ⟨c, _, rfl, hc,
      completes_one_iff.2 ⟨d, rfl, hd, rfl⟩⟩⟩⟩
    split_ifs <;> omega

theorem Pending.le_of_ofLead? {offset : ℕ} (hp : Pending.ofLead? offset a = some p) :
    0xc2 ≤ a.toNat := by
  refine Nat.le_of_not_lt fun h => ?_
  rw [Pending.ofLead?, if_pos h] at hp
  cases hp

theorem decodeFrom_none_eq_nil_iff {offset : ℕ} : decodeFrom none offset bytes = .ok [] ↔ bytes = [] := by
  cases bytes with
  | nil => simp [decodeFrom]
  | cons b bytes =>
    refine iff_of_false ?_ (by simp)
    rw [decodeFrom]
    split_ifs
    · simp [map_cons_eq_ok_iff]
    · cases Pending.ofLead? offset b <;> simp [decodeFrom_some_eq_ok_iff]

/-- The first character that is decoded is the one that the first bytes are. -/
theorem decodeFrom_none_eq_cons_iff {offset : ℕ} :
    decodeFrom none offset bytes = .ok (c :: s) ↔
      ∃ rest, bytes = encodeChar c ++ rest ∧
        decodeFrom none (offset + (encodeChar c).length) rest = .ok s := by
  constructor
  · intro h
    cases bytes with
    | nil => simp [decodeFrom] at h
    | cons b bytes =>
      rw [decodeFrom] at h
      split_ifs at h with hb
      · obtain ⟨t, ht, h⟩ := map_cons_eq_ok_iff.1 h
        obtain ⟨rfl, rfl⟩ := List.cons.inj ht
        have hchar := Sequence.eq_encodeChar (.one (Nat.le_of_lt_succ hb)) (.inl (by omega))
          (by rw [byteCount, if_pos hb]; rfl)
        exact ⟨bytes, by rw [← hchar]; rfl, by rwa [← hchar]⟩
      · cases hp : Pending.ofLead? offset b with
        | none => simp [hp] at h
        | some p =>
          simp only [hp] at h
          obtain ⟨tail, n, rest, t, rfl, hcompletes, hs, ht⟩ := decodeFrom_some_eq_ok_iff.1 h
          obtain ⟨rfl, rfl⟩ := List.cons.inj hs
          have hchar := (hcompletes.eq_encodeChar hp).2
          refine ⟨rest, by rw [← hchar]; rfl, ?_⟩
          rwa [← hchar, List.length_cons, Nat.add_comm tail.length, ← Nat.add_assoc]
  · rintro ⟨rest, rfl, h⟩
    by_cases hc : c.toNat < 0x80
    · have hchar : encodeChar c = [UInt8.ofNat c.toNat] := by rw [encodeChar, if_pos hc]
      have hbyte : (UInt8.ofNat c.toNat).toNat = c.toNat := toNat_ofNat (by omega)
      rw [hchar] at h ⊢
      rw [List.singleton_append, decodeFrom, hbyte, if_pos hc, map_cons_eq_ok_iff]
      exact ⟨s, by rw [Char.ofNat_toNat], h⟩
    · cases hbytes : encodeChar c with
      | nil => exact absurd hbytes (encodeChar_ne_nil c)
      | cons a tail =>
        obtain ⟨p, hp, hcompletes⟩ := exists_completes hc hbytes offset
        have ha := Pending.le_of_ofLead? hp
        rw [List.cons_append, decodeFrom, if_neg (by omega)]
        simp only [hp]
        refine decodeFrom_some_eq_ok_iff.2 ⟨tail, _, rest, s, rfl, hcompletes, by rw [Char.ofNat_toNat], ?_⟩
        rwa [hbytes, List.length_cons, Nat.add_comm tail.length, ← Nat.add_assoc] at h

/-- Decoding takes the bytes of a text, and gives that text. -/
theorem decodeFrom_none_eq_ok_iff {offset : ℕ} :
    decodeFrom none offset bytes = .ok s ↔ bytes = encode s := by
  induction s generalizing bytes offset with
  | nil => rw [decodeFrom_none_eq_nil_iff, encode, List.flatMap_nil]
  | cons c s ih =>
    simp only [decodeFrom_none_eq_cons_iff, ih, encode, List.flatMap_cons, exists_eq_right]

theorem decode_eq_ok_iff : decode bytes = .ok s ↔ bytes = encode s := decodeFrom_none_eq_ok_iff

theorem decode_encode (s : List Char) : decode (encode s) = .ok s := decode_eq_ok_iff.2 rfl

/-- Bytes are well formed if decoding finds no fault. -/
theorem wellFormed_iff : WellFormed bytes ↔ ∃ s, decode bytes = .ok s := by
  simp only [decode_eq_ok_iff]
  constructor
  · exact WellFormed.exists_encode
  · rintro ⟨s, rfl⟩
    exact wellFormed_encode s

instance : DecidablePred WellFormed := fun bytes =>
  decidable_of_iff ((decode bytes).isOk = true) <| by
    rw [wellFormed_iff]
    cases decode bytes <;> simp [Except.isOk, Except.toBool]

/-- Texts are the same as well-formed bytes. -/
def texts : String ≃ { bytes // WellFormed bytes } where
  toFun text := ⟨encode text.toList, wellFormed_encode text.toList⟩
  invFun bytes := String.ofList ((decode bytes).toOption.getD [])
  left_inv text := by simp [decode_encode, Except.toOption]
  right_inv := by
    rintro ⟨bytes, h⟩
    obtain ⟨s, rfl⟩ := h.exists_encode
    simp [decode_encode, Except.toOption]

theorem decode_eq_ok_texts_symm (bytes : { bytes // WellFormed bytes }) :
    decode bytes = .ok (texts.symm bytes).toList := by
  obtain ⟨text, rfl⟩ := texts.surjective bytes
  rw [Equiv.symm_apply_apply]
  exact decode_encode text.toList

end TypedScalar.Text.Utf8
