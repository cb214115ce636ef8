import TypedScalar.Proofs.Scalar.ThroughText
import TypedScalar.Proofs.Text.Utf8

/-! Casts between string and binary. A text is cast to the bytes of its characters, and bytes are
cast to the text that they are, if they are well formed. -/

namespace TypedScalar.Scalar

open Text.Utf8 (WellFormed texts decode)

variable {e : Environment} {c d cb cs : ScalarClass} {tb ts : Value}

theorem cast_text (htb : DataType.resolve e.rendering tb = .ok (.concrete .binary))
    (hcb : e.registry.find? (some .binary) = some cb) (hkind : cb.kind? = some .binary)
    (hc : c.kind? = some .string) (number : ℕ) (text : String) :
    ∃ log, (cast ⟨number, c, .string, hc, some text⟩ tb).outcome e =
      (.ok (.fresh ⟨cb, .binary, hkind, some (texts text).1⟩), { e with log := log }) := by
  have hcast : castPayload e.rendering cb .string text =
      .ok ⟨cb, .binary, hkind, some (texts text).1⟩ := by
    simp only [castPayload, convert, hkind, ↓reduceIte]
    exact make_bytes hkind _
  have houtcome := cast_outcome (h := ⟨number, c, .string, hc, some text⟩) htb hcb rfl
    Kind.noConfusion Kind.noConfusion
  rw [hcast] at houtcome
  exact ⟨_, houtcome⟩

/-- What a string class makes of bytes. -/
inductive BytesCast (bytes : List UInt8) (cs : ScalarClass) (hkind : cs.kind? = some .string) :
    Except Error Scalar → Prop
  | text (h : WellFormed bytes) :
    BytesCast bytes cs hkind (.ok ⟨cs, .string, hkind, some (texts.symm ⟨bytes, h⟩)⟩)
  | refused (h : ¬ WellFormed bytes) (fault : Text.Utf8.Fault) :
    BytesCast bytes cs hkind (.error (.notUtf8 fault))

theorem bytesCast_castPayload {r : Rendering} (hkind : cs.kind? = some .string) (bytes : List UInt8) :
    BytesCast bytes cs hkind (castPayload r cs .binary bytes) := by
  by_cases hbytes : WellFormed bytes
  · have hdecode := Text.Utf8.decode_eq_ok_texts_symm ⟨bytes, hbytes⟩
    simp only [castPayload, convert, hkind, hdecode, String.ofList_toList, make_text hkind]
    exact .text hbytes
  · have hdecode : ∃ fault, decode bytes = .error fault := by
      cases hdecode : decode bytes with
      | ok s => exact absurd (Text.Utf8.wellFormed_iff.2 ⟨s, hdecode⟩) hbytes
      | error fault => exact ⟨fault, rfl⟩
    obtain ⟨fault, hfault⟩ := hdecode
    simp only [castPayload, convert, hkind, hfault]
    exact .refused hbytes fault

theorem bytesCast_cast (hts : DataType.resolve e.rendering ts = .ok (.concrete .string))
    (hcs : e.registry.find? (some .string) = some cs) (hkind : cs.kind? = some .string)
    (hd : d.kind? = some .binary) (number : ℕ) (bytes : List UInt8) :
    ∃ x log, (cast ⟨number, d, .binary, hd, some bytes⟩ ts).outcome e =
      (x.map .fresh, { e with log := log }) ∧ BytesCast bytes cs hkind x :=
  ⟨_, _, cast_outcome (h := ⟨number, d, .binary, hd, some bytes⟩) hts hcs rfl Kind.noConfusion
    Kind.noConfusion, bytesCast_castPayload hkind bytes⟩

theorem cast_bytes (hts : DataType.resolve e.rendering ts = .ok (.concrete .string))
    (hcs : e.registry.find? (some .string) = some cs) (hkind : cs.kind? = some .string)
    (hd : d.kind? = some .binary) (number : ℕ) (bytes : { bytes // WellFormed bytes }) :
    ∃ log, (cast ⟨number, d, .binary, hd, some bytes.1⟩ ts).outcome e =
      (.ok (.fresh ⟨cs, .string, hkind, some (texts.symm bytes)⟩), { e with log := log }) := by
  obtain ⟨x, log, houtcome, hcast⟩ := bytesCast_cast hts hcs hkind hd number bytes.1
  cases hcast with
  | text h => exact ⟨log, houtcome⟩
  | refused h => exact absurd bytes.2 h

/-- A text comes back from binary as it was; bytes are cast to string if and only if they are well
formed, in which case they come back as they were, and are refused otherwise. So the two casts are
inverse to each other, between the texts and the well-formed bytes. -/
theorem utf8Cast_inverse (hreachable : e.registry.Reachable)
    (hts : DataType.resolve e.rendering ts = .ok (.concrete .string))
    (hcs : e.registry.find? (some .string) = some cs)
    (htb : DataType.resolve e.rendering tb = .ok (.concrete .binary))
    (hcb : e.registry.find? (some .binary) = some cb)
    (hc : c.kind? = some .string) (hd : d.kind? = some .binary) (i j : ℕ) :
    let ofText (text : String) : Held := ⟨i, c, .string, hc, some text⟩
    let ofBytes (bytes : List UInt8) : Held := ⟨i, d, .binary, hd, some bytes⟩
    let asString (bytes : List UInt8) := ((cast (ofBytes bytes) ts).outcome e).1
    let asBinary (text : String) := ((cast (ofText text) tb).outcome e).1
    (∀ text, ∃ again, ((castThrough (ofText text) tb j ts).outcome e).1 = .ok again ∧
      again.scalar.equal (ofText text).scalar = true) ∧
    (∀ bytes,
      ((∃ made, asString bytes = .ok made) ↔ WellFormed bytes) ∧
      (WellFormed bytes → ∃ again, ((castThrough (ofBytes bytes) ts j tb).outcome e).1 = .ok again ∧
        again.scalar = ⟨cb, .binary, hreachable.sound.kind?_eq hcb, some bytes⟩) ∧
      (¬ WellFormed bytes → ∃ err, asString bytes = .error err ∧ err.errorClass = .scalarCast)) ∧
    ∃ f : String ≃ { bytes // WellFormed bytes },
      (∀ text, ∃ made, asBinary text = .ok made ∧
        made.scalar = ⟨cb, .binary, hreachable.sound.kind?_eq hcb, some (f text).1⟩) ∧
      ∀ bytes, ∃ made, asString bytes.1 = .ok made ∧
        made.scalar = ⟨cs, .string, hreachable.sound.kind?_eq hcs, some (f.symm bytes)⟩ := by
  intro ofText ofBytes asString asBinary
  have hs := hreachable.sound.kind?_eq hcs
  have hb := hreachable.sound.kind?_eq hcb
  refine ⟨fun text => ?_, fun bytes => ⟨?_, fun hbytes => ?_, fun hbytes => ?_⟩,
    texts, fun text => ?_, fun bytes => ?_⟩
  · obtain ⟨log, hfirst⟩ := cast_text htb hcb hb hc i text
    obtain ⟨log', hsecond⟩ := cast_bytes (e := { e with log := log }) hts hcs hs hb j (texts text)
    rw [Equiv.symm_apply_apply] at hsecond
    have hequal := equal_payloads hs hc (some text) (some text)
    refine ⟨.fresh ⟨cs, .string, hs, some text⟩, ?_, hequal.trans (beq_self_eq_true text)⟩
    rw [castThrough, Action.outcome_bind_ok hfirst]
    exact congrArg Prod.fst hsecond
  · obtain ⟨x, log, houtcome, hcast⟩ := bytesCast_cast hts hcs hs hd i bytes
    replace houtcome : asString bytes = x.map .fresh := congrArg Prod.fst houtcome
    rw [houtcome]
    cases hcast with
    | text h => exact iff_of_true ⟨_, rfl⟩ h
    | refused h => exact iff_of_false (by simp [Except.map]) h
  · obtain ⟨log, hfirst⟩ := cast_bytes hts hcs hs hd i ⟨bytes, hbytes⟩
    obtain ⟨log', hsecond⟩ := cast_text (e := { e with log := log }) htb hcb hb hs j
      (texts.symm ⟨bytes, hbytes⟩)
    rw [Equiv.apply_symm_apply] at hsecond
    refine ⟨.fresh ⟨cb, .binary, hb, some bytes⟩, ?_, rfl⟩
    rw [castThrough, Action.outcome_bind_ok hfirst]
    exact congrArg Prod.fst hsecond
  · obtain ⟨x, log, houtcome, hcast⟩ := bytesCast_cast hts hcs hs hd i bytes
    replace houtcome : asString bytes = x.map .fresh := congrArg Prod.fst houtcome
    rw [houtcome]
    cases hcast with
    | text h => exact absurd h hbytes
    | refused _ fault => exact ⟨_, rfl, rfl⟩
  · obtain ⟨log, houtcome⟩ := cast_text htb hcb hb hc i text
    exact ⟨_, congrArg Prod.fst houtcome, rfl⟩
  · obtain ⟨log, houtcome⟩ := cast_bytes hts hcs hs hd i bytes
    exact ⟨_, congrArg Prod.fst houtcome, rfl⟩

/-- A text of characters of every length comes back; the bytes of a surrogate are no text. -/
theorem utf8Cast_inverse_initial :
    let e := Environment.initial
    let text := "aé€😀"
    (∃ again, ((castThrough ⟨0, .concrete .string, .string, rfl, some text⟩ (.text "binary") 1
        (.text "string")).outcome e).1 = .ok again ∧
      again.scalar.equal ⟨.concrete .string, .string, rfl, some text⟩ = true) ∧
    ∃ err, ((cast ⟨0, .concrete .binary, .binary, rfl, some [0xed, 0xa0, 0x80]⟩
        (.text "string")).outcome e).1 = .error err ∧ err.errorClass = .scalarCast := by
  intro e text
  have hresolve (k : Kind) : DataType.resolve e.rendering (.text k.name) = .ok (.concrete k) :=
    DataType.resolve_name _ k
  obtain ⟨htexts, hbytes, -⟩ := utf8Cast_inverse (e := e) .builtIn (hresolve .string) rfl
    (hresolve .binary) rfl (c := .concrete .string) rfl (d := .concrete .binary) rfl 0 1
  exact ⟨htexts text, (hbytes [0xed, 0xa0, 0x80]).2.2 (by decide +kernel)⟩

end TypedScalar.Scalar
