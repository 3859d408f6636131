import Mathlib.Algebra.Group.Nat.Defs
import Stencil.Text.Utf8

/-!
Decoding gives back the text that was encoded, and decodes nothing else.  The first byte of a
character tells how many bytes follow and which second byte is allowed; each of the others adds six
bits.
-/
namespace Stencil.Text.Utf8

variable {n position : Nat} {b : UInt8} {p : Pending} {bs : List UInt8}

theorem toNat_byte (small : n < 256) : (UInt8.ofNat n).toNat = n := by
  rw [UInt8.toNat_ofNat']
  omega

/-! ## One byte -/

theorem decodeFrom_ascii (small : n < 0x80) :
    decodeFrom position none (UInt8.ofNat n :: bs) =
      (decodeFrom (position + 1) none bs).map (Char.ofNat n :: ·) := by
  have value : (UInt8.ofNat n).toNat = n := toNat_byte (by omega)
  rw [decodeFrom, value, if_pos small]

theorem decodeFrom_begin
    (large : 0x80 ≤ b.toNat)
    (begun : begin? b = some p) :
    decodeFrom position none (b :: bs) = decodeFrom (position + 1) (some p) bs := by
  rw [decodeFrom, if_neg (by omega), begun]

theorem decodeFrom_extend
    (allowed : p.low ≤ b.toNat ∧ b.toNat ≤ p.high)
    (more : 1 < p.missing) :
    decodeFrom position (some p) (b :: bs) = decodeFrom (position + 1) (some (p.extend b)) bs := by
  have missing : (p.extend b).missing ≠ 0 := by
    simp only [Pending.extend]
    omega
  rw [decodeFrom, if_pos allowed]
  exact if_neg missing

theorem decodeFrom_finish
    (allowed : p.low ≤ b.toNat ∧ b.toNat ≤ p.high)
    (last : p.missing = 1) :
    decodeFrom position (some p) (b :: bs) =
      (decodeFrom (position + 1) none bs).map
        (Char.ofNat (p.bits * 64 + (b.toNat - 0x80)) :: ·) := by
  have missing : (p.extend b).missing = 0 := by
    simp only [Pending.extend]
    omega
  rw [decodeFrom, if_pos allowed]
  exact if_pos missing

/-! ## The first byte of a character -/

theorem begin?_two (low : 0x80 ≤ n) (high : n ≤ 0x7FF) :
    let b := UInt8.ofNat (n / 64 % 32 + 192)
    begin? b = some ⟨b, 1, 1, 0x80, 0xBF, n / 64⟩ := by
  intro b
  have value : b.toNat = n / 64 + 192 := (toNat_byte (by omega)).trans (by omega)
  rw [begin?]
  simp only [value]
  rw [if_pos (by omega), Nat.add_sub_cancel]

/-- The second byte keeps shorter forms and surrogates out. -/
theorem begin?_three (low : 0x800 ≤ n) (high : n ≤ 0xFFFF) (valid : n.isValidChar) :
    let b := UInt8.ofNat (n / 4096 % 16 + 224)
    ∃ least greatest, begin? b = some ⟨b, 1, 2, least, greatest, n / 4096⟩ ∧
      least ≤ n / 64 % 64 + 128 ∧ n / 64 % 64 + 128 ≤ greatest := by
  intro b
  have value : b.toNat = n / 4096 + 224 := (toNat_byte (by omega)).trans (by omega)
  rw [begin?]
  simp only [value]
  rw [if_neg (by omega)]
  -- The first byte alone decides among three ranges of the second one.
  by_cases first : n / 4096 = 0
  · rw [if_pos (by omega), first]
    exact ⟨_, _, rfl, by omega, by omega⟩
  · rw [if_neg (by omega)]
    by_cases surrogates : n / 4096 = 13
    · rw [if_pos (by omega), surrogates]
      exact ⟨_, _, rfl, by omega, by omega⟩
    · rw [if_neg (by omega), if_pos (by omega), Nat.add_sub_cancel]
      exact ⟨_, _, rfl, by omega, by omega⟩

/-- The second byte keeps shorter forms and numbers beyond the last code point out. -/
theorem begin?_four (low : 0x10000 ≤ n) (high : n ≤ 0x10FFFF) :
    let b := UInt8.ofNat (n / 262144 % 8 + 240)
    ∃ least greatest, begin? b = some ⟨b, 1, 3, least, greatest, n / 262144⟩ ∧
      least ≤ n / 4096 % 64 + 128 ∧ n / 4096 % 64 + 128 ≤ greatest := by
  intro b
  have value : b.toNat = n / 262144 + 240 := (toNat_byte (by omega)).trans (by omega)
  rw [begin?]
  simp only [value]
  rw [if_neg (by omega), if_neg (by omega), if_neg (by omega), if_neg (by omega)]
  by_cases first : n / 262144 = 0
  · rw [if_pos (by omega), first]
    exact ⟨_, _, rfl, by omega, by omega⟩
  · rw [if_neg (by omega)]
    by_cases last : n / 262144 = 4
    · rw [if_neg (by omega), if_pos (by omega), last]
      exact ⟨_, _, rfl, by omega, by omega⟩
    · rw [if_pos (by omega)]
      refine ⟨_, _, congrArg some (congrArg _ ?_), by omega, by omega⟩
      omega

/-! ## Characters -/

theorem toNat_tail (m : Nat) : (UInt8.ofNat (m % 64 + 128)).toNat = m % 64 + 128 :=
  toNat_byte (by omega)

theorem decodeFrom_two (low : 0x80 ≤ n) (high : n ≤ 0x7FF) :
    decodeFrom position none
        (UInt8.ofNat (n / 64 % 32 + 192) :: UInt8.ofNat (n % 64 + 128) :: bs) =
      (decodeFrom (position + 2) none bs).map (Char.ofNat n :: ·) := by
  have large : 0x80 ≤ (UInt8.ofNat (n / 64 % 32 + 192)).toNat := by
    rw [toNat_byte (by omega)]
    omega
  have bits : n / 64 * 64 + (n % 64 + 128 - 128) = n := by omega
  rw [decodeFrom_begin large (begin?_two low high), decodeFrom_finish _ rfl]
  · simp only [toNat_tail, bits]
  · simp only [toNat_tail]
    omega

theorem decodeFrom_three (low : 0x800 ≤ n) (high : n ≤ 0xFFFF) (valid : n.isValidChar) :
    decodeFrom position none
        (UInt8.ofNat (n / 4096 % 16 + 224) :: UInt8.ofNat (n / 64 % 64 + 128) ::
          UInt8.ofNat (n % 64 + 128) :: bs) =
      (decodeFrom (position + 3) none bs).map (Char.ofNat n :: ·) := by
  have large : 0x80 ≤ (UInt8.ofNat (n / 4096 % 16 + 224)).toNat := by
    rw [toNat_byte (by omega)]
    omega
  have bits : (n / 4096 * 64 + (n / 64 % 64 + 128 - 128)) * 64 + (n % 64 + 128 - 128) = n := by
    omega
  obtain ⟨least, greatest, begun, allowed⟩ := begin?_three low high valid
  rw [decodeFrom_begin large begun, decodeFrom_extend _ (Nat.lt_succ_self 1),
    decodeFrom_finish _ rfl]
  · simp only [Pending.extend, toNat_tail, bits]
  · simp only [Pending.extend, toNat_tail]
    omega
  · simpa only [toNat_tail] using allowed

theorem decodeFrom_four (low : 0x10000 ≤ n) (high : n ≤ 0x10FFFF) :
    decodeFrom position none
        (UInt8.ofNat (n / 262144 % 8 + 240) :: UInt8.ofNat (n / 4096 % 64 + 128) ::
          UInt8.ofNat (n / 64 % 64 + 128) :: UInt8.ofNat (n % 64 + 128) :: bs) =
      (decodeFrom (position + 4) none bs).map (Char.ofNat n :: ·) := by
  have large : 0x80 ≤ (UInt8.ofNat (n / 262144 % 8 + 240)).toNat := by
    rw [toNat_byte (by omega)]
    omega
  have bits : ((n / 262144 * 64 + (n / 4096 % 64 + 128 - 128)) * 64 +
      (n / 64 % 64 + 128 - 128)) * 64 + (n % 64 + 128 - 128) = n := by
    omega
  obtain ⟨least, greatest, begun, allowed⟩ := begin?_four low high
  rw [decodeFrom_begin large begun, decodeFrom_extend _ (Nat.lt_add_of_pos_left Nat.two_pos),
    decodeFrom_extend _ (Nat.lt_succ_self 1), decodeFrom_finish _ rfl]
  · simp only [Pending.extend, toNat_tail, bits]
  · simp only [Pending.extend, toNat_tail]
    omega
  · simp only [Pending.extend, toNat_tail]
    omega
  · simpa only [toNat_tail] using allowed

/-! ## The bytes of a character -/

section Bytes

variable {c : Char}

theorem bytes_one (high : c.toNat ≤ 0x7F) :
    String.utf8EncodeChar c = [UInt8.ofNat c.toNat] :=
  if_pos high

theorem bytes_two (low : 0x80 ≤ c.toNat) (high : c.toNat ≤ 0x7FF) :
    String.utf8EncodeChar c =
      [UInt8.ofNat (c.toNat / 64 % 32 + 192), UInt8.ofNat (c.toNat % 64 + 128)] :=
  (if_neg (Nat.not_le.2 low)).trans (if_pos high)

theorem bytes_three (low : 0x800 ≤ c.toNat) (high : c.toNat ≤ 0xFFFF) :
    String.utf8EncodeChar c =
      [UInt8.ofNat (c.toNat / 4096 % 16 + 224), UInt8.ofNat (c.toNat / 64 % 64 + 128),
        UInt8.ofNat (c.toNat % 64 + 128)] :=
  (if_neg (Nat.not_le.2 (Nat.le_trans (by decide) low))).trans
    ((if_neg (Nat.not_le.2 low)).trans (if_pos high))

theorem bytes_four (low : 0x10000 ≤ c.toNat) :
    String.utf8EncodeChar c =
      [UInt8.ofNat (c.toNat / 262144 % 8 + 240), UInt8.ofNat (c.toNat / 4096 % 64 + 128),
        UInt8.ofNat (c.toNat / 64 % 64 + 128), UInt8.ofNat (c.toNat % 64 + 128)] :=
  (if_neg (Nat.not_le.2 (Nat.le_trans (by decide) low))).trans
    ((if_neg (Nat.not_le.2 (Nat.le_trans (by decide) low))).trans (if_neg (Nat.not_le.2 low)))

end Bytes

theorem decodeFrom_char (c : Char) (position : Nat) (bs : List UInt8) :
    ∃ next, decodeFrom position none (String.utf8EncodeChar c ++ bs) =
      (decodeFrom next none bs).map (c :: ·) := by
  have valid : c.toNat.isValidChar := c.valid
  have last : c.toNat ≤ 0x10FFFF := by
    have bound := valid
    omega
  have same : Char.ofNat c.toNat = c := Char.ofNat_toNat c
  by_cases one : c.toNat ≤ 0x7F
  · rw [bytes_one one, List.singleton_append, decodeFrom_ascii (Nat.lt_succ_of_le one), same]
    exact ⟨_, rfl⟩
  · by_cases two : c.toNat ≤ 0x7FF
    · rw [bytes_two (by omega) two, List.cons_append, List.singleton_append,
        decodeFrom_two (by omega) two, same]
      exact ⟨_, rfl⟩
    · by_cases three : c.toNat ≤ 0xFFFF
      · rw [bytes_three (by omega) three, List.cons_append, List.cons_append,
          List.singleton_append, decodeFrom_three (by omega) three valid, same]
        exact ⟨_, rfl⟩
      · rw [bytes_four (by omega), List.cons_append, List.cons_append, List.cons_append,
          List.singleton_append, decodeFrom_four (by omega) last, same]
        exact ⟨_, rfl⟩

theorem decodeFrom_encode (t : Text) (position : Nat) :
    decodeFrom position none (encode t) = .ok t := by
  induction t generalizing position with
  | nil => rfl
  | cons c t ih =>
      obtain ⟨next, read⟩ := decodeFrom_char c position (encode t)
      rw [encode, List.flatMap_cons, ← encode, read, ih]
      rfl

theorem decode_encode (t : Text) : decode (encode t) = .ok t :=
  decodeFrom_encode t 0

/-! ## Only encodings are decoded

A character that is not complete has its first bytes behind it.  Every code point that goes on with
the bits read so far and a second byte that is allowed has these bytes at its start, and a byte that
is read keeps this.
-/

/-- The last bytes of a character: six bits of its code point in each of them. -/
def tailBytes : Nat → Nat → List UInt8
  | 0, _ => []
  | count + 1, n => UInt8.ofNat (n / 64 ^ count % 64 + 128) :: tailBytes count n

/-- The first bytes of a character, of which one more than `count` are missing. -/
structure Pending.Begins (p : Pending) (count : Nat) (start : List UInt8) : Prop where
  missing : p.missing = count + 1
  low : 0x80 ≤ p.low
  high : p.high ≤ 0xBF
  whole : ∀ n, n / 64 ^ (count + 1) = p.bits →
    p.low ≤ n / 64 ^ count % 64 + 0x80 → n / 64 ^ count % 64 + 0x80 ≤ p.high →
      String.utf8EncodeChar (Char.ofNat n) = start ++ tailBytes (count + 1) n

theorem ofNat_eq_of_eq_toNat (same : n = b.toNat) : UInt8.ofNat n = b := by
  rw [same, UInt8.ofNat_toNat]

theorem toNat_ofNat_char (valid : n.isValidChar) : (Char.ofNat n).toNat = n := by
  rw [Char.ofNat, dif_pos valid]
  rfl

theorem begins_two
    (first : 0xC2 ≤ b.toNat ∧ b.toNat ≤ 0xDF) :
    Pending.Begins ⟨b, 1, 1, 0x80, 0xBF, b.toNat - 0xC0⟩ 0 [b] := by
  refine ⟨rfl, Nat.le_refl _, Nat.le_refl _, ?_⟩
  intro n bits _ _
  simp only [Nat.zero_add, Nat.pow_one] at bits
  have value : (Char.ofNat n).toNat = n := toNat_ofNat_char (.inl (by omega))
  rw [bytes_two (by omega) (by omega), value, ofNat_eq_of_eq_toNat (b := b) (by omega)]
  simp [tailBytes]

/-- The bounds of the second byte keep the code point above shorter forms and off the surrogates. -/
theorem begins_three
    {low high bits : Nat}
    (first : bits + 0xE0 = b.toNat)
    (short : bits ≤ 0xF)
    (least : 0x80 ≤ low)
    (greatest : high ≤ 0xBF)
    (long : bits = 0 → 0xA0 ≤ low)
    (scalar : bits = 0xD → high ≤ 0x9F) :
    Pending.Begins ⟨b, 1, 2, low, high, bits⟩ 1 [b] := by
  refine ⟨rfl, least, greatest, ?_⟩
  intro n same second bounded
  simp only [Nat.reduceAdd, Nat.reducePow] at same second bounded
  have valid : n.isValidChar := by
    by_cases surrogates : bits = 0xD
    · have bound := scalar surrogates
      exact .inl (by omega)
    · by_cases before : bits < 0xD
      · exact .inl (by omega)
      · exact .inr ⟨by omega, by omega⟩
  have value : (Char.ofNat n).toNat = n := toNat_ofNat_char valid
  have above : 0x800 ≤ n := by
    by_cases zero : bits = 0
    · have bound := long zero
      omega
    · omega
  rw [bytes_three (by omega) (by omega), value, ofNat_eq_of_eq_toNat (b := b) (by omega)]
  simp [tailBytes]

theorem begins_four
    {low high bits : Nat}
    (first : bits + 0xF0 = b.toNat)
    (short : bits ≤ 4)
    (least : 0x80 ≤ low)
    (greatest : high ≤ 0xBF)
    (long : bits = 0 → 0x90 ≤ low)
    (inside : bits = 4 → high ≤ 0x8F) :
    Pending.Begins ⟨b, 1, 3, low, high, bits⟩ 2 [b] := by
  refine ⟨rfl, least, greatest, ?_⟩
  intro n same second bounded
  simp only [Nat.reduceAdd, Nat.reducePow] at same second bounded
  have above : 0x10000 ≤ n := by
    by_cases zero : bits = 0
    · have bound := long zero
      omega
    · omega
  have below : n < 0x110000 := by
    by_cases last : bits = 4
    · have bound := inside last
      omega
    · omega
  have value : (Char.ofNat n).toNat = n := toNat_ofNat_char (.inr ⟨by omega, below⟩)
  rw [bytes_four (by omega), value, ofNat_eq_of_eq_toNat (b := b) (by omega)]
  simp [tailBytes]

theorem begins_of_begin?
    (begun : begin? b = some p) :
    ∃ count, p.Begins count [b] := by
  unfold begin? at begun
  dsimp only at begun
  split at begun
  · next first => exact ⟨_, Option.some.inj begun ▸ begins_two first⟩
  · split at begun
    · next first =>
        exact ⟨_, Option.some.inj begun ▸ begins_three first.symm (by decide) (by decide)
          (by decide) (by decide) (by decide)⟩
    · split at begun
      · next first =>
          exact ⟨_, Option.some.inj begun ▸ begins_three first.symm (by decide) (by decide)
            (by decide) (by decide) (by decide)⟩
      · split at begun
        · next first =>
            exact ⟨_, Option.some.inj begun ▸ begins_three (by omega) (by omega) (by decide)
              (by decide) (by omega) (by omega)⟩
        · split at begun
          · next first =>
              exact ⟨_, Option.some.inj begun ▸ begins_four first.symm (by decide) (by decide)
                (by decide) (by decide) (by decide)⟩
          · split at begun
            · next first =>
                exact ⟨_, Option.some.inj begun ▸ begins_four (by omega) (by omega) (by decide)
                  (by decide) (by omega) (by omega)⟩
            · split at begun
              · next first =>
                  exact ⟨_, Option.some.inj begun ▸ begins_four first.symm (by decide) (by decide)
                    (by decide) (by decide) (by decide)⟩
              · cases begun

section Reading

variable {count : Nat} {start : List UInt8}

/-- An allowed byte goes on with the bytes before it. -/
theorem Pending.Begins.extend
    (begins : p.Begins (count + 1) start)
    (allowed : p.low ≤ b.toNat ∧ b.toNat ≤ p.high) :
    (p.extend b).Begins count (start ++ [b]) := by
  have least := begins.low
  have greatest := begins.high
  refine ⟨?_, Nat.le_refl _, Nat.le_refl _, ?_⟩
  · rw [Pending.extend, begins.missing, Nat.add_sub_cancel]
  · intro n same _ _
    simp only [Pending.extend] at same
    have before : n / 64 ^ (count + 1 + 1) = p.bits := by
      rw [Nat.pow_succ, ← Nat.div_div_eq_div_mul, same]
      omega
    have next : n / 64 ^ (count + 1) % 64 + 0x80 = b.toNat := by
      rw [same]
      omega
    have bytes := begins.whole n before (next ▸ allowed.1) (next ▸ allowed.2)
    rw [bytes, tailBytes, ofNat_eq_of_eq_toNat next, List.append_assoc, List.singleton_append]

/-- The last byte completes the character. -/
theorem Pending.Begins.finish
    (begins : p.Begins 0 start)
    (allowed : p.low ≤ b.toNat ∧ b.toNat ≤ p.high) :
    String.utf8EncodeChar (Char.ofNat (p.extend b).bits) = start ++ [b] := by
  have least := begins.low
  have greatest := begins.high
  have bits : (p.extend b).bits = p.bits * 64 + (b.toNat - 0x80) := rfl
  have last : (p.extend b).bits / 64 ^ 0 % 64 + 0x80 = b.toNat := by
    rw [Nat.pow_zero, Nat.div_one, bits]
    omega
  have before : (p.extend b).bits / 64 ^ (0 + 1) = p.bits := by
    rw [Nat.zero_add, Nat.pow_one, bits]
    omega
  rw [begins.whole _ before (last ▸ allowed.1) (last ▸ allowed.2), tailBytes, tailBytes,
    ofNat_eq_of_eq_toNat last]

theorem encode_of_map_cons
    {c : Char}
    {t : Text}
    {later : Except Malformed Text}
    (decoded : later.map (c :: ·) = .ok t)
    (bytes : ∀ rest, later = .ok rest → encode rest = bs) :
    encode t = String.utf8EncodeChar c ++ bs := by
  cases later with
  | error e => cases decoded
  | ok rest =>
      have parts : c :: rest = t := Except.ok.inj decoded
      rw [← parts, encode, List.flatMap_cons, ← encode, bytes rest rfl]

/-- The bytes that are read, and the ones behind the position inside a character, encode the
text. -/
theorem encode_of_decodeFrom
    {pending : Option Pending}
    {t : Text}
    (decoded : decodeFrom position pending bs = .ok t) :
    match pending with
    | none => encode t = bs
    | some p => ∀ count start, p.Begins count start → encode t = start ++ bs := by
  induction bs generalizing position pending t with
  | nil =>
      cases pending with
      | none =>
          cases decoded
          rfl
      | some p => cases decoded
  | cons b bs ih =>
      cases pending with
      | none =>
          rw [decodeFrom] at decoded
          split at decoded
          · next small =>
              have value : (Char.ofNat b.toNat).toNat = b.toNat :=
                toNat_ofNat_char (.inl (by omega))
              have bytes := encode_of_map_cons decoded fun rest later => ih later
              rw [bytes_one (by omega), value, UInt8.ofNat_toNat] at bytes
              exact bytes
          · cases begun : begin? b with
            | none =>
                rw [begun] at decoded
                cases decoded
            | some p =>
                rw [begun] at decoded
                obtain ⟨count, begins⟩ := begins_of_begin? begun
                exact ih decoded count [b] begins
      | some p =>
          intro count start begins
          have missing : (p.extend b).missing = count := by
            rw [Pending.extend, begins.missing, Nat.add_sub_cancel]
          rw [decodeFrom] at decoded
          split at decoded
          · next allowed =>
              simp only [missing] at decoded
              rw [List.append_cons]
              cases count with
              | zero =>
                  rw [← begins.finish allowed]
                  exact encode_of_map_cons decoded fun rest later => ih later
              | succ count => exact ih decoded count (start ++ [b]) (begins.extend allowed)
          · cases decoded

end Reading

/-- The bytes of a text are the ones that are decoded to it. -/
theorem decode_eq_ok_iff {t : Text} : decode bs = .ok t ↔ encode t = bs := by
  constructor
  · exact fun decoded => encode_of_decodeFrom decoded
  · intro bytes
    rw [← bytes]
    exact decode_encode t

theorem encode_inj {t other : Text} : encode t = encode other ↔ t = other := by
  constructor
  · intro same
    have decoded : decode (encode t) = .ok other := decode_eq_ok_iff.2 same.symm
    rw [decode_encode] at decoded
    exact Except.ok.inj decoded
  · exact congrArg encode

end Stencil.Text.Utf8
