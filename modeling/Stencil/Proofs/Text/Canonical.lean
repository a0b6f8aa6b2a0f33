import Stencil.Proofs.Outcome
import Stencil.Proofs.Text.Utf8

/-!
# Bytes are decoded in one way

Bytes that decode to a text are the bytes of that text (`decode_ok_iff`): each of
the four forms that decoding accepts is the one that encoding writes, since the
second byte may not follow the first where a shorter form exists, and a first
byte that starts no such form is refused.

Only a carriage return has the byte of a carriage return, so its bytes show
whether a text holds one (`return_byte_iff`).
-/

namespace Stencil.Text

/-! ## One character -/

section

variable {a b c d : UInt8}

/-- A byte is made of its value. -/
theorem byte_of_value {n : Nat} (value : n = a.toNat) : UInt8.ofNat n = a := by
  rw [value, UInt8.ofNat_toNat]

/-- A number that is no surrogate and in the range of Unicode is that of a character. -/
theorem number_of_char {n : Nat} (valid : n < 0xD800 ∨ 0xDFFF < n ∧ n < 0x110000) :
    (Char.ofNat n).toNat = n := by
  rw [Char.ofNat, dif_pos valid]
  rfl

/-- A byte that continues a character has its payload above the mark. -/
theorem tail_range (tail : isTail a = true) : 0x80 ≤ a.toNat ∧ a.toNat < 0xC0 := by
  simpa [isTail] using tail

/-- What a second byte that may follow the first has to be. -/
theorem follow_range (follows : mayFollow a b = true) :
    (0x80 ≤ b.toNat ∧ b.toNat < 0xC0) ∧ (a.toNat = 0xE0 → 0xA0 ≤ b.toNat) ∧
      (a.toNat = 0xED → b.toNat < 0xA0) ∧ (a.toNat = 0xF0 → 0x90 ≤ b.toNat) ∧
      (a.toNat = 0xF4 → b.toNat < 0x90) := by
  rw [mayFollow, Bool.and_eq_true] at follows
  refine ⟨tail_range follows.1, ?_, ?_, ?_, ?_⟩ <;>
  · intro first
    simpa [first] using follows.2

/-- A byte below `0x80` is the whole of a character. -/
theorem encode_one (first : a.toNat < 0x80) : encodeChar (Char.ofNat a.toNat) = [a] := by
  rw [encodeChar, number_of_char (.inl (by omega))]
  simp only [if_pos first, UInt8.ofNat_toNat]

/-- Two bytes that decode to a character are its bytes. -/
theorem encode_two (low : 0xC2 ≤ a.toNat) (high : a.toNat < 0xE0) (follows : mayFollow a b = true) :
    encodeChar (Char.ofNat ((a.toNat - 0xC0) * 64 + tailBits b)) = [a, b] := by
  obtain ⟨range, _⟩ := follow_range follows
  unfold tailBits
  rw [encodeChar, number_of_char (.inl (by omega))]
  simp only [if_neg (show ¬(a.toNat - 0xC0) * 64 + (b.toNat - 0x80) < 0x80 by omega),
    if_pos (show (a.toNat - 0xC0) * 64 + (b.toNat - 0x80) < 0x800 by omega)]
  rw [byte_of_value (a := a) (by omega), byte_of_value (a := b) (by omega)]

/-- Three bytes that decode to a character are its bytes. -/
theorem encode_three (low : 0xE0 ≤ a.toNat) (high : a.toNat < 0xF0)
    (follows : mayFollow a b = true) (tail : isTail c = true) :
    encodeChar (Char.ofNat ((a.toNat - 0xE0) * 4096 + tailBits b * 64 + tailBits c)) =
      [a, b, c] := by
  obtain ⟨range, long, surrogate, _⟩ := follow_range follows
  have last := tail_range tail
  unfold tailBits
  obtain ⟨n, is⟩ : ∃ n, n = (a.toNat - 0xE0) * 4096 + (b.toNat - 0x80) * 64 + (c.toNat - 0x80) :=
    ⟨_, rfl⟩
  rw [← is, encodeChar, number_of_char (by omega)]
  simp only [if_neg (show ¬n < 0x80 by omega), if_neg (show ¬n < 0x800 by omega),
    if_pos (show n < 0x10000 by omega)]
  rw [byte_of_value (a := a) (by omega), byte_of_value (a := b) (by omega),
    byte_of_value (a := c) (by omega)]

/-- Four bytes that decode to a character are its bytes. -/
theorem encode_four (low : 0xF0 ≤ a.toNat) (high : a.toNat ≤ 0xF4)
    (follows : mayFollow a b = true) (third : isTail c = true) (fourth : isTail d = true) :
    encodeChar (Char.ofNat ((a.toNat - 0xF0) * 262144 + tailBits b * 4096 + tailBits c * 64 +
      tailBits d)) = [a, b, c, d] := by
  obtain ⟨range, _, _, wide, great⟩ := follow_range follows
  have middle := tail_range third
  have last := tail_range fourth
  unfold tailBits
  obtain ⟨n, is⟩ : ∃ n, n = (a.toNat - 0xF0) * 262144 + (b.toNat - 0x80) * 4096 +
      (c.toNat - 0x80) * 64 + (d.toNat - 0x80) := ⟨_, rfl⟩
  rw [← is, encodeChar, number_of_char (by omega)]
  simp only [if_neg (show ¬n < 0x80 by omega), if_neg (show ¬n < 0x800 by omega),
    if_neg (show ¬n < 0x10000 by omega)]
  rw [byte_of_value (a := a) (by omega), byte_of_value (a := b) (by omega),
    byte_of_value (a := c) (by omega), byte_of_value (a := d) (by omega)]

end

/-- A character has bytes. -/
theorem encode_char_nonempty (c : Char) : 0 < (encodeChar c).length := by
  dsimp only [encodeChar]
  split
  · simp
  split
  · simp
  split <;> simp

/-! ## Whole texts -/

/-- Behind the bytes of a character decoding goes on. -/
theorem decoded_on {c : Char} {bytes behind : List UInt8} {next : Nat} {cs : List Char}
    (char : encodeChar c = bytes)
    (done : (do return c :: (← decodeFrom next behind)) = Except.ok cs) :
    ∃ first later place others, bytes ++ behind = encodeChar first ++ later ∧
      decodeFrom place later = .ok others ∧ cs = first :: others := by
  obtain ⟨others, there, is⟩ := bind_ok done
  cases is
  exact ⟨c, behind, next, others, by rw [char], there, rfl⟩

/-- Bytes that decode are those of a character, and others that decode. The cases are those of
decoding, by the first byte, and in each of them the bytes are those that encoding writes for the
character's number. -/
theorem decode_cons {a : UInt8} {rest : List UInt8} {position : Nat} {cs : List Char}
    (decoded : decodeFrom position (a :: rest) = .ok cs) :
    ∃ c behind next others, a :: rest = encodeChar c ++ behind ∧
      decodeFrom next behind = .ok others ∧ cs = c :: others := by
  rw [decodeFrom.eq_def] at decoded
  dsimp only at decoded
  by_cases one : a.toNat < 0x80
  · rw [if_pos one] at decoded
    exact decoded_on (encode_one one) decoded
  rw [if_neg one] at decoded
  by_cases start : a.toNat < 0xC2 ∨ 0xF4 < a.toNat
  · rw [if_pos start] at decoded
    cases decoded
  rw [if_neg start] at decoded
  cases rest with
  | nil => cases decoded
  | cons b rest =>
    dsimp only at decoded
    cases follows : mayFollow a b with
    | false =>
      rw [follows] at decoded
      cases decoded
    | true =>
      rw [follows, Bool.not_true, if_neg Bool.false_ne_true] at decoded
      by_cases two : a.toNat < 0xE0
      · rw [if_pos two] at decoded
        exact decoded_on (encode_two (by omega) two follows) decoded
      rw [if_neg two] at decoded
      cases rest with
      | nil => cases decoded
      | cons c rest =>
        dsimp only at decoded
        cases third : isTail c with
        | false =>
          rw [third] at decoded
          cases decoded
        | true =>
          rw [third, Bool.not_true, if_neg Bool.false_ne_true] at decoded
          by_cases three : a.toNat < 0xF0
          · rw [if_pos three] at decoded
            exact decoded_on (encode_three (by omega) three follows third) decoded
          rw [if_neg three] at decoded
          cases rest with
          | nil => cases decoded
          | cons d rest =>
            dsimp only at decoded
            cases fourth : isTail d with
            | false =>
              rw [fourth] at decoded
              cases decoded
            | true =>
              rw [fourth, Bool.not_true, if_neg Bool.false_ne_true] at decoded
              exact decoded_on (encode_four (by omega) (by omega) follows third fourth) decoded

/-- Bytes that decode to a text, from whatever position on, are its bytes. The induction is on their
number, which the bytes of the first character make smaller. -/
theorem bytes_of_decoded {bytes : List UInt8} {position : Nat} {cs : List Char}
    (decoded : decodeFrom position bytes = .ok cs) : bytes = encode cs := by
  induction size : bytes.length using Nat.strongRecOn generalizing bytes position cs with
  | ind number inductionHypothesis =>
    cases bytes with
    | nil =>
      rw [decode_no_bytes] at decoded
      cases decoded
      rfl
    | cons a rest =>
      obtain ⟨c, behind, next, others, whole, later, rfl⟩ := decode_cons decoded
      have nonempty := encode_char_nonempty c
      have shorter : behind.length < number := by
        rw [← size, whole, List.length_append]
        omega
      rw [whole, encode, List.flatMap_cons, ← encode, inductionHypothesis _ shorter later rfl]

/-- Bytes decode to a text if and only if they are its bytes. -/
theorem decode_ok_iff {bytes : List UInt8} {cs : List Char} :
    decode bytes = .ok cs ↔ bytes = encode cs := by
  constructor
  · exact bytes_of_decoded
  · rintro rfl
    exact decode_encode cs

/-! ## Carriage returns -/

/-- The bytes of a longer form are all above those of the short one. -/
theorem long_form_high {c : Char} (long : 0x80 ≤ c.toNat) :
    ∀ byte ∈ encodeChar c, 0x80 ≤ byte.toNat := by
  have valid := number_valid c
  have high {lead rest : Nat} (low : 0x80 ≤ lead) (small : rest < 0x100 - lead) :
      0x80 ≤ (UInt8.ofNat (lead + rest)).toNat := by
    rw [byte_value (by omega)]
    omega
  dsimp only [encodeChar]
  generalize c.toNat = n at valid long
  rw [if_neg (by omega)]
  split
  · simp only [List.forall_mem_cons]
    exact ⟨high (by omega) (by omega), high (by omega) (by omega), nofun⟩
  split
  · simp only [List.forall_mem_cons]
    exact ⟨high (by omega) (by omega), high (by omega) (by omega), high (by omega) (by omega),
      nofun⟩
  · simp only [List.forall_mem_cons]
    exact ⟨high (by omega) (by omega), high (by omega) (by omega), high (by omega) (by omega),
      high (by omega) (by omega), nofun⟩

/-- Only a carriage return has its byte. -/
theorem return_in_char (c : Char) : 0x0D ∈ encodeChar c ↔ c = '\r' := by
  constructor
  · intro inside
    by_cases short : c.toNat < 0x80
    · dsimp only [encodeChar] at inside
      rw [if_pos short, List.mem_singleton] at inside
      have value := congrArg UInt8.toNat inside
      rw [byte_value (by omega)] at value
      rw [← Char.ofNat_toNat c, ← value]
      rfl
    · have high := long_form_high (by omega) _ inside
      contradiction
  · rintro rfl
    decide

/-- The bytes of a text hold that of a carriage return if the text holds one. -/
theorem return_byte_iff (cs : List Char) : 0x0D ∈ encode cs ↔ '\r' ∈ cs := by
  rw [encode, List.mem_flatMap]
  constructor
  · rintro ⟨c, member, inside⟩
    rwa [(return_in_char c).mp inside] at member
  · intro member
    exact ⟨'\r', member, (return_in_char _).mpr rfl⟩

end Stencil.Text
