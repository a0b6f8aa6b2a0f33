import Stencil.Text.Utf8
import Stencil.Text.Newline

/-!
# Texts as bytes and back

Decoding the bytes of a text gives the text (`decode_encode`): the bytes of a
character are decoded as that character, whatever stands behind them
(`decode_char`), for each of the four lengths that a character can have.

A text without carriage returns is read back as it was written (`newlines_same`), and
two texts are read apart where no line end is cut in two (`newlines_append`).
-/

namespace Stencil.Text

/-! ## Decoding one character -/

variable {a b c d : UInt8}

/-- A first byte below `0x80` is a character. -/
theorem decode_one (first : a.toNat < 0x80) (position : Nat) (rest : List UInt8) :
    decodeFrom position (a :: rest) =
      (decodeFrom (position + 1) rest).map (Char.ofNat a.toNat :: ·) := by
  rw [decodeFrom.eq_def]
  simp only [if_pos first]
  rfl

/-- A first byte from `0xC2` on is a character with the one behind it. -/
theorem decode_two (low : 0xC2 ≤ a.toNat) (high : a.toNat < 0xE0) (follows : mayFollow a b = true)
    (position : Nat) (rest : List UInt8) :
    decodeFrom position (a :: b :: rest) =
      (decodeFrom (position + 2) rest).map
        (Char.ofNat ((a.toNat - 0xC0) * 64 + tailBits b) :: ·) := by
  rw [decodeFrom.eq_def]
  simp only [if_neg (show ¬a.toNat < 0x80 by omega),
    if_neg (show ¬(a.toNat < 0xC2 ∨ 0xF4 < a.toNat) by omega), follows, Bool.not_true,
    Bool.false_eq_true, if_false, if_pos high]
  rfl

/-- A first byte from `0xE0` on is a character with the two behind it. -/
theorem decode_three (low : 0xE0 ≤ a.toNat) (high : a.toNat < 0xF0)
    (follows : mayFollow a b = true) (tail : isTail c = true) (position : Nat)
    (rest : List UInt8) :
    decodeFrom position (a :: b :: c :: rest) =
      (decodeFrom (position + 3) rest).map
        (Char.ofNat ((a.toNat - 0xE0) * 4096 + tailBits b * 64 + tailBits c) :: ·) := by
  rw [decodeFrom.eq_def]
  simp only [if_neg (show ¬a.toNat < 0x80 by omega),
    if_neg (show ¬(a.toNat < 0xC2 ∨ 0xF4 < a.toNat) by omega), follows, tail, Bool.not_true,
    Bool.false_eq_true, if_false, if_neg (show ¬a.toNat < 0xE0 by omega), if_pos high]
  rfl

/-- A first byte from `0xF0` on is a character with the three behind it. -/
theorem decode_four (low : 0xF0 ≤ a.toNat) (high : a.toNat ≤ 0xF4)
    (follows : mayFollow a b = true) (third : isTail c = true) (fourth : isTail d = true)
    (position : Nat) (rest : List UInt8) :
    decodeFrom position (a :: b :: c :: d :: rest) =
      (decodeFrom (position + 4) rest).map
        (Char.ofNat ((a.toNat - 0xF0) * 262144 + tailBits b * 4096 + tailBits c * 64 +
          tailBits d) :: ·) := by
  rw [decodeFrom.eq_def]
  simp only [if_neg (show ¬a.toNat < 0x80 by omega),
    if_neg (show ¬(a.toNat < 0xC2 ∨ 0xF4 < a.toNat) by omega), follows, third, fourth,
    Bool.not_true, Bool.false_eq_true, if_false, if_neg (show ¬a.toNat < 0xE0 by omega),
    if_neg (show ¬a.toNat < 0xF0 by omega)]
  rfl

/-! ## The bytes of one character -/

/-- A character's number is not that of a surrogate, and in the range of Unicode. -/
theorem number_valid (c : Char) :
    c.toNat < 0xD800 ∨ 0xDFFF < c.toNat ∧ c.toNat < 0x110000 := c.valid

/-- The value of a byte that was made from a small number. -/
theorem byte_value {n : Nat} (small : n < 256) : (UInt8.ofNat n).toNat = n := by
  rw [UInt8.toNat_ofNat', Nat.mod_eq_of_lt small]

/-- A byte with six payload bits continues a character and gives them back. -/
theorem tail_byte (n : Nat) :
    isTail (UInt8.ofNat (0x80 + n % 64)) = true ∧
      tailBits (UInt8.ofNat (0x80 + n % 64)) = n % 64 := by
  have value : (UInt8.ofNat (0x80 + n % 64)).toNat = 0x80 + n % 64 :=
    byte_value (show 0x80 + n % 64 < 256 by omega)
  constructor
  · rw [isTail, value, Bool.and_eq_true]
    exact ⟨decide_eq_true (by omega), decide_eq_true (by omega)⟩
  · unfold tailBits
    omega

/-- The second byte of a character may follow the first if the two hold neither a form that is too
long nor a surrogate, nor a number that is too great. -/
theorem second_follows {first n : Nat} (small : first < 256) (long : first = 0xE0 → 0x20 ≤ n % 64)
    (surrogate : first = 0xED → n % 64 < 0x20) (wide : first = 0xF0 → 0x10 ≤ n % 64)
    (great : first = 0xF4 → n % 64 < 0x10) :
    mayFollow (UInt8.ofNat first) (UInt8.ofNat (0x80 + n % 64)) = true := by
  have value : (UInt8.ofNat (0x80 + n % 64)).toNat = 0x80 + n % 64 :=
    byte_value (show 0x80 + n % 64 < 256 by omega)
  rw [mayFollow, (tail_byte n).1, byte_value small, value, Bool.true_and]
  split
  · exact decide_eq_true (by omega)
  · split
    · exact decide_eq_true (by omega)
    · split
      · exact decide_eq_true (by omega)
      · split
        · exact decide_eq_true (by omega)
        · rfl

/-- The bytes of a character are decoded as that character, and decoding goes on behind them. The
cases are those of encoding, by the size of the character's number; the parts of the number are put
together again from the payloads of its bytes. -/
theorem decode_char (c : Char) (position : Nat) (rest : List UInt8) :
    ∃ next, decodeFrom position (encodeChar c ++ rest) = (decodeFrom next rest).map (c :: ·) := by
  have valid := number_valid c
  have again : Char.ofNat c.toNat = c := Char.ofNat_toNat c
  unfold encodeChar
  generalize c.toNat = n at valid again
  by_cases one : n < 0x80
  · have first := byte_value (show n < 256 by omega)
    refine ⟨position + 1, ?_⟩
    simp only [if_pos one, List.cons_append, List.nil_append]
    rw [decode_one (by omega), first, again]
  by_cases two : n < 0x800
  · have first := byte_value (show 0xC0 + n / 64 < 256 by omega)
    refine ⟨position + 2, ?_⟩
    simp only [if_neg one, if_pos two, List.cons_append, List.nil_append]
    rw [decode_two (by omega) (by omega)
      (second_follows (by omega) (by omega) (by omega) (by omega) (by omega)),
      first, (tail_byte n).2]
    rw [show (0xC0 + n / 64 - 0xC0) * 64 + n % 64 = n by omega, again]
  by_cases three : n < 0x10000
  · have first := byte_value (show 0xE0 + n / 4096 < 256 by omega)
    refine ⟨position + 3, ?_⟩
    simp only [if_neg one, if_neg two, if_pos three, List.cons_append, List.nil_append]
    rw [decode_three (by omega) (by omega)
      (second_follows (by omega) (by omega) (by omega) (by omega) (by omega)) (tail_byte n).1,
      first, (tail_byte n).2, (tail_byte (n / 64)).2]
    rw [show (0xE0 + n / 4096 - 0xE0) * 4096 + n / 64 % 64 * 64 + n % 64 = n by omega, again]
  · have first := byte_value (show 0xF0 + n / 262144 < 256 by omega)
    refine ⟨position + 4, ?_⟩
    simp only [if_neg one, if_neg two, if_neg three, List.cons_append, List.nil_append]
    rw [decode_four (by omega) (by omega)
      (second_follows (by omega) (by omega) (by omega) (by omega) (by omega))
      (tail_byte (n / 64)).1 (tail_byte n).1, first, (tail_byte n).2, (tail_byte (n / 64)).2,
      (tail_byte (n / 4096)).2]
    rw [show (0xF0 + n / 262144 - 0xF0) * 262144 + n / 4096 % 64 * 4096 + n / 64 % 64 * 64 + n % 64
      = n by omega, again]

/-! ## Whole texts -/

/-- Decoding the bytes of a text gives the text, wherever it starts. The induction is on the
characters: the bytes of the first are taken and those of the rest are left. -/
theorem decode_from_encode (cs : List Char) (position : Nat) :
    decodeFrom position (encode cs) = .ok cs := by
  induction cs generalizing position with
  | nil => exact decode_no_bytes position
  | cons c rest inductionHypothesis =>
    obtain ⟨next, decoded⟩ := decode_char c position (encode rest)
    rw [encode, List.flatMap_cons, ← encode, decoded, inductionHypothesis]
    rfl

/-- Decoding the bytes of a text gives the text. -/
theorem decode_encode (cs : List Char) : decode (encode cs) = .ok cs := decode_from_encode cs 0

/-- Texts with the same bytes are the same. -/
theorem encode_injective {one other : List Char} (same : encode one = encode other) :
    one = other := by
  have both := decode_encode one
  rw [same, decode_encode] at both
  exact (Except.ok.inj both).symm

/-! ## Line ends -/

/-- A text without carriage returns is read as it was written. -/
theorem newlines_same {cs : List Char} (none : '\r' ∉ cs) : universalNewlines cs = cs := by
  fun_induction universalNewlines cs with
  | case1 => rfl
  | case2 rest inductionHypothesis => exact absurd List.mem_cons_self none
  | case3 c rest _ inductionHypothesis =>
    rw [List.mem_cons, not_or] at none
    rw [if_neg (Ne.symm none.1), inductionHypothesis none.2]

/-- Two texts are read apart unless the second starts with a line feed, which could belong to the
end of the first. -/
theorem newlines_append (front : List Char) {rest : List Char}
    (other : ∀ c ∈ rest.head?, c ≠ '\n') :
    universalNewlines (front ++ rest) = universalNewlines front ++ universalNewlines rest := by
  fun_induction universalNewlines front with
  | case1 => rfl
  | case2 tail inductionHypothesis =>
    rw [List.cons_append, List.cons_append, universalNewlines, inductionHypothesis]
    rfl
  | case3 c tail single inductionHypothesis =>
    rw [List.cons_append, universalNewlines, inductionHypothesis]
    · rfl
    · rintro behind rfl same
      cases tail with
      | nil =>
        rw [List.nil_append] at same
        subst same
        exact other '\n' rfl rfl
      | cons d tail =>
        cases same
        exact single tail rfl rfl

end Stencil.Text
