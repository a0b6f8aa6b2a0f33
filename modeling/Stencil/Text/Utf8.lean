/-!
# UTF-8

Texts as byte strings and back. `encode` writes each character in its shortest
form; `decode` accepts exactly those forms and otherwise names the first fault:
where the faulty bytes start, how many they are, and what is wrong with them.
A sequence that could still become a character is faulty only at the end of
the data.
-/

namespace Stencil.Text

/-- The bytes of one character. -/
def encodeChar (c : Char) : List UInt8 :=
  let n := c.toNat
  if n < 0x80 then [UInt8.ofNat n]
  else if n < 0x800 then [UInt8.ofNat (0xC0 + n / 64), UInt8.ofNat (0x80 + n % 64)]
  else if n < 0x10000 then
    [UInt8.ofNat (0xE0 + n / 4096), UInt8.ofNat (0x80 + n / 64 % 64), UInt8.ofNat (0x80 + n % 64)]
  else
    [UInt8.ofNat (0xF0 + n / 262144), UInt8.ofNat (0x80 + n / 4096 % 64),
      UInt8.ofNat (0x80 + n / 64 % 64), UInt8.ofNat (0x80 + n % 64)]

/-- The bytes of a text. -/
def encode (cs : List Char) : List UInt8 := cs.flatMap encodeChar

/-- As many characters of a text as fit into some bytes. Where the room ends inside a character, a
mark stands for it. -/
def clipChars : (room : Nat) → List Char → List Char
  | _, [] => []
  | room, c :: rest =>
    if c.utf8Size ≤ room then c :: clipChars (room - c.utf8Size) rest
    else if room = 0 then []
    else [Char.ofNat 0xFFFD]

/-- As much of a text as fits into some bytes. -/
def clip (room : Nat) (text : String) : String := String.ofList (clipChars room text.toList)

/-- What is wrong with a run of bytes that is no character. -/
inductive DecodeCause where
  /-- No character starts with this byte. -/
  | start
  /-- The bytes begin a character, and the next byte does not go on with it. -/
  | continuation
  /-- The bytes begin a character, and the data ends inside it. -/
  | unfinished
deriving DecidableEq, Repr

/-- The first run of bytes that is no character: the bytes from `position` on, which are `bytes`. -/
structure DecodeFault where
  position : Nat
  bytes : List UInt8
  cause : DecodeCause
deriving DecidableEq, Repr

/-- A byte that continues a character. -/
def isTail (byte : UInt8) : Bool := 0x80 ≤ byte.toNat && byte.toNat < 0xC0

/-- Whether the second byte of a character may follow its first: the first bytes
`E0`, `ED`, `F0` and `F4` leave only part of the range, so that no character has two forms and
no surrogate or number above `U+10FFFF` has any. -/
def mayFollow (first second : UInt8) : Bool :=
  isTail second &&
    (if first.toNat = 0xE0 then 0xA0 ≤ second.toNat
      else if first.toNat = 0xED then second.toNat < 0xA0
      else if first.toNat = 0xF0 then 0x90 ≤ second.toNat
      else if first.toNat = 0xF4 then second.toNat < 0x90
      else true)

/-- The six payload bits of a continuing byte. -/
def tailBits (byte : UInt8) : Nat := byte.toNat - 0x80

/-- Decode the bytes from a position on. -/
def decodeFrom (position : Nat) : List UInt8 → Except DecodeFault (List Char)
  | [] => .ok []
  | a :: rest =>
    let n := a.toNat
    let faulty (bytes : List UInt8) (cause : DecodeCause) : Except DecodeFault (List Char) :=
      .error ⟨position, bytes, cause⟩
    if n < 0x80 then do
      return Char.ofNat n :: (← decodeFrom (position + 1) rest)
    else if n < 0xC2 ∨ 0xF4 < n then faulty [a] .start
    else match rest with
      | [] => faulty [a] .unfinished
      | b :: rest =>
        if !mayFollow a b then faulty [a] .continuation
        else if n < 0xE0 then do
          let c := Char.ofNat ((n - 0xC0) * 64 + tailBits b)
          return c :: (← decodeFrom (position + 2) rest)
        else match rest with
          | [] => faulty [a, b] .unfinished
          | c :: rest =>
            if !isTail c then faulty [a, b] .continuation
            else if n < 0xF0 then do
              let c := Char.ofNat ((n - 0xE0) * 4096 + tailBits b * 64 + tailBits c)
              return c :: (← decodeFrom (position + 3) rest)
            else match rest with
              | [] => faulty [a, b, c] .unfinished
              | d :: rest =>
                if !isTail d then faulty [a, b, c] .continuation
                else do
                  let c := Char.ofNat
                    ((n - 0xF0) * 262144 + tailBits b * 4096 + tailBits c * 64 + tailBits d)
                  return c :: (← decodeFrom (position + 4) rest)

/-- No bytes are no text, at any position. -/
@[simp]
theorem decode_no_bytes (position : Nat) : decodeFrom position [] = .ok [] := by
  rw [decodeFrom.eq_def]

/-- Decode a byte string. -/
def decode (bytes : List UInt8) : Except DecodeFault (List Char) := decodeFrom 0 bytes

end Stencil.Text
