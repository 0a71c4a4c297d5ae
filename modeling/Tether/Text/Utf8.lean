namespace Tether

/-! # Text as bytes

The store speaks bytes and the library speaks text. `Utf8.encode` writes a text as bytes, `Utf8.decode?`
reads bytes that are valid UTF-8, and `Utf8.decodeLossy` reads any bytes at all: each maximal part that
begins no valid character is read as one U+FFFD.
-/

/-- A sequence of bytes, as it travels to and from the store. -/
abbrev Bytes := List UInt8

namespace Utf8

/-- The bytes of a text. -/
def encode (s : String) : Bytes := s.toList.flatMap String.utf8EncodeChar

/-- The text that the bytes spell, if they are valid UTF-8. -/
def decode? (bs : Bytes) : Option String := String.fromUTF8? ⟨bs.toArray⟩

/-- A byte that can only continue a character. -/
def isContinuation (b : UInt8) : Bool := 0x80 ≤ b && b ≤ 0xBF

/-- The six bits that a continuation byte carries. -/
def payload (b : UInt8) : Nat := b.toNat % 64

/-- What stands at the head of some bytes: a character, or a fault, and how many bytes it takes. -/
structure Head where
  char : Char
  width : Nat

/-- The fault of `width` bytes, shown as U+FFFD. -/
def Head.fault (width : Nat) : Head := ⟨'\uFFFD', width⟩

/-- The second byte of a three-byte character excludes overlong forms and surrogates. -/
def isSecondOfThree (first second : UInt8) : Bool :=
  (if first = 0xE0 then 0xA0 else 0x80) ≤ second && second ≤ (if first = 0xED then 0x9F else 0xBF)

/-- The second byte of a four-byte character excludes overlong forms and values above U+10FFFF. -/
def isSecondOfFour (first second : UInt8) : Bool :=
  (if first = 0xF0 then 0x90 else 0x80) ≤ second && second ≤ (if first = 0xF4 then 0x8F else 0xBF)

/-- Reads the character whose first byte is `b`, or the longest part of one that `b` begins. -/
def head (b : UInt8) (rest : Bytes) : Head :=
  if b ≤ 0x7F then ⟨Char.ofNat b.toNat, 1⟩
  else if 0xC2 ≤ b ∧ b ≤ 0xDF then
    match rest with
    | c :: _ =>
      if isContinuation c then ⟨Char.ofNat ((b.toNat - 0xC0) * 64 + payload c), 2⟩ else .fault 1
    | [] => .fault 1
  else if 0xE0 ≤ b ∧ b ≤ 0xEF then
    match rest with
    | c :: d :: _ =>
      if !isSecondOfThree b c then .fault 1
      else if isContinuation d then
        ⟨Char.ofNat ((b.toNat - 0xE0) * 4096 + payload c * 64 + payload d), 3⟩
      else .fault 2
    | [c] => .fault (if isSecondOfThree b c then 2 else 1)
    | [] => .fault 1
  else if 0xF0 ≤ b ∧ b ≤ 0xF4 then
    match rest with
    | c :: d :: e :: _ =>
      if !isSecondOfFour b c then .fault 1
      else if !isContinuation d then .fault 2
      else if isContinuation e then
        ⟨Char.ofNat ((b.toNat - 0xF0) * 262144 + payload c * 4096 + payload d * 64 + payload e), 4⟩
      else .fault 3
    | [c, d] =>
      .fault (if !isSecondOfFour b c then 1 else if isContinuation d then 3 else 2)
    | [c] => .fault (if isSecondOfFour b c then 2 else 1)
    | [] => .fault 1
  else .fault 1

/-- The characters of any bytes; the first byte of a head is dropped here and the others by `drop`. -/
def decodeLossyChars : Bytes → List Char
  | [] => []
  | b :: rest => (head b rest).char :: decodeLossyChars (rest.drop ((head b rest).width - 1))
termination_by bs => bs.length
decreasing_by simp only [List.length_drop, List.length_cons]; omega

/-- The text of any bytes, with U+FFFD for what is not UTF-8. -/
def decodeLossy (bs : Bytes) : String := String.ofList (decodeLossyChars bs)

@[simp] theorem decodeLossyChars_nil : decodeLossyChars [] = [] := by
  simp [decodeLossyChars]

end Utf8

end Tether
