/-!
UTF-8 text and the three ways in which bytes fail to be such text.

`encode` writes characters, `decode` reads bytes strictly: a failure names the span of the
offending bytes, which is the longest start of a character that is still possible.
-/

namespace CodeIndex.Text.Utf8

inductive Reason where
  | invalidStart
  | invalidContinuation
  | unexpectedEnd
  deriving DecidableEq, Repr

/-- The bytes from `start`, `size` of them, are no character; `first` is the byte at `start`. -/
structure Failure where
  start : Nat
  size : Nat
  first : UInt8
  reason : Reason
  deriving DecidableEq, Repr

def encode (s : List Char) : List UInt8 :=
  s.flatMap String.utf8EncodeChar

def isContinuation (b : UInt8) : Bool :=
  0x80 ≤ b && b < 0xC0

/-- Whether the second byte may follow the first in a character of three or four bytes: surrogates,
overlong forms and code points beyond the last one are excluded here. -/
def secondAllowed (b₀ b₁ : UInt8) : Bool :=
  isContinuation b₁ &&
    (if b₀ == 0xE0 then 0xA0 ≤ b₁
    else if b₀ == 0xED then b₁ < 0xA0
    else if b₀ == 0xF0 then 0x90 ≤ b₁
    else if b₀ == 0xF4 then b₁ < 0x90
    else true)

def bits (b : UInt8) (mask : Nat) : Nat :=
  b.toNat % mask

/-- Reads the characters of the bytes that start at offset `start`, in front of which `done`
stands in reverse. -/
def decodeFrom (start : Nat) (done : List Char) : List UInt8 → Except Failure (List Char)
  | [] => .ok done.reverse
  | b₀ :: rest =>
    if b₀ < 0x80 then decodeFrom (start + 1) (Char.ofNat b₀.toNat :: done) rest
    else if b₀ < 0xC2 || 0xF5 ≤ b₀ then .error ⟨start, 1, b₀, .invalidStart⟩
    else if b₀ < 0xE0 then
      match rest with
      | [] => .error ⟨start, 1, b₀, .unexpectedEnd⟩
      | b₁ :: rest =>
        if isContinuation b₁ then
          decodeFrom (start + 2) (Char.ofNat (bits b₀ 32 * 64 + bits b₁ 64) :: done) rest
        else .error ⟨start, 1, b₀, .invalidContinuation⟩
    else if b₀ < 0xF0 then
      match rest with
      | [] => .error ⟨start, 1, b₀, .unexpectedEnd⟩
      | [b₁] =>
        if secondAllowed b₀ b₁ then .error ⟨start, 2, b₀, .unexpectedEnd⟩
        else .error ⟨start, 1, b₀, .invalidContinuation⟩
      | b₁ :: b₂ :: rest =>
        if !secondAllowed b₀ b₁ then .error ⟨start, 1, b₀, .invalidContinuation⟩
        else if !isContinuation b₂ then .error ⟨start, 2, b₀, .invalidContinuation⟩
        else
          decodeFrom (start + 3)
            (Char.ofNat ((bits b₀ 16 * 64 + bits b₁ 64) * 64 + bits b₂ 64) :: done) rest
    else
      match rest with
      | [] => .error ⟨start, 1, b₀, .unexpectedEnd⟩
      | [b₁] =>
        if secondAllowed b₀ b₁ then .error ⟨start, 2, b₀, .unexpectedEnd⟩
        else .error ⟨start, 1, b₀, .invalidContinuation⟩
      | [b₁, b₂] =>
        if !secondAllowed b₀ b₁ then .error ⟨start, 1, b₀, .invalidContinuation⟩
        else if !isContinuation b₂ then .error ⟨start, 2, b₀, .invalidContinuation⟩
        else .error ⟨start, 3, b₀, .unexpectedEnd⟩
      | b₁ :: b₂ :: b₃ :: rest =>
        if !secondAllowed b₀ b₁ then .error ⟨start, 1, b₀, .invalidContinuation⟩
        else if !isContinuation b₂ then .error ⟨start, 2, b₀, .invalidContinuation⟩
        else if !isContinuation b₃ then .error ⟨start, 3, b₀, .invalidContinuation⟩
        else
          decodeFrom (start + 4)
            (Char.ofNat (((bits b₀ 8 * 64 + bits b₁ 64) * 64 + bits b₂ 64) * 64 + bits b₃ 64)
              :: done) rest

def decode (bytes : List UInt8) : Except Failure (List Char) :=
  decodeFrom 0 [] bytes

def Reason.text : Reason → String
  | .invalidStart => "invalid start byte"
  | .invalidContinuation => "invalid continuation byte"
  | .unexpectedEnd => "unexpected end of data"

def hexDigits (b : UInt8) : String :=
  String.ofList [Nat.digitChar (b.toNat / 16), Nat.digitChar (b.toNat % 16)]

/-- A single byte is named by its value, a longer span by its first and last offset. -/
def Failure.message (f : Failure) : String :=
  if f.size ≤ 1 then
    "'utf-8' codec can't decode byte 0x" ++ hexDigits f.first ++ " in position " ++
      toString f.start ++ ": " ++ f.reason.text
  else
    "'utf-8' codec can't decode bytes in position " ++ toString f.start ++ "-" ++
      toString (f.start + f.size - 1) ++ ": " ++ f.reason.text

end CodeIndex.Text.Utf8
