/-!
Strict UTF-8.  Decoding either consumes every octet or names the first place where the octets
stop being UTF-8: a start octet that starts nothing, a continuation that continues nothing, or
the end of the data inside a character.  Overlong forms, surrogates and values above U+10FFFF
are refused at the octet that makes them so.
-/

namespace CatalogScout
namespace Text
namespace Utf8

inductive Reason where
  | invalidStart
  | invalidContinuation
  | unexpectedEnd
deriving DecidableEq, Repr

/-- The octets from `start` up to `stop` are at fault. -/
structure Fault where
  start : Nat
  stop : Nat
  reason : Reason
deriving DecidableEq, Repr

def Reason.message : Reason → String
  | .invalidStart => "invalid start byte"
  | .invalidContinuation => "invalid continuation byte"
  | .unexpectedEnd => "unexpected end of data"

def isContinuation (b : UInt8) : Bool := b.toNat / 64 = 2

/-- The second octet of a three-octet form: E0 admits no overlong form, ED no surrogate. -/
def isSecondOfThree (first second : UInt8) : Bool :=
  isContinuation second &&
    !(first = 0xe0 && second.toNat < 0xa0) && !(first = 0xed && 0xa0 ≤ second.toNat)

/-- The second octet of a four-octet form: F0 admits no overlong form, F4 nothing above
U+10FFFF. -/
def isSecondOfFour (first second : UInt8) : Bool :=
  isContinuation second &&
    !(first = 0xf0 && second.toNat < 0x90) && !(first = 0xf4 && 0x90 ≤ second.toNat)

def low6 (b : UInt8) : Nat := b.toNat % 64

/-- Decode octets of which the first stands at `pos`. -/
def decodeFrom (pos : Nat) : List UInt8 → Except Fault (List Char)
  | [] => .ok []
  | a :: rest =>
    if a.toNat < 0x80 then
      (decodeFrom (pos + 1) rest).map (Char.ofNat a.toNat :: ·)
    else if a.toNat < 0xc2 then .error ⟨pos, pos + 1, .invalidStart⟩
    else if a.toNat < 0xe0 then
      match rest with
      | [] => .error ⟨pos, pos + 1, .unexpectedEnd⟩
      | b :: r =>
        if isContinuation b then
          (decodeFrom (pos + 2) r).map (Char.ofNat (a.toNat % 32 * 64 + low6 b) :: ·)
        else .error ⟨pos, pos + 1, .invalidContinuation⟩
    else if a.toNat < 0xf0 then
      match rest with
      | [] => .error ⟨pos, pos + 1, .unexpectedEnd⟩
      | b :: r =>
        if isSecondOfThree a b then
          match r with
          | [] => .error ⟨pos, pos + 2, .unexpectedEnd⟩
          | c :: r =>
            if isContinuation c then
              (decodeFrom (pos + 3) r).map
                (Char.ofNat ((a.toNat % 16 * 64 + low6 b) * 64 + low6 c) :: ·)
            else .error ⟨pos, pos + 2, .invalidContinuation⟩
        else .error ⟨pos, pos + 1, .invalidContinuation⟩
    else if a.toNat < 0xf5 then
      match rest with
      | [] => .error ⟨pos, pos + 1, .unexpectedEnd⟩
      | b :: r =>
        if isSecondOfFour a b then
          match r with
          | [] => .error ⟨pos, pos + 2, .unexpectedEnd⟩
          | c :: r =>
            if isContinuation c then
              match r with
              | [] => .error ⟨pos, pos + 3, .unexpectedEnd⟩
              | d :: r =>
                if isContinuation d then
                  (decodeFrom (pos + 4) r).map
                    (Char.ofNat (((a.toNat % 8 * 64 + low6 b) * 64 + low6 c) * 64 + low6 d) :: ·)
                else .error ⟨pos, pos + 3, .invalidContinuation⟩
            else .error ⟨pos, pos + 2, .invalidContinuation⟩
        else .error ⟨pos, pos + 1, .invalidContinuation⟩
    else .error ⟨pos, pos + 1, .invalidStart⟩

def decode (octets : List UInt8) : Except Fault (List Char) := decodeFrom 0 octets

/-- The octets of one character. -/
def encodeChar (c : Char) : List UInt8 := String.utf8EncodeChar c

def encode (s : List Char) : List UInt8 := s.flatMap encodeChar

end Utf8
end Text
end CatalogScout
