import CatalogScout.Text.Split

/-!
Decimal digits of every script, and integers written with them.
-/

namespace CatalogScout
namespace Text

/-- The zeros of the decimal scripts.  Each is followed by its digits one to nine. -/
def decimalZeros : List Nat :=
  [0x30, 0x660, 0x6f0, 0x7c0, 0x966, 0x9e6, 0xa66, 0xae6, 0xb66, 0xbe6, 0xc66, 0xce6, 0xd66,
    0xde6, 0xe50, 0xed0, 0xf20, 0x1040, 0x1090, 0x17e0, 0x1810, 0x1946, 0x19d0, 0x1a80, 0x1a90,
    0x1b50, 0x1bb0, 0x1c40, 0x1c50, 0xa620, 0xa8d0, 0xa900, 0xa9d0, 0xa9f0, 0xaa50, 0xabf0,
    0xff10, 0x104a0, 0x10d30, 0x11066, 0x110f0, 0x11136, 0x111d0, 0x112f0, 0x11450, 0x114d0,
    0x11650, 0x116c0, 0x11730, 0x118e0, 0x11950, 0x11c50, 0x11d50, 0x11da0, 0x16a60, 0x16ac0,
    0x16b50, 0x1d7ce, 0x1d7d8, 0x1d7e2, 0x1d7ec, 0x1d7f6, 0x1e140, 0x1e2f0, 0x1e950, 0x1fbf0]

/-- The value of a decimal digit. -/
def digitValueOfCode? (code : Nat) : Option Nat :=
  (decimalZeros.find? fun z => z ≤ code && code < z + 10).map (code - ·)

def isDecimalCode (code : Nat) : Bool := (digitValueOfCode? code).isSome

def digitValue? (c : Char) : Option Nat := digitValueOfCode? c.toNat

/-- The values of a non-empty row of digits. -/
def digitRow? (s : List Char) : Option (List Nat) :=
  if s.isEmpty then none else s.mapM digitValue?

/-- The digits of a numeral in which single underscores may part digits. -/
def numeralDigits? (s : List Char) : Option (List Nat) :=
  ((fields '_' s).mapM digitRow?).map List.flatten

def ofDigits (digits : List Nat) : Nat := digits.foldl (fun n d => 10 * n + d) 0

/-- A numeral of more digits than this is not read. -/
def maxDigits : Nat := 4300

/-- An unsigned numeral of at most `maxDigits` digits. -/
def readNumeral? (s : List Char) : Option Nat :=
  match numeralDigits? s with
  | none => none
  | some digits => if digits.length ≤ maxDigits then some (ofDigits digits) else none

/-- A numeral with an optional sign and nothing around it. -/
def readInteger? : List Char → Option Int
  | '+' :: r => (readNumeral? r).map Int.ofNat
  | '-' :: r => (readNumeral? r).map fun n => -Int.ofNat n
  | s => (readNumeral? s).map Int.ofNat

end Text
end CatalogScout
