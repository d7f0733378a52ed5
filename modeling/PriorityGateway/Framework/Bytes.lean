import Mathlib.Data.List.Basic
import Mathlib.Data.List.Sort

/-! # Byte Strings

    Strings as sequences of bytes, with the operations on them that do not
    care what the bytes are for.  Text is UTF-8, but nothing requires that a
    byte string is text: white space is recognised by its encoding, and every
    byte that is not part of one is kept. -/

/-- A string of bytes. -/
abbrev Bytes : Type := List UInt8

namespace Bytes

/-- The bytes of a text. -/
def ofText (s : String) : Bytes := s.toUTF8.toList

/-- The encodings of the white space characters: the ASCII ones, then `U+0085`, `U+00A0`,
    `U+1680`, `U+2000` to `U+200A`, `U+2028`, `U+2029`, `U+202F`, `U+205F` and `U+3000`. -/
def spaces : List Bytes :=
  [[9], [10], [11], [12], [13], [32], [0xC2, 0x85], [0xC2, 0xA0], [0xE1, 0x9A, 0x80],
    [0xE2, 0x80, 0x80], [0xE2, 0x80, 0x81], [0xE2, 0x80, 0x82], [0xE2, 0x80, 0x83],
    [0xE2, 0x80, 0x84], [0xE2, 0x80, 0x85], [0xE2, 0x80, 0x86], [0xE2, 0x80, 0x87],
    [0xE2, 0x80, 0x88], [0xE2, 0x80, 0x89], [0xE2, 0x80, 0x8A], [0xE2, 0x80, 0xA8],
    [0xE2, 0x80, 0xA9], [0xE2, 0x80, 0xAF], [0xE2, 0x81, 0x9F], [0xE3, 0x80, 0x80]]

/-- Takes units off the front, at most `fuel` of them. -/
def stripUnits (units : List Bytes) : Nat → Bytes → Bytes
  | 0, s => s
  | fuel + 1, s =>
    match units.findSome? fun unit => s.dropPrefix? unit with
    | none => s
    | some rest => stripUnits units fuel rest

/-- The string without white space at either end.  A unit is at least one byte, so there
    are no more units than bytes. -/
def trimSpace (s : Bytes) : Bytes :=
  let left := stripUnits spaces s.length s
  (stripUnits (spaces.map List.reverse) left.length left.reverse).reverse

/-- The decimal digits of a number. -/
def ofNat (n : Nat) : Bytes := (Nat.toDigits 10 n).map fun c => c.toUInt8

/-- A number in decimal, with a minus sign if it is negative. -/
def ofInt : Int → Bytes
  | .ofNat n => ofNat n
  | .negSucc n => 45 :: ofNat (n + 1)

/-- The order of strings by their bytes. -/
def le : Bytes → Bytes → Bool
  | [], _ => true
  | _ :: _, [] => false
  | a :: s, b :: t => decide (a < b) || (decide (a = b) && le s t)

/-- Strings in ascending order. -/
def sort (l : List Bytes) : List Bytes := l.insertionSort fun s t => le s t = true

end Bytes
