import Mathlib.Algebra.GroupWithZero.Nat
import Mathlib.Data.List.DropRight

/-! # The text of an attribute: trimming and numbers -/

namespace Kori.Text

/-- The characters of Unicode's `White_Space`, which is what `str::trim` removes. -/
def isWhitespace (c : Char) : Bool :=
  let n := c.toNat
  (9 ≤ n && n ≤ 13) || n == 0x20 || n == 0x85 || n == 0xA0 || n == 0x1680 ||
  (0x2000 ≤ n && n ≤ 0x200A) || n == 0x2028 || n == 0x2029 || n == 0x202F || n == 0x205F || n == 0x3000

def trim (text : List Char) : List Char := (text.dropWhile isWhitespace).rdropWhile isWhitespace

def digit (c : Char) : Option Nat :=
  if '0'.toNat ≤ c.toNat ∧ c.toNat ≤ '9'.toNat then some (c.toNat - '0'.toNat) else none

/-- The value of a non-empty string of decimal digits. -/
def digits : List Char → Option Nat
  | [] => none
  | text => text.foldl (fun acc c => do return 10 * (← acc) + (← digit c)) (some 0)

/-- `u8::from_str`: an optional `+`, then digits that fit. -/
def parseU8 (text : List Char) : Option UInt8 := do
  let n ← digits (match text with | '+' :: rest => rest | _ => text)
  if n < 256 then some (UInt8.ofNat n) else none

/-- `u16::from_str`, in the same way. -/
def parseU16 (text : List Char) : Option UInt16 := do
  let n ← digits (match text with | '+' :: rest => rest | _ => text)
  if n < 65536 then some (UInt16.ofNat n) else none

/-- `i32::from_str`: an optional sign, then digits that fit. -/
def parseI32 (text : List Char) : Option Int := do
  let n : Int ← match text with
    | '-' :: rest => (digits rest).map fun n => -(n : Int)
    | '+' :: rest => (digits rest).map Int.ofNat
    | _ => (digits text).map Int.ofNat
  if -2147483648 ≤ n ∧ n < 2147483648 then some n else none

/-- `char::to_digit(16)`. -/
def toDigit16 (c : Char) : Option Nat :=
  if '0'.toNat ≤ c.toNat ∧ c.toNat ≤ '9'.toNat then some (c.toNat - '0'.toNat)
  else if 'a'.toNat ≤ c.toNat ∧ c.toNat ≤ 'f'.toNat then some (c.toNat - 'a'.toNat + 10)
  else if 'A'.toNat ≤ c.toNat ∧ c.toNat ≤ 'F'.toNat then some (c.toNat - 'A'.toNat + 10)
  else none

/-- The value of a non-empty string of hexadecimal digits. -/
def hexDigits : List Char → Option Nat
  | [] => none
  | text => text.foldl (fun acc c => do return 16 * (← acc) + (← toDigit16 c)) (some 0)

/-- `u32::from_str_radix` in base 16: an optional `+`, then digits that fit. -/
def parseHexU32 (text : List Char) : Option UInt32 := do
  let n ← hexDigits (match text with | '+' :: rest => rest | _ => text)
  if n < 4294967296 then some (UInt32.ofNat n) else none

/-- `str::split_once`: what stands before the first separator and after it. -/
def splitOnce (separator : List Char) : List Char → Option (List Char × List Char)
  | [] => none
  | c :: rest =>
    match (c :: rest).dropPrefix? separator with
    | some after => some ([], after)
    | none => (splitOnce separator rest).map fun (before, after) => (c :: before, after)

/-- `str::len`: the bytes of the text in UTF-8. -/
def byteLength (text : List Char) : Nat := (text.map Char.utf8Size).sum

/-- How an attribute's value is written. -/
def decimal (value : UInt8) : List Char := Nat.toDigits 10 value.toNat

theorem decimal_trims_and_parses :
    ∀ n < 256, trim (Nat.toDigits 10 n) ≠ [] ∧
      parseU8 (trim (Nat.toDigits 10 n)) = some (UInt8.ofNat n) := by
  decide +kernel

theorem trim_decimal_ne_nil (value : UInt8) : trim (decimal value) ≠ [] :=
  (decimal_trims_and_parses value.toNat value.toNat_lt).1

theorem parse_decimal (value : UInt8) : parseU8 (trim (decimal value)) = some value := by
  have h := (decimal_trims_and_parses value.toNat value.toNat_lt).2
  rwa [UInt8.ofNat_toNat] at h

end Kori.Text
