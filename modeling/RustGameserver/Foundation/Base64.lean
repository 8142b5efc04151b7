import Mathlib.Data.List.Basic

/-!
Contract: Base64 with padding.

Owns:
- the standard alphabet, encoding and decoding;
- the width of an encoding, and that decoding undoes it.

Does not own: other alphabets, or decoding that tolerates anything else.
-/

namespace RustGameserver.Foundation.Base64

def alphabet : List Char :=
  "ABCDEFGHIJKLMNOPQRSTUVWXYZabcdefghijklmnopqrstuvwxyz0123456789+/".toList

def letter (digit : Nat) : Char := alphabet.getD digit '='

def digit (char : Char) : Option Nat := alphabet.idxOf? char

def encodeChars : List UInt8 → List Char
  | [] => []
  | [first] =>
      let bits := first.toNat * 16
      [letter (bits / 64), letter (bits % 64), '=', '=']
  | [first, second] =>
      let bits := (first.toNat * 256 + second.toNat) * 4
      [letter (bits / 4096), letter (bits / 64 % 64), letter (bits % 64), '=']
  | first :: second :: third :: rest =>
      let bits := (first.toNat * 256 + second.toNat) * 256 + third.toNat
      letter (bits / 262144) :: letter (bits / 4096 % 64) :: letter (bits / 64 % 64) ::
        letter (bits % 64) :: encodeChars rest

/-- The last quantum, padded. Bits that are left over have to be zero. -/
def decodePadded (first second third : Char) : Option (List UInt8) := do
  let high ← digit first
  let low ← digit second
  if third = '=' then
    let bits := high * 64 + low
    if bits % 16 = 0 then some [UInt8.ofNat (bits / 16)] else none
  else
    let last ← digit third
    let bits := (high * 64 + low) * 64 + last
    if bits % 4 = 0 then some [UInt8.ofNat (bits / 1024), UInt8.ofNat (bits / 4)] else none

/-- A quantum of three bytes. -/
def decodeQuantum (first second third fourth : Char) : Option (List UInt8) := do
  let bits := (((← digit first) * 64 + (← digit second)) * 64 + (← digit third)) * 64 +
    (← digit fourth)
  return [UInt8.ofNat (bits / 65536), UInt8.ofNat (bits / 256), UInt8.ofNat bits]

def decodeChars : List Char → Option (List UInt8)
  | [] => some []
  | first :: second :: third :: fourth :: rest =>
      if fourth = '=' then
        if rest = [] then decodePadded first second third else none
      else do
        let bytes ← decodeQuantum first second third fourth
        let later ← decodeChars rest
        return bytes ++ later
  | _ => none

def encode (bytes : List UInt8) : String := String.ofList (encodeChars bytes)

def decode (text : String) : Option (List UInt8) := decodeChars text.toList

/-! ## Decoding undoes encoding -/

theorem digit_letter : ∀ value < 64, digit (letter value) = some value := by decide +kernel

theorem letter_ne_padding : ∀ value < 64, letter value ≠ '=' := by decide +kernel

theorem ofNat_eq {value : Nat} {byte : UInt8} (same : value % 256 = byte.toNat) :
    UInt8.ofNat value = byte := by
  apply UInt8.toNat_inj.mp
  rw [UInt8.toNat_ofNat']
  exact same

theorem decodeChars_encodeChars (bytes : List UInt8) :
    decodeChars (encodeChars bytes) = some bytes := by
  fun_induction encodeChars bytes with
  | case1 => rfl
  | case2 first bits =>
      have small := first.toNat_lt
      have high := digit_letter (bits / 64) (by omega)
      have low := digit_letter (bits % 64) (by omega)
      have zero : (bits / 64 * 64 + bits % 64) % 16 = 0 := by omega
      have byte : UInt8.ofNat ((bits / 64 * 64 + bits % 64) / 16) = first := ofNat_eq (by omega)
      simp [decodeChars, decodePadded, high, low, zero, byte]
  | case3 first second bits =>
      have smallFirst := first.toNat_lt
      have smallSecond := second.toNat_lt
      have high := digit_letter (bits / 4096) (by omega)
      have low := digit_letter (bits / 64 % 64) (by omega)
      have last := digit_letter (bits % 64) (by omega)
      have padding := letter_ne_padding (bits % 64) (by omega)
      have whole : (bits / 4096 * 64 + bits / 64 % 64) * 64 + bits % 64 = bits := by omega
      have zero : bits % 4 = 0 := by omega
      have byteFirst : UInt8.ofNat (bits / 1024) = first := ofNat_eq (by omega)
      have byteSecond : UInt8.ofNat (bits / 4) = second := ofNat_eq (by omega)
      simp [decodeChars, decodePadded, high, low, last, padding, whole, zero, byteFirst, byteSecond]
  | case4 first second third rest bits inductionHypothesis =>
      have smallFirst := first.toNat_lt
      have smallSecond := second.toNat_lt
      have smallThird := third.toNat_lt
      have digitFirst := digit_letter (bits / 262144) (by omega)
      have digitSecond := digit_letter (bits / 4096 % 64) (by omega)
      have digitThird := digit_letter (bits / 64 % 64) (by omega)
      have digitFourth := digit_letter (bits % 64) (by omega)
      have padding := letter_ne_padding (bits % 64) (by omega)
      have whole : ((bits / 262144 * 64 + bits / 4096 % 64) * 64 + bits / 64 % 64) * 64 +
          bits % 64 = bits := by omega
      have byteFirst : UInt8.ofNat (bits / 65536) = first := ofNat_eq (by omega)
      have byteSecond : UInt8.ofNat (bits / 256) = second := ofNat_eq (by omega)
      have byteThird : UInt8.ofNat bits = third := ofNat_eq (by omega)
      have quantum : decodeQuantum (letter (bits / 262144))
          (letter (bits / 4096 % 64)) (letter (bits / 64 % 64))
          (letter (bits % 64)) = some [first, second, third] := by
        simp only [decodeQuantum, digitFirst, digitSecond, digitThird, digitFourth,
          Option.bind_eq_bind, Option.bind_some, whole, byteFirst, byteSecond, byteThird]
        rfl
      simp [decodeChars, padding, quantum, inductionHypothesis]

theorem decode_encode (bytes : List UInt8) : decode (encode bytes) = some bytes := by
  rw [decode, encode, String.toList_ofList, decodeChars_encodeChars]

theorem encodeChars_length (bytes : List UInt8) :
    (encodeChars bytes).length = 4 * ((bytes.length + 2) / 3) := by
  fun_induction encodeChars bytes with
  | case1 => rfl
  | case2 => simp
  | case3 => simp
  | case4 first second third rest bits inductionHypothesis =>
      simp only [List.length_cons, inductionHypothesis]
      omega

theorem encode_length (bytes : List UInt8) :
    (encode bytes).length = 4 * ((bytes.length + 2) / 3) := by
  rw [encode, String.length_ofList, encodeChars_length]

end RustGameserver.Foundation.Base64
