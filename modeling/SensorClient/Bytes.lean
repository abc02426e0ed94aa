/-!
# Byte strings

A byte string is a list of bytes. Machine words are written least significant byte first, and a
byte string is shown as two lower case hexadecimal digits per byte.

## Main definitions

* `Bytes.ofWord w n`, `Bytes.toWord`: the `w` low bytes of `n`, and the number they stand for
* `Bytes.ofInt32`, `Bytes.toInt32`: a signed word in two's complement
* `wordProduct`: the product of two machine words
* `Bytes.cut size count`: the first `count` blocks of `size` bytes
* `Bytes.slice?`, `Bytes.slices?`: bytes from a place on, and blocks at the multiples of their size
* `Bytes.toHex`, `Bytes.ofHex?`: the hexadecimal text and its reader
-/

namespace SensorClient

/-- A string of bytes, first byte first. -/
abbrev Bytes := List UInt8

/-- The product of two 64-bit words, which is a word again and loses what does not fit. -/
def wordProduct (a b : Nat) : Nat := a * b % UInt64.size

theorem wordProduct_lt (a b : Nat) : wordProduct a b < UInt64.size := Nat.mod_lt _ (by decide)

theorem wordProduct_le (a b : Nat) : wordProduct a b ≤ a * b := Nat.mod_le _ _

theorem wordProduct_of_lt {a b : Nat} (fits : a * b < UInt64.size) : wordProduct a b = a * b :=
  Nat.mod_eq_of_lt fits

/-- A product loses nothing exactly if a word can hold it. -/
theorem wordProduct_eq_iff {a b : Nat} : wordProduct a b = a * b ↔ a * b < UInt64.size :=
  ⟨fun same => same ▸ wordProduct_lt a b, wordProduct_of_lt⟩

namespace Bytes

/-- The `width` low bytes of `n`, least significant first. -/
def ofWord : Nat → Nat → Bytes
  | 0, _ => []
  | width + 1, n => UInt8.ofNat (n % 256) :: ofWord width (n / 256)

/-- The number whose bytes these are, least significant first. -/
def toWord : Bytes → Nat
  | [] => 0
  | b :: rest => b.toNat + 256 * toWord rest

@[simp] theorem length_ofWord (width n : Nat) : (ofWord width n).length = width := by
  induction width generalizing n with
  | zero => rfl
  | succ width ih => simp [ofWord, ih]

/-- Reading the bytes of a word gives the word back, up to the bits that were cut off. -/
theorem toWord_ofWord (width n : Nat) : toWord (ofWord width n) = n % Nat.pow 256 width := by
  induction width generalizing n with
  | zero => simp [ofWord, toWord, Nat.mod_one]
  | succ width ih =>
    have low : (UInt8.ofNat (n % 256)).toNat = n % 256 := by simp
    have power : Nat.pow 256 (width + 1) = 256 * Nat.pow 256 width := Nat.mul_comm _ _
    rw [ofWord, toWord, ih, low, power, Nat.mod_mul]

/-- The bytes of the number that bytes stand for are those bytes again. -/
theorem ofWord_toWord (bytes : Bytes) : ofWord bytes.length (toWord bytes) = bytes := by
  induction bytes with
  | nil => rfl
  | cons b rest ih =>
    have byte : b.toNat < 256 := b.toNat_lt
    have low : (b.toNat + 256 * toWord rest) % 256 = b.toNat := by omega
    have high : (b.toNat + 256 * toWord rest) / 256 = toWord rest := by omega
    rw [List.length_cons, toWord, ofWord, low, high, ih, UInt8.ofNat_toNat]

/-- The number that bytes stand for has no more of them. -/
theorem toWord_lt (bytes : Bytes) : toWord bytes < Nat.pow 256 bytes.length := by
  induction bytes with
  | nil => exact Nat.zero_lt_one
  | cons b rest ih =>
    have byte : b.toNat < 256 := b.toNat_lt
    have power : Nat.pow 256 (rest.length + 1) = 256 * Nat.pow 256 rest.length := Nat.mul_comm _ _
    rw [toWord, List.length_cons, power]
    omega

/-- The four bytes of a signed 32-bit word. -/
def ofInt32 (n : Int32) : Bytes := ofWord 4 n.toUInt32.toNat

/-- The signed 32-bit word with these low bytes. -/
def toInt32 (bytes : Bytes) : Int32 := (UInt32.ofNat (toWord bytes)).toInt32

/-- The eight bytes of an unsigned 64-bit word. -/
def ofUInt64 (n : UInt64) : Bytes := ofWord 8 n.toNat

/-- The unsigned 64-bit word with these low bytes. -/
def toUInt64 (bytes : Bytes) : UInt64 := UInt64.ofNat (toWord bytes)

@[simp] theorem length_ofInt32 (n : Int32) : (ofInt32 n).length = 4 := length_ofWord 4 _

@[simp] theorem length_ofUInt64 (n : UInt64) : (ofUInt64 n).length = 8 := length_ofWord 8 _

theorem toWord_ofInt32 (n : Int32) : toWord (ofInt32 n) = n.toUInt32.toNat := by
  rw [ofInt32, toWord_ofWord]
  exact Nat.mod_eq_of_lt n.toUInt32.toNat_lt

/-- The bytes of a signed word stand for it, whatever its sign. -/
theorem toInt32_ofInt32 (n : Int32) : toInt32 (ofInt32 n) = n := by
  rw [toInt32, toWord_ofInt32, UInt32.ofNat_toNat, Int32.toInt32_toUInt32]

/-- Four bytes are those of the signed word that they stand for. -/
theorem ofInt32_toInt32 {bytes : Bytes} (four : bytes.length = 4) :
    ofInt32 (toInt32 bytes) = bytes := by
  have small : toWord bytes < UInt32.size := by
    have bound := toWord_lt bytes
    rwa [four] at bound
  rw [ofInt32, toInt32, UInt32.toUInt32_toInt32, UInt32.toNat_ofNat_of_lt' small]
  rw [← four]
  exact ofWord_toWord bytes

/-- The bytes of an unsigned word stand for it. -/
theorem toUInt64_ofUInt64 (n : UInt64) : toUInt64 (ofUInt64 n) = n := by
  rw [toUInt64, ofUInt64, toWord_ofWord]
  rw [show n.toNat % Nat.pow 256 8 = n.toNat from Nat.mod_eq_of_lt n.toNat_lt]
  exact UInt64.ofNat_toNat

/-- Eight bytes are those of the unsigned word that they stand for. -/
theorem ofUInt64_toUInt64 {bytes : Bytes} (eight : bytes.length = 8) :
    ofUInt64 (toUInt64 bytes) = bytes := by
  have small : toWord bytes < UInt64.size := by
    have bound := toWord_lt bytes
    rwa [eight] at bound
  rw [ofUInt64, toUInt64, UInt64.toNat_ofNat_of_lt' small]
  rw [← eight]
  exact ofWord_toWord bytes

/-- The first `count` consecutive blocks of `size` bytes; a block that is missing is short. -/
def cut (size : Nat) : Nat → Bytes → List Bytes
  | 0, _ => []
  | count + 1, bytes => bytes.take size :: cut size count (bytes.drop size)

@[simp] theorem length_cut (size count : Nat) (bytes : Bytes) :
    (cut size count bytes).length = count := by
  induction count generalizing bytes with
  | zero => rfl
  | succ count ih => simp [cut, ih]

/-- So many bytes from a place on, if all of them are there. -/
def slice? (bytes : Bytes) (start length : Nat) : Option Bytes :=
  if start + length ≤ bytes.length then some ((bytes.drop start).take length) else none

theorem slice?_of_le {bytes : Bytes} {start length : Nat} (enough : start + length ≤ bytes.length) :
    bytes.slice? start length = some ((bytes.drop start).take length) := if_pos enough

theorem slice?_of_lt {bytes : Bytes} {start length : Nat} (short : bytes.length < start + length) :
    bytes.slice? start length = none := if_neg (Nat.not_le.mpr short)

/-- The first `count` blocks of `size` bytes, each looked up at its multiple of the size; none if
one of them is not all there. The multiples are words. -/
def slices? (size count : Nat) (bytes : Bytes) : Option (List Bytes) :=
  (List.range count).mapM fun i => bytes.slice? (wordProduct i size) size

@[simp] theorem slices?_zero (size : Nat) (bytes : Bytes) : slices? size 0 bytes = some [] := rfl

/-- The last block is looked up once the others have been found. -/
theorem slices?_succ (size count : Nat) (bytes : Bytes) :
    slices? size (count + 1) bytes =
      (slices? size count bytes).bind fun blocks =>
        (bytes.slice? (wordProduct count size) size).map fun block => blocks ++ [block] := by
  rw [slices?, List.range_succ, List.mapM_append, ← slices?]
  cases slices? size count bytes with
  | none => rfl
  | some blocks => cases found : bytes.slice? (wordProduct count size) size <;> simp [found]

/-- The hexadecimal digit of a number below sixteen. -/
def hexDigit (n : Nat) : Char :=
  if n < 10 then Char.ofNat (48 + n) else Char.ofNat (87 + n)

/-- The value of a hexadecimal digit of either case. -/
def hexValue? (c : Char) : Option Nat :=
  if '0' ≤ c ∧ c ≤ '9' then some (c.toNat - 48)
  else if 'a' ≤ c ∧ c ≤ 'f' then some (c.toNat - 87)
  else if 'A' ≤ c ∧ c ≤ 'F' then some (c.toNat - 55)
  else none

/-- Two lower case digits per byte. -/
def toHex (bytes : Bytes) : String :=
  String.ofList (bytes.flatMap fun b => [hexDigit (b.toNat / 16), hexDigit (b.toNat % 16)])

/-- Reads pairs of digits; refuses a digit left alone and anything that is no digit. -/
def ofHexChars? : List Char → Option Bytes
  | [] => some []
  | [_] => none
  | high :: low :: rest => do
    let h ← hexValue? high
    let l ← hexValue? low
    return UInt8.ofNat (16 * h + l) :: (← ofHexChars? rest)

@[inherit_doc ofHexChars?]
def ofHex? (text : String) : Option Bytes := ofHexChars? text.toList

/-- The bytes of a text in its standard encoding. -/
def ofText (text : String) : Bytes := text.toUTF8.toList

/-- The text these bytes encode, if they encode one. -/
def toText? (bytes : Bytes) : Option String := String.fromUTF8? (ByteArray.mk bytes.toArray)

end Bytes

end SensorClient
