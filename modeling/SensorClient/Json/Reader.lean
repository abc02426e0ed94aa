import SensorClient.Bytes
import SensorClient.Json

/-!
# Reading JSON

The reader takes one value with blanks around it and nothing else. Numbers have no leading zero
and no leading plus, strings hold no control character, and there is no limit on nesting. Each
step either refuses its input or gives the rest, which is shorter, so the length of the text
bounds the steps.

## Main definitions

* `Json.readNumber`, `Json.readText`, `Json.readValue`: a value and the characters after it
* `Json.read?`: the value that a text holds
-/

namespace SensorClient.Json

/-- Space, tab, line feed and carriage return. -/
def isSpace (c : Char) : Bool := c == ' ' || c == '\t' || c == '\n' || c == '\r'

/-- Drops the blanks at the front. -/
def skip (input : List Char) : List Char := input.dropWhile isSpace

/-- One digit or more, and what follows them. -/
def readDigits (input : List Char) : Option (List Char × List Char) :=
  match input.takeWhile Char.isDigit with
  | [] => none
  | digits => some (digits, input.dropWhile Char.isDigit)

/-- The whole part of a number: a lone zero, or digits that do not start with one. -/
def readWhole (input : List Char) : Option (List Char × List Char) :=
  match readDigits input with
  | some ('0' :: _ :: _, _) => none
  | found => found

/-- A point with digits after it, if there is a point. -/
def readFraction : List Char → Option (List Char × List Char)
  | '.' :: rest => (readDigits rest).map fun found => ('.' :: found.1, found.2)
  | input => some ([], input)

/-- The sign of an exponent, if there is one. -/
def readSign : List Char → List Char × List Char
  | '+' :: rest => (['+'], rest)
  | '-' :: rest => (['-'], rest)
  | input => ([], input)

/-- An exponent mark with a signed whole number after it, if there is a mark. -/
def readExponent : List Char → Option (List Char × List Char)
  | c :: rest =>
    if c = 'e' ∨ c = 'E' then
      let (sign, rest) := readSign rest
      (readDigits rest).map fun found => (c :: sign ++ found.1, found.2)
    else some ([], c :: rest)
  | [] => some ([], [])

/-- A number, as it is written. -/
def readNumber (input : List Char) : Option (List Char × List Char) := do
  let (sign, input) := match input with
    | '-' :: rest => (['-'], rest)
    | _ => ([], input)
  let (whole, input) ← readWhole input
  let (fraction, input) ← readFraction input
  let (exponent, input) ← readExponent input
  return (sign ++ whole ++ fraction ++ exponent, input)

/-- The value of four hexadecimal digits. -/
def readCode : List Char → Option (Nat × List Char)
  | a :: b :: c :: d :: rest => do
    let a ← Bytes.hexValue? a
    let b ← Bytes.hexValue? b
    let c ← Bytes.hexValue? c
    let d ← Bytes.hexValue? d
    return (((a * 16 + b) * 16 + c) * 16 + d, rest)
  | _ => none

/-- The character that a short escape stands for. -/
def shortEscape : Char → Option Char
  | '"' => some '"'
  | '\\' => some '\\'
  | '/' => some '/'
  | 'b' => some '\x08'
  | 'f' => some '\x0c'
  | 'n' => some '\n'
  | 'r' => some '\r'
  | 't' => some '\t'
  | _ => none

/-- One unit of a string: a character, or a numbered code unit. -/
inductive Piece where
  | char (c : Char)
  | code (n : Nat)

/-- The pieces of a string up to its closing quote; `fuel` bounds their number. -/
def readPieces : Nat → List Char → Option (List Piece × List Char)
  | 0, _ => none
  | _ + 1, '"' :: rest => some ([], rest)
  | fuel + 1, '\\' :: 'u' :: rest => do
    let (code, rest) ← readCode rest
    let (pieces, rest) ← readPieces fuel rest
    return (.code code :: pieces, rest)
  | fuel + 1, '\\' :: c :: rest => do
    let c ← shortEscape c
    let (pieces, rest) ← readPieces fuel rest
    return (.char c :: pieces, rest)
  | fuel + 1, c :: rest =>
    if c.toNat < 32 ∨ c = '\\' then none
    else do
      let (pieces, rest) ← readPieces fuel rest
      return (.char c :: pieces, rest)
  | _ + 1, [] => none

/-- Whether a code unit is the first half of a surrogate pair. -/
def isHighHalf (n : Nat) : Bool := 0xd800 ≤ n && n < 0xdc00

/-- Whether a code unit is the second half of a surrogate pair. -/
def isLowHalf (n : Nat) : Bool := 0xdc00 ≤ n && n < 0xe000

/-- The text of the pieces; half a surrogate pair on its own has none. -/
def joinPieces : List Piece → Option (List Char)
  | [] => some []
  | .char c :: rest => (joinPieces rest).map (c :: ·)
  | .code high :: .code low :: rest =>
    if isHighHalf high then
      if isLowHalf low then
        (joinPieces rest).map
          (Char.ofNat (0x10000 + (high - 0xd800) * 1024 + (low - 0xdc00)) :: ·)
      else none
    else if isLowHalf high then none
    else (joinPieces (.code low :: rest)).map (Char.ofNat high :: ·)
  | .code n :: rest =>
    if isHighHalf n || isLowHalf n then none
    else (joinPieces rest).map (Char.ofNat n :: ·)

/-- A string after its opening quote. -/
def readText (input : List Char) : Option (Option String × List Char) :=
  (readPieces (input.length + 1) input).map fun (pieces, rest) =>
    ((joinPieces pieces).map String.ofList, rest)

/-- The input after the given characters, if it starts with them. -/
def expect : List Char → List Char → Option (List Char)
  | [], input => some input
  | c :: word, d :: input => if c = d then expect word input else none
  | _ :: _, [] => none

mutual

/-- A value that starts here; `fuel` bounds the values, items and members. -/
def readValue : Nat → List Char → Option (Json × List Char)
  | 0, _ => none
  | _ + 1, [] => none
  | fuel + 1, c :: rest =>
    match c with
    | '"' => (readText rest).map fun (text, rest) => (str text, rest)
    | '[' =>
      match skip rest with
      | ']' :: rest => some (arr [], rest)
      | rest => (readItems fuel rest).map fun (items, rest) => (arr items, rest)
    | '\x7b' =>
      match skip rest with
      | '\x7d' :: rest => some (obj [], rest)
      | rest => (readMembers fuel rest).map fun (members, rest) => (obj members, rest)
    | 'n' => (expect "ull".toList rest).map fun rest => (null, rest)
    | 't' => (expect "rue".toList rest).map fun rest => (bool true, rest)
    | 'f' => (expect "alse".toList rest).map fun rest => (bool false, rest)
    | _ => (readNumber (c :: rest)).map fun (literal, rest) => (num (String.ofList literal), rest)

/-- The items of an array up to its closing bracket. -/
def readItems : Nat → List Char → Option (List Json × List Char)
  | 0, _ => none
  | fuel + 1, input => do
    let (item, rest) ← readValue fuel input
    match skip rest with
    | ']' :: rest => return ([item], rest)
    | ',' :: rest =>
      let (items, rest) ← readItems fuel (skip rest)
      return (item :: items, rest)
    | _ => none

/-- The members of an object up to its closing brace. -/
def readMembers : Nat → List Char → Option (List (Option String × Json) × List Char)
  | 0, _ => none
  | fuel + 1, '"' :: input => do
    let (key, rest) ← readText input
    let rest ← expect [':'] (skip rest)
    let (value, rest) ← readValue fuel (skip rest)
    match skip rest with
    | '\x7d' :: rest => return ([(key, value)], rest)
    | ',' :: rest =>
      let (members, rest) ← readMembers fuel (skip rest)
      return ((key, value) :: members, rest)
    | _ => none
  | _ + 1, _ => none

end

/-- The value that the characters hold, with blanks around it. -/
def readChars? (input : List Char) : Option Json := do
  let (value, rest) ← readValue (2 * input.length + 2) (skip input)
  if skip rest = [] then some value else none

/-- The value that a text holds, with blanks around it. -/
def read? (text : String) : Option Json := readChars? text.toList

end SensorClient.Json
