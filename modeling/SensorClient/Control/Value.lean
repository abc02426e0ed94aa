import SensorClient.Control.Range

/-!
# Values on the control bus

A reply is a value of some shape. Whoever asked wants a value of one kind and narrows the reply to
it: an integer passes to another integer type if that type holds the same number, anything
answers a request for nothing, and otherwise the shapes have to agree.

## Main definitions

* `Arg`: an argument of a call
* `Value`: a reply, or the value of a property
* `Kind`, `Kind.Carrier`: the kinds that can be asked for, and the type of each
* `Kind.narrow`: the value as one of a kind
* `Kind.value`: a carried value as a reply
-/

namespace SensorClient

/-- An argument of a call. -/
inductive Arg where
  | int (n : Int32)
  | uint (n : UInt32)
  | long (n : Int64)
  | bool (b : Bool)
  | str (s : String)
  | range (r : DataRange)
deriving DecidableEq, Repr

/-- A reply to a call, or the value of a property. -/
inductive Value where
  | unit
  | int (n : Int32)
  | uint (n : UInt32)
  | long (n : Int64)
  | bool (b : Bool)
  | str (s : String)
  | range (r : DataRange)
  | ranges (rs : List DataRange)
  | integerRanges (rs : List IntegerRange)
deriving DecidableEq, Repr, Inhabited

/-- An argument as a value. -/
def Arg.value : Arg → Value
  | int n => .int n
  | uint n => .uint n
  | long n => .long n
  | bool b => .bool b
  | str s => .str s
  | range r => .range r

/-- A value as an argument, if calls can have it. -/
def Value.arg? : Value → Option Arg
  | int n => some (.int n)
  | uint n => some (.uint n)
  | long n => some (.long n)
  | bool b => some (.bool b)
  | str s => some (.str s)
  | range r => some (.range r)
  | _ => none

/-- The kinds of value that can be asked for. -/
inductive Kind where
  | unit
  | int
  | uint
  | long
  | bool
  | str
  | range
  | ranges
  | integerRanges
deriving DecidableEq, Repr, Inhabited

namespace Kind

/-- The values of a kind. -/
abbrev Carrier : Kind → Type
  | unit => Unit
  | int => Int32
  | uint => UInt32
  | long => Int64
  | bool => Bool
  | str => String
  | range => DataRange
  | ranges => List DataRange
  | integerRanges => List IntegerRange

/-- What stands in for a value that could not be had. -/
def neutral : (k : Kind) → k.Carrier
  | unit => ()
  | int => 0
  | uint => 0
  | long => 0
  | bool => false
  | str => ""
  | range => default
  | ranges => []
  | integerRanges => []

instance (k : Kind) : Inhabited k.Carrier := ⟨k.neutral⟩

/-- The name of a kind in messages. -/
def text : Kind → String
  | unit => "unit"
  | int => "int32"
  | uint => "uint32"
  | long => "int64"
  | bool => "bool"
  | str => "string"
  | range => "data range"
  | ranges => "data range list"
  | integerRanges => "integer range list"

/-- A carried value as a reply of its own shape. -/
def value : (k : Kind) → k.Carrier → Value
  | unit, () => .unit
  | int, n => .int n
  | uint, n => .uint n
  | long, n => .long n
  | bool, b => .bool b
  | str, s => .str s
  | range, r => .range r
  | ranges, rs => .ranges rs
  | integerRanges, rs => .integerRanges rs

end Kind

/-- The kind that has the shape of a value. -/
def Value.kind : Value → Kind
  | unit => .unit
  | int _ => .int
  | uint _ => .uint
  | long _ => .long
  | bool _ => .bool
  | str _ => .str
  | range _ => .range
  | ranges _ => .ranges
  | integerRanges _ => .integerRanges

@[simp] theorem Kind.kind_value (k : Kind) (v : k.Carrier) : (k.value v).kind = k := by
  cases k <;> rfl

/-- The number that an integer value stands for. -/
def Value.toInt? : Value → Option Int
  | .int n => some n.toInt
  | .uint n => some n.toNat
  | .long n => some n.toInt
  | _ => none

/-- Equality of values, their doubles compared as numbers. -/
def Value.numerEq : Value → Value → Bool
  | .range a, .range b => a.numerEq b
  | .ranges as, .ranges bs => as.length == bs.length && (as.zip bs).all fun p => p.1.numerEq p.2
  | a, b => a == b

/-- A signed 32-bit word for a number in its range. -/
def narrowInt32 (n : Int) : Option Int32 :=
  if Int32.minValue.toInt ≤ n ∧ n ≤ Int32.maxValue.toInt then some (Int32.ofInt n) else none

/-- An unsigned 32-bit word for a number in its range. -/
def narrowUInt32 (n : Int) : Option UInt32 :=
  if 0 ≤ n ∧ n < UInt32.size then some (UInt32.ofNat n.toNat) else none

/-- A signed 64-bit word for a number in its range. -/
def narrowInt64 (n : Int) : Option Int64 :=
  if Int64.minValue.toInt ≤ n ∧ n ≤ Int64.maxValue.toInt then some (Int64.ofInt n) else none

/-- The value as one of the kind, if its shape allows that. -/
def Kind.narrow : (k : Kind) → Value → Option k.Carrier
  | unit, _ => some ()
  | int, v => v.toInt?.bind narrowInt32
  | uint, v => v.toInt?.bind narrowUInt32
  | long, v => v.toInt?.bind narrowInt64
  | bool, .bool b => some b
  | str, .str s => some s
  | range, .range r => some r
  | ranges, .ranges rs => some rs
  | integerRanges, .integerRanges rs => some rs
  | _, _ => none

end SensorClient
