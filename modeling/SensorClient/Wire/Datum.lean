import SensorClient.Control.Value
import SensorClient.Wire.Name

/-!
# Data in messages

What a message carries is typed by a signature. A reply is read only if its signature is the one
of the kind that was asked for. A property comes as a variant, which names its own type and may
hold another variant; integers of every width below 64 bits and texts can be read from it.

## Main definitions

* `Datum`, `Datum.signature`: a datum and its type
* `OtherDatum`: data that nothing is read from
* `Datum.ofArg`, `body?`: the body of a call, for the argument lists that calls have
* `Body.read?`: the value of a reply
* `Datum.ofVariant?`: the value of a property
* `Datum.nesting`, `Datum.isSendable`: how deep a datum may go, and which texts it may hold
-/

namespace SensorClient

/-- The types of the data that have a shape of their own here. -/
def shapedTypes : List String :=
  ["y", "n", "q", "i", "u", "x", "t", "d", "b", "s", "o", "(ddd)", "a(ddd)", "a(uu)", "as", "v"]

/-- A datum of any other type, such as a tuple, a dictionary or a file handle, or several data side by
side. Nothing is ever read from it, so that only its type counts, how deep it goes, and whether its
texts can be sent. The library that compares the type of a reply with the one that was asked for may
pass over parentheses at its ends: a reply that it takes for a datum of another type is given as
that datum. A property is never taken for what its parentheses hold. -/
structure OtherDatum where
  signature : String
  nesting : Nat
  isSendable : Bool
  unshaped : signature ∉ shapedTypes
deriving DecidableEq, Repr

/-- What a message can carry. -/
inductive Datum where
  | byte (n : UInt8)
  | int16 (n : Int16)
  | uint16 (n : UInt16)
  | int32 (n : Int32)
  | uint32 (n : UInt32)
  | int64 (n : Int64)
  | uint64 (n : UInt64)
  | double (d : Double)
  | bool (b : Bool)
  | str (s : String)
  | path (s : String)
  | range (r : DataRange)
  | ranges (rs : List DataRange)
  | integerRanges (rs : List IntegerRange)
  | strs (ss : List String)
  | other (o : OtherDatum)
  | variant (inner : Datum)
deriving DecidableEq, Repr

namespace Datum

/-- The type of a datum. -/
def signature : Datum → String
  | byte _ => "y"
  | int16 _ => "n"
  | uint16 _ => "q"
  | int32 _ => "i"
  | uint32 _ => "u"
  | int64 _ => "x"
  | uint64 _ => "t"
  | double _ => "d"
  | bool _ => "b"
  | str _ => "s"
  | path _ => "o"
  | range _ => "(ddd)"
  | ranges _ => "a(ddd)"
  | integerRanges _ => "a(uu)"
  | strs _ => "as"
  | other o => o.signature
  | variant _ => "v"

/-- An argument as a datum. -/
def ofArg : Arg → Datum
  | .int n => int32 n
  | .uint n => uint32 n
  | .long n => int64 n
  | .bool b => bool b
  | .str s => str s
  | .range r => range r

/-- How many variants, lists and tuples are around the innermost datum. -/
def nesting : Datum → Nat
  | variant inner => inner.nesting + 1
  | ranges [] | integerRanges [] | strs _ | range _ => 1
  | ranges _ | integerRanges _ => 2
  | other o => o.nesting
  | _ => 0

/-- The nesting that the datum of a property may have. The client sets no limit of its own: this is
the one of the library that reads the wire, which takes so many containers around one another. -/
def maxNesting : Nat := 62

/-- Whether every text in a datum can be sent and read: none holds a null. -/
def isSendable : Datum → Bool
  | str s | path s => Name.isSendable s
  | strs ss => ss.all Name.isSendable
  | other o => o.isSendable
  | variant inner => inner.isSendable
  | _ => true

/-- The value of a property, whose variant holds this datum. -/
def ofVariant? : Datum → Option Value
  | bool b => some (.bool b)
  | byte n => some (.uint (UInt32.ofNat n.toNat))
  | int16 n => some (.int (Int32.ofInt n.toInt))
  | uint16 n => some (.uint (UInt32.ofNat n.toNat))
  | int32 n => some (.int n)
  | uint32 n => some (.uint n)
  | int64 n => some (.long n)
  | str s => some (.str s)
  | variant inner => inner.ofVariant?
  | _ => none

end Datum

/-- The body of a call with these arguments; only some argument lists have one. -/
def body? (args : List Arg) : Option (List Datum) :=
  match args with
  | [] | [.int _] | [.int _, .int _] | [.int _, .uint _] | [.int _, .bool _] | [.int _, .range _]
  | [.str _] | [.str _, .int _] | [.str _, .long _] | [.str _, .int _, .long _] =>
    some (args.map Datum.ofArg)
  | _ => none

/-- The body of a reply: a datum, or nothing. -/
abbrev Body := Option Datum

/-- The body of a reply that holds a value. -/
def Body.ofValue : Value → Body
  | .unit => none
  | .int n => some (.int32 n)
  | .uint n => some (.uint32 n)
  | .long n => some (.int64 n)
  | .bool b => some (.bool b)
  | .str s => some (.str s)
  | .range r => some (.range r)
  | .ranges rs => some (.ranges rs)
  | .integerRanges rs => some (.integerRanges rs)

/-- The value of a reply, if its type is that of the kind that was asked for. Any body answers a
request for nothing. -/
def Body.read? : Kind → Body → Option Value
  | .unit, _ => some .unit
  | .int, some (.int32 n) => some (.int n)
  | .uint, some (.uint32 n) => some (.uint n)
  | .long, some (.int64 n) => some (.long n)
  | .bool, some (.bool b) => some (.bool b)
  | .str, some (.str s) => some (.str s)
  | .range, some (.range r) => some (.range r)
  | .ranges, some (.ranges rs) => some (.ranges rs)
  | .integerRanges, some (.integerRanges rs) => some (.integerRanges rs)
  | _, _ => none

/-- A body made from a value of the kind that was asked for gives that value back. -/
theorem Body.read?_ofValue (v : Value) : Body.read? v.kind (Body.ofValue v) = some v := by
  cases v <;> rfl

end SensorClient
