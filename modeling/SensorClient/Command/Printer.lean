import SensorClient.Report.Record
import SensorClient.Sample.Decoder

/-!
# Printing a stream

Records are printed in the order in which they are delivered and numbered from zero without gaps.
Once as many are printed as were asked for, further ones are passed over. A record too short for
the sample it should hold is passed over too, and takes no number.

## Main definitions

* `Layout`: what a record holds
* `Printer`: how records are printed, and how many
* `Printout`: what was delivered and what was printed of it
* `Printer.emit`: one more record
* `Printer.decoder`: the decoder that hands its records to a printer
-/

namespace SensorClient

/-- What a record holds. -/
inductive Layout where
  | xyz
  | bytes (size : Nat)
deriving DecidableEq, Repr

/-- The size of a record. -/
def Layout.size : Layout → Nat
  | xyz => XyzSample.size
  | bytes size => size

/-- How records are printed, and how many at most. -/
structure Printer where
  sensor : String
  layout : Layout
  limit : Option Nat
  format : Format
deriving DecidableEq, Repr

/-- What was delivered, and what was printed of it. -/
structure Printout where
  delivered : List Bytes
  lines : List Bytes
deriving DecidableEq, Repr

namespace Printout

/-- Nothing yet. -/
def empty : Printout := ⟨[], []⟩

/-- The number of records printed. -/
def count (out : Printout) : Nat := out.lines.length

/-- Everything printed, in order. -/
def output (out : Printout) : Bytes := out.lines.flatten

end Printout

namespace Printer

/-- Whether as many records are printed as were asked for. -/
def isMet (p : Printer) (out : Printout) : Bool := p.limit.any fun limit => limit ≤ out.count

/-- What is printed for a record at its place in the sequence. -/
def line? (p : Printer) (sequence : Nat) (record : Bytes) : Option Bytes :=
  match p.layout with
  | .xyz =>
    (XyzSample.decode? record).map fun s => Report.sample p.sensor sequence s p.format
  | .bytes _ => some (Report.record p.sensor sequence record p.format)

/-- One more record is delivered. -/
def emit (p : Printer) (out : Printout) (record : Bytes) : Printout :=
  { delivered := out.delivered ++ [record]
    lines :=
      if p.isMet out then out.lines
      else out.lines ++ (p.line? out.count record).toList }

/-- The decoder that hands its records, alone or in batches, to the printer. -/
def decoder (p : Printer) (interface : String) (batch : Bool) : Decoder Printout :=
  if batch then .batch interface p.layout.size fun out records => records.foldl p.emit out
  else .fixed interface p.layout.size p.emit

end Printer

end SensorClient
