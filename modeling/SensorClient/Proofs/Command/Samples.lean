import SensorClient.Proofs.Command.Streaming
import SensorClient.Proofs.Sample.Batches
import SensorClient.Proofs.Sample.Xyz

/-!
# What is printed of samples of three axes

A record that is long enough for a sample holds one, and the decoders of a stream of samples hand on
no shorter ones. So where samples are to be printed, every record that is delivered has its sample
printed, in its turn and under the next number, until as many are printed as were asked for.

## Main definitions

* `Printer.PrintsSamples`: what was printed are the samples of what was delivered

## Main results

* `Printer.Prints.samples`: lines of records that are long enough are lines of their samples
* `samples_read_and_printed`: which sample a record holds, and that none is passed over
-/

namespace SensorClient

namespace Printer

variable {p : Printer} {out : Printout}

/-- Every record delivered holds a sample, and the lines printed are those of the first samples, as
many as were asked for, numbered from zero. -/
structure PrintsSamples (p : Printer) (out : Printout) (samples : List XyzSample) : Prop where
  held : out.delivered.map XyzSample.decode? = samples.map some
  lines : out.lines = (samples.take (p.limit.getD samples.length)).mapIdx fun sequence s =>
    Report.sample p.sensor sequence s p.format

/-- Where samples are wanted, the lines of the records delivered are the lines of their samples. -/
theorem Prints.samples (prints : p.Prints out) (layout : p.layout = .xyz) :
    ∃ samples, p.PrintsSamples out samples := by
  have long : ∀ record ∈ out.delivered, XyzSample.size ≤ record.length := by
    intro record mem
    rw [prints.whole record mem, layout]
    exact Nat.le_refl _
  obtain ⟨samples, held⟩ := XyzSample.exists_samples long
  refine ⟨samples, held, ?_⟩
  have same : out.delivered.length = samples.length := by
    simpa using congrArg List.length held
  have each (i : Nat) : out.delivered[i]?.map XyzSample.decode? = samples[i]?.map some := by
    rw [← List.getElem?_map, ← List.getElem?_map, held]
  have line (i : Nat) : p.line? i = fun record =>
      (XyzSample.decode? record).map fun s => Report.sample p.sensor i s p.format := by
    funext record
    simp [line?, layout]
  -- The lines are compared as options, since that is how a record's line is given.
  apply (List.map_inj_right fun _ _ => Option.some.inj).mp
  rw [prints.lines, p.shown_eq_take, same]
  apply List.ext_getElem?
  intro i
  rw [List.getElem?_mapIdx, List.getElem?_map, List.getElem?_mapIdx, List.getElem?_take,
    List.getElem?_take]
  by_cases within : i < p.limit.getD samples.length
  · rw [if_pos within, if_pos within, line]
    calc out.delivered[i]?.map _
        = (out.delivered[i]?.map XyzSample.decode?).map
            (Option.map fun s => Report.sample p.sensor i s p.format) := (Option.map_map ..).symm
      _ = (samples[i]?.map some).map
            (Option.map fun s => Report.sample p.sensor i s p.format) := by rw [each]
      _ = (samples[i]?.map fun s => Report.sample p.sensor i s p.format).map some := by
          rw [Option.map_map, Option.map_map]
          rfl
  · rw [if_neg within, if_neg within]
    rfl

end Printer

/-- Which sample a record holds, and that none is passed over. The bytes of a sample with four behind
them are read as that sample. Every record that is long enough holds a sample whose bytes are at the
start of it, and only those decide which; a shorter one holds none. Where samples are to be printed,
whatever becomes of a session, every record that its decoder delivers, alone or in a batch, holds a
sample, and the lines are those of the first samples, as many as were asked for. -/
theorem samples_read_and_printed :
    (∀ (timestamp : UInt64) (x y z : Int32) (padding : Bytes), 4 ≤ padding.length →
      XyzSample.decode? (Bytes.ofUInt64 timestamp ++ Bytes.ofInt32 x ++ Bytes.ofInt32 y ++
        Bytes.ofInt32 z ++ padding) = some ⟨timestamp, x, y, z⟩) ∧
      (∀ record : Bytes, 24 ≤ record.length →
        ∃ s, XyzSample.decode? record = some s ∧ s.encode = record.take 20) ∧
      (∀ record record' : Bytes, 24 ≤ record.length → 24 ≤ record'.length →
        (XyzSample.decode? record = XyzSample.decode? record' ↔
          record.take 20 = record'.take 20)) ∧
      (∀ record : Bytes, record.length < 24 → XyzSample.decode? record = none) ∧
      ∀ p : Printer, p.layout = .xyz → ∀ (s : Session Printout) (interface : String) (batch : Bool),
        s.decoder = p.decoder interface batch → s.sink = .empty →
        (∀ events, ∃ samples, p.PrintsSamples (s.run events).sink samples) ∧
          ∀ host o plan, ∃ samples,
            p.PrintsSamples (streamSession host o p plan s).2.sink samples := by
  refine ⟨?_, ?_, ?_, ?_, ?_⟩
  · intro timestamp x y z padding enough
    exact XyzSample.decode?_append ⟨timestamp, x, y, z⟩ enough
  · intro record long
    obtain ⟨s, decoded⟩ := XyzSample.exists_decode?_eq_some long
    exact ⟨s, decoded, XyzSample.encode_of_decode? decoded⟩
  · intro record record' long long'
    exact XyzSample.decode?_eq_iff long long'
  · intro record short
    exact XyzSample.decode?_of_lt short
  · intro p layout s interface batch decoder empty
    constructor
    · intro events
      have keeps : s.decoder.Keeps p.Prints := decoder ▸ p.keeps_prints interface batch
      have prints : p.Prints (s.run events).sink := keeps.run (empty ▸ p.prints_empty) events
      exact prints.samples layout
    · intro host o plan
      have prints : p.Prints (streamSession host o p plan s).2.sink :=
        prints_streamSession decoder empty
      exact prints.samples layout

/-! ## A batch of two samples -/

/-- A printer of the first sample of a stream. -/
def Printer.firstSample : Printer := ⟨"accelerometersensor", .xyz, some 1, .raw⟩

/-- A session that was acknowledged and hands its batches to that printer. -/
def Session.ofFirstSample : Session Printout :=
  overLink "/SensorManager/accelerometersensor" (.begin (.unreachable "no daemon")) .initial
    (.fresh 0 [6]) (Printer.firstSample.decoder "local.AccelerometerSensor" true) .empty 7 4242

/-- Two samples, the first at the ends of what the fields can hold. -/
def XyzSample.extremes : List XyzSample :=
  [⟨18446744073709551615, -1, -2147483648, 2147483647⟩, ⟨5, 0, 1, 2⟩]

/-- The records of the two, with ones in their padding. -/
def XyzSample.extremeRecords : List Bytes := extremes.map fun s => s.encode ++ [1, 1, 1, 1]

/-- Of a batch of the two samples both are delivered, and the first is printed with its signs. A
record without its last byte holds none. -/
theorem samples_read_and_printed_batch :
    let batch := Bytes.ofBatch XyzSample.extremeRecords
    let out := (Session.ofFirstSample.run [.feed batch, .op .dataReceived]).sink
    XyzSample.extremeRecords.map XyzSample.decode? = XyzSample.extremes.map some ∧
      out.delivered = XyzSample.extremeRecords ∧
      out.lines = [Bytes.ofText "18446744073709551615 -1 -2147483648 2147483647\n"] ∧
      ∀ record ∈ XyzSample.extremeRecords, XyzSample.decode? (record.take 23) = none := by
  intro batch out
  obtain ⟨reads, -, -, short, prints⟩ := samples_read_and_printed
  have decoded : XyzSample.extremeRecords.map XyzSample.decode? = XyzSample.extremes.map some := by
    rw [XyzSample.extremeRecords, List.map_map]
    apply List.map_congr_left
    intro s _
    exact reads s.timestamp s.x s.y s.z [1, 1, 1, 1] (by decide)
  have delivered : out.delivered = XyzSample.extremeRecords := by decide +kernel
  obtain ⟨samples, printed⟩ := (prints .firstSample rfl .ofFirstSample _ true rfl rfl).1
    [.feed batch, .op .dataReceived]
  have same : samples = XyzSample.extremes := by
    have held := printed.held
    rw [delivered, decoded] at held
    exact ((List.map_inj_right fun _ _ => Option.some.inj).mp held).symm
  refine ⟨decoded, delivered, ?_, ?_⟩
  · rw [printed.lines, same]
    decide +kernel
  · intro record _
    apply short
    rw [List.length_take]
    omega

end SensorClient
