import SensorClient.Command.Printer
import SensorClient.Proofs.Sample.Batches
import SensorClient.Proofs.Session.Dispatch
import SensorClient.Proofs.Session.Effect

/-!
# What is printed of a stream

A decoder hands a printer records of the size that its layout calls for, so none of them is too
short to be printed. Whatever else happens to the session, the lines printed are those of the first
records delivered, as many as were asked for, numbered from zero without gaps.

## Main definitions

* `Decoder.Keeps`: what every pass of a decoder keeps
* `Printer.shown`: the records that are printed of those that are delivered
* `Printer.Prints`: what was printed is what was delivered, in order and numbered

## Main results

* `Decoder.Keeps.run`: what every pass keeps, every run of a session keeps
* `Decoder.keeps_fixed`, `Decoder.keeps_batch`: what the decoders of records and of batches keep
* `Printer.keeps_prints`: every run of a session prints what is delivered
-/

namespace SensorClient

/-! ## What decoding keeps -/

namespace Decoder

variable {σ : Type} {P : σ → Prop}

/-- Every pass of the decoder keeps a property of what it has made of the samples. -/
def Keeps (decoder : Decoder σ) (P : σ → Prop) : Prop :=
  ∀ state r, P state → P ((decoder.pass state).run r).1.2

theorem Keeps.drain {decoder : Decoder σ} (keeps : decoder.Keeps P) {state : σ} (holds : P state)
    (r : Reader) : P (decoder.drain state r).2.1 :=
  drain_induction (P := fun state _ => P state) keeps holds

theorem Keeps.step {s : Session σ} (keeps : s.decoder.Keeps P) (holds : P s.sink) (e : Event) :
    P (s.step e).sink := by
  cases e with
  | op op =>
    cases op with
    | dataReceived => exact keeps.drain holds s.reader
    | processEvents limit =>
      change P (s.processEvents limit).2.sink
      by_cases decodes : s.Decodes limit
      · obtain ⟨subscribed, pending⟩ := (s.decodes_iff limit).mp decodes
        rw [Session.processEvents_of_pending subscribed pending]
        exact keeps.drain holds s.reader
      · rw [(Session.leavesDecoder_of_not_decodes decodes).1]
        exact holds
    | read buffer => exact holds
    | _ =>
      change P (s.perform _).2.sink
      rw [((s.perform_effect _).samples rfl).1]
      exact holds
  | _ => exact holds

/-- What every pass keeps, every run of a session keeps. -/
theorem Keeps.run {s : Session σ} (keeps : s.decoder.Keeps P) (holds : P s.sink)
    (events : List Event) : P (s.run events).sink := by
  refine (Session.run_induction (A := fun _ => True)
    (P := fun t => t.decoder.Keeps P ∧ P t.sink) ?_ (fun _ _ => trivial) ⟨keeps, holds⟩).2
  rintro t e - ⟨keeps, holds⟩
  exact ⟨(t.decoder_step e).symm ▸ keeps, keeps.step holds e⟩

/-- What the sink keeps for every record of the right size, the decoder of single records keeps. -/
theorem keeps_fixed (interface : String) {size : Nat} {sink : σ → Bytes → σ}
    (kept : ∀ state record, record.length = size → P state → P (sink state record)) :
    (fixed interface size sink).Keeps P := by
  intro state r holds
  rw [fixed, Pass.run]
  dsimp only
  cases read : (r.readBytes size).1 with
  | none => exact holds
  | some record => exact kept state record (Reader.length_readBytes read) holds

/-- What the sink keeps for every batch, the decoder of batches keeps: it hands on nothing else. -/
theorem keeps_batch (interface : String) {size : Nat} {sink : σ → List Bytes → σ}
    (kept : ∀ state records, IsBatch size records → P state → P (sink state records)) :
    (batch interface size sink).Keeps P := by
  intro state r holds
  rw [batch, Pass.run]
  dsimp only
  cases (r.readBytes 4).1 with
  | none => exact holds
  | some header =>
    dsimp only
    split
    · exact holds
    · next few =>
      rcases run_takeBatch_fst (Nat.not_lt.mp few) sink state (r.readBytes 4).2 with
        failed | ⟨records, batch, handedOn⟩
      · rw [failed]
        exact holds
      · rw [handedOn]
        exact kept state records batch holds

end Decoder

/-! ## Printing -/

namespace Printer

variable {p : Printer} {out : Printout}

/-- The records that are printed of those that are delivered. -/
def shown (p : Printer) (records : List Bytes) : List Bytes :=
  match p.limit with
  | none => records
  | some limit => records.take limit

/-- The records shown are the first, as many as were asked for. -/
theorem shown_eq_take (p : Printer) (records : List Bytes) :
    p.shown records = records.take (p.limit.getD records.length) := by
  unfold shown
  cases p.limit with
  | none => exact List.take_length.symm
  | some limit => rfl

/-- The records delivered have the size that the layout calls for, and the lines printed are those
of the first of them, as many as were asked for, numbered from zero. -/
structure Prints (p : Printer) (out : Printout) : Prop where
  whole : ∀ record ∈ out.delivered, record.length = p.layout.size
  lines : out.lines.map some = (p.shown out.delivered).mapIdx p.line?

theorem prints_empty (p : Printer) : p.Prints .empty where
  whole := List.forall_mem_nil _
  lines := by
    unfold shown
    split <;> simp [Printout.empty]

/-- A record of the right size is printed. -/
theorem line?_isSome {record : Bytes} (whole : record.length = p.layout.size) (sequence : Nat) :
    (p.line? sequence record).isSome = true := by
  unfold line?
  unfold Layout.size at whole
  split
  · next layout =>
    rw [layout] at whole
    simp [XyzSample.decode?, whole]
  · rfl

theorem Prints.count (prints : p.Prints out) : out.count = (p.shown out.delivered).length := by
  have lengths := congrArg List.length prints.lines
  rwa [List.length_map, List.length_mapIdx] at lengths

/-- As long as not enough records are printed, all are. -/
theorem Prints.fewer (prints : p.Prints out) (unmet : p.isMet out = false) {limit : Nat}
    (limited : p.limit = some limit) : out.delivered.length < limit := by
  have count := prints.count
  simp only [shown, limited, List.length_take] at count
  simp only [isMet, limited, Option.any_some, decide_eq_false_iff_not] at unmet
  omega

/-- The records shown after one more are the same if enough are printed, and all of them if not. -/
theorem Prints.shown_concat (prints : p.Prints out) (record : Bytes) :
    p.shown (out.delivered ++ [record]) =
      if p.isMet out then p.shown out.delivered else p.shown out.delivered ++ [record] := by
  cases limited : p.limit with
  | none => simp [shown, isMet, limited]
  | some limit =>
    split
    · next met =>
      have count := prints.count
      simp only [shown, limited, List.length_take] at count ⊢
      simp only [isMet, limited, Option.any_some, decide_eq_true_eq] at met
      exact List.take_append_of_le_length (by omega)
    · next unmet =>
      have few := prints.fewer (by simpa using unmet) limited
      simp only [shown, limited]
      rw [List.take_of_length_le, List.take_of_length_le (Nat.le_of_lt few)]
      rw [List.length_append, List.length_singleton]
      exact few

/-- One more record of the right size is printed with the next number, unless enough are. -/
theorem Prints.emit (prints : p.Prints out) {record : Bytes}
    (whole : record.length = p.layout.size) : p.Prints (p.emit out record) where
  whole := by
    rw [Printer.emit, List.forall_mem_append]
    exact ⟨prints.whole, by simpa using whole⟩
  lines := by
    dsimp only [Printer.emit]
    rw [prints.shown_concat]
    split
    · exact prints.lines
    · obtain ⟨line, printed⟩ := Option.isSome_iff_exists.mp (line?_isSome whole out.count)
      rw [List.mapIdx_concat, ← prints.count, ← prints.lines, printed, List.map_append]
      rfl

theorem Prints.foldl {records : List Bytes} (prints : p.Prints out)
    (whole : ∀ record ∈ records, record.length = p.layout.size) :
    p.Prints (records.foldl p.emit out) := by
  induction records generalizing out with
  | nil => exact prints
  | cons record records ih =>
    rw [List.forall_mem_cons] at whole
    exact ih (prints.emit whole.1) whole.2

theorem delivered_foldl (p : Printer) (out : Printout) (records : List Bytes) :
    (records.foldl p.emit out).delivered = out.delivered ++ records := by
  induction records generalizing out with
  | nil => exact (List.append_nil _).symm
  | cons record records ih =>
    rw [List.foldl_cons, ih, Printer.emit, List.append_assoc]
    rfl

/-- Enough of the records delivered are printed if there are enough. -/
theorem Prints.isMet (prints : p.Prints out) :
    p.isMet out = p.limit.any fun limit => limit ≤ out.delivered.length := by
  rw [Printer.isMet, prints.count]
  cases limited : p.limit with
  | none => rfl
  | some limit =>
    simp only [shown, limited, Option.any_some, List.length_take, Nat.le_min, Nat.le_refl, true_and]

/-- The decoder of a printer hands it records of the right size only, alone or in batches. -/
theorem keeps_prints (p : Printer) (interface : String) (batch : Bool) :
    (p.decoder interface batch).Keeps p.Prints := by
  cases batch with
  | false =>
    exact Decoder.keeps_fixed interface fun out record whole prints => prints.emit whole
  | true =>
    exact Decoder.keeps_batch interface fun out records batch prints => prints.foldl batch.whole

end Printer

end SensorClient
