import Mathlib.Data.List.Forall2
import SensorClient.Proofs.Session.Conservation

/-!
# When framing survives partial arrivals

A dispatch that finds a record of which only a part has arrived takes that part and loses it. So no
byte is lost exactly as long as every dispatch finds whole records. What was kept may still be what
was sent up to there, as long as no further record is kept after the loss; if one is, there are
bytes that could have been sent under which it is put together from pieces of two records.

## Main definitions

* `Framed`: no string with a whole record in it comes after one with a torn record
* `Event.Alike`: the same event, or the arrival of as many other bytes

## Main results

* `Session.Alike.run`: what the dispatches of a run find is as long whatever the bytes are
* `Recording.exists_misplaced`: after a torn record a whole one is misplaced under some bytes
* `Opened.framing_iff`: when no byte is lost, and when no record is put together from pieces
-/

namespace SensorClient

/-! ## Torn strings -/

/-- After a string that does not come out even there is none with a whole record in it. -/
def Framed (size : Nat) (strings : List Bytes) : Prop :=
  strings.Pairwise fun found later => size ∣ found.length ∨ later.length < size

namespace Framed

variable {size : Nat} {strings before after : List Bytes} {torn : Bytes}

theorem of_whole (whole : ∀ bytes ∈ strings, size ∣ bytes.length) : Framed size strings :=
  List.pairwise_of_forall_mem_list fun bytes mem _ _ => .inl (whole bytes mem)

/-- Whether strings are framed is a matter of their lengths. -/
theorem iff_lengths : Framed size strings ↔
    (strings.map List.length).Pairwise fun found later => size ∣ found ∨ later < size := by
  rw [List.pairwise_map, Framed]

/-- Either all strings come out even or there is a first one that does not. -/
theorem whole_or_torn (size : Nat) (strings : List Bytes) :
    (∀ bytes ∈ strings, size ∣ bytes.length) ∨
      ∃ before torn after, strings = before ++ torn :: after ∧
        (∀ bytes ∈ before, size ∣ bytes.length) ∧ ¬ size ∣ torn.length := by
  cases first : strings.find? fun bytes => decide (¬ size ∣ bytes.length) with
  | none =>
    rw [List.find?_eq_none] at first
    exact .inl fun bytes mem => by simpa using first bytes mem
  | some torn =>
    obtain ⟨odd, before, after, split, even⟩ := List.find?_eq_some_iff_append.mp first
    exact .inr ⟨before, torn, after, split, fun bytes mem => by simpa using even bytes mem,
      of_decide_eq_true odd⟩

/-- Where the first torn string is followed by others, those are too short for a record. -/
theorem iff_of_torn (whole : ∀ bytes ∈ before, size ∣ bytes.length)
    (odd : ¬ size ∣ torn.length) :
    Framed size (before ++ torn :: after) ↔ ∀ later ∈ after, later.length < size := by
  constructor
  · intro framed later mem
    have ordered := (List.pairwise_cons.mp (List.pairwise_append.mp framed).2.1).1 later mem
    exact ordered.resolve_left odd
  · intro short
    refine List.pairwise_append.mpr
      ⟨of_whole whole, ?_, fun bytes mem _ _ => .inl (whole bytes mem)⟩
    exact List.pairwise_cons.mpr ⟨fun later mem => .inr (short later mem),
      List.pairwise_of_forall_mem_list fun _ _ later mem => .inr (short later mem)⟩

/-- The whole records of framed strings are what the strings begin with. -/
theorem prefix_flatten (framed : Framed size strings) :
    (strings.flatMap (wholeRecords size)).flatten <+: strings.flatten := by
  rcases whole_or_torn size strings with whole | ⟨before, torn, after, rfl, whole, odd⟩
  · have even := (flatten_flatMap_wholeRecords_eq_iff size strings).mpr whole
    exact even ▸ List.prefix_refl _
  -- After the torn string no record is taken, so what is taken ends within that string.
  · have nothing : after.flatMap (wholeRecords size) = [] :=
      List.flatMap_eq_nil_iff.mpr fun later mem =>
        wholeRecords_of_lt ((iff_of_torn whole odd).mp framed later mem)
    rw [List.flatMap_append, List.flatMap_cons, nothing, List.append_nil, List.flatten_append,
      List.flatten_append, (flatten_flatMap_wholeRecords_eq_iff size before).mpr whole,
      List.flatten_cons, List.prefix_append_right_inj, flatten_wholeRecords]
    exact (List.take_prefix _ torn).trans (List.prefix_append torn _)

end Framed

theorem mem_of_mem_wholeRecords {size : Nat} {strings : List Bytes} {b : UInt8}
    (mem : b ∈ (strings.flatMap (wholeRecords size)).flatten) : b ∈ strings.flatten := by
  induction strings with
  | nil => exact mem
  | cons bytes strings ih =>
    rw [List.flatMap_cons, List.flatten_append, flatten_wholeRecords] at mem
    rw [List.flatten_cons, List.mem_append]
    rcases List.mem_append.mp mem with mem | mem
    · exact .inl (List.mem_of_mem_take mem)
    · exact .inr (ih mem)

/-- A record that is taken after a torn string has the wrong first byte, if none of the bytes after
the torn string is the first one that was lost. -/
theorem not_prefix_of_torn {size : Nat} {before after : List Bytes} {torn later rest : Bytes}
    (positive : 0 < size) (whole : ∀ bytes ∈ before, size ∣ bytes.length)
    (odd : ¬ size ∣ torn.length) (mem : later ∈ after) (enough : size ≤ later.length)
    (other : ∀ b ∈ after.flatten, torn[size * (torn.length / size)]? ≠ some b) :
    ¬ ((before ++ torn :: after).flatMap (wholeRecords size)).flatten <+:
      (before ++ torn :: after).flatten ++ rest := by
  intro pre
  have lost : size * (torn.length / size) < torn.length :=
    Nat.lt_of_le_of_ne (Nat.mul_div_le _ _) fun even => odd ⟨_, even.symm⟩
  cases taken : (after.flatMap (wholeRecords size)).flatten with
  | nil =>
    have first : later.take size ∈ after.flatMap (wholeRecords size) := by
      rw [List.mem_flatMap]
      exact ⟨later, mem, by rw [wholeRecords_of_le positive enough]; exact List.mem_cons_self⟩
    have none := congrArg List.length (List.flatten_eq_nil_iff.mp taken _ first)
    rw [List.length_take, List.length_nil] at none
    omega
  | cons b kept =>
    have mem : b ∈ after.flatten := mem_of_mem_wholeRecords (taken ▸ List.mem_cons_self)
    rw [List.flatMap_append, List.flatten_append, List.flatten_append,
      (flatten_flatMap_wholeRecords_eq_iff size before).mpr whole, List.append_assoc,
      List.prefix_append_right_inj, List.flatMap_cons, List.flatten_append, flatten_wholeRecords,
      taken, List.flatten_cons, List.append_assoc] at pre
    obtain ⟨tail, same⟩ := pre
    have next := congrArg (fun bytes : Bytes => bytes[size * (torn.length / size)]?) same
    refine other b mem ?_
    simpa [List.getElem?_append, lost, Nat.le_of_lt lost] using next.symm

/-! ## Other bytes -/

/-- The same event, or the arrival of as many other bytes. -/
inductive Event.Alike : Event → Event → Prop
  | refl (e : Event) : Alike e e
  | feed {bytes other : Bytes} (same : other.length = bytes.length) :
      Alike (.feed bytes) (.feed other)

/-- The same event, with arriving bytes replaced by as many copies of one. -/
def Event.filled (b : UInt8) : Event → Event
  | .feed bytes => .feed (List.replicate bytes.length b)
  | e => e

theorem Event.alike_filled (b : UInt8) (e : Event) : e.Alike (e.filled b) := by
  cases e with
  | feed bytes => exact .feed List.length_replicate
  | _ => exact .refl _

theorem Event.Alike.viaDecoder {e other : Event} (alike : e.Alike other) :
    other.viaDecoder = e.viaDecoder := by
  cases alike <;> rfl

theorem viaDecoder_of_alike {events others : List Event}
    (via : ∀ e ∈ events, e.viaDecoder = true) (alike : List.Forall₂ Event.Alike events others) :
    ∀ e ∈ others, e.viaDecoder = true := by
  induction alike with
  | nil => exact via
  | cons first _ ih =>
    rw [List.forall_mem_cons] at via ⊢
    exact ⟨first.viaDecoder.trans via.1, ih via.2⟩

/-- Whether bytes are taken is a matter of the connection and of their number. -/
theorem Link.feed_fst_of_bare {link link' : Link} {bytes other : Bytes}
    (bare : link'.bare = link.bare) (same : other.length = bytes.length) :
    (link'.feed other).1 = (link.feed bytes).1 := by
  have daemon := congrArg Link.daemonOpen bare
  have sending := congrArg Link.sending bare
  have gone := congrArg Link.clientGone bare
  have empty : other.isEmpty = bytes.isEmpty := by
    cases other <;> cases bytes <;> first | rfl | cases same
  change link'.daemonOpen = link.daemonOpen at daemon
  change link'.sending = link.sending at sending
  change link'.clientGone = link.clientGone at gone
  unfold feed
  rw [daemon, sending, gone, empty]
  repeat' split
  all_goals rfl

theorem Reader.bare_onLink (r : Reader) {act : Link → Link}
    (same : ∀ link, (act link).bare = act link.bare) : (r.onLink act).bare = r.bare.onLink act := by
  cases held : r.link <;> simp [bare, onLink, held, same]

namespace Session

variable {s t : Session (List Bytes)} {size : Nat} {e other : Event} {events others : List Event}

/-- Two sessions that differ at most in the bytes they have got, and not in their number. -/
structure Alike (s t : Session (List Bytes)) : Prop where
  running : t.running = s.running
  reader : t.reader.bare = s.reader.bare
  pending : t.pending.length = s.pending.length

theorem Alike.refl (s : Session (List Bytes)) : s.Alike s := ⟨rfl, rfl, rfl⟩

theorem Recording.bytesAvailable (recording : s.Recording size) :
    s.bytesAvailable = s.pending.length := by
  obtain ⟨link, held, sound⟩ := recording.sound
  rw [Session.bytesAvailable, Reader.bytesAvailable_of_sound link held sound, pending,
    Reader.pending, held]
  rfl

theorem Alike.subscribed (alike : s.Alike t) : t.reader.subscribed = s.reader.subscribed := by
  rw [← Reader.subscribed_bare, alike.reader, Reader.subscribed_bare]

theorem Alike.onLink (alike : s.Alike t) (act : Link → Link)
    (same : ∀ link, (act link).bare = act link.bare) :
    (t.reader.onLink act).bare = (s.reader.onLink act).bare := by
  rw [Reader.bare_onLink _ same, Reader.bare_onLink _ same, alike.reader]

theorem Alike.arriving_feed (alike : s.Alike t) {bytes other : Bytes}
    (same : other.length = bytes.length) :
    (t.arriving (.feed other)).length = (s.arriving (.feed bytes)).length := by
  have links : t.reader.link.map Link.bare = s.reader.link.map Link.bare :=
    congrArg Reader.link alike.reader
  have taken : (t.reader.link.any fun link => (link.feed other).1) =
      s.reader.link.any fun link => (link.feed bytes).1 := by
    rcases here : s.reader.link with _ | link <;> rcases there : t.reader.link with _ | link'
    · rfl
    · simp [here, there] at links
    · simp [here, there] at links
    · rw [here, there] at links
      exact Link.feed_fst_of_bare (Option.some.inj links) same
  rw [arriving, arriving, taken]
  split
  · exact same
  · rfl

/-- As many bytes arrive. -/
theorem Alike.arriving (alike : s.Alike t) (events : e.Alike other) :
    (t.arriving other).length = (s.arriving e).length := by
  cases events with
  | refl e =>
    cases e with
    | feed bytes => exact alike.arriving_feed rfl
    | _ => rfl
  | feed same => exact alike.arriving_feed same

/-- What a dispatch finds is as long. -/
theorem Alike.found? (alike : s.Alike t) (here : s.Recording size) (there : t.Recording size)
    (events : e.Alike other) :
    (t.found? other).map List.length = (s.found? e).map List.length := by
  cases events with
  | feed => rfl
  | refl e =>
    cases e with
    | op op =>
      cases op with
      | dataReceived => exact congrArg some alike.pending
      | processEvents limit =>
        rw [Session.found?, Session.found?, alike.subscribed, here.bytesAvailable,
          there.bytesAvailable, alike.pending]
        split
        · exact congrArg some alike.pending
        · rfl
      | _ => rfl
    | _ => rfl

theorem Alike.step (alike : s.Alike t) (here : s.Recording size) (there : t.Recording size)
    (positive : 1 ≤ size) (bounded : size < Reader.readLimit) (via : e.viaDecoder = true)
    (events : e.Alike other) : (s.step e).Alike (t.step other) where
  running := by
    rw [running_step, running_step, alike.running]
    cases events <;> rfl
  reader := by
    cases events with
    | refl e =>
      cases e with
      | op op =>
        refine (t.perform_effect op).reader.trans (Eq.trans ?_ (s.perform_effect op).reader.symm)
        rw [(t.perform_effect op).running, (s.perform_effect op).running, alike.running,
          alike.reader, alike.subscribed]
      | feed bytes =>
        exact (t.reader.bare_feed bytes).trans (alike.reader.trans (s.reader.bare_feed bytes).symm)
      | shutdown => exact alike.onLink Link.shutdown fun _ => rfl
      | hangUp => exact alike.onLink Link.hangUp fun _ => rfl
      | breakDescriptor => contradiction
    | feed same =>
      exact (t.reader.bare_feed _).trans (alike.reader.trans (s.reader.bare_feed _).symm)
  pending := by
    -- What is pending afterwards is what was pending and arrives but for what is found.
    have bytes := congrArg List.length (here.law_step positive bounded via).2
    have others := congrArg List.length
      (there.law_step positive bounded (events.viaDecoder.trans via)).2
    have found := alike.found? here there events
    have arriving := alike.arriving events
    have pending := alike.pending
    have taken : (t.found? other).toList.flatten.length = (s.found? e).toList.flatten.length := by
      rw [List.length_flatten, List.length_flatten, ← Option.toList_map, ← Option.toList_map, found]
    rw [List.length_append, List.length_append] at bytes others
    omega

theorem Alike.run (alike : s.Alike t) (here : s.Recording size) (there : t.Recording size)
    (positive : 1 ≤ size) (bounded : size < Reader.readLimit)
    (via : ∀ e ∈ events, e.viaDecoder = true) (same : List.Forall₂ Event.Alike events others) :
    (t.found others).map List.length = (s.found events).map List.length := by
  induction same generalizing s t with
  | nil => rfl
  | cons first rest ih =>
    rw [List.forall_mem_cons] at via
    have later := ih (alike.step here there positive bounded via.1 first) (here.step via.1)
      (there.step (first.viaDecoder.trans via.1)) via.2
    rw [found, found, List.map_append, List.map_append, later, ← Option.toList_map,
      ← Option.toList_map, alike.found? here there first]

/-! ## A run up to a dispatch -/

theorem found_append (s : Session (List Bytes)) (before after : List Event) :
    s.found (before ++ after) = s.found before ++ (s.run before).found after := by
  induction before generalizing s with
  | nil => rfl
  | cons e before ih =>
    rw [List.cons_append, found, ih (s.step e), found, List.append_assoc]
    rfl

/-- What a dispatch found was found by an event of the run, and what was found before and after it
by the events before and after. -/
theorem exists_dispatch {earlier later : List Bytes} {bytes : Bytes}
    (split : s.found events = earlier ++ bytes :: later) :
    ∃ before e after, events = before ++ e :: after ∧ s.found before = earlier ∧
      (s.run before).found? e = some bytes ∧ ((s.run before).step e).found after = later := by
  induction events generalizing s earlier with
  | nil => simp [found] at split
  | cons e events ih =>
    -- The first event is the dispatch in question, or it comes before that.
    cases here : s.found? e with
    | none =>
      rw [found, here] at split
      obtain ⟨before, e', after, rfl, first, at', rest⟩ := ih split
      exact ⟨e :: before, e', after, rfl, by rw [found, here]; exact first, at', rest⟩
    | some now =>
      rw [found, here, Option.toList_some, List.singleton_append] at split
      cases earlier with
      | nil =>
        obtain ⟨rfl, rest⟩ := List.cons.inj split
        exact ⟨[], e, events, rfl, rfl, here, rest⟩
      | cons first earlier =>
        obtain ⟨rfl, tail⟩ := List.cons.inj split
        obtain ⟨before, e', after, rfl, first', at', rest⟩ := ih tail
        exact ⟨e :: before, e', after, rfl, by rw [found, here, first']; rfl, at', rest⟩

/-- Only copies of a byte arrive where all that arrives is copies of it. -/
theorem eq_of_mem_arrivals_filled {b c : UInt8}
    (mem : c ∈ s.arrivals (events.map (Event.filled b))) : c = b := by
  induction events generalizing s with
  | nil => cases mem
  | cons e events ih =>
    rcases List.mem_append.mp mem with mem | mem
    · cases e with
      | feed bytes =>
        rw [Event.filled, arriving] at mem
        split at mem
        · exact List.eq_of_mem_replicate mem
        · cases mem
      | _ => cases mem
    · exact ih mem

/-- With nothing pending before it, a run in which only copies of a byte arrive finds only those. -/
theorem Recording.eq_of_mem_found_filled {b c : UInt8} (recording : s.Recording size)
    (positive : 1 ≤ size) (bounded : size < Reader.readLimit) (nothing : s.pending = [])
    (via : ∀ e ∈ events.map (Event.filled b), e.viaDecoder = true)
    (mem : c ∈ (s.found (events.map (Event.filled b))).flatten) : c = b := by
  have bytes := (recording.law_run positive bounded via).2
  rw [nothing, List.nil_append] at bytes
  exact eq_of_mem_arrivals_filled (bytes ▸ List.mem_append_left _ mem)

/-- After any dispatch of a run the bytes that arrive could all have been the same one, and the
dispatches would have found as many of them. -/
theorem Recording.exists_filled {earlier later : List Bytes} {bytes : Bytes}
    (recording : s.Recording size) (positive : 1 ≤ size) (bounded : size < Reader.readLimit)
    (via : ∀ e ∈ events, e.viaDecoder = true) (split : s.found events = earlier ++ bytes :: later)
    (b : UInt8) :
    ∃ others later', List.Forall₂ Event.Alike events others ∧
      s.found others = earlier ++ bytes :: later' ∧
      later'.map List.length = later.map List.length ∧ ∀ c ∈ later'.flatten, c = b := by
  obtain ⟨before, e, after, rfl, first, here, rest⟩ := exists_dispatch split
  rw [List.forall_mem_append, List.forall_mem_cons] at via
  obtain ⟨viaBefore, viaHere, viaAfter⟩ := via
  have there := (recording.run viaBefore).step viaHere
  have nothing : ((s.run before).step e).pending = [] := by
    rw [(step_of_found?_some here).2.2]
    exact ((recording.run viaBefore).dataReceived positive bounded).2
  have fills : List.Forall₂ Event.Alike after (after.map (Event.filled b)) :=
    List.forall₂_map_right_iff.mpr (List.forall₂_same.mpr fun e _ => e.alike_filled b)
  refine ⟨before ++ e :: after.map (Event.filled b),
    ((s.run before).step e).found (after.map (Event.filled b)), ?_, ?_, ?_, ?_⟩
  · exact List.rel_append (List.forall₂_same.mpr fun e _ => .refl e) (.cons (.refl e) fills)
  · rw [found_append, first, found, here]
    rfl
  · rw [← rest]
    exact (Alike.refl _).run there there positive bounded viaAfter fills
  · intro c mem
    exact there.eq_of_mem_found_filled positive bounded nothing
      (viaDecoder_of_alike viaAfter fills) mem

theorem ne_add_one (b : UInt8) : b ≠ b + 1 := by
  intro same
  have values := congrArg UInt8.toNat same
  rw [UInt8.toNat_add, show (1 : UInt8).toNat = 1 from rfl] at values
  have small := b.toNat_lt
  omega

/-- If a whole record is found after a torn one, there are bytes under which what is kept is not
what was sent. -/
theorem Recording.exists_misplaced (recording : s.Recording size) (positive : 1 ≤ size)
    (bounded : size < Reader.readLimit) (empty : s.sink = [])
    (via : ∀ e ∈ events, e.viaDecoder = true) (unframed : ¬ Framed size (s.found events)) :
    ∃ others, List.Forall₂ Event.Alike events others ∧
      ¬ (s.run others).sink.flatten <+: s.pending ++ s.arrivals others := by
  rcases Framed.whole_or_torn size (s.found events) with
    whole | ⟨earlier, torn, later, split, whole, odd⟩
  · exact absurd (.of_whole whole) unframed
  rw [split, Framed.iff_of_torn whole odd] at unframed
  obtain ⟨long, mem, enough⟩ : ∃ long ∈ later, size ≤ long.length := by simpa using unframed
  have lost : size * (torn.length / size) < torn.length :=
    Nat.lt_of_le_of_ne (Nat.mul_div_le _ _) fun even => odd ⟨_, even.symm⟩
  -- Whatever arrives after the torn record is a byte that is not the first one lost, so the next
  -- record that is kept begins with the wrong byte.
  obtain ⟨others, later', alike, found, lengths, filled⟩ :=
    recording.exists_filled positive bounded via split (torn[size * (torn.length / size)] + 1)
  obtain ⟨long', mem', same⟩ := List.mem_map.mp (lengths ▸ List.mem_map_of_mem mem)
  refine ⟨others, alike, ?_⟩
  obtain ⟨sink, bytes⟩ := recording.law_run positive bounded (viaDecoder_of_alike via alike)
  rw [sink, bytes, empty, List.nil_append, found]
  refine not_prefix_of_torn positive whole odd mem' (same ▸ enough) fun c mem => ?_
  rw [filled c mem, List.getElem?_eq_getElem lost]
  exact fun same => ne_add_one _ (Option.some.inj same)

end Session

namespace Opened

variable {link : Link} {s : Session (List Bytes)} {interface : String} {size : Nat}
  {events : List Event}

/-- No byte is lost in a run exactly if every dispatch finds whole records. What is kept is what
was sent up to there, whatever the bytes are, exactly if no dispatch that finds a whole record comes
after one that finds a torn one. Records that no memory can hold are never taken. -/
theorem framing_iff (opened : Opened (some link) s) (connected : s.isConnected = true)
    (decoder : s.decoder = .recording interface size) (empty : s.sink = []) (positive : 1 ≤ size)
    (via : ∀ e ∈ events, e.viaDecoder = true) :
    ((s.run events).sink.flatten ++ (s.run events).pending =
        link.inbound.drop 1 ++ s.arrivals events ↔
      Reader.readLimit ≤ size ∨ ∀ found ∈ s.found events, size ∣ found.length) ∧
    ((∀ others, List.Forall₂ Event.Alike events others →
        (s.run others).sink.flatten <+: link.inbound.drop 1 ++ s.arrivals others) ↔
      Reader.readLimit ≤ size ∨ Framed size (s.found events)) := by
  have recording := opened.recording connected decoder
  rw [← opened.pending connected]
  rcases Nat.lt_or_ge size Reader.readLimit with bounded | oversized
  · have small := Nat.not_le.mpr bounded
    obtain ⟨sink, bytes⟩ := recording.law_run positive bounded via
    rw [empty, List.nil_append] at sink
    refine ⟨?_, ?_, ?_⟩
    · rw [sink, bytes, List.append_cancel_right_eq, flatten_flatMap_wholeRecords_eq_iff]
      exact (or_iff_right small).symm
    · intro kept
      by_contra torn
      obtain ⟨others, alike, misplaced⟩ := recording.exists_misplaced positive bounded empty via
        fun framed => torn (.inr framed)
      exact misplaced (kept others alike)
    · intro framed others alike
      obtain ⟨sink, bytes⟩ := recording.law_run positive bounded
        (viaDecoder_of_alike via alike)
      rw [sink, bytes, empty, List.nil_append]
      have lengths := (Session.Alike.refl s).run recording recording positive bounded via alike
      have framed : Framed size (s.found others) :=
        Framed.iff_lengths.mpr (lengths ▸ Framed.iff_lengths.mp (framed.resolve_left small))
      exact framed.prefix_flatten.trans (List.prefix_append _ _)
  · refine ⟨iff_of_true ?_ (.inl oversized), iff_of_true ?_ (.inl oversized)⟩
    · obtain ⟨sink, pending⟩ := recording.law_run_oversized oversized via
      rw [sink, pending, empty, List.flatten_nil, List.nil_append]
    · intro others alike
      obtain ⟨sink, -⟩ := recording.law_run_oversized oversized
        (viaDecoder_of_alike via alike)
      rw [sink, empty]
      exact List.nil_prefix

/-- A cut inside a record does no harm if both of its pieces arrive before the dispatch. -/
theorem framing_kept_together :
    ((Session.acknowledged 4).run [.op .start, .feed [1, 2], .feed [3, 4, 5, 6, 7, 8],
        .op (.processEvents none)]).sink.flatten ++
      ((Session.acknowledged 4).run [.op .start, .feed [1, 2], .feed [3, 4, 5, 6, 7, 8],
        .op (.processEvents none)]).pending =
      [] ++ (Session.acknowledged 4).arrivals [.op .start, .feed [1, 2],
        .feed [3, 4, 5, 6, 7, 8], .op (.processEvents none)] :=
  ((opened_acknowledged 4).framing_iff rfl rfl rfl (by decide) (by decide)).1.mpr
    (.inr (by decide))

/-- Of two records that arrive as the first half of one and then the rest, a record is kept that is
put together from the second half of one and the first half of the other. -/
theorem torn_records_delivered :
    ((Session.acknowledged 4).run [.op .start, .feed [1, 2], .op (.processEvents none),
        .feed [3, 4, 5, 6, 7, 8], .op (.processEvents none)]).sink = [[3, 4, 5, 6]] ∧
      ¬ ((Session.acknowledged 4).run [.op .start, .feed [1, 2], .op (.processEvents none),
          .feed [3, 4, 5, 6, 7, 8], .op (.processEvents none)]).sink.flatten <+:
        (Session.acknowledged 4).arrivals [.op .start, .feed [1, 2], .op (.processEvents none),
          .feed [3, 4, 5, 6, 7, 8], .op (.processEvents none)] := by
  have kept : ((Session.acknowledged 4).run [.op .start, .feed [1, 2], .op (.processEvents none),
      .feed [3, 4, 5, 6, 7, 8], .op (.processEvents none)]).sink = [[3, 4, 5, 6]] := by decide +kernel
  have sent : (Session.acknowledged 4).arrivals [.op .start, .feed [1, 2],
      .op (.processEvents none), .feed [3, 4, 5, 6, 7, 8], .op (.processEvents none)] =
        [1, 2, 3, 4, 5, 6, 7, 8] := by decide +kernel
  rw [kept, sent]
  decide

end Opened

end SensorClient
