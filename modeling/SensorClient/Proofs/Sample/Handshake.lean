import Mathlib.Algebra.GroupWithZero.Nat
import Mathlib.Data.List.SplitLengths
import SensorClient.Proofs.Session.Opening

/-!
# When a session is opened

A handshake limits the waits, writes the number of the session, reads one byte and sets the limit
that later reads have. Each step can fail, and what the connection has been through by then is all
that the daemon gets to see. A reader takes the connection over only when every step has worked.

## Main definitions

* `Link.Writes`, `Link.Welcomes`: when a handshake writes, and when it works
* `Link.Handshaken`: how a handshake ends, and the connection it leaves
* `Reader.readEach`: one read after another

## Main results

* `Link.handshaken`: every handshake ends at one of its steps
* `Reader.readEach_of_le`: reads take the bytes that are there in order
* `Reader.opens_exactly_if_welcome`: when a session is opened, what the daemon gets and what the
  client takes
-/

namespace SensorClient

namespace Link

variable {config : SocketConfig} {id : Int32} {link : Link}

/-! ## The steps of a handshake -/

/-- The connection while its waits are limited for a handshake, after so much was written. -/
def asked (link : Link) (config : SocketConfig) (written : Bytes) : Link :=
  { link with
    outbound := link.outbound ++ written
    readTimeout := some config.handshakeTimeout, writeTimeout := some config.handshakeTimeout }

/-- Whether a handshake gets so far as to write the number of the session. -/
def Writes (link : Link) (config : SocketConfig) (id : Int32) : Prop :=
  config.handshakeTimeout ≠ ⟨0⟩ ∧ (link.write (Bytes.ofInt32 id)).1.isOk = true

/-- Whether every step of a handshake works. -/
structure Welcomes (link : Link) (config : SocketConfig) (id : Int32) : Prop where
  limited : config.handshakeTimeout ≠ ⟨0⟩
  writable : (link.write (Bytes.ofInt32 id)).1.isOk = true
  answered : link.inbound ≠ []
  patient : config.readTimeout ≠ some ⟨0⟩

theorem isOk_write (link : Link) (bytes : Bytes) :
    (link.write bytes).1.isOk = (!link.broken && link.daemonOpen) := by
  unfold write
  cases broken : link.broken <;> cases there : link.daemonOpen <;> rfl

/-- How a handshake ends, and the connection it leaves. -/
inductive Handshaken (config : SocketConfig) (id : Int32) (link : Link) :
    Except SocketError Unit → Link → Prop where
  /-- A wait cannot be limited to no time at all. -/
  | unlimited (zero : config.handshakeTimeout = ⟨0⟩) :
    Handshaken config id link (.error (.io .zeroTimeout)) link
  | invalid (limited : config.handshakeTimeout ≠ ⟨0⟩) (broken : link.broken = true) :
    Handshaken config id link (.error (.io .badDescriptor)) link
  | unwritten (limited : config.handshakeTimeout ≠ ⟨0⟩) (sound : link.broken = false)
      (gone : link.daemonOpen = false) :
    Handshaken config id link (.error (.handshake id (.writing .brokenPipe)))
      (link.asked config [])
  /-- The stream or the wait ends before a byte comes. -/
  | unanswered (writes : link.Writes config id) (silent : link.inbound = []) (fault : ReadFault) :
    Handshaken config id link (.error (.handshake id (.acknowledgement fault)))
      { link.asked config (Bytes.ofInt32 id) with inbound := [] }
  | impatient (writes : link.Writes config id) (answered : link.inbound ≠ [])
      (zero : config.readTimeout = some ⟨0⟩) :
    Handshaken config id link (.error (.io .zeroTimeout))
      { link.asked config (Bytes.ofInt32 id) with inbound := link.inbound.drop 1 }
  | opened (welcomes : link.Welcomes config id) :
    Handshaken config id link (.ok ())
      { link.asked config (Bytes.ofInt32 id) with
        inbound := link.inbound.drop 1
        readTimeout := config.readTimeout, writeTimeout := none }

theorem setReadTimeout_of_sound {limit : Option Duration} (sound : link.broken = false)
    (positive : limit ≠ some ⟨0⟩) :
    link.setReadTimeout limit = .ok { link with readTimeout := limit } := by
  simp [setReadTimeout, sound, positive]

theorem setReadTimeout_of_broken {limit : Option Duration} (broken : link.broken = true)
    (positive : limit ≠ some ⟨0⟩) : link.setReadTimeout limit = .error .badDescriptor := by
  simp [setReadTimeout, broken, positive]

theorem setReadTimeout_zero (link : Link) :
    link.setReadTimeout (some ⟨0⟩) = .error .zeroTimeout := by
  simp [setReadTimeout]

theorem write_of_sound {bytes : Bytes} (sound : link.broken = false)
    (there : link.daemonOpen = true) :
    link.write bytes = (.ok bytes.length, { link with outbound := link.outbound ++ bytes }) := by
  simp [write, sound, there]

theorem write_of_gone {bytes : Bytes} (sound : link.broken = false)
    (gone : link.daemonOpen = false) : link.write bytes = (.error .brokenPipe, link) := by
  simp [write, sound, gone]

theorem Writes.sound (writes : link.Writes config id) : link.broken = false := by
  have writable := writes.2
  simp only [isOk_write, Bool.and_eq_true, Bool.not_eq_true'] at writable
  exact writable.1

theorem Writes.there (writes : link.Writes config id) : link.daemonOpen = true := by
  have writable := writes.2
  simp only [isOk_write, Bool.and_eq_true] at writable
  exact writable.2

/-- A handshake that has written the number reads one byte and sets the limit of later reads. -/
theorem handshake_of_writes (writes : link.Writes config id) :
    link.handshake config id =
      match (link.asked config (Bytes.ofInt32 id)).readExact 1 with
      | (.error fault, link) => (.error (.handshake id (.acknowledgement fault)), link)
      | (.ok _, link) =>
        match link.setReadTimeout config.readTimeout with
        | .error e => (.error (.io e), link)
        | .ok link => (.ok (), { link with writeTimeout := none }) := by
  have limited : some config.handshakeTimeout ≠ some ⟨0⟩ := by simpa using writes.1
  rw [handshake, setReadTimeout_of_sound writes.sound limited]
  dsimp only
  rw [write_of_sound (by exact writes.sound) (by exact writes.there)]
  rfl

/-- A handshake that has written the number meets the daemon's byte or the end of its wait. -/
theorem handshaken_of_writes (writes : link.Writes config id) :
    Handshaken config id link (link.handshake config id).1 (link.handshake config id).2 := by
  have sound : (link.asked config (Bytes.ofInt32 id)).broken = false := writes.sound
  rw [handshake_of_writes writes]
  rcases Nat.lt_or_ge link.inbound.length 1 with short | enough
  · obtain ⟨fault, failed⟩ := readExact_of_lt sound short
    rw [failed]
    exact .unanswered writes (List.length_eq_zero_iff.mp (Nat.lt_one_iff.mp short)) fault
  · have answered : link.inbound ≠ [] := List.ne_nil_of_length_pos enough
    rw [readExact_of_le sound enough]
    dsimp only
    rcases Decidable.em (config.readTimeout = some ⟨0⟩) with zero | patient
    · rw [zero, setReadTimeout_zero]
      exact .impatient writes answered zero
    · rw [setReadTimeout_of_sound (by exact sound) patient]
      exact .opened ⟨writes.1, writes.2, answered, patient⟩

/-- Every handshake ends at one of its steps. -/
theorem handshaken (config : SocketConfig) (id : Int32) (link : Link) :
    Handshaken config id link (link.handshake config id).1 (link.handshake config id).2 := by
  rcases Decidable.em (config.handshakeTimeout = ⟨0⟩) with zero | limited
  · rw [handshake, zero, setReadTimeout_zero]
    exact .unlimited zero
  have positive : some config.handshakeTimeout ≠ some ⟨0⟩ := by simpa using limited
  cases broken : link.broken with
  | true =>
    rw [handshake, setReadTimeout_of_broken broken positive]
    exact .invalid limited broken
  | false =>
    cases there : link.daemonOpen with
    | true => exact handshaken_of_writes ⟨limited, by simp [isOk_write, broken, there]⟩
    | false =>
      rw [handshake, setReadTimeout_of_sound broken positive]
      dsimp only
      rw [write_of_gone (by exact broken) (by exact there)]
      have same : link.asked config [] = { link with
          readTimeout := some config.handshakeTimeout
          writeTimeout := some config.handshakeTimeout } := by
        rw [asked, List.append_nil]
      rw [← same]
      exact .unwritten limited broken there

namespace Handshaken

variable {result : Except SocketError Unit} {after : Link}

/-- A handshake works exactly if every step of it does. -/
theorem ok_iff (met : Handshaken config id link result after) :
    result = .ok () ↔ link.Welcomes config id := by
  constructor
  · rintro rfl
    cases met with
    | opened welcomes => exact welcomes
  · rintro ⟨limited, writable, answered, patient⟩
    rw [isOk_write, Bool.and_eq_true, Bool.not_eq_true'] at writable
    cases met with
    | unlimited zero => exact absurd zero limited
    | invalid _ broken => simp [broken] at writable
    | unwritten _ _ gone => simp [gone] at writable
    | unanswered _ silent => exact absurd silent answered
    | impatient _ _ zero => exact absurd zero patient
    | opened => rfl

/-- What the daemon gets from a handshake: the number of the session, or nothing. -/
theorem outbound_eq (met : Handshaken config id link result after) :
    (link.Writes config id ∧ after.outbound = link.outbound ++ Bytes.ofInt32 id) ∨
      (¬link.Writes config id ∧ after.outbound = link.outbound) := by
  cases met with
  | unlimited zero => exact .inr ⟨fun writes => writes.1 zero, rfl⟩
  | invalid _ broken => exact .inr ⟨fun writes => by simp [writes.sound] at broken, rfl⟩
  | unwritten _ _ gone =>
    exact .inr ⟨fun writes => by simp [writes.there] at gone, List.append_nil _⟩
  | unanswered writes => exact .inl ⟨writes, rfl⟩
  | impatient writes => exact .inl ⟨writes, rfl⟩
  | opened welcomes => exact .inl ⟨⟨welcomes.limited, welcomes.writable⟩, rfl⟩

/-- A handshake neither closes nor breaks the client's end, and leaves it the connection it is. -/
theorem kept (met : Handshaken config id link result after) :
    after.serial = link.serial ∧ after.clientOpen = link.clientOpen ∧
      after.broken = link.broken := by
  cases met <;> exact ⟨rfl, rfl, rfl⟩

end Handshaken

end Link

/-! ## Reads one after another -/

namespace Reader

/-- One read after another. -/
def readEach (r : Reader) : List Nat → List (Option Bytes) × Reader
  | [] => ([], r)
  | wanted :: more =>
    let (bytes, r) := r.readBytes wanted
    let (later, r) := r.readEach more
    (bytes :: later, r)

/-- Reads take the bytes that are there in order, as long as there are enough. -/
theorem readEach_of_le {r : Reader} {link : Link} {sizes : List Nat} (held : r.link = some link)
    (sound : link.broken = false) (bounded : ∀ size ∈ sizes, size < readLimit)
    (enough : sizes.sum ≤ link.inbound.length) :
    r.readEach sizes =
      ((sizes.splitLengths link.inbound).map some,
        { r with link := some { link with inbound := link.inbound.drop sizes.sum } }) := by
  induction sizes generalizing r link with
  | nil =>
    obtain ⟨config, held', subscribed, closed, halted⟩ := r
    cases held
    rfl
  | cons size sizes ih =>
    rw [List.forall_mem_cons] at bounded
    rw [List.sum_cons] at enough
    have first := readBytes_of_le held sound bounded.1 (by omega)
    have rest := ih (r := { r with link := some { link with inbound := link.inbound.drop size } })
      rfl sound bounded.2 (by rw [List.length_drop]; omega)
    rw [readEach, first]
    dsimp only
    rw [rest, List.splitLengths_cons, List.sum_cons, List.map_cons, List.drop_drop]

/-! ## Sessions opened on a connection -/

variable {r : Reader} {link : Link}

theorem adopt_eq (r : Reader) (id : Int32) (link : Link) :
    r.adopt id link =
      ((link.handshake r.config id).1,
        if (link.handshake r.config id).1.isOk then
          { r with link := some (link.handshake r.config id).2, closed := r.closedWithHeld }
        else { r with closed := r.closed ++ [(link.handshake r.config id).2.close.2] }) := by
  unfold adopt
  rcases link.handshake r.config id with ⟨e | ⟨⟩, after⟩ <;> rfl

theorem connect_of_long (id : Int32) (listening : String → Except SystemError Link)
    (long : SocketConfig.maxPathLength ≤ r.config.path.utf8ByteSize) :
    r.connect id listening = (.error (.pathTooLong r.config.path), r) := by
  simp [connect, reach, long]

theorem connect_of_refused (id : Int32) {listening : String → Except SystemError Link}
    {e : SystemError} (short : r.config.path.utf8ByteSize < SocketConfig.maxPathLength)
    (refused : listening r.config.path = .error e) :
    r.connect id listening = (.error (.connect r.config.path e), r) := by
  simp [connect, reach, Nat.not_le.mpr short, refused]

theorem connect_of_reached (id : Int32) {listening : String → Except SystemError Link}
    (short : r.config.path.utf8ByteSize < SocketConfig.maxPathLength)
    (reached : listening r.config.path = .ok link) :
    r.connect id listening = r.adopt id link := by
  simp [connect, reach, Nat.not_le.mpr short, reached]

theorem adopt_ok_iff (r : Reader) (id : Int32) (link : Link) :
    (r.adopt id link).1 = .ok () ↔ link.Welcomes r.config id := by
  rw [adopt_eq]
  exact (Link.handshaken r.config id link).ok_iff

theorem connect_ok_iff (r : Reader) (id : Int32) (listening : String → Except SystemError Link) :
    (r.connect id listening).1 = .ok () ↔
      r.config.path.utf8ByteSize < SocketConfig.maxPathLength ∧
        ∃ link, listening r.config.path = .ok link ∧ link.Welcomes r.config id := by
  rcases Nat.lt_or_ge r.config.path.utf8ByteSize SocketConfig.maxPathLength with short | long
  · cases reached : listening r.config.path with
    | error e => simp [connect_of_refused id short reached]
    | ok link => simp [connect_of_reached id short reached, adopt_ok_iff, short]
  · simp [connect_of_long id listening long, Nat.not_lt.mpr long]

/-- What an attempt on a connection leaves: the reader holds the connection or has closed it, and
the daemon has got the number of the session or nothing. -/
theorem adopt_leaves (r : Reader) (id : Int32) (link : Link) :
    ∃ after : Link, after.serial = link.serial ∧
      (r.adopt id link).2 =
        (if (r.adopt id link).1.isOk then
          { r with link := some after, closed := r.closedWithHeld }
        else { r with closed := r.closed ++ [after.close.2] }) ∧
      (link.Writes r.config id → after.outbound = link.outbound ++ Bytes.ofInt32 id) ∧
      (¬link.Writes r.config id → after.outbound = link.outbound) := by
  have met := Link.handshaken r.config id link
  refine ⟨(link.handshake r.config id).2, met.kept.1, by rw [adopt_eq], ?_, ?_⟩
  · intro writes
    rcases met.outbound_eq with ⟨-, sent⟩ | ⟨none, -⟩
    · exact sent
    · exact absurd writes none
  · intro none
    rcases met.outbound_eq with ⟨writes, -⟩ | ⟨-, unsent⟩
    · exact absurd writes none
    · exact unsent

/-- A reader that has opened a session holds the connection without the acknowledgement. -/
theorem adopt_of_ok {id : Int32} (opened : (r.adopt id link).1 = .ok ()) :
    link.broken = false ∧
      (r.adopt id link).2 = { r with
        link := some { link with
          inbound := link.inbound.drop 1, outbound := link.outbound ++ Bytes.ofInt32 id
          readTimeout := r.config.readTimeout, writeTimeout := none }
        closed := r.closedWithHeld } := by
  rw [adopt_eq] at opened ⊢
  have done : link.handshake r.config id = (.ok (), (link.handshake r.config id).2) :=
    Prod.ext opened rfl
  obtain ⟨-, sound, left⟩ := Link.handshake_ok done
  dsimp only at opened ⊢
  rw [opened, left]
  exact ⟨sound, rfl⟩

/-- A session that was opened has taken one byte, whatever its value; reads get the ones after it
in order. -/
theorem readEach_adopt {id : Int32} {ack : UInt8} {rest : Bytes} {sizes : List Nat}
    (answered : link.inbound = ack :: rest) (opened : (r.adopt id link).1 = .ok ())
    (bounded : ∀ size ∈ sizes, size < readLimit) (enough : sizes.sum ≤ rest.length) :
    (r.adopt id link).2.pending = rest ∧
      ((r.adopt id link).2.readEach sizes).1 = (sizes.splitLengths rest).map some := by
  obtain ⟨sound, after⟩ := adopt_of_ok opened
  rw [answered, List.drop_one, List.tail_cons] at after
  have held := congrArg Reader.link after
  exact ⟨by rw [after]; rfl, by rw [readEach_of_le held sound bounded enough]⟩

/-- A session is opened on a connection exactly if the handshake is limited, the number of the
session can be written, a byte comes before the stream or the wait ends, and later reads are not
limited to no time at all. The daemon gets the four bytes of the number or nothing, and the client
takes one byte or gives the connection up. At a path the daemon has to be reached first, and a path
that is too long is not tried. -/
theorem opens_exactly_if_welcome (r : Reader) (id : Int32) :
    ((Bytes.ofInt32 id).length = SocketConfig.sessionIdWidth ∧
      Bytes.toInt32 (Bytes.ofInt32 id) = id) ∧
    (∀ link : Link,
      ((r.adopt id link).1 = .ok () ↔ link.Welcomes r.config id) ∧
      (r.config.handshakeTimeout = ⟨0⟩ →
        (r.adopt id link).1 = .error (.io .zeroTimeout) ∧ ¬link.Writes r.config id) ∧
      (∃ after : Link, after.serial = link.serial ∧
        (r.adopt id link).2 =
          (if (r.adopt id link).1.isOk then
            { r with link := some after, closed := r.closedWithHeld }
          else { r with closed := r.closed ++ [after.close.2] }) ∧
        (link.Writes r.config id → after.outbound = link.outbound ++ Bytes.ofInt32 id) ∧
        (¬link.Writes r.config id → after.outbound = link.outbound)) ∧
      (∀ ack rest, link.inbound = ack :: rest → (r.adopt id link).1 = .ok () →
        (r.adopt id link).2.pending = rest ∧
        ∀ sizes : List Nat, (∀ size ∈ sizes, size < readLimit) → sizes.sum ≤ rest.length →
          ((r.adopt id link).2.readEach sizes).1 = (sizes.splitLengths rest).map some)) ∧
    (∀ listening : String → Except SystemError Link,
      ((r.connect id listening).1 = .ok () ↔
        r.config.path.utf8ByteSize < SocketConfig.maxPathLength ∧
          ∃ link, listening r.config.path = .ok link ∧ link.Welcomes r.config id) ∧
      (SocketConfig.maxPathLength ≤ r.config.path.utf8ByteSize →
        r.connect id listening = (.error (.pathTooLong r.config.path), r)) ∧
      (∀ link, r.config.path.utf8ByteSize < SocketConfig.maxPathLength →
        listening r.config.path = .ok link → r.connect id listening = r.adopt id link)) := by
  refine ⟨⟨Bytes.length_ofWord 4 _, Bytes.toInt32_ofInt32 id⟩, fun link => ?_, fun listening => ?_⟩
  · refine ⟨adopt_ok_iff r id link, fun zero => ⟨?_, fun writes => writes.1 zero⟩,
      adopt_leaves r id link, fun ack rest answered opened => ⟨?_, ?_⟩⟩
    · simp only [adopt_eq, Link.handshake, zero, Link.setReadTimeout_zero]
    · exact (readEach_adopt answered opened (List.forall_mem_nil _) (Nat.zero_le _)).1
    · intro sizes bounded enough
      exact (readEach_adopt answered opened bounded enough).2
  · exact ⟨connect_ok_iff r id listening, connect_of_long id listening,
      fun link short reached => connect_of_reached id short reached⟩

/-- A session with a negative number is opened; the samples behind the acknowledgement are read as
they came. -/
theorem opens_exactly_if_welcome_negative :
    let r := idle SocketConfig.initial
    let link := Link.fresh 0 [6, 1, 2, 3]
    (r.adopt (-2) link).1 = .ok () ∧ Bytes.toInt32 [254, 255, 255, 255] = -2 ∧
      (r.adopt (-2) link).2.pending = [1, 2, 3] ∧
      ((r.adopt (-2) link).2.readEach [1, 2]).1 = [some [1], some [2, 3]] := by
  obtain ⟨⟨-, number⟩, given, -⟩ := opens_exactly_if_welcome (idle SocketConfig.initial) (-2)
  obtain ⟨opens, -, -, reads⟩ := given (.fresh 0 [6, 1, 2, 3])
  have opened := opens.mpr ⟨by decide, by decide, by decide, by decide⟩
  obtain ⟨left, each⟩ := reads 6 [1, 2, 3] rfl opened
  exact ⟨opened, number, left, each [1, 2] (by decide) (by decide)⟩

end Reader

end SensorClient
