import Mathlib.Data.List.Induction
import Mathlib.Data.List.Nodup
import SensorClient.Proofs.Sample.Handshake
import SensorClient.Sample.Daemon

/-!
# Which connections a reader holds

A reader gets connections one after another, some at a path and some handed to it. Each of them is
either the one it holds or closed: an attempt that fails closes the new connection and changes
nothing else, and one that works closes the connection that was held. What is read, and what the
daemon does, moves no connection. So there is never more than one open, and once the reader has
dropped the last one, each connection that it ever got has been closed exactly once.

## Main definitions

* `Approach`, `Reader.attempt`: how a reader gets at a connection
* `ReaderEvent`, `Reader.run`: what happens to a reader
* `ReaderEvent.brings`: the connection that comes with an event
* `Reader.finish`: the end of a reader
* `Reader.Owns`: the reader holds one of these connections and has closed the others

## Main results

* `Reader.attempt_of_error`, `Reader.attempt_of_ok`: what attempts leave
* `Reader.Owns.step`, `Reader.owns_run`: the connections that came are held or closed
* `Reader.owns_one_connection`: at most one connection is open, and each is closed once
-/

namespace SensorClient

/-! ## Attempts -/

/-- How a reader gets at a connection: through what listens where, or as one that is there. -/
inductive Approach where
  | path (listening : String → Except SystemError Link)
  | given (link : Link)

/-- The connection that a session is to be opened on. -/
def Approach.reached (config : SocketConfig) : Approach → Except SocketError Link
  | path listening => reach listening config.path
  | given link => .ok link

namespace Reader

variable {r : Reader} {link : Link}

/-- Opens a session on the connection that the approach gives. -/
def attempt (r : Reader) (id : Int32) : Approach → Except SocketError Unit × Reader
  | .path listening => r.connect id listening
  | .given link => r.adopt id link

theorem attempt_of_reached {approach : Approach} (id : Int32)
    (reached : approach.reached r.config = .ok link) : r.attempt id approach = r.adopt id link := by
  cases approach with
  | path listening =>
    rw [attempt, connect]
    rw [Approach.reached] at reached
    rw [reached]
  | given other =>
    cases reached
    rfl

theorem attempt_of_unreached {approach : Approach} {e : SocketError} (id : Int32)
    (failed : approach.reached r.config = .error e) : r.attempt id approach = (.error e, r) := by
  cases approach with
  | path listening =>
    rw [attempt, connect]
    rw [Approach.reached] at failed
    rw [failed]
  | given other => cases failed

/-- An attempt that fails, at whatever step, closes the connection it got and changes nothing
else. -/
theorem attempt_of_error {id : Int32} {approach : Approach} {e : SocketError}
    (failed : (r.attempt id approach).1 = .error e) :
    ∃ gone : List Link, (r.attempt id approach).2 = { r with closed := r.closed ++ gone } ∧
      gone.map Link.serial = (approach.reached r.config).toOption.toList.map Link.serial ∧
      ∀ link ∈ gone, link.clientOpen = false := by
  cases reached : approach.reached r.config with
  | error e => exact ⟨[], by rw [attempt_of_unreached id reached, List.append_nil], rfl, by simp⟩
  | ok link =>
    rw [attempt_of_reached id reached] at failed ⊢
    obtain ⟨after, same, left, -⟩ := adopt_leaves r id link
    rw [failed] at left
    refine ⟨[after.close.2], left, ?_, ?_⟩
    · simp [Link.close, Except.toOption, same]
    · simp [Link.close]

/-- An attempt that works closes the connection held and holds the one it got. -/
theorem attempt_of_ok {id : Int32} {approach : Approach}
    (opened : (r.attempt id approach).1 = .ok ()) :
    ∃ link after, approach.reached r.config = .ok link ∧ after.serial = link.serial ∧
      after.clientOpen = link.clientOpen ∧
      (r.attempt id approach).2 = { r with link := some after, closed := r.closedWithHeld } := by
  cases reached : approach.reached r.config with
  | error e => rw [attempt_of_unreached id reached] at opened; cases opened
  | ok link =>
    rw [attempt_of_reached id reached] at opened ⊢
    obtain ⟨-, left⟩ := adopt_of_ok opened
    refine ⟨link, _, rfl, ?_, ?_, left⟩ <;> rfl

end Reader

/-! ## What happens to a reader -/

/-- What a client does with its reader, and what becomes of the connections meanwhile. -/
inductive ReaderEvent where
  | attempt (id : Int32) (approach : Approach)
  | dropConnection
  | subscribe
  | unsubscribe
  | readBytes (wanted : Nat)
  | read (buffer : Bytes)
  | await (limit : Option Duration)
  /-- The daemon acts on its end of one of the connections, held or closed. -/
  | daemonActs (serial : Nat) (act : DaemonAct)
  | breakDescriptor

/-- The connection that comes with an event, if one does. -/
def ReaderEvent.brings (config : SocketConfig) : ReaderEvent → Option Link
  | attempt _ approach => (approach.reached config).toOption
  | _ => none

/-- Whether an event neither gives the reader a connection nor takes one from it. -/
def ReaderEvent.quiet : ReaderEvent → Bool
  | attempt .. | dropConnection => false
  | _ => true

theorem ReaderEvent.brings_of_quiet {config : SocketConfig} {e : ReaderEvent}
    (quiet : e.quiet = true) : e.brings config = none := by
  cases e with
  | attempt id approach => cases quiet
  | _ => rfl

namespace Reader

/-- The reader after an event. -/
def step (r : Reader) : ReaderEvent → Reader
  | .attempt id approach => (r.attempt id approach).2
  | .dropConnection => r.dropConnection.2
  | .subscribe => r.subscribe
  | .unsubscribe => r.unsubscribe
  | .readBytes wanted => (r.readBytes wanted).2
  | .read buffer => (r.read buffer).2.2
  | .await limit => (r.await limit).2
  | .daemonActs serial act => (r.daemonActs serial act).2
  | .breakDescriptor => r.onLink Link.breakDescriptor

/-- The reader after one event after another. -/
def run (r : Reader) (events : List ReaderEvent) : Reader := events.foldl step r

/-- The end of a reader: what it still holds is dropped. -/
def finish (r : Reader) : Reader := if r.isConnected then r.dropConnection.2 else r

end Reader

/-! ## What moves no connection -/

/-- Which connection it is, and whether the client's end is open. -/
def Link.hand (link : Link) : Nat × Bool := (link.serial, link.clientOpen)

@[simp] theorem Link.hand_bare (link : Link) : link.bare.hand = link.hand := rfl

@[simp] theorem Link.hand_daemonActs (link : Link) (act : DaemonAct) :
    (link.daemonActs act).2.hand = link.hand := by
  cases act with
  | feed bytes =>
    show (link.feed bytes).2.hand = link.hand
    rw [← hand_bare, bare_feed, hand_bare]
  | shutdown | collect | close => rfl

namespace Reader

variable {r r' : Reader} {brought : List Link}

/-- Two readers that hold the same connection and have closed the same ones. -/
structure SameHands (r r' : Reader) : Prop where
  config : r'.config = r.config
  link : r'.link.map Link.hand = r.link.map Link.hand
  closed : r'.closed.map Link.hand = r.closed.map Link.hand

theorem SameHands.of_bare (same : r'.bare = r.bare) : r.SameHands r' := by
  have config : r'.bare.config = r.bare.config := by rw [same]
  have link : r'.bare.link.map Link.hand = r.bare.link.map Link.hand := by rw [same]
  have closed : r'.bare.closed.map Link.hand = r.bare.closed.map Link.hand := by rw [same]
  simp only [bare, Option.map_map, Function.comp_def, Link.hand_bare] at link
  exact ⟨config, link, closed⟩

theorem SameHands.daemonActs (r : Reader) (serial : Nat) (act : DaemonAct) :
    r.SameHands (r.daemonActs serial act).2 := by
  have kept : Link.hand ∘ (fun link : Link =>
      if link.serial == serial then (link.daemonActs act).2 else link) = Link.hand := by
    funext link
    dsimp only [Function.comp_apply]
    split
    · exact link.hand_daemonActs act
    · rfl
  constructor
  · rfl
  · rw [Reader.daemonActs, Option.map_map, kept]
  · rw [Reader.daemonActs, List.map_map, kept]

/-- Nothing but an attempt and a drop moves a connection. -/
theorem SameHands.step (r : Reader) {e : ReaderEvent} (quiet : e.quiet = true) :
    r.SameHands (r.step e) := by
  cases e with
  | attempt id approach => cases quiet
  | dropConnection => cases quiet
  | subscribe | unsubscribe => exact ⟨rfl, rfl, rfl⟩
  | readBytes wanted => exact .of_bare (bare_readBytes r wanted)
  | read buffer => exact .of_bare (bare_read r buffer)
  | await limit => exact .of_bare (bare_await r limit)
  | daemonActs serial act => exact .daemonActs r serial act
  | breakDescriptor =>
    refine ⟨rfl, ?_, rfl⟩
    show (r.link.map Link.breakDescriptor).map Link.hand = r.link.map Link.hand
    rw [Option.map_map]
    rfl

theorem SameHands.serials (same : r.SameHands r') :
    (r'.closed ++ r'.link.toList).map Link.serial =
      (r.closed ++ r.link.toList).map Link.serial := by
  have hands : (r'.closed ++ r'.link.toList).map Link.hand =
      (r.closed ++ r.link.toList).map Link.hand := by
    rw [List.map_append, List.map_append, ← Option.toList_map, ← Option.toList_map, same.link,
      same.closed]
  simpa [Link.hand, Function.comp_def] using congrArg (List.map Prod.fst) hands

/-! ## Held or closed -/

/-- The reader holds one of these connections at most, and has closed the others. -/
structure Owns (r : Reader) (brought : List Link) : Prop where
  /-- Each connection that came is held or closed, and none is twice. -/
  each : ((r.closed ++ r.link.toList).map Link.serial).Perm (brought.map Link.serial)
  closed : ∀ link ∈ r.closed, link.clientOpen = false
  held : (∀ link ∈ brought, link.clientOpen = true) → ∀ link ∈ r.link, link.clientOpen = true

theorem owns_idle (config : SocketConfig) : (idle config).Owns [] :=
  ⟨.refl _, nofun, fun _ => nofun⟩

theorem Owns.of_same (owns : r.Owns brought) (same : r.SameHands r') : r'.Owns brought := by
  refine ⟨by rw [same.serials]; exact owns.each, fun link mem => ?_, fun opened link mem => ?_⟩
  · have hand : link.hand ∈ r.closed.map Link.hand := same.closed ▸ List.mem_map_of_mem mem
    obtain ⟨other, there, alike⟩ := List.mem_map.mp hand
    exact (congrArg Prod.snd alike).symm.trans (owns.closed other there)
  · have hand : r.link.map Link.hand = some link.hand := by
      rw [← same.link, Option.mem_def.mp mem, Option.map_some]
    obtain ⟨other, there, alike⟩ := Option.map_eq_some_iff.mp hand
    exact (congrArg Prod.snd alike).symm.trans (owns.held opened other there)

theorem serials_closedWithHeld (r : Reader) :
    r.closedWithHeld.map Link.serial = (r.closed ++ r.link.toList).map Link.serial := by
  simp [closedWithHeld, Link.close, Function.comp_def]

theorem Owns.closedWithHeld (owns : r.Owns brought) :
    ∀ link ∈ r.closedWithHeld, link.clientOpen = false := by
  intro link mem
  rcases List.mem_append.mp mem with before | held
  · exact owns.closed link before
  · obtain ⟨other, -, rfl⟩ := List.mem_map.mp held
    rfl

/-- A reader that drops its connection has closed them all. -/
theorem Owns.dropConnection (owns : r.Owns brought) : r.dropConnection.2.Owns brought := by
  refine ⟨?_, owns.closedWithHeld, fun _ => nofun⟩
  show ((r.closedWithHeld ++ []).map Link.serial).Perm _
  rw [List.append_nil, serials_closedWithHeld]
  exact owns.each

/-- An attempt leaves the connection that it got held or closed, and the others too. -/
theorem Owns.attempt (owns : r.Owns brought) (id : Int32) (approach : Approach) :
    (r.attempt id approach).2.Owns (brought ++ (approach.reached r.config).toOption.toList) := by
  cases outcome : (r.attempt id approach).1 with
  | error e =>
    obtain ⟨gone, left, serials, shut⟩ := attempt_of_error outcome
    rw [left]
    refine ⟨?_, fun link mem => ?_, fun opened => ?_⟩
    · have moved :
          (r.closed ++ gone ++ r.link.toList).Perm (r.closed ++ r.link.toList ++ gone) := by
        rw [List.append_assoc, List.append_assoc]
        exact List.perm_append_comm.append_left r.closed
      have both := owns.each.append_right (gone.map Link.serial)
      rw [← List.map_append, serials, ← List.map_append] at both
      exact (moved.map Link.serial).trans both
    · exact (List.mem_append.mp mem).elim (owns.closed link) (shut link)
    · exact owns.held fun link mem => opened link (List.mem_append_left _ mem)
  | ok u =>
    obtain ⟨link, after, reached, serial, hand, left⟩ := attempt_of_ok outcome
    rw [left, reached]
    refine ⟨?_, owns.closedWithHeld, fun opened other mem => ?_⟩
    · show ((r.closedWithHeld ++ [after]).map Link.serial).Perm
        ((brought ++ [link]).map Link.serial)
      rw [List.map_append, List.map_append, serials_closedWithHeld, List.map_singleton,
        List.map_singleton, serial]
      exact owns.each.append_right _
    · cases mem
      rw [hand]
      exact opened link (List.mem_append_right _ (List.mem_singleton_self link))

/-- What happens to a reader moves no connection but the ones it gets and drops. -/
theorem Owns.step (owns : r.Owns brought) (e : ReaderEvent) :
    (r.step e).Owns (brought ++ (e.brings r.config).toList) := by
  by_cases quiet : e.quiet = true
  · rw [ReaderEvent.brings_of_quiet quiet, Option.toList_none, List.append_nil]
    exact owns.of_same (.step r quiet)
  · cases e with
    | attempt id approach => exact owns.attempt id approach
    | dropConnection =>
      show r.dropConnection.2.Owns (brought ++ [])
      rw [List.append_nil]
      exact owns.dropConnection
    | _ => exact absurd rfl quiet

theorem config_step (r : Reader) (e : ReaderEvent) : (r.step e).config = r.config := by
  by_cases quiet : e.quiet = true
  · exact (SameHands.step r quiet).config
  · cases e with
    | attempt id approach =>
      show (r.attempt id approach).2.config = r.config
      cases outcome : (r.attempt id approach).1 with
      | error e =>
        obtain ⟨gone, left, -⟩ := attempt_of_error outcome
        rw [left]
      | ok u =>
        obtain ⟨link, after, -, -, -, left⟩ := attempt_of_ok outcome
        rw [left]
    | dropConnection => rfl
    | _ => exact absurd rfl quiet

theorem run_snoc (r : Reader) (events : List ReaderEvent) (e : ReaderEvent) :
    r.run (events ++ [e]) = (r.run events).step e := by
  rw [run, List.foldl_append, List.foldl_cons, List.foldl_nil, run]

theorem config_run (r : Reader) (events : List ReaderEvent) :
    (r.run events).config = r.config := by
  induction events using List.reverseRecOn with
  | nil => rfl
  | append_singleton events e ih => rw [run_snoc, config_step, ih]

/-- The connections that came to a reader are the one that it holds and the ones it has closed. -/
theorem owns_run (config : SocketConfig) (events : List ReaderEvent) :
    ((idle config).run events).Owns (events.filterMap (ReaderEvent.brings config)) := by
  induction events using List.reverseRecOn with
  | nil => exact owns_idle config
  | append_singleton events e ih =>
    have same : ((idle config).run events).config = config := config_run (idle config) events
    rw [run_snoc, List.filterMap_append, List.filterMap_cons, List.filterMap_nil]
    have after := ih.step e
    rw [same] at after
    cases brings : e.brings config with
    | none => simpa [brings] using after
    | some link => simpa [brings] using after

/-! ## One connection at a time -/

/-- Of the connections that came no more than the one held is open. -/
theorem Owns.one_open (owns : r.Owns brought) :
    ((r.closed ++ r.link.toList).filter Link.clientOpen).length ≤ 1 := by
  have shut : r.closed.filter Link.clientOpen = [] :=
    List.filter_eq_nil_iff.mpr fun link mem => by simp [owns.closed link mem]
  rw [List.filter_append, shut, List.nil_append]
  calc (r.link.toList.filter Link.clientOpen).length ≤ r.link.toList.length :=
        List.length_filter_le ..
    _ ≤ 1 := by cases r.link <;> simp

theorem dropConnection_dropConnection (r : Reader) :
    r.dropConnection.2.dropConnection = (true, r.dropConnection.2) := by
  simp [dropConnection, Reader.closedWithHeld]

/-- A reader that is at its end holds nothing and has closed all that came. -/
theorem Owns.finish (owns : r.Owns brought) : r.finish.link = none ∧ r.finish.Owns brought := by
  unfold Reader.finish
  split
  · exact ⟨rfl, owns.dropConnection⟩
  · next unconnected => exact ⟨by simpa [isConnected] using unconnected, owns⟩

/-- Where no two connections are the same, each has been closed once when the reader is at its
end. -/
theorem Owns.closed_once (owns : r.Owns brought) (distinct : (brought.map Link.serial).Nodup) :
    ∀ link ∈ brought, (r.finish.closed.map Link.serial).count link.serial = 1 := by
  obtain ⟨nothing, ended⟩ := owns.finish
  have each := ended.each
  rw [nothing, Option.toList_none, List.append_nil] at each
  intro link mem
  rw [each.count_eq]
  exact List.count_eq_one_of_mem distinct (List.mem_map_of_mem mem)

/-- Whatever happens to a reader, it holds one of the connections that came to it, which is open, or
none, and has closed the others. An attempt that fails closes the new connection and changes nothing
else; one that works closes the connection held and keeps the subscription. To drop the connection
is to hold none and to be subscribed to nothing, once and for all. At the end each connection that
came has been closed exactly once. -/
theorem owns_one_connection (config : SocketConfig) (events : List ReaderEvent) :
    let r := (idle config).run events
    let brought := events.filterMap (ReaderEvent.brings config)
    (((r.closed ++ r.link.toList).map Link.serial).Perm (brought.map Link.serial) ∧
      (∀ link ∈ r.closed, link.clientOpen = false) ∧
      ((∀ link ∈ brought, link.clientOpen = true) → ∀ link ∈ r.link, link.clientOpen = true) ∧
      ((r.closed ++ r.link.toList).filter Link.clientOpen).length ≤ 1) ∧
    (∀ id approach e, (r.attempt id approach).1 = .error e →
      ∃ gone : List Link, (r.attempt id approach).2 = { r with closed := r.closed ++ gone } ∧
        gone.map Link.serial = (approach.reached config).toOption.toList.map Link.serial ∧
        ∀ link ∈ gone, link.clientOpen = false) ∧
    (∀ id approach, (r.attempt id approach).1 = .ok () →
      ∃ link after, approach.reached config = .ok link ∧ after.serial = link.serial ∧
        after.clientOpen = link.clientOpen ∧
        (r.attempt id approach).2 = { r with link := some after, closed := r.closedWithHeld }) ∧
    (r.dropConnection.2.isConnected = false ∧ r.dropConnection.2.subscribed = false ∧
      r.dropConnection.2.dropConnection = (true, r.dropConnection.2)) ∧
    (r.finish.link = none ∧
      (r.finish.closed.map Link.serial).Perm (brought.map Link.serial) ∧
      (∀ link ∈ r.finish.closed, link.clientOpen = false) ∧
      ((brought.map Link.serial).Nodup →
        ∀ link ∈ brought, (r.finish.closed.map Link.serial).count link.serial = 1)) := by
  intro r brought
  have owns : r.Owns brought := owns_run config events
  have same : r.config = config := config_run (idle config) events
  obtain ⟨nothing, ended⟩ := owns.finish
  refine ⟨⟨owns.each, owns.closed, owns.held, owns.one_open⟩, fun id approach e failed => ?_,
    fun id approach opened => ?_, ⟨rfl, rfl, r.dropConnection_dropConnection⟩,
    nothing, ?_, ended.closed, owns.closed_once⟩
  · exact same ▸ attempt_of_error failed
  · exact same ▸ attempt_of_ok opened
  · have each := ended.each
    rwa [nothing, Option.toList_none, List.append_nil] at each

/-- A reader is given a second connection while it holds the first, and a third that is silent. -/
theorem owns_one_connection_replaced :
    let r := (idle SocketConfig.initial).run
      [.attempt 7 (.given (.fresh 0 [6, 1])), .subscribe,
        .attempt 7 (.path fun _ => .ok (.fresh 1 [6, 2])), .attempt 7 (.given (.fresh 2 []))]
    (r.link.map Link.serial = some 1 ∧ r.pending = [2] ∧ r.subscribed = true) ∧
      r.closed.map Link.serial = [0, 2] ∧
      (∃ e, (r.attempt 7 (.given (.fresh 3 []))).1 = .error e ∧
        (r.attempt 7 (.given (.fresh 3 []))).2.link = r.link) ∧
      ((r.attempt 7 (.given (.fresh 3 [6]))).2.subscribed = true ∧
        (r.attempt 7 (.given (.fresh 3 [6]))).2.closed = r.closedWithHeld) ∧
      ∀ serial ∈ [0, 1, 2], (r.finish.closed.map Link.serial).count serial = 1 := by
  obtain ⟨-, fails, works, -, -, -, -, once⟩ := owns_one_connection SocketConfig.initial
    [.attempt 7 (.given (.fresh 0 [6, 1])), .subscribe,
      .attempt 7 (.path fun _ => .ok (.fresh 1 [6, 2])), .attempt 7 (.given (.fresh 2 []))]
  refine ⟨by decide, by decide, ?_, ?_, ?_⟩
  · have failed := fails 7 (.given (.fresh 3 []))
      (.handshake 7 (.acknowledgement (.failed .wouldBlock))) (by decide)
    obtain ⟨gone, left, -⟩ := failed
    exact ⟨.handshake 7 (.acknowledgement (.failed .wouldBlock)), by decide, by rw [left]⟩
  · obtain ⟨link, after, -, -, -, left⟩ := works 7 (.given (.fresh 3 [6])) (by decide)
    exact ⟨by decide, by rw [left]⟩
  · intro serial mem
    have brought : ∃ link ∈ [Link.fresh 0 [6, 1], .fresh 1 [6, 2], .fresh 2 []],
        link.serial = serial := by
      simpa [Link.fresh, eq_comm] using mem
    obtain ⟨link, came, rfl⟩ := brought
    exact once (by decide) link came

end Reader

end SensorClient
