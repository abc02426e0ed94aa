import SensorClient.Sample.Reader

/-!
# How a daemon treats its clients

A daemon acknowledges a client and sends samples, or fails it in one of several ways. Once a client
is connected the daemon goes on to act on its own end of that connection, be the client's end still
held or closed.

## Main definitions

* `Daemon`: what a daemon does with whoever connects
* `Daemon.accept`: the connection as the client gets it
* `DaemonAct`, `Reader.daemonActs`: what a daemon does later, and what that shows it
-/

namespace SensorClient

/-- What a daemon does with whoever connects. -/
inductive Daemon where
  /-- Acknowledges with a byte and sends data; then it may stop sending. -/
  | acknowledging (byte : UInt8) (data : Bytes) (ends : Bool)
  /-- Neither acknowledges nor sends anything. -/
  | silent
  /-- Stops sending at once, but receives. -/
  | closing
  /-- Hangs up before the client writes. -/
  | hangingUp
deriving DecidableEq, Repr

/-- The connection as the client gets it. -/
def Daemon.accept (serial : Nat) : Daemon → Link
  | acknowledging byte data ends =>
    let link := Link.fresh serial (byte :: data)
    if ends then link.shutdown else link
  | silent => Link.fresh serial []
  | closing => (Link.fresh serial []).shutdown
  | hangingUp => (Link.fresh serial []).hangUp

/-- What a daemon does on its end of a connection. -/
inductive DaemonAct where
  | feed (bytes : Bytes)
  | shutdown
  /-- Takes what the client has written. -/
  | collect
  /-- Takes what the client has written and closes its end. -/
  | close
deriving DecidableEq, Repr

/-- What an act shows the daemon. -/
structure DaemonView where
  /-- Whether bytes could be sent. -/
  sent : Bool
  /-- What the client had written. -/
  received : Bytes
  /-- Whether the client's end is gone. -/
  clientGone : Bool
deriving DecidableEq, Repr

/-- What a daemon without a connection sees. -/
def DaemonView.nothing : DaemonView := ⟨false, [], false⟩

/-- The daemon acts on its end. -/
def Link.daemonActs (link : Link) (act : DaemonAct) : DaemonView × Link :=
  let view := fun (sent : Bool) => DaemonView.mk sent link.outbound link.clientGone
  match act with
  | .feed bytes =>
    let (sent, link) := link.feed bytes
    (view sent, link)
  | .shutdown => (view false, link.shutdown)
  | .collect => (view false, link.collect.2)
  | .close => (view false, link.collect.2.hangUp)

/-- The daemon acts on its end of one of the connections that the reader holds or has closed. -/
def Reader.daemonActs (r : Reader) (serial : Nat) (act : DaemonAct) : DaemonView × Reader :=
  let isMeant := fun (link : Link) => link.serial == serial
  let after := fun (link : Link) => if isMeant link then (link.daemonActs act).2 else link
  let view := match (r.link.toList ++ r.closed).find? isMeant with
    | some link => (link.daemonActs act).1
    | none => .nothing
  (view, { r with link := r.link.map after, closed := r.closed.map after })

end SensorClient
