import Mathlib.Data.List.Basic
import SensorClient.Proofs.Session.Requests
import SensorClient.Proofs.Wire.ErrorReplies

/-!
# The calls that the daemon declares

The manager and the channel declare their methods with the types of the arguments and of the reply.
Three things have to agree for each method: the arguments that an operation gives, the argument
lists that have a message, and the kind that is read from the reply. They do, so that no call is
refused for its arguments, and an answer of the declared type is what the operation gives back.

## Main definitions

* `Declaration`, `Party.declares`: the methods of the manager and of the channel
* `Request.isDeclared`: whether a call is one of them, in its arguments and in what it wants
* `Kind.accepts`: whether a reply is of the type that a kind stands for
* `ManagerOp`: what a client asks of the manager
* `Session.reported`, `ManagerOp.request`: the call whose reply an operation gives back

## Main results

* `Session.isDeclared_requests`: operations make no other calls
* `Request.body?_of_isDeclared`: a declared call has a message, with its arguments in order
* `Bus.onWire_fails`: how a request over a wire can fail
* `Bus.onWire_supports`: no such call is refused for its arguments
* `Conversation.call_of_accepts`: an answer of the declared type is read as it is
* `Session.value?_of_reported`: the operation gives it back
* `calls_fit_interface`: all of it
-/

namespace SensorClient

/-! ## Declarations -/

/-- The type of the values of a kind; nothing has none. -/
def Kind.signature : Kind → Option String
  | unit => none
  | int => some "i"
  | uint => some "u"
  | long => some "x"
  | bool => some "b"
  | str => some "s"
  | range => some "(ddd)"
  | ranges => some "a(ddd)"
  | integerRanges => some "a(uu)"

/-- A method with the types of its arguments, and the type of its reply if one is declared. -/
structure Declaration where
  method : String
  args : List String
  reply : Option String
deriving DecidableEq, Repr

/-- The methods that a party declares. -/
def Party.declares : Party → List Declaration
  | manager =>
    [⟨"loadPlugin", ["s"], some "b"⟩,
      ⟨"requestSensor", ["s", "x"], some "i"⟩,
      ⟨"releaseSensor", ["s", "i", "x"], some "b"⟩]
  | channel =>
    [⟨"start", ["i"], none⟩,
      ⟨"stop", ["i"], none⟩,
      ⟨"setInterval", ["i", "i"], none⟩,
      ⟨"setBufferInterval", ["i", "u"], none⟩,
      ⟨"setBufferSize", ["i", "u"], none⟩,
      ⟨"setStandbyOverride", ["i", "b"], some "b"⟩,
      ⟨"getAvailableDataRanges", [], some "a(ddd)"⟩,
      ⟨"getCurrentDataRange", [], some "(ddd)"⟩,
      ⟨"requestDataRange", ["i", "(ddd)"], none⟩,
      ⟨"removeDataRangeRequest", ["i"], none⟩,
      ⟨"getAvailableIntervals", [], some "a(ddd)"⟩,
      ⟨"getAvailableBufferIntervals", [], some "a(uu)"⟩,
      ⟨"getAvailableBufferSizes", [], some "a(uu)"⟩,
      ⟨"hwBuffering", [], some "b"⟩,
      ⟨"setDataRangeIndex", ["i", "i"], none⟩]

/-- The types of arguments. -/
def signatures (args : List Arg) : List String := args.map fun arg => (Datum.ofArg arg).signature

/-- Whether a call is declared by the party it is put to: the method, the types of its arguments
and the kind of reply that is wanted. A property read is no call. -/
def Request.isDeclared (request : Request) : Bool :=
  match request.inquiry with
  | .call method args k => request.party.declares.contains ⟨method, signatures args, k.signature⟩
  | .property _ => true

/-- The calls of an operation are declared, whatever its arguments. -/
theorem Session.isDeclared_requests {σ : Type} (s : Session σ) (op : Op) :
    ∀ request ∈ s.requests op, request.isDeclared = true := by
  rw [← List.all_eq_true]
  cases op with
  | start | startWith =>
    dsimp only [requests, Request.start]
    cases s.running <;> cases s.desired.standbyOverride <;> rfl
  | stop | stopWith | setInterval | setBufferInterval | setBufferSize | interval | bufferInterval
  | bufferSize | standbyOverride =>
    dsimp only [requests]
    cases s.running <;> rfl
  | release =>
    dsimp only [requests]
    cases s.released <;> rfl
  | setDataRangeIndex index =>
    dsimp only [requests, selectRequests]
    split <;> rfl
  | errorCode | errorString =>
    dsimp only [requests]
    cases s.error.isSet <;> rfl
  | _ => rfl

/-! ## Arguments -/

/-- The kind of an argument. -/
def Arg.kind (arg : Arg) : Kind := arg.value.kind

theorem Arg.signature_kind (arg : Arg) : arg.kind.signature = some (Datum.ofArg arg).signature := by
  cases arg <;> rfl

theorem Kind.signature_injective : Function.Injective Kind.signature := by
  intro a b same
  cases a <;> cases b <;> first | rfl | exact absurd same (by decide)

theorem kinds_of_signatures {args : List Arg} {kinds : List Kind}
    (typed : (signatures args).map some = kinds.map Kind.signature) :
    args.map Arg.kind = kinds := by
  refine List.map_injective_iff.mpr Kind.signature_injective ?_
  rw [← typed, signatures, List.map_map, List.map_map]
  exact List.map_congr_left fun arg _ => arg.signature_kind

/-- The argument lists that have a message, by their kinds. -/
def messageKinds : List (List Kind) :=
  [[], [.int], [.int, .int], [.int, .uint], [.int, .bool], [.int, .range], [.str], [.str, .int],
    [.str, .long], [.str, .int, .long]]

theorem body?_of_kinds {args : List Arg} (mem : args.map Arg.kind ∈ messageKinds) :
    body? args = some (args.map Datum.ofArg) := by
  simp only [messageKinds, List.mem_cons, List.not_mem_nil, or_false] at mem
  rcases mem with kinds | kinds | kinds | kinds | kinds | kinds | kinds | kinds | kinds | kinds
  · match args, kinds with | [], _ => rfl
  · match args, kinds with | [.int _], _ => rfl
  · match args, kinds with | [.int _, .int _], _ => rfl
  · match args, kinds with | [.int _, .uint _], _ => rfl
  · match args, kinds with | [.int _, .bool _], _ => rfl
  · match args, kinds with | [.int _, .range _], _ => rfl
  · match args, kinds with | [.str _], _ => rfl
  · match args, kinds with | [.str _, .int _], _ => rfl
  · match args, kinds with | [.str _, .long _], _ => rfl
  · match args, kinds with | [.str _, .int _, .long _], _ => rfl

/-- Every method that is declared has arguments that have a message, and a name that can be sent;
no text is declared as a reply. -/
theorem Party.declares_sendable (party : Party) :
    ∀ d ∈ party.declares, (∃ kinds ∈ messageKinds, d.args.map some = kinds.map Kind.signature) ∧
      Name.isMember d.method = true ∧ d.reply ≠ some "s" := by
  cases party <;> decide +kernel

namespace Request

variable {party : Party} {method : String} {args : List Arg} {k : Kind}

theorem mem_declares (declared : (⟨party, .call method args k⟩ : Request).isDeclared = true) :
    ⟨method, signatures args, k.signature⟩ ∈ party.declares :=
  List.contains_iff_mem.mp declared

/-- A declared call has a message: its arguments, in their order. -/
theorem body?_of_isDeclared
    (declared : (⟨party, .call method args k⟩ : Request).isDeclared = true) :
    body? args = some (args.map Datum.ofArg) := by
  obtain ⟨⟨kinds, mem, typed⟩, -, -⟩ := party.declares_sendable _ (mem_declares declared)
  exact body?_of_kinds (kinds_of_signatures typed ▸ mem)

end Request

/-! ## Failures -/

/-- A failure that a wire can give: the other side cannot be reached, answers with an error, or does
not get or give a message. -/
inductive BusError.OfWire : BusError → Prop
  | unreached (reason : String) : OfWire (.connection reason)
  | answered (name message : String) : OfWire (.remote name message)
  | lost (fault : TransportFault) : OfWire (.transport fault)

theorem WireError.ofWire (e : WireError) : e.busError.OfWire := by
  cases e with
  | method name message => exact .answered name _
  | standard e => exact .lost _
  | other text => exact .lost _

theorem Response.ofWire {response : Response} {inquiry : Inquiry} {e : BusError}
    (failed : response.answer inquiry = .error e) : e.OfWire := by
  unfold answer at failed
  repeat' split at failed
  all_goals cases failed
  all_goals first
    | exact WireError.ofWire _
    | exact .lost _

section

variable {peer : Peer} {stations : Party → Except String Station} {past : List Request}
  {request : Request}

/-- A request over a wire fails on the wire, or is a call whose arguments have no message. -/
theorem Bus.onWire_fails {e : BusError}
    (failed : (onWire peer stations).answer past request = .error e) :
    e.OfWire ∨ ∃ method args k, request.inquiry = .call method args k ∧ body? args = none ∧
      e = .unsupportedArguments method := by
  dsimp only [onWire] at failed
  split at failed
  · cases failed
    exact .inl (.unreached _)
  · next station found =>
    split at failed
    · next unwritten =>
      cases failed
      unfold Station.message at unwritten
      split at unwritten
      · next method args k inquired =>
        split at unwritten
        · next unsupported =>
          cases unwritten
          exact .inr ⟨method, args, k, inquired, unsupported, rfl⟩
        · split at unwritten
          · cases unwritten
          · cases unwritten
            exact .inl (WireError.ofWire _)
      · split at unwritten
        · cases unwritten
        · cases unwritten
          exact .inl (WireError.ofWire _)
    · split at failed
      · cases failed
        exact .inl (WireError.ofWire _)
      · exact .inl (Response.ofWire failed)

/-- No declared call is refused for its arguments. -/
theorem Bus.onWire_supports (declared : request.isDeclared = true) (member : String) :
    (onWire peer stations).answer past request ≠ .error (.unsupportedArguments member) := by
  intro refused
  rcases onWire_fails refused with ofWire | ⟨method, args, k, called, unsupported, -⟩
  · cases ofWire
  · obtain ⟨party, inquiry⟩ := request
    cases called
    rw [Request.body?_of_isDeclared declared] at unsupported
    cases unsupported

end

/-! ## Replies -/

/-- Whether a reply is of the type that a kind stands for; anything is, where none is declared. -/
def Kind.accepts (k : Kind) (b : Body) : Prop :=
  k.signature = none ∨ b.map Datum.signature = k.signature

/-- Every kind has a type that data of their own shape have. -/
theorem Kind.mem_shapedTypes {k : Kind} {type : String} (typed : k.signature = some type) :
    type ∈ shapedTypes := by
  cases k <;> cases typed <;> decide

theorem Body.read?_of_signature {k : Kind} {d : Datum} (typed : some d.signature = k.signature) :
    ∃ v : k.Carrier, Body.read? k (some d) = some (k.value v) ∧
      Body.ofValue (k.value v) = some d := by
  cases d with
  | other o => exact absurd (Kind.mem_shapedTypes typed.symm) o.unshaped
  | _ =>
    cases k <;>
      first | exact ⟨_, rfl, rfl⟩ | simp [Datum.signature, Kind.signature] at typed

/-- Nothing but a text can hold what cannot be sent. -/
theorem Body.isSendable_ofValue {k : Kind} (plain : k ≠ .str) (v : k.Carrier) (d : Datum)
    (held : Body.ofValue (k.value v) = some d) : d.isSendable = true := by
  cases k with
  | str => exact absurd rfl plain
  | unit => cases held
  | _ =>
    cases held
    rfl

/-- A reply of the type that a kind stands for is read as it is. -/
theorem Body.read?_of_accepts {k : Kind} {b : Body} (accepts : k.accepts b) (plain : k ≠ .str) :
    ∃ v : k.Carrier, Body.read? k (b.filter Datum.isSendable) = some (k.value v) ∧
      (k ≠ .unit → Body.ofValue (k.value v) = b) := by
  rcases Decidable.em (k = .unit) with rfl | typed
  · exact ⟨(), rfl, fun other => absurd rfl other⟩
  have declared : k.signature ≠ none := fun none => typed (Kind.signature_injective none)
  have same := accepts.resolve_left declared
  cases b with
  | none => exact absurd same.symm declared
  | some d =>
    obtain ⟨v, read, held⟩ := read?_of_signature same
    have sendable : (some d).filter Datum.isSendable = some d :=
      Option.filter_some_pos (isSendable_ofValue plain v d held)
    exact ⟨v, by rw [sendable, read], fun _ => held⟩

namespace Conversation

variable {peer : Peer} {stations : Party → Except String Station} {talk : Conversation}
  {party : Party} {method : String} {args : List Arg} {k : Kind} {b : Body}

/-- What is read of the body that answers a call is what the call comes to. -/
theorem call_of_read (meets : talk.Meets peer stations ⟨party, .call method args k⟩ (.body b))
    {v : k.Carrier} (read : Body.read? k (b.filter Datum.isSendable) = some (k.value v)) :
    (talk.call party k method args).1 = .ok v := by
  rw [meets.call_fst]
  simp only [Response.answer, read, Except.bind, k.replyTo_value]

/-- A call that is answered with a body of the declared type has a valid reply, which carries the
value in the body. -/
theorem call_of_accepts (plain : k ≠ .str)
    (meets : talk.Meets peer stations ⟨party, .call method args k⟩ (.body b))
    (accepts : k.accepts b) :
    ∃ v, (talk.call party k method args).1 = .ok v ∧
      (k ≠ .unit → Body.ofValue (k.value v) = b) := by
  obtain ⟨v, read, held⟩ := Body.read?_of_accepts accepts plain
  exact ⟨v, call_of_read meets read, held⟩

end Conversation

/-! ## What operations give back -/

/-- The value that an operation gives back, if it gives one. -/
def Outcome.value? : Outcome → Option Value
  | .reply k (.ok v) => some (k.value v)
  | .flag b => some (.bool b)
  | _ => none

namespace Session

variable {σ : Type}

/-- Of the calls that an operation makes, the one whose reply it gives back, and what it asks
before: the first call of a start, and the last of the others that give back a reply to a call. -/
def reported (s : Session σ) (op : Op) : Option (List Request × Request) :=
  match op with
  | .start | .startWith _ => (s.requests op).head?.map fun request => ([], request)
  | .stop | .stopWith _ | .release | .sendInterval _ _ | .sendBufferInterval _ _
  | .sendBufferSize _ _ | .sendStandbyOverride _ _ | .setStandbyOverride _ | .availableDataRanges
  | .currentDataRange | .requestDataRange _ | .removeDataRangeRequest | .availableIntervals
  | .availableBufferIntervals | .availableBufferSizes | .hwBuffering =>
    (s.requests op).getLast?.map fun request => ((s.requests op).dropLast, request)
  | _ => none

variable {s : Session σ} {op : Op} {before : List Request} {party : Party} {method : String}
  {args : List Arg} {k : Kind}

theorem release_fst (held : s.released = false) :
    s.release.1 = Reply.valueOrDefault ((s.talk.after [.property "id"]).call .manager .bool
      "releaseSensor" [.str (Reply.valueOrDefault (s.property .str "id").1), .int s.id,
        .long s.process]).1 := by
  simp only [release, held, Bool.false_eq_true, if_false]
  rfl

/-- An operation gives back the reply to the call it reports. -/
theorem value?_of_replied
    (reported : s.reported op = some (before, ⟨party, .call method args k⟩)) {v : k.Carrier}
    (replied : ((s.talk.after before).call party k method args).1 = .ok v) :
    (s.perform op).1.value? = some (k.value v) := by
  cases op with
  | start | startWith =>
    dsimp only [Session.reported, requests] at reported
    cases running : s.running with
    | true => simp [running] at reported
    | false =>
      rw [running] at reported
      cases reported
      rw [Conversation.after_nil, ← startWith_fst _ running] at replied
      exact congrArg (fun reply => (Outcome.reply .unit reply).value?) replied
  | stop | stopWith =>
    dsimp only [Session.reported, requests] at reported
    cases running : s.running with
    | false => simp [running] at reported
    | true =>
      rw [running] at reported
      cases reported
      exact congrArg (fun reply => (Outcome.reply .unit reply).value?)
        ((stopWith_fst _ running).trans replied)
  | release =>
    dsimp only [Session.reported, requests] at reported
    cases released : s.released with
    | true => simp [released] at reported
    | false =>
      rw [released] at reported
      cases reported
      have taken := (release_fst released).trans (congrArg Reply.valueOrDefault replied)
      exact congrArg (fun taken => (Outcome.flag taken).value?) taken
  | setStandbyOverride value =>
    cases reported
    change ((s.talk.after []).call _ _ _ _).1 = _ at replied
    rw [Conversation.after_nil] at replied
    exact congrArg (fun reply => (Outcome.flag (Reply.valueOrDefault reply)).value?) replied
  | sendInterval | sendBufferInterval | sendBufferSize | sendStandbyOverride | availableDataRanges
  | currentDataRange | requestDataRange | removeDataRangeRequest | availableIntervals
  | availableBufferIntervals | availableBufferSizes | hwBuffering =>
    cases reported
    change ((s.talk.after []).call _ _ _ _).1 = _ at replied
    rw [Conversation.after_nil] at replied
    exact congrArg (fun reply => (Outcome.reply _ reply).value?) replied
  | _ => cases reported

/-- The call that an operation reports is one that it makes. -/
theorem requests_of_reported {request : Request}
    (reported : s.reported op = some (before, request)) :
    ∃ after, s.requests op = before ++ request :: after := by
  cases op with
  | start | startWith =>
    dsimp only [Session.reported] at reported
    obtain ⟨first, found, same⟩ := Option.map_eq_some_iff.mp reported
    cases same
    exact List.head?_eq_some_iff.mp found
  | stop | stopWith | release | sendInterval | sendBufferInterval | sendBufferSize
  | sendStandbyOverride | setStandbyOverride | availableDataRanges | currentDataRange
  | requestDataRange | removeDataRangeRequest | availableIntervals | availableBufferIntervals
  | availableBufferSizes | hwBuffering =>
    dsimp only [Session.reported] at reported
    obtain ⟨last, found, same⟩ := Option.map_eq_some_iff.mp reported
    cases same
    obtain ⟨before, made⟩ := List.getLast?_eq_some_iff.mp found
    exact ⟨[], by rw [made, List.dropLast_concat]⟩
  | _ => cases reported

/-- An operation that gives back a reply and makes a call reports one. -/
theorem isSome_reported {reply : Reply k.Carrier} (gives : (s.perform op).1 = .reply k reply)
    (calls : ∃ party method args k, ⟨party, .call method args k⟩ ∈ s.requests op) :
    (s.reported op).isSome = true := by
  obtain ⟨party, method, args, k, made⟩ := calls
  have some : s.requests op ≠ [] := List.ne_nil_of_mem made
  cases op with
  | start | startWith =>
    dsimp only [Session.reported]
    rw [Option.isSome_map, List.isSome_head?]
    exact some
  | stop | stopWith | release | sendInterval | sendBufferInterval | sendBufferSize
  | sendStandbyOverride | setStandbyOverride | availableDataRanges | currentDataRange
  | requestDataRange | removeDataRangeRequest | availableIntervals | availableBufferIntervals
  | availableBufferSizes | hwBuffering =>
    dsimp only [Session.reported]
    rw [Option.isSome_map, List.getLast?_isSome]
    exact some
  | interval | bufferInterval | bufferSize | standbyOverride =>
    dsimp only [requests] at made
    split at made <;> simp [Request.property] at made
  | description | sensorName | sensorType => simp [requests, Request.property] at made
  | _ => cases gives

end Session

/-! ## What is asked of the manager -/

/-- What a client asks of the manager. -/
inductive ManagerOp where
  | loadPlugin (sensor : String)
  | requestSensor (process : Int64) (sensor : String)
  | release (process : Int64) (sensor : String) (id : Int32)
deriving DecidableEq, Repr

namespace ManagerOp

/-- What asking the manager gives back, and the conversation after it. -/
def perform (talk : Conversation) : ManagerOp → Outcome × Conversation
  | loadPlugin sensor =>
    let (reply, talk) := Manager.loadPlugin talk sensor
    (.reply .bool reply, talk)
  | requestSensor process sensor =>
    let (reply, talk) := Manager.requestSensor talk process sensor
    (.reply .int reply, talk)
  | release process sensor id =>
    let (taken, talk) := Manager.release talk process sensor id
    (.flag taken, talk)

/-- The method that is called. -/
def method : ManagerOp → String
  | loadPlugin _ => "loadPlugin"
  | requestSensor _ _ => "requestSensor"
  | release _ _ _ => "releaseSensor"

/-- The arguments of the call. -/
def args : ManagerOp → List Arg
  | loadPlugin sensor => [.str sensor]
  | requestSensor process sensor => [.str sensor, .long process]
  | release process sensor id => [.str sensor, .int id, .long process]

/-- The kind of reply that is wanted. -/
def kind : ManagerOp → Kind
  | requestSensor _ _ => .int
  | _ => .bool

/-- The call to the manager. -/
def request (op : ManagerOp) : Request := ⟨.manager, .call op.method op.args op.kind⟩

theorem perform_snd (talk : Conversation) (op : ManagerOp) :
    (op.perform talk).2 = talk.after [op.request] := by
  cases op <;> rfl

theorem isDeclared_request (op : ManagerOp) : op.request.isDeclared = true := by
  cases op <;> rfl

/-- Asking the manager gives back the reply to the call. -/
theorem value?_of_replied {talk : Conversation} {op : ManagerOp} {v : op.kind.Carrier}
    (replied : (talk.call .manager op.kind op.method op.args).1 = .ok v) :
    (op.perform talk).1.value? = some (op.kind.value v) := by
  cases op with
  | loadPlugin | requestSensor =>
    exact congrArg (fun reply => (Outcome.reply _ reply).value?) replied
  | release =>
    exact congrArg (fun reply => (Outcome.flag (Reply.valueOrDefault reply)).value?) replied

end ManagerOp

/-! ## Calls and replies -/

section

variable {peer : Peer} {stations : Party → Except String Station} {party : Party}
  {method : String} {args : List Arg} {k : Kind}

/-- A call fits the daemon: it is declared with arguments of these types, its message holds the
arguments in order, it is not refused for them, and a reply of the declared type is read as it
is. -/
structure Request.Fits (peer : Peer) (stations : Party → Except String Station) (party : Party)
    (method : String) (args : List Arg) (k : Kind) : Prop where
  declared : ⟨method, signatures args, k.signature⟩ ∈ party.declares
  body : body? args = some (args.map Datum.ofArg)
  sent : ∀ station, stations party = .ok station →
    (args.map Datum.ofArg).all Datum.isSendable = true →
    message? stations ⟨party, .call method args k⟩ =
      some (station.call method (args.map Datum.ofArg))
  supported : ∀ past member, (Bus.onWire peer stations).answer past ⟨party, .call method args k⟩ ≠
    .error (.unsupportedArguments member)
  answered : ∀ talk b,
    Conversation.Meets talk peer stations ⟨party, .call method args k⟩ (.body b) → k.accepts b →
    ∃ v, (talk.call party k method args).1 = .ok v ∧
      (k ≠ .unit → Body.ofValue (k.value v) = b)

theorem Request.fits (peer : Peer) (stations : Party → Except String Station)
    (declared : (⟨party, .call method args k⟩ : Request).isDeclared = true) :
    Fits peer stations party method args k := by
  obtain ⟨-, member, plain⟩ := party.declares_sendable _ (mem_declares declared)
  have body := body?_of_isDeclared declared
  refine ⟨mem_declares declared, body, fun station found sendable => ?_,
    fun _ => Bus.onWire_supports declared, fun talk b meets accepts => ?_⟩
  · exact message?_call found k member body sendable
  · exact Conversation.call_of_accepts (fun text => plain (by rw [text]; rfl)) meets accepts

/-- Every call of a session and of the manager is one that the daemon declares, with arguments of
the declared types, and is never refused for them. Where the other side answers with a body of the
declared type, or with anything at all where none is declared, the operation gives back the value
in the body. -/
theorem calls_fit_interface (peer : Peer) (stations : Party → Except String Station) {σ : Type}
    (s : Session σ) (op : Op) (talk : Conversation) (asked : ManagerOp) :
    ((s.perform op).2.talk = s.talk.after (s.requests op) ∧
      (∀ party method args k, ⟨party, .call method args k⟩ ∈ s.requests op →
        Request.Fits peer stations party method args k) ∧
      (∀ k reply, (s.perform op).1 = .reply k reply →
        (∃ party method args k, ⟨party, .call method args k⟩ ∈ s.requests op) →
        (s.reported op).isSome = true) ∧
      ∀ before party method args k, s.reported op = some (before, ⟨party, .call method args k⟩) →
        (∃ after, s.requests op = before ++ ⟨party, .call method args k⟩ :: after) ∧
        ∀ b, (s.talk.after before).Meets peer stations ⟨party, .call method args k⟩ (.body b) →
          k.accepts b →
          ∃ v, (s.perform op).1.value? = some (k.value v) ∧
            (k ≠ .unit → Body.ofValue (k.value v) = b)) ∧
    ((asked.perform talk).2 = talk.after [asked.request] ∧
      Request.Fits peer stations .manager asked.method asked.args asked.kind ∧
      ∀ b, talk.Meets peer stations asked.request (.body b) → asked.kind.accepts b →
        ∃ v, (asked.perform talk).1.value? = some (asked.kind.value v) ∧
          Body.ofValue (asked.kind.value v) = b) := by
  have fits : ∀ {party method args k}, ⟨party, .call method args k⟩ ∈ s.requests op →
      Request.Fits peer stations party method args k := fun made =>
    Request.fits peer stations (s.isDeclared_requests op _ made)
  have fit := Request.fits peer stations asked.isDeclared_request
  refine ⟨⟨s.talk_perform op, fun _ _ _ _ => fits, fun k reply gives => s.isSome_reported gives,
    fun before party method args k reported => ?_⟩, asked.perform_snd talk, fit,
    fun b meets accepts => ?_⟩
  · obtain ⟨after, made⟩ := Session.requests_of_reported reported
    refine ⟨⟨after, made⟩, fun b meets accepts => ?_⟩
    have call : ⟨party, .call method args k⟩ ∈ s.requests op := by simp [made]
    obtain ⟨v, replied, held⟩ := (fits call).answered _ b meets accepts
    exact ⟨v, Session.value?_of_replied reported replied, held⟩
  · obtain ⟨v, replied, held⟩ := fit.answered talk b meets accepts
    refine ⟨v, ManagerOp.value?_of_replied replied, held ?_⟩
    cases asked <;> exact nofun

end

/-! ## A daemon that answers -/

/-- A peer that says that the sensor has a buffer, and grants session 7. -/
def Peer.answering : Peer :=
  .scripted ⟨[("hwBuffering", [.body (some (.bool true))]),
    ("requestSensor", [.body (some (.int32 7))])], []⟩

/-- A session whose control goes over a wire to that peer. -/
def Session.answered : Session Unit :=
  overLink "/SensorManager/alssensor" (.begin (.onWire .answering lightStations))
    .initial (.fresh 0 [6]) (.fixed "local.ALSSensor" 4 fun _ _ => ()) () 7 4242

theorem calls_fit_interface_answered :
    (Session.answered.perform .hwBuffering).1.value? = some (.bool true) ∧
      Request.Fits .answering lightStations .channel "hwBuffering" [] .bool ∧
      ((ManagerOp.requestSensor 4242 "alssensor").perform Session.answered.talk).1.value? =
        some (.int 7) := by
  obtain ⟨⟨-, fits, -, gives⟩, -, -, asked⟩ := calls_fit_interface .answering lightStations
    .answered .hwBuffering Session.answered.talk (.requestSensor 4242 "alssensor")
  obtain ⟨-, given⟩ := gives [] .channel "hwBuffering" [] .bool rfl
  obtain ⟨buffered, read, held⟩ := given (some (.bool true)) ⟨rfl, rfl, _, rfl, rfl⟩ (.inr rfl)
  obtain ⟨id, granted, number⟩ := asked (some (.int32 7)) ⟨rfl, rfl, _, rfl, rfl⟩ (.inr rfl)
  refine ⟨?_, fits _ _ _ _ (List.mem_singleton_self _), ?_⟩
  · cases held nofun
    exact read
  · cases number
    exact granted

end SensorClient
