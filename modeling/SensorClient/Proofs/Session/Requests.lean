import SensorClient.Session.Operation

/-!
# The requests of an operation

What an operation asks of the bus follows from the configuration, the flags and the number of the
session. Two operations also listen: a release names the sensor as the daemon does, and the choice
of a data range looks at the ranges on offer. Every operation extends the conversation by its
requests and does nothing else to it.

## Main definitions

* `Conversation.after`: a conversation after further requests
* `Session.requests`: the requests of an operation

## Main results

* `startWith_snd`, `stopWith_snd`, `release_snd`, `setDataRangeIndex_snd`: the session after the
  operations that make several requests
* `talk_perform`, `log_step`: an operation, and an event, makes its requests, in order, and no
  others
-/

namespace SensorClient

namespace Conversation

/-- The conversation after further requests, whatever is answered to them. -/
def after (talk : Conversation) (requests : List Request) : Conversation :=
  { talk with log := talk.log ++ requests }

@[simp] theorem log_after (talk : Conversation) (requests : List Request) :
    (talk.after requests).log = talk.log ++ requests := rfl

@[simp] theorem after_nil (talk : Conversation) : talk.after [] = talk := by
  simp [after]

@[simp] theorem after_after (talk : Conversation) (requests more : List Request) :
    (talk.after requests).after more = talk.after (requests ++ more) := by
  simp [after]

@[simp] theorem call_snd (talk : Conversation) (party : Party) (k : Kind) (method : String)
    (args : List Arg) :
    (talk.call party k method args).2 = talk.after [⟨party, .call method args k⟩] := rfl

@[simp] theorem property_snd (talk : Conversation) (party : Party) (k : Kind) (name : String) :
    (talk.property party k name).2 = talk.after [⟨party, .property name⟩] := rfl

end Conversation

namespace Request

/-- A call of a method of the channel. -/
def call (k : Kind) (method : String) (args : List Arg) : Request :=
  ⟨.channel, .call method args k⟩

/-- A read of a property of the channel. -/
def property (name : String) : Request := ⟨.channel, .property name⟩

/-- The call that sends a sampling interval. -/
def setInterval (id value : Int32) : Request := call .unit "setInterval" [.int id, .int value]

/-- The call that sends a buffer interval. -/
def setBufferInterval (id : Int32) (value : UInt32) : Request :=
  call .unit "setBufferInterval" [.int id, .uint value]

/-- The call that sends a buffer size. -/
def setBufferSize (id : Int32) (value : UInt32) : Request :=
  call .unit "setBufferSize" [.int id, .uint value]

/-- The call that sends whether the sensor stays on while the display is off. -/
def setStandbyOverride (id : Int32) (value : Bool) : Request :=
  call .bool "setStandbyOverride" [.int id, .bool value]

/-- The calls of a start: the start itself, and then the configuration. -/
def start (id : Int32) (wanted : Desired) : List Request :=
  call .unit "start" [.int id] ::
    ((if wanted.standbyOverride then [setStandbyOverride id true] else []) ++
      [setInterval id wanted.interval, setBufferInterval id wanted.bufferInterval,
        setBufferSize id wanted.bufferSize])

/-- The calls of a stop. -/
def stop (id : Int32) : List Request :=
  [setStandbyOverride id false, setInterval id 0, call .unit "stop" [.int id]]

end Request

namespace Session

variable {σ : Type}

/-! ## The session after each of its requests -/

theorem call_snd (s : Session σ) (k : Kind) (method : String) (args : List Arg) :
    (s.call k method args).2 = { s with talk := s.talk.after [.call k method args] } := rfl

theorem property_snd (s : Session σ) (k : Kind) (name : String) :
    (s.property k name).2 = { s with talk := s.talk.after [.property name] } := rfl

/-- A setting that is sent clears the local error and makes one request. -/
theorem sendInterval_snd (s : Session σ) (id value : Int32) :
    (s.sendInterval id value).2 =
      { s with error := .clear, talk := s.talk.after [.setInterval id value] } := rfl

@[inherit_doc sendInterval_snd]
theorem sendBufferInterval_snd (s : Session σ) (id : Int32) (value : UInt32) :
    (s.sendBufferInterval id value).2 =
      { s with error := .clear, talk := s.talk.after [.setBufferInterval id value] } := rfl

@[inherit_doc sendInterval_snd]
theorem sendBufferSize_snd (s : Session σ) (id : Int32) (value : UInt32) :
    (s.sendBufferSize id value).2 =
      { s with error := .clear, talk := s.talk.after [.setBufferSize id value] } := rfl

@[inherit_doc sendInterval_snd]
theorem sendStandbyOverride_snd (s : Session σ) (id : Int32) (value : Bool) :
    (s.sendStandbyOverride id value).2 =
      { s with error := .clear, talk := s.talk.after [.setStandbyOverride id value] } := rfl

/-- A start that takes effect leaves the session running and subscribed, whatever is answered. -/
theorem startWith_snd (s : Session σ) (id : Int32) (stopped : s.running = false) :
    (s.startWith id).2 =
      { s with
        error := .clear, running := true, reader := s.reader.subscribe
        talk := s.talk.after (Request.start id s.desired) } := by
  cases wanted : s.desired.standbyOverride <;>
    simp [startWith, stopped, wanted, clearError, call_snd, sendStandbyOverride_snd,
      sendInterval_snd, sendBufferInterval_snd, sendBufferSize_snd, Request.start]

theorem startWith_of_running (s : Session σ) (id : Int32) (running : s.running = true) :
    s.startWith id = (.ok (), s) := by
  simp [startWith, running]

/-- A stop that takes effect leaves the session stopped and unsubscribed, whatever is answered. -/
theorem stopWith_snd (s : Session σ) (id : Int32) (running : s.running = true) :
    (s.stopWith id).2 =
      { s with
        error := .clear, running := false, reader := s.reader.unsubscribe
        talk := s.talk.after (Request.stop id) } := by
  simp [stopWith, running, clearError, call_snd, sendStandbyOverride_snd, sendInterval_snd,
    Request.stop]

theorem stopWith_of_stopped (s : Session σ) (id : Int32) (stopped : s.running = false) :
    s.stopWith id = (.ok (), s) := by
  simp [stopWith, stopped]

/-- A start gives back the reply to its first call. -/
theorem startWith_fst {s : Session σ} (id : Int32) (stopped : s.running = false) :
    (s.startWith id).1 = (s.talk.call .channel .unit "start" [.int id]).1 := by
  simp only [startWith, stopped, Bool.false_eq_true, if_false]
  rfl

/-- A stop gives back the reply to its last call. -/
theorem stopWith_fst {s : Session σ} (id : Int32) (running : s.running = true) :
    (s.stopWith id).1 = ((s.talk.after [.setStandbyOverride id false, .setInterval id 0]).call
      .channel .unit "stop" [.int id]).1 := by
  have asked := s.talk.after_after [.setStandbyOverride id false] [.setInterval id 0]
  rw [List.singleton_append] at asked
  simp only [stopWith, running, Bool.not_true, Bool.false_eq_true, if_false]
  rw [← asked]
  rfl

/-- The requests of the first release: the name of the sensor is read and told to the manager. -/
def releaseRequests (s : Session σ) : List Request :=
  [.property "id", ⟨.manager, .call "releaseSensor"
    [.str (Reply.valueOrDefault (s.property .str "id").1), .int s.id, .long s.process] .bool⟩]

theorem release_snd (s : Session σ) (held : s.released = false) :
    s.release.2 = { s with released := true, talk := s.talk.after s.releaseRequests } := by
  simp [release, held, property, Manager.release, releaseRequests, Request.property]

theorem release_of_released (s : Session σ) (released : s.released = true) :
    s.release = (true, s) := by
  simp [release, released]

/-- The data range at a place in a list. -/
def rangeAt (ranges : List DataRange) (index : Int32) : Option DataRange :=
  if index.toInt < 0 then none else ranges[index.toInt.toNat]?

/-- The data ranges that the daemon offers after it was told to select one. -/
def offeredRanges (s : Session σ) (index : Int32) : List DataRange :=
  Reply.valueOrDefault
    (s.clearError.call .unit "setDataRangeIndex" [.int s.id, .int index]).2.availableDataRanges.1

/-- The requests of a selection of a data range: the range in use is asked for only if there is
one at the place. -/
def selectRequests (s : Session σ) (index : Int32) : List Request :=
  [.call .unit "setDataRangeIndex" [.int s.id, .int index],
    .call .ranges "getAvailableDataRanges" []] ++
  if (rangeAt (s.offeredRanges index) index).isSome then [.call .range "getCurrentDataRange" []]
  else []

theorem setDataRangeIndex_snd (s : Session σ) (index : Int32) :
    (s.setDataRangeIndex index).2 =
      { s with error := .clear, talk := s.talk.after (s.selectRequests index) } := by
  cases wanted : rangeAt (s.offeredRanges index) index with
  | none =>
    unfold rangeAt offeredRanges at wanted
    simp only [setDataRangeIndex, wanted, selectRequests, rangeAt, offeredRanges]
    simp [call_snd, availableDataRanges, clearError]
  | some range =>
    unfold rangeAt offeredRanges at wanted
    simp only [setDataRangeIndex, wanted, selectRequests, rangeAt, offeredRanges]
    simp [call_snd, availableDataRanges, currentDataRange, clearError]

/-! ## The requests of each operation -/

/-- The requests of an operation, in order. -/
def requests (s : Session σ) : Op → List Request
  | .start => if s.running then [] else Request.start s.id s.desired
  | .startWith id => if s.running then [] else Request.start id s.desired
  | .stop => if s.running then Request.stop s.id else []
  | .stopWith id => if s.running then Request.stop id else []
  | .release => if s.released then [] else s.releaseRequests
  | .sendInterval id value => [.setInterval id value]
  | .sendBufferInterval id value => [.setBufferInterval id value]
  | .sendBufferSize id value => [.setBufferSize id value]
  | .sendStandbyOverride id value => [.setStandbyOverride id value]
  | .setInterval value => if s.running then [.setInterval s.id value] else []
  | .setBufferInterval value => if s.running then [] else [.setBufferInterval s.id value]
  | .setBufferSize value => if s.running then [] else [.setBufferSize s.id value]
  | .setStandbyOverride value => [.setStandbyOverride s.id value]
  | .interval => if s.running then [.property "interval"] else []
  | .bufferInterval => if s.running then [.property "bufferInterval"] else []
  | .bufferSize => if s.running then [.property "bufferSize"] else []
  | .standbyOverride => if s.running then [.property "standbyOverride"] else []
  | .description => [.property "description"]
  | .sensorName => [.property "id"]
  | .sensorType => [.property "type"]
  | .availableDataRanges => [.call .ranges "getAvailableDataRanges" []]
  | .currentDataRange => [.call .range "getCurrentDataRange" []]
  | .requestDataRange range => [.call .unit "requestDataRange" [.int s.id, .range range]]
  | .removeDataRangeRequest => [.call .unit "removeDataRangeRequest" [.int s.id]]
  | .setDataRangeIndex index => s.selectRequests index
  | .availableIntervals => [.call .ranges "getAvailableIntervals" []]
  | .availableBufferIntervals => [.call .integerRanges "getAvailableBufferIntervals" []]
  | .availableBufferSizes => [.call .integerRanges "getAvailableBufferSizes" []]
  | .hwBuffering => [.call .bool "hwBuffering" []]
  | .errorCode => if s.error.isSet then [] else [.property "errorCodeInt"]
  | .errorString => if s.error.isSet then [] else [.property "errorString"]
  | .sessionId | .setError _ _ | .clearError | .addListener => []
  | .read _ | .bytesAvailable | .dataReceived | .processEvents _ => []

theorem talk_effective (s : Session σ) (k : Kind) (name : String) (wanted : k.Carrier) :
    (s.effective k name wanted).2.talk =
      s.talk.after (if s.running then [.property name] else []) := by
  cases running : s.running <;> simp [effective, running, property_snd]

theorem talk_startWith (s : Session σ) (id : Int32) :
    (s.startWith id).2.talk =
      s.talk.after (if s.running then [] else Request.start id s.desired) := by
  cases running : s.running with
  | false => simp [startWith_snd s id running]
  | true => simp [startWith_of_running s id running]

theorem talk_stopWith (s : Session σ) (id : Int32) :
    (s.stopWith id).2.talk = s.talk.after (if s.running then Request.stop id else []) := by
  cases running : s.running with
  | false => simp [stopWith_of_stopped s id running]
  | true => simp [stopWith_snd s id running]

/-- Waiting for samples is no request. -/
theorem talk_processEvents (s : Session σ) (limit : Option Duration) :
    (s.processEvents limit).2.talk = s.talk := by
  unfold processEvents
  split
  · rfl
  · split <;> rfl

/-- An operation makes its requests, in order, and no others. -/
theorem talk_perform (s : Session σ) (op : Op) :
    (s.perform op).2.talk = s.talk.after (s.requests op) := by
  cases op with
  | start => exact s.talk_startWith s.id
  | startWith id => exact s.talk_startWith id
  | stop => exact s.talk_stopWith s.id
  | stopWith id => exact s.talk_stopWith id
  | release =>
    cases released : s.released with
    | false => simp [perform, giving, requests, released, release_snd]
    | true => simp [perform, giving, requests, released, release_of_released]
  | setInterval value | setBufferInterval value | setBufferSize value =>
    cases running : s.running <;>
      simp [perform, requests, running, Session.setInterval, Session.setBufferInterval,
        Session.setBufferSize, sendInterval_snd, sendBufferInterval_snd, sendBufferSize_snd]
  | interval | bufferInterval | bufferSize | standbyOverride => exact s.talk_effective _ _ _
  -- The only requests that depend on an answer are those of a selection and of a release.
  | setDataRangeIndex index => exact congrArg Session.talk (s.setDataRangeIndex_snd index)
  | errorCode | errorString =>
    cases set : s.error.isSet <;>
      simp [perform, giving, requests, set, Session.errorCode, Session.errorString, property_snd]
  | processEvents limit => simpa [perform, giving, requests] using s.talk_processEvents limit
  | sessionId | setError | clearError | addListener | read | bytesAvailable | dataReceived =>
    exact s.talk.after_nil.symm
  | _ => rfl

/-! ## The requests of a run -/

/-- The requests that an event gives rise to. -/
def requestsOn (s : Session σ) : Event → List Request
  | .op op => s.requests op
  | _ => []

theorem talk_step (s : Session σ) (e : Event) :
    (s.step e).talk = s.talk.after (s.requestsOn e) := by
  cases e with
  | op op => exact s.talk_perform op
  | _ => exact s.talk.after_nil.symm

theorem log_step (s : Session σ) (e : Event) :
    (s.step e).talk.log = s.talk.log ++ s.requestsOn e := by
  rw [talk_step, Conversation.log_after]

@[simp] theorem run_snoc (s : Session σ) (events : List Event) (e : Event) :
    s.run (events ++ [e]) = (s.run events).step e := by
  simp [run]

end Session

end SensorClient
