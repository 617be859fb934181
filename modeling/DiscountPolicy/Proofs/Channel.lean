import DiscountPolicy.Channel

/-! The status of a channel and what its transport did. The calls that were made, with how they ended,
tell whether the channel is open and which room was joined. Whatever is asked of a channel, and
whatever the transport does with the calls, each call is made when it can be, and the status is the
one that the calls tell. -/

namespace DiscountPolicy

/-- The call can be made: to open a channel that is closed, to join a room or to close a channel that
is open. -/
def Call.fits (isOpen : Bool) : Call → Bool
  | .open .. => !isOpen
  | .join _ | .close => isOpen

/-- The status after a call that failed: a join that fails leaves the status before it. -/
def Call.statusIfFailed (before : Status) : Call → Status
  | .join _ => before
  | .open .. | .close => .disconnected

theorem Status.isConnected_eq_false_iff {status : Status} :
    status.isConnected = false ↔ status = .disconnected := by
  cases status <;> simp [isConnected]

theorem Status.isConnected_iff {status : Status} :
    status.isConnected = true ↔ status ≠ .disconnected := by
  cases status <;> simp [isConnected]

namespace Channel

open Status (isConnected_eq_false_iff isConnected_iff)

variable {c : Channel} {transport : Transport} {events : List Event}

/-! ### What calls tell -/

/-- An open that is done. -/
def Event.opens : Event → Bool
  | ⟨.open .., true⟩ => true
  | _ => false

/-- A close, done or failed. -/
def Event.closes : Event → Bool
  | ⟨.close, _⟩ => true
  | _ => false

/-- The room of a join that is done. -/
def Event.room? : Event → Option String
  | ⟨.join room, true⟩ => some room
  | _ => none

/-- Whether a closed channel is open after the calls. An open that is done opens it, and a close
closes it even if it fails. -/
def isOpenAfter (events : List Event) : Bool :=
  events.foldl (fun isOpen e => e.opens || (isOpen && !e.closes)) false

/-- The room of the last join that was done since the last open that was done. -/
def roomAfter? (events : List Event) : Option String :=
  (events.reverse.takeWhile (!·.opens)).findSome? Event.room?

/-- Every call was made when it could be. -/
def Lawful (events : List Event) : Prop :=
  ∀ before e after, events = before ++ e :: after → e.call.fits (isOpenAfter before) = true

/-- The status that the calls tell. -/
def statusAfter (events : List Event) : Status :=
  match isOpenAfter events, roomAfter? events with
  | false, _ => .disconnected
  | true, none => .connected
  | true, some room => .joined room

theorem isConnected_statusAfter (events : List Event) :
    (statusAfter events).isConnected = isOpenAfter events := by
  rw [statusAfter]
  cases isOpenAfter events with
  | false => rfl
  | true => cases roomAfter? events <;> rfl

@[simp] theorem isOpenAfter_snoc (events : List Event) (e : Event) :
    isOpenAfter (events ++ [e]) = (e.opens || (isOpenAfter events && !e.closes)) := by
  simp [isOpenAfter]

@[simp] theorem roomAfter?_snoc (events : List Event) (e : Event) :
    roomAfter? (events ++ [e]) = if e.opens then none else e.room?.or (roomAfter? events) := by
  cases h : e.opens <;> cases hr : e.room? <;> simp [roomAfter?, h, hr]

theorem Lawful.snoc (h : Lawful events) {e : Event}
    (he : e.call.fits (isOpenAfter events) = true) : Lawful (events ++ [e]) := by
  intro before e' after hsplit
  rcases List.eq_nil_or_concat after with rfl | ⟨after, last, rfl⟩
  · obtain ⟨rfl, ⟨⟩⟩ := List.append_inj' hsplit rfl
    exact he
  · rw [List.concat_eq_append, ← List.cons_append, ← List.append_assoc] at hsplit
    exact h before e' after (List.append_inj' hsplit rfl).1

/-! #### One more call -/

@[simp] theorem statusAfter_open (url : String) (token : Option String) :
    statusAfter (events ++ [⟨.open url token, true⟩]) = .connected := by
  simp [statusAfter, Event.opens]

@[simp] theorem statusAfter_close (done : Bool) :
    statusAfter (events ++ [⟨.close, done⟩]) = .disconnected := by
  simp [statusAfter, Event.opens, Event.closes]

theorem statusAfter_join (h : isOpenAfter events = true) (room : String) :
    statusAfter (events ++ [⟨.join room, true⟩]) = .joined room := by
  simp [statusAfter, Event.opens, Event.closes, Event.room?, h]

theorem statusAfter_failed {call : Call} (h : call ≠ .close) :
    statusAfter (events ++ [⟨call, false⟩]) = statusAfter events := by
  cases call with
  | close => exact absurd rfl h
  | _ => simp [statusAfter, Event.opens, Event.closes, Event.room?]

/-! ### One operation -/

/-- All that an operation of one call can bring. -/
theorem perform_cases (c : Channel) (transport : Transport) (call : Call) (done failed : Status) :
    (transport call = .ok () ∧ c.perform transport call done failed =
      ⟨.ok done, { c with status := done }, [⟨call, true⟩]⟩) ∨
    ∃ text, transport call = .error text ∧ c.perform transport call done failed =
      ⟨.error (.transport text), { c with status := failed }, [⟨call, false⟩]⟩ := by
  rw [perform]
  cases transport call with
  | ok _ => exact .inl ⟨rfl, rfl⟩
  | error text => exact .inr ⟨text, rfl, rfl⟩

theorem calls_perform (c : Channel) (transport : Transport) (call : Call) (done failed : Status) :
    (c.perform transport call done failed).events.map (·.call) = [call] := by
  rcases c.perform_cases transport call done failed with ⟨-, ho⟩ | ⟨text, -, ho⟩
  · rw [ho]
    rfl
  · rw [ho]
    rfl

/-! #### What is asked in vain -/

theorem connect_open (transport : Transport) (token : Option String) (h : c.status ≠ .disconnected) :
    c.connect transport token = ⟨.ok c.status, c, []⟩ := by
  rw [connect, if_pos (isConnected_iff.mpr h), idle]

theorem disconnect_closed (transport : Transport) (h : c.status = .disconnected) :
    c.disconnect transport = ⟨.ok .disconnected, c, []⟩ := by
  rw [disconnect, h]
  rfl

theorem exists_join_error (transport : Transport) {room : String}
    (h : c.status = .disconnected ∨ Text.isBlankText room = true) :
    ∃ p, c.join transport room = ⟨.error p, c, []⟩ := by
  rw [join]
  rcases h with hclosed | hblank
  · rw [hclosed]
    exact ⟨_, rfl⟩
  · rw [hblank]
    cases c.status.isConnected with
    | false => exact ⟨_, rfl⟩
    | true => exact ⟨_, rfl⟩

/-! #### What makes its calls -/

theorem calls_connect (token : Option String) (h : c.status = .disconnected) :
    (c.connect transport token).events.map (·.call) = [.open c.url token] := by
  rw [connect, h]
  exact c.calls_perform transport _ _ _

theorem calls_join {room : String} (h : c.status ≠ .disconnected)
    (hroom : Text.isBlankText room = false) :
    (c.join transport room).events.map (·.call) = [.join room] := by
  rw [join, isConnected_iff.mpr h, hroom]
  exact c.calls_perform transport _ _ _

theorem disconnect_open (transport : Transport) (h : c.status ≠ .disconnected) :
    c.disconnect transport = c.perform transport .close .disconnected .disconnected := by
  rw [disconnect, isConnected_iff.mpr h]
  rfl

theorem calls_disconnect (h : c.status ≠ .disconnected) :
    (c.disconnect transport).events.map (·.call) = [.close] := by
  rw [disconnect_open transport h]
  exact c.calls_perform transport _ _ _

theorem calls_reconnect_closed (token : Option String) (h : c.status = .disconnected) :
    (c.reconnect transport token).events.map (·.call) = [.open c.url token] := by
  simp only [reconnect, disconnect_closed transport h, List.nil_append]
  exact calls_connect token h

/-- An open channel is closed first, and opened only if that did not fail. -/
theorem calls_reconnect_open (token : Option String) (h : c.status ≠ .disconnected) :
    let calls := (c.reconnect transport token).events.map (·.call)
    (transport .close = .ok () → calls = [.close, .open c.url token]) ∧
    (∀ text, transport .close = .error text → calls = [.close]) := by
  intro calls
  refine ⟨fun hok => ?_, fun text herror => ?_⟩
  · have hclosed : c.disconnect transport =
        ⟨.ok .disconnected, { c with status := .disconnected }, [⟨.close, true⟩]⟩ := by
      rw [disconnect_open transport h, perform, hok]
    have hopened := @calls_connect { c with status := .disconnected } transport token rfl
    simp only [calls, reconnect, hclosed, List.map_append, hopened]
    rfl
  · have hfailed : c.disconnect transport =
        ⟨.error (.transport text), { c with status := .disconnected }, [⟨.close, false⟩]⟩ := by
      rw [disconnect_open transport h, perform, herror]
    simp only [calls, reconnect, hfailed]
    rfl

/-- The calls that were made were made when they could be, and the status is the one they tell. -/
structure Faithful (c : Channel) (events : List Event) : Prop where
  lawful : Lawful events
  status : c.status = statusAfter events

namespace Faithful

theorem isOpenAfter_eq (h : c.Faithful events) : isOpenAfter events = c.status.isConnected := by
  rw [h.status, isConnected_statusAfter]

/-- An operation of one call keeps a channel faithful if the call can be made, and if the status for
either end of the call is the one that the call tells. -/
theorem perform (h : c.Faithful events) {call : Call} {done failed : Status}
    (hfits : call.fits c.status.isConnected = true)
    (hdone : done = statusAfter (events ++ [⟨call, true⟩]))
    (hfailed : failed = statusAfter (events ++ [⟨call, false⟩])) :
    let o := c.perform transport call done failed
    o.channel.Faithful (events ++ o.events) := by
  have hnext : call.fits (isOpenAfter events) = true := by rw [h.isOpenAfter_eq, hfits]
  rcases c.perform_cases transport call done failed with ⟨-, ho⟩ | ⟨text, -, ho⟩
  · rw [ho]
    exact ⟨h.lawful.snoc hnext, hdone⟩
  · rw [ho]
    exact ⟨h.lawful.snoc hnext, hfailed⟩

theorem idle (h : c.Faithful events) (result : Except Problem Status) :
    (c.idle result).channel.Faithful (events ++ (c.idle result).events) := by
  rw [Channel.idle, List.append_nil]
  exact h

theorem connect (h : c.Faithful events) (token : Option String) :
    (c.connect transport token).channel.Faithful (events ++ (c.connect transport token).events) := by
  rw [Channel.connect]
  split
  · exact h.idle _
  · next hclosed =>
    refine h.perform (by simpa [Call.fits] using hclosed) (statusAfter_open ..).symm ?_
    rw [statusAfter_failed (by simp), h.status]

theorem join (h : c.Faithful events) (room : String) :
    (c.join transport room).channel.Faithful (events ++ (c.join transport room).events) := by
  rw [Channel.join]
  split
  · exact h.idle _
  · next hopen =>
    have hopen : c.status.isConnected = true := by simpa using hopen
    split
    · exact h.idle _
    · refine h.perform hopen (statusAfter_join ?_ room).symm ?_
      · rw [h.isOpenAfter_eq, hopen]
      · rw [statusAfter_failed (by simp), h.status]

theorem disconnect (h : c.Faithful events) (transport : Transport) :
    (c.disconnect transport).channel.Faithful (events ++ (c.disconnect transport).events) := by
  rw [Channel.disconnect]
  split
  · exact h.idle _
  · next hopen =>
    have hopen : c.status.isConnected = true := by simpa using hopen
    exact h.perform hopen (statusAfter_close true).symm (statusAfter_close false).symm

theorem reconnect (h : c.Faithful events) (token : Option String) :
    (c.reconnect transport token).channel.Faithful
      (events ++ (c.reconnect transport token).events) := by
  have hclosed := h.disconnect transport
  simp only [Channel.reconnect]
  split
  · exact hclosed
  · rw [← List.append_assoc]
    exact hclosed.connect token

end Faithful

/-! ### Results and failures -/

/-- A result is the status that is kept, and a call counts as done if the transport did it. A call
that failed makes the operation fail, and leaves the status that such a call leaves. -/
structure Outcome.Honest (o : Outcome) (transport : Transport) (before : Status) : Prop where
  ok : ∀ status, o.result = .ok status → o.channel.status = status
  done : ∀ e ∈ o.events, e.done = true → transport e.call = .ok ()
  failed : ∀ e ∈ o.events, e.done = false →
    (∃ text, transport e.call = .error text ∧ o.result = .error (.transport text)) ∧
    o.channel.status = e.call.statusIfFailed before

theorem honest_perform {call : Call} {done failed before : Status}
    (hfailed : failed = call.statusIfFailed before) :
    (c.perform transport call done failed).Honest transport before := by
  rcases c.perform_cases transport call done failed with ⟨hcall, ho⟩ | ⟨text, hcall, ho⟩
  · rw [ho]
    refine ⟨fun status hok => Except.ok.inj hok, fun e he _ => ?_, fun e he hnot => ?_⟩
    · rw [List.mem_singleton.mp he, hcall]
    · rw [List.mem_singleton.mp he] at hnot
      cases hnot
  · rw [ho]
    refine ⟨fun status hok => (nomatch hok), fun e he hdone => ?_, fun e he _ => ?_⟩
    · rw [List.mem_singleton.mp he] at hdone
      cases hdone
    · rw [List.mem_singleton.mp he]
      exact ⟨⟨text, hcall, rfl⟩, hfailed⟩

theorem honest_idle {result : Except Problem Status}
    (h : ∀ status, result = .ok status → c.status = status) (before : Status) :
    (c.idle result).Honest transport before :=
  ⟨h, fun _ he => (nomatch he), fun _ he => (nomatch he)⟩

theorem honest_connect (c : Channel) (transport : Transport) (before : Status) (token : Option String) :
    (c.connect transport token).Honest transport before := by
  rw [connect]
  split
  · exact honest_idle (fun status hok => Except.ok.inj hok) before
  · next hclosed =>
    exact honest_perform (isConnected_eq_false_iff.mp (Bool.not_eq_true _ ▸ hclosed))

theorem honest_join (c : Channel) (transport : Transport) (room : String) :
    (c.join transport room).Honest transport c.status := by
  rw [join]
  split
  · refine honest_idle (fun status hok => ?_) c.status
    cases hok
  · split
    · refine honest_idle (fun status hok => ?_) c.status
      cases hok
    · exact honest_perform rfl

theorem honest_disconnect (c : Channel) (transport : Transport) (before : Status) :
    (c.disconnect transport).Honest transport before := by
  rw [disconnect]
  split
  · next hclosed =>
    refine honest_idle (fun status hok => ?_) before
    rw [← Except.ok.inj hok]
    exact isConnected_eq_false_iff.mp (by simpa using hclosed)
  · exact honest_perform rfl

theorem honest_reconnect (c : Channel) (transport : Transport) (before : Status) (token : Option String) :
    (c.reconnect transport token).Honest transport before := by
  have hclosed := honest_disconnect c transport before
  simp only [reconnect]
  split
  · exact hclosed
  · next hok =>
    have hopened := honest_connect (c.disconnect transport).channel transport before token
    refine ⟨hopened.ok, fun e he hdone => ?_, fun e he hnot => ?_⟩
    · rcases List.mem_append.mp he with he | he
      · exact hclosed.done e he hdone
      · exact hopened.done e he hdone
    · rcases List.mem_append.mp he with he | he
      · obtain ⟨⟨text, -, herror⟩, -⟩ := hclosed.failed e he hnot
        rw [hok] at herror
        cases herror
      · exact hopened.failed e he hnot

/-! ### Runs -/

/-- What may be asked of a channel. -/
inductive Operation where
  | connect (token : Option String)
  | join (room : String)
  | disconnect
  | reconnect (token : Option String)
  deriving DecidableEq, Repr

def operate (c : Channel) (transport : Transport) : Operation → Outcome
  | .connect token => c.connect transport token
  | .join room => c.join transport room
  | .disconnect => c.disconnect transport
  | .reconnect token => c.reconnect transport token

theorem Faithful.operate (h : c.Faithful events) (op : Operation) :
    (c.operate transport op).channel.Faithful (events ++ (c.operate transport op).events) := by
  cases op with
  | connect token => exact h.connect token
  | join room => exact h.join room
  | disconnect => exact h.disconnect transport
  | reconnect token => exact h.reconnect token

theorem honest_operate (c : Channel) (transport : Transport) (op : Operation) :
    (c.operate transport op).Honest transport c.status := by
  cases op with
  | connect token => exact honest_connect c transport c.status token
  | join room => exact honest_join c transport room
  | disconnect => exact honest_disconnect c transport c.status
  | reconnect token => exact honest_reconnect c transport c.status token

/-- A channel, and the calls that were made since it was new, in their order. -/
structure History where
  channel : Channel
  events : List Event := []

namespace History

/-- An operation, with a transport that takes its calls as it likes. -/
def step (h : History) (s : Operation × Transport) : History :=
  let o := h.channel.operate s.2 s.1
  ⟨o.channel, h.events ++ o.events⟩

def run (url : String) (steps : List (Operation × Transport)) : History :=
  steps.foldl step ⟨{ url }, []⟩

theorem faithful_run (url : String) (steps : List (Operation × Transport)) :
    (run url steps).channel.Faithful (run url steps).events := by
  have hfold : ∀ h : History, h.channel.Faithful h.events →
      (steps.foldl step h).channel.Faithful (steps.foldl step h).events := by
    induction steps with
    | nil => exact fun h hh => hh
    | cons s steps ih => exact fun h hh => ih _ (hh.operate s.1)
  refine hfold ⟨{ url }, []⟩ ⟨fun before e after hsplit => ?_, rfl⟩
  simp at hsplit

/-- After every run each call was made when it could be, and the status is the one that the calls
tell: disconnected if the channel is closed, and otherwise the room of the last join since it was
opened, if there is one. Whatever is asked next, a result is the status that is kept, and a call that
fails makes the operation fail: after a join the status is the one before it, and otherwise the
channel is disconnected. What is asked in vain makes no call and changes nothing; anything else makes
its call, and a reconnect of an open channel closes it and then, if that did not fail, opens it. -/
theorem status_run (url : String) (steps : List (Operation × Transport)) :
    let h := run url steps
    let c := h.channel
    (∀ before e after, h.events = before ++ e :: after →
      e.call.fits (isOpenAfter before) = true) ∧
    (c.status = .disconnected ↔ isOpenAfter h.events = false) ∧
    (∀ room, c.status = .joined room ↔
      isOpenAfter h.events = true ∧ roomAfter? h.events = some room) ∧
    (c.status = .connected ↔ isOpenAfter h.events = true ∧ roomAfter? h.events = none) ∧
    (∀ (op : Operation) (transport : Transport), let o := c.operate transport op
      (∀ status, o.result = .ok status → o.channel.status = status) ∧
      (∀ e ∈ o.events, e.done = true → transport e.call = .ok ()) ∧
      (∀ e ∈ o.events, e.done = false →
        (∃ text, transport e.call = .error text ∧ o.result = .error (.transport text)) ∧
        o.channel.status = e.call.statusIfFailed c.status)) ∧
    (∀ (transport : Transport) (room : String),
      c.status = .disconnected ∨ Text.isBlankText room = true →
        ∃ p, c.join transport room = ⟨.error p, c, []⟩) ∧
    (∀ (transport : Transport) (token : Option String), c.status ≠ .disconnected →
      c.connect transport token = ⟨.ok c.status, c, []⟩) ∧
    (∀ transport : Transport, c.status = .disconnected →
      c.disconnect transport = ⟨.ok .disconnected, c, []⟩) ∧
    (∀ (transport : Transport) (room : String), c.status ≠ .disconnected →
      Text.isBlankText room = false →
        (c.join transport room).events.map (·.call) = [.join room]) ∧
    (∀ (transport : Transport) (token : Option String), c.status = .disconnected →
      (c.connect transport token).events.map (·.call) = [.open c.url token]) ∧
    (∀ transport : Transport, c.status ≠ .disconnected →
      (c.disconnect transport).events.map (·.call) = [.close]) ∧
    (∀ (transport : Transport) (token : Option String), c.status = .disconnected →
      (c.reconnect transport token).events.map (·.call) = [.open c.url token]) ∧
    (∀ (transport : Transport) (token : Option String), c.status ≠ .disconnected →
      let calls := (c.reconnect transport token).events.map (·.call)
      (transport .close = .ok () → calls = [.close, .open c.url token]) ∧
      (∀ text, transport .close = .error text → calls = [.close])) := by
  intro h c
  have hc : c.Faithful h.events := faithful_run url steps
  refine ⟨hc.lawful, ?_, ?_, ?_, fun op transport => ?_,
    fun transport _ hvain => exists_join_error transport hvain,
    fun transport token hopen => connect_open transport token hopen,
    fun transport hclosed => disconnect_closed transport hclosed,
    fun _ _ hopen hroom => calls_join hopen hroom,
    fun _ token hclosed => calls_connect token hclosed,
    fun _ hopen => calls_disconnect hopen,
    fun _ token hclosed => calls_reconnect_closed token hclosed,
    fun _ token hopen => calls_reconnect_open token hopen⟩
  · rw [← isConnected_eq_false_iff, hc.isOpenAfter_eq]
  · intro room
    rw [hc.status, statusAfter]
    cases isOpenAfter h.events <;> cases roomAfter? h.events <;> simp
  · rw [hc.status, statusAfter]
    cases isOpenAfter h.events <;> cases roomAfter? h.events <;> simp
  · have honest := honest_operate c transport op
    exact ⟨honest.ok, honest.done, honest.failed⟩

end History

end Channel

end DiscountPolicy
