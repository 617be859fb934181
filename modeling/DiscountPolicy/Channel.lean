import DiscountPolicy.Text.Blank

/-! The channel on which the backend pushes to a client. A channel is opened with a token, joins a
room, and is closed; the status follows what the transport below it did. -/

namespace DiscountPolicy

inductive Call where
  | open (url : String) (token : Option String)
  | join (room : String)
  | close
  deriving DecidableEq, Repr

/-- How a transport takes calls: done, or failed with a text that says why. -/
abbrev Transport := Call → Except String Unit

inductive Status where
  | disconnected
  | connected
  | joined (room : String)
  deriving DecidableEq, Repr

def Status.isConnected : Status → Bool
  | .disconnected => false
  | .connected | .joined _ => true

structure Channel where
  url : String
  status : Status := .disconnected
  deriving DecidableEq, Repr

namespace Channel

/-- Why an operation on a channel fails. -/
inductive Problem where
  | notConnected (room : String)
  | blankRoom
  | transport (text : String)
  deriving DecidableEq, Repr

def Problem.message : Problem → String
  | .notConnected room => "cannot join '" ++ room ++ "' while disconnected"
  | .blankRoom => "room name is empty"
  | .transport text => text

/-- A call that was made, and whether the transport did it. -/
structure Event where
  call : Call
  done : Bool
  deriving DecidableEq, Repr

/-- What an operation brings: its result, the channel after it, and the calls that it made. -/
structure Outcome where
  result : Except Problem Status
  channel : Channel
  events : List Event

/-- An operation that makes no call. -/
def idle (c : Channel) (result : Except Problem Status) : Outcome := ⟨result, c, []⟩

/-- An operation of one call: the status after it is done, and the status after it failed. -/
def perform (c : Channel) (transport : Transport) (call : Call) (done failed : Status) : Outcome :=
  match transport call with
  | .ok () => ⟨.ok done, { c with status := done }, [⟨call, true⟩]⟩
  | .error text => ⟨.error (.transport text), { c with status := failed }, [⟨call, false⟩]⟩

/-- Opens the channel unless it is open. -/
def connect (c : Channel) (transport : Transport) (token : Option String) : Outcome :=
  if c.status.isConnected then c.idle (.ok c.status)
  else c.perform transport (.open c.url token) .connected c.status

/-- Joins a room on an open channel. -/
def join (c : Channel) (transport : Transport) (room : String) : Outcome :=
  if !c.status.isConnected then c.idle (.error (.notConnected room))
  else if Text.isBlankText room then c.idle (.error .blankRoom)
  else c.perform transport (.join room) (.joined room) c.status

/-- Closes the channel unless it is closed. It is closed afterwards even if the transport fails. -/
def disconnect (c : Channel) (transport : Transport) : Outcome :=
  if !c.status.isConnected then c.idle (.ok .disconnected)
  else c.perform transport .close .disconnected .disconnected

/-- Closes the channel, and opens it if that did not fail. -/
def reconnect (c : Channel) (transport : Transport) (token : Option String) : Outcome :=
  let closed := c.disconnect transport
  match closed.result with
  | .error _ => closed
  | .ok _ =>
    let opened := closed.channel.connect transport token
    { opened with events := closed.events ++ opened.events }

end Channel

end DiscountPolicy
