import ChannelReactor.Failure.ReactorError
import ChannelReactor.Channel.Basic
import ChannelReactor.Reactor.Hooks

/-!
# Reports of a scenario

What a scenario shows: the reply to each of its steps, and the events on the way.
-/
namespace ChannelReactor.Scenario

inductive Value where
  | null
  | flag (b : Bool)
  | number (n : Int)
  | text (s : String)
  | bytes (data : Bytes)
  | span (d : Span)
  | status (s : ChannelStatus)
  /-- A connection that was accepted: the peer, its status, and a text for people. -/
  | accepted (peer : String) (status : ChannelStatus) (description : Option String)
  | list (values : List Value)

/-- What a step refers to that is not there, or asks for that is not offered. -/
inductive Lack where
  | channel
  | reactor
  | transport
  | support
deriving DecidableEq, Repr

inductive Reply where
  | ok (value : Value)
  /-- A value that cannot fail to be there. -/
  | plain (value : Value)
  | channelError (error : ChannelError)
  | reactorError (error : ReactorError)
  | halted (halt : Halt)
  | lacking (what : Lack)

namespace Reply

def fine : Reply := ok .null

def ofChannel {α : Type} (toValue : α → Value) : Except ChannelError α → Reply
  | .ok a => ok (toValue a)
  | .error e => channelError e

def ofReactor {α : Type} (toValue : α → Value) : Except ReactorError α → Reply
  | .ok a => ok (toValue a)
  | .error e => reactorError e

end Reply

/-- An event of a scenario. Where a call can fail, the event says how it ended. -/
inductive Event where
  | mode (name : String) (result : Except IoError.Kind WaitMode)
  | recv (name : String) (result : Except IoError.Kind Nat)
  | sent (name : String) (data : Bytes)
  | sentNothing (name : String)
  | sendFailed (name : String) (kind : IoError.Kind)
  | flush (name : String) (result : Except IoError.Kind Nat)
  | nodelay (name : String) (result : Except IoError.Kind Bool)
  | close (name : String) (result : Except IoError.Kind Unit)
  | accept (name : String) (result : Except IoError.Kind String)
  | poll (millis : Nat) (interests : List PollInterest)
  | probe (descriptor : Int)
  | sleep (d : Span)
  | tick (stats : ReactorStats)
  | accepted (listener : ChannelId) (peer : String) (kept : Bool)
  | readable (id : ChannelId) (replies : List Reply)
  | writable (id : ChannelId) (replies : List Reply)
  | closed (id : ChannelId) (reason : CloseReason) (status : ChannelStatus)
      (replies : List Reply)
  | startup
  | cleanup
  | onRead (name : String)
  | onWrite (name : String)

/-- Adds an event to those before it, the newest first. Bytes that one transport sends piece by
piece are one event. -/
def Event.add (e : Event) (events : List Event) : List Event :=
  match e, events with
  | .sent name data, .sent before sofar :: rest =>
    if name = before then .sent name (sofar ++ data) :: rest else e :: events
  | _, _ => e :: events

end ChannelReactor.Scenario
