import HotelBooking.Action
import HotelBooking.Envelope
import Std.Data.ExtTreeSet

/-!
# Event log

The log keeps the envelopes that were published, in order, as a queue from which they can be taken.
Topics can be refused.
-/

namespace HotelBooking

/-- `taken` are the envelopes that have left the queue. -/
structure EventLog where
  taken : List Envelope := []
  queue : List Envelope := []
  refused : Std.ExtTreeSet String := ∅

namespace EventLog

/-- Every envelope that was ever published. -/
def history (l : EventLog) : List Envelope := l.taken ++ l.queue

def publish (e : Envelope) : Action EventLog PublishError Unit := fun l =>
  if l.refused.contains e.topic then .error (.refused e.topic) l
  else .ok () { l with queue := l.queue ++ [e] }

/-- Empties the queue. -/
def drain (l : EventLog) : EventLog := { l with taken := l.taken ++ l.queue, queue := [] }

/-- Empties the queue and accepts all topics again. -/
def reset (l : EventLog) : EventLog := { l.drain with refused := ∅ }

def refuse (topic : String) (refused : Bool) (l : EventLog) : EventLog :=
  { l with refused := if refused then l.refused.insert topic else l.refused.erase topic }

/-- The queued envelopes of one topic. -/
def onTopic (topic : String) (l : EventLog) : List Envelope := l.queue.filter (·.topic = topic)

def topics (l : EventLog) : List String := l.queue.map (·.topic)

end EventLog
end HotelBooking
