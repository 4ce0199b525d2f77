import HotelBooking.Payment.Event
import HotelBooking.Reservation.Event
import HotelBooking.Uuid

/-!
# Envelopes

An event is published in an envelope, which names its topic and what it is about.
-/

namespace HotelBooking

open Json (required)

structure Envelope where
  topic : String
  aggregateId : String
  aggregateType : String
  time : Instant
  payload : Json

namespace Envelope

def members (e : Envelope) : List (String × Json) :=
  [("topic", .text e.topic), ("aggregate_id", .text e.aggregateId),
    ("aggregate_type", .text e.aggregateType), ("timestamp", e.time.toJson), ("payload", e.payload)]

def toJson (e : Envelope) : Json := .record e.members

end Envelope

inductive PublishError where
  | missingField (name : String)
  | refused (topic : String)
  deriving Repr, DecidableEq

def PublishError.message : PublishError → String
  | missingField name => s!"Event envelope is missing required field: {name}"
  | refused topic => s!"Failed to publish event on topic '{topic}': transport unavailable"

/-- An envelope some of whose fields may not be filled in yet. -/
structure EnvelopeDraft where
  topic : Option String := none
  aggregateId : Option String := none
  aggregateType : Option String := none
  payload : Option Json := none

/-- The complete envelope; of several missing fields the first one is reported. -/
def EnvelopeDraft.complete (now : Instant) : EnvelopeDraft → Except PublishError Envelope
  | { topic := none, .. } => .error (.missingField "topic")
  | { aggregateId := none, .. } => .error (.missingField "aggregate_id")
  | { aggregateType := none, .. } => .error (.missingField "aggregate_type")
  | { payload := none, .. } => .error (.missingField "payload")
  | ⟨some topic, some id, some type, some payload⟩ => .ok ⟨topic, id, type, now, payload⟩

def ReservationEvent.toEnvelope (now : Instant) (e : ReservationEvent) : Envelope :=
  ⟨e.topic, e.reservationId.text, "Reservation", now, e.toJson⟩

def PaymentEvent.toEnvelope (now : Instant) (e : PaymentEvent) : Envelope :=
  ⟨e.topic, e.paymentId.text, "Payment", now, e.toJson⟩

/-- An envelope as it is sent, with an identifier of its own. -/
structure SentEnvelope extends Envelope where
  id : Uuid

namespace SentEnvelope

def toJson (e : SentEnvelope) : Json :=
  .record (("event_id", .text e.id.toText) :: e.toEnvelope.members)

def ofJson? (j : Json) : Option SentEnvelope :=
  match j.fields? ["event_id", "topic", "aggregate_id", "aggregate_type", "timestamp",
    "payload"] with
  | some [id, topic, aggregateId, aggregateType, time, payload] => do
    return {
      id := ← required (·.text?.bind Uuid.ofText?) id
      topic := ← required Json.text? topic
      aggregateId := ← required Json.text? aggregateId
      aggregateType := ← required Json.text? aggregateType
      time := ← required Instant.ofJson? time
      payload := ← payload }
  | _ => none

end SentEnvelope

end HotelBooking
