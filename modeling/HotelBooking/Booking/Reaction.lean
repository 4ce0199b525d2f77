import HotelBooking.Booking.Orchestration

/-!
# Booking by events

A booking can also be driven by its own events: `initiate` makes the reservation, and each event
that is handed to `handle` sets off the next step. Handing over an event again repeats its step.
-/

namespace HotelBooking

/-- What handling an event did. -/
inductive Reaction where
  | paymentAuthorized (p : Payment)
  | paymentCaptured (p : Payment)
  | reservationConfirmed (r : Reservation)
  | reservationCancelled (r : Reservation)
  | ignored
  deriving DecidableEq

def Reaction.toJson (r : Reaction) : Json :=
  let (outcome, value) := match r with
    | paymentAuthorized p => ("PaymentAuthorized", p.toJson)
    | paymentCaptured p => ("PaymentCaptured", p.toJson)
    | reservationConfirmed r => ("ReservationConfirmed", r.toJson)
    | reservationCancelled r => ("ReservationCancelled", r.toJson)
    | ignored => ("Ignored", .null)
  .record [("outcome", .text outcome), ("value", value)]

namespace Booking

variable {σ : Type} [Backend σ]

/-- The topics whose events are reacted to. -/
def subscribedTopics : List String :=
  [ReservationEvent.createdTopic, PaymentEvent.authorizedTopic, Settlement.captured.topic,
    PaymentEvent.failedTopic]

/-- The method of a payment that an event has set off. -/
def defaultMethod : String := "default"

/-- The payment that belongs to a reservation booked by events. -/
def paymentIdFor (id : ReservationId) : PaymentId := ⟨"pay-" ++ id.text⟩

/-- Makes the reservation; its event sets off the rest. -/
def initiate (now : Instant) (order : ReservationOrder) : Action σ BookingError Reservation :=
  (Reservations.create now order).mapError (.stepFailed .createReservation)

/-- Has the payment for a new reservation authorized. -/
def onCreated (now : Instant) (id : ReservationId) (total : Money) : Action σ BookingError Payment :=
  (Payments.authorize now ⟨paymentIdFor id, id, total, defaultMethod⟩).mapError .service

/-- Captures an authorized payment. If that fails, the reservation is cancelled if it can be. -/
def onAuthorized (now : Instant) (id : PaymentId) (reservationId : ReservationId) :
    Action σ BookingError Payment := do
  match ← (Payments.capture now id).attempt with
  | .ok p => return p
  | .error e =>
    let _ ← (Reservations.cancel now reservationId BookingStep.captureFailedReason).attempt
    throw (.stepFailed .capturePayment e)

/-- Confirms the reservation that has been paid for. -/
def onCaptured (now : Instant) (id : ReservationId) : Action σ BookingError Reservation := do
  let r ← (Reservations.change now .confirm id).mapError (.stepFailed .confirmReservation)
  notifyConfirmation r
  return r

/-- Cancels a reservation whose payment failed. -/
def onFailed (now : Instant) (id : ReservationId) (reason : String) :
    Action σ BookingError Reservation :=
  (Reservations.cancel now id reason).mapError .service

/-- Why a reservation is cancelled when its payment failed. -/
def failureReason (code message : String) : String := s!"payment_failed: {code} - {message}"

/-- Reacts to an event. Topics that are not subscribed to are ignored. The payload of any other has
to be an event, and the one its topic is for. -/
def handle (now : Instant) (e : Envelope) : Action σ BookingError Reaction :=
  if e.topic = ReservationEvent.createdTopic then
    match ReservationEvent.ofJson? e.payload with
    | some (.created id _ _ _ total _) => return .paymentAuthorized (← onCreated now id total)
    | some _ => throw (.unsupportedEvent e.topic)
    | none => throw (.malformedEvent e.topic)
  else if e.topic = PaymentEvent.authorizedTopic then
    match PaymentEvent.ofJson? e.payload with
    | some (.authorized id reservationId _ _ _) =>
      return .paymentCaptured (← onAuthorized now id reservationId)
    | some _ => throw (.unsupportedEvent e.topic)
    | none => throw (.malformedEvent e.topic)
  else if e.topic = Settlement.captured.topic then
    match PaymentEvent.ofJson? e.payload with
    | some (.settled .captured _ reservationId _ _) =>
      return .reservationConfirmed (← onCaptured now reservationId)
    | some _ => throw (.unsupportedEvent e.topic)
    | none => throw (.malformedEvent e.topic)
  else if e.topic = PaymentEvent.failedTopic then
    match PaymentEvent.ofJson? e.payload with
    | some (.failed _ reservationId code message _) =>
      return .reservationCancelled (← onFailed now reservationId (failureReason code message))
    | some _ => throw (.unsupportedEvent e.topic)
    | none => throw (.malformedEvent e.topic)
  else return .ignored

end Booking
end HotelBooking
