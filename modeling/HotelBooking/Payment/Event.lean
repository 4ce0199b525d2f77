import HotelBooking.Payment.Json

/-!
# Payment events

What has happened to a payment, announced to others. Each kind of event has its own topic.
-/

namespace HotelBooking

open Json (required)

/-- Money moved: to the hotel when captured, back to the guest when refunded. -/
inductive Settlement where
  | captured
  | refunded
  deriving Repr, DecidableEq

inductive PaymentEvent where
  | authorized (id : PaymentId) (reservationId : ReservationId) (transactionId : String)
      (amount : Money) (time : Instant)
  | settled (settlement : Settlement) (id : PaymentId) (reservationId : ReservationId)
      (amount : Money) (time : Instant)
  | failed (id : PaymentId) (reservationId : ReservationId) (code message : String) (time : Instant)
  deriving DecidableEq

namespace Settlement

def all : List Settlement := [captured, refunded]

/-- The name of the event that announces the settlement. -/
def eventName : Settlement → String
  | captured => "Captured"
  | refunded => "Refunded"

def topic : Settlement → String
  | captured => "payment.captured"
  | refunded => "payment.refunded"

end Settlement

namespace PaymentEvent

def authorizedTopic : String := "payment.authorized"

def failedTopic : String := "payment.failed"

def topic : PaymentEvent → String
  | authorized .. => authorizedTopic
  | settled s _ _ _ _ => s.topic
  | failed .. => failedTopic

def paymentId : PaymentEvent → PaymentId
  | authorized id .. => id
  | settled _ id .. => id
  | failed id .. => id

def ofAuthorized (p : Payment) : PaymentEvent :=
  authorized p.id p.reservationId (p.transactionId.getD "") p.amount p.updatedAt

def ofSettled (s : Settlement) (p : Payment) : PaymentEvent :=
  settled s p.id p.reservationId p.amount p.updatedAt

/-- The failure is the last one recorded. -/
def ofFailed (p : Payment) : PaymentEvent :=
  let failure? := p.attempts.reverse.find? (·.isFailure)
  failed p.id p.reservationId ((failure?.bind (·.errorCode)).getD "")
    ((failure?.bind (·.errorMessage)).getD "") p.updatedAt

def toJson : PaymentEvent → Json
  | authorized id reservationId transactionId amount t =>
    .tagged "Authorized" (.record
      [("payment_id", id.toJson), ("reservation_id", reservationId.toJson),
        ("transaction_id", .text transactionId), ("amount", amount.toJson),
        ("authorized_at", t.toJson)])
  | settled s id reservationId amount t =>
    .tagged s.eventName (.record
      [("payment_id", id.toJson), ("reservation_id", reservationId.toJson),
        ("amount", amount.toJson), ("settled_at", t.toJson)])
  | failed id reservationId code message t =>
    .tagged "Failed" (.record
      [("payment_id", id.toJson), ("reservation_id", reservationId.toJson),
        ("error_code", .text code), ("error_msg", .text message), ("failed_at", t.toJson)])

def authorizedOfJson? (j : Json) : Option PaymentEvent :=
  match j.fields? ["payment_id", "reservation_id", "transaction_id", "amount", "authorized_at"] with
  | some [id, reservationId, transactionId, amount, t] => do
    return authorized (← required PaymentId.ofJson? id)
      (← required ReservationId.ofJson? reservationId) (← required Json.text? transactionId)
      (← required Money.ofJson? amount) (← required Instant.ofJson? t)
  | _ => none

def settledOfJson? (s : Settlement) (j : Json) : Option PaymentEvent :=
  match j.fields? ["payment_id", "reservation_id", "amount", "settled_at"] with
  | some [id, reservationId, amount, t] => do
    return settled s (← required PaymentId.ofJson? id)
      (← required ReservationId.ofJson? reservationId) (← required Money.ofJson? amount)
      (← required Instant.ofJson? t)
  | _ => none

def failedOfJson? (j : Json) : Option PaymentEvent :=
  match j.fields? ["payment_id", "reservation_id", "error_code", "error_msg", "failed_at"] with
  | some [id, reservationId, code, message, t] => do
    return failed (← required PaymentId.ofJson? id)
      (← required ReservationId.ofJson? reservationId) (← required Json.text? code)
      (← required Json.text? message) (← required Instant.ofJson? t)
  | _ => none

def ofJson? (j : Json) : Option PaymentEvent :=
  match j.tagged? with
  | some (name, data) =>
    if name = "Authorized" then authorizedOfJson? data
    else if name = "Failed" then failedOfJson? data
    else
      match Settlement.all.find? (·.eventName = name) with
      | some s => settledOfJson? s data
      | none => none
  | none => none

end PaymentEvent
end HotelBooking
