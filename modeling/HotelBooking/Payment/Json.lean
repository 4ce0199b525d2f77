import HotelBooking.Payment.Basic
import HotelBooking.Reservation.Json

/-!
# Payments as JSON
-/

namespace HotelBooking

open Json (required optional)

namespace PaymentId

def toJson (id : PaymentId) : Json := .text id.text

def ofJson? (j : Json) : Option PaymentId := j.text?.map mk

end PaymentId

def PaymentOrder.toJson (o : PaymentOrder) : Json :=
  .record
    [("payment_id", o.paymentId.toJson), ("reservation_id", o.reservationId.toJson),
      ("amount", o.amount.toJson), ("payment_method", .text o.method)]

namespace PaymentStatus

def toJson (s : PaymentStatus) : Json := .text s.name

def ofJson? (j : Json) : Option PaymentStatus := j.alternative?.bind ofName?

end PaymentStatus

namespace PaymentAttempt

def toJson (a : PaymentAttempt) : Json :=
  .record
    [("attempted_at", a.time.toJson), ("status", a.status.toJson),
      ("error_code", .optText a.errorCode), ("error_msg", .optText a.errorMessage)]

def ofJson? (j : Json) : Option PaymentAttempt :=
  match j.fields? ["attempted_at", "status", "error_code", "error_msg"] with
  | some [time, status, code, message] => do
    return ⟨← required Instant.ofJson? time, ← required PaymentStatus.ofJson? status,
      ← optional Json.text? code, ← optional Json.text? message⟩
  | _ => none

end PaymentAttempt

namespace Payment

def toJson (p : Payment) : Json :=
  .record
    [("id", p.id.toJson), ("reservation_id", p.reservationId.toJson), ("amount", p.amount.toJson),
      ("status", p.status.toJson), ("payment_method", .text p.method),
      ("transaction_id", .optText p.transactionId),
      ("attempts", .list (p.attempts.map PaymentAttempt.toJson)),
      ("created_at", p.createdAt.toJson), ("updated_at", p.updatedAt.toJson)]

/-- None of the rules for payments is checked. -/
def ofJson? (j : Json) : Option Payment :=
  match j.fields? ["id", "reservation_id", "amount", "status", "payment_method", "transaction_id",
    "attempts", "created_at", "updated_at"] with
  | some [id, reservationId, amount, status, method, transactionId, attempts, createdAt,
      updatedAt] => do
    return {
      id := ← required PaymentId.ofJson? id
      reservationId := ← required ReservationId.ofJson? reservationId
      amount := ← required Money.ofJson? amount
      status := ← required PaymentStatus.ofJson? status
      method := ← required Json.text? method
      transactionId := ← optional Json.text? transactionId
      attempts := ← required (Json.list? PaymentAttempt.ofJson?) attempts
      createdAt := ← required Instant.ofJson? createdAt
      updatedAt := ← required Instant.ofJson? updatedAt }
  | _ => none

end Payment
end HotelBooking
