import HotelBooking.Reservation.Json

/-!
# Reservation events

What has happened to a reservation, announced to others. Each kind of event has its own topic.
-/

namespace HotelBooking

open Json (required)

inductive ReservationEvent where
  | created (id : ReservationId) (guestId : GuestId) (roomId : RoomId) (stay : Stay) (total : Money)
      (time : Instant)
  | changed (change : ReservationChange) (id : ReservationId) (time : Instant)
  | cancelled (id : ReservationId) (reason : String) (time : Instant)
  deriving DecidableEq

namespace ReservationChange

def all : List ReservationChange := [confirm, activate, complete]

/-- The name of the event that announces the change. -/
def eventName : ReservationChange → String
  | confirm => "Confirmed"
  | activate => "Activated"
  | complete => "Completed"

def topic : ReservationChange → String
  | confirm => "reservation.confirmed"
  | activate => "reservation.activated"
  | complete => "reservation.completed"

end ReservationChange

namespace ReservationEvent

def createdTopic : String := "reservation.created"

def cancelledTopic : String := "reservation.cancelled"

def topic : ReservationEvent → String
  | created .. => createdTopic
  | changed c _ _ => c.topic
  | cancelled .. => cancelledTopic

def reservationId : ReservationEvent → ReservationId
  | created id .. => id
  | changed _ id _ => id
  | cancelled id _ _ => id

/-- The event that announces a new reservation. -/
def ofCreated (r : Reservation) : ReservationEvent :=
  created r.id r.guestId r.roomId r.stay r.total r.createdAt

def ofChanged (c : ReservationChange) (r : Reservation) : ReservationEvent :=
  changed c r.id r.updatedAt

def ofCancelled (r : Reservation) : ReservationEvent :=
  cancelled r.id (r.cancellationReason.getD "") r.updatedAt

def toJson : ReservationEvent → Json
  | created id guestId roomId stay total t =>
    .tagged "Created" (.record
      [("reservation_id", id.toJson), ("guest_id", guestId.toJson), ("room_id", roomId.toJson),
        ("date_range", stay.toJson), ("total_amount", total.toJson), ("created_at", t.toJson)])
  | changed c id t =>
    .tagged c.eventName (.record [("reservation_id", id.toJson), ("changed_at", t.toJson)])
  | cancelled id reason t =>
    .tagged "Cancelled" (.record
      [("reservation_id", id.toJson), ("reason", .text reason), ("cancelled_at", t.toJson)])

def createdOfJson? (j : Json) : Option ReservationEvent :=
  match j.fields? ["reservation_id", "guest_id", "room_id", "date_range", "total_amount",
    "created_at"] with
  | some [id, guestId, roomId, stay, total, t] => do
    return created (← required ReservationId.ofJson? id) (← required GuestId.ofJson? guestId)
      (← required RoomId.ofJson? roomId) (← required Stay.ofJson? stay)
      (← required Money.ofJson? total) (← required Instant.ofJson? t)
  | _ => none

def changedOfJson? (c : ReservationChange) (j : Json) : Option ReservationEvent :=
  match j.fields? ["reservation_id", "changed_at"] with
  | some [id, t] => do
    return changed c (← required ReservationId.ofJson? id) (← required Instant.ofJson? t)
  | _ => none

def cancelledOfJson? (j : Json) : Option ReservationEvent :=
  match j.fields? ["reservation_id", "reason", "cancelled_at"] with
  | some [id, reason, t] => do
    return cancelled (← required ReservationId.ofJson? id) (← required Json.text? reason)
      (← required Instant.ofJson? t)
  | _ => none

def ofJson? (j : Json) : Option ReservationEvent :=
  match j.tagged? with
  | some (name, data) =>
    if name = "Created" then createdOfJson? data
    else if name = "Cancelled" then cancelledOfJson? data
    else
      match ReservationChange.all.find? (·.eventName = name) with
      | some c => changedOfJson? c data
      | none => none
  | none => none

end ReservationEvent
end HotelBooking
