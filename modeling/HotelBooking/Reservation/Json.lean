import HotelBooking.Reservation.Basic
import HotelBooking.Time.Json

/-!
# Reservations as JSON
-/

namespace HotelBooking

open Json (required optional)

namespace ReservationId

def toJson (id : ReservationId) : Json := .text id.text

def ofJson? (j : Json) : Option ReservationId := j.text?.map mk

end ReservationId

namespace GuestId

def toJson (id : GuestId) : Json := .text id.text

def ofJson? (j : Json) : Option GuestId := j.text?.map mk

end GuestId

namespace RoomId

def toJson (id : RoomId) : Json := .text id.text

def ofJson? (j : Json) : Option RoomId := j.text?.map mk

end RoomId

namespace Stay

def toJson (s : Stay) : Json :=
  .record [("check_in", s.checkIn.toJson), ("check_out", s.checkOut.toJson)]

def ofJson? (j : Json) : Option Stay :=
  match j.fields? ["check_in", "check_out"] with
  | some [checkIn, checkOut] => do
    return ⟨← required Instant.ofJson? checkIn, ← required Instant.ofJson? checkOut⟩
  | _ => none

end Stay

namespace Guest

def toJson (g : Guest) : Json :=
  .record [("name", .text g.name), ("email", .text g.email), ("phone_number", .text g.phone)]

def ofJson? (j : Json) : Option Guest :=
  match j.fields? ["name", "email", "phone_number"] with
  | some [name, email, phone] => do
    return ⟨← required Json.text? name, ← required Json.text? email, ← required Json.text? phone⟩
  | _ => none

end Guest

def ReservationOrder.toJson (o : ReservationOrder) : Json :=
  .record
    [("reservation_id", o.reservationId.toJson), ("guest_id", o.guestId.toJson),
      ("room_id", o.roomId.toJson), ("date_range", o.stay.toJson), ("total_amount", o.total.toJson),
      ("guests", .list (o.guests.map Guest.toJson))]

namespace ReservationStatus

def toJson (s : ReservationStatus) : Json := .text s.name

def ofJson? (j : Json) : Option ReservationStatus := j.alternative?.bind ofName?

end ReservationStatus

namespace Reservation

def toJson (r : Reservation) : Json :=
  .record
    [("id", r.id.toJson), ("guest_id", r.guestId.toJson), ("room_id", r.roomId.toJson),
      ("date_range", r.stay.toJson), ("status", r.status.toJson), ("total_amount", r.total.toJson),
      ("cancellation_reason", .optText r.cancellationReason),
      ("guests", .list (r.guests.map Guest.toJson)), ("created_at", r.createdAt.toJson),
      ("updated_at", r.updatedAt.toJson)]

/-- None of the rules for making a reservation is checked. -/
def ofJson? (j : Json) : Option Reservation :=
  match j.fields? ["id", "guest_id", "room_id", "date_range", "status", "total_amount",
    "cancellation_reason", "guests", "created_at", "updated_at"] with
  | some [id, guestId, roomId, stay, status, total, reason, guests, createdAt, updatedAt] => do
    return {
      id := ← required ReservationId.ofJson? id
      guestId := ← required GuestId.ofJson? guestId
      roomId := ← required RoomId.ofJson? roomId
      stay := ← required Stay.ofJson? stay
      status := ← required ReservationStatus.ofJson? status
      total := ← required Money.ofJson? total
      cancellationReason := ← optional Json.text? reason
      guests := ← required (Json.list? Guest.ofJson?) guests
      createdAt := ← required Instant.ofJson? createdAt
      updatedAt := ← required Instant.ofJson? updatedAt }
  | _ => none

end Reservation
end HotelBooking
