import HotelBooking.Identifier
import HotelBooking.Money
import HotelBooking.Stay

/-!
# Reservations

A reservation holds a room for one stay. It is made pending, is confirmed, then activated when the
guest arrives and completed when the guest leaves; until the guest arrives it can be cancelled, but
not later than 24 hours before check-in. A refused operation changes nothing.
-/

namespace HotelBooking

inductive ReservationStatus where
  | pending
  | confirmed
  | active
  | completed
  | cancelled
  deriving Repr, DecidableEq, Inhabited

/-- A step forward in the life of a reservation. -/
inductive ReservationChange where
  | confirm
  | activate
  | complete
  deriving Repr, DecidableEq

namespace ReservationChange

/-- The status in which the change is allowed. -/
def source : ReservationChange → ReservationStatus
  | confirm => .pending
  | activate => .confirmed
  | complete => .active

/-- The status to which it leads. -/
def target : ReservationChange → ReservationStatus
  | confirm => .confirmed
  | activate => .active
  | complete => .completed

def name : ReservationChange → String
  | confirm => "confirm"
  | activate => "activate"
  | complete => "complete"

end ReservationChange

namespace ReservationStatus

def all : List ReservationStatus := [pending, confirmed, active, completed, cancelled]

def name : ReservationStatus → String
  | pending => "pending"
  | confirmed => "confirmed"
  | active => "active"
  | completed => "completed"
  | cancelled => "cancelled"

def ofName? (s : String) : Option ReservationStatus := all.find? (·.name = s)

def allows (s : ReservationStatus) (c : ReservationChange) : Bool := s = c.source

/-- Cancelling is allowed in this status, if it is early enough. -/
def isCancellable : ReservationStatus → Bool
  | pending | confirmed => true
  | active | completed | cancelled => false

end ReservationStatus

structure Guest where
  name : String
  email : String
  phone : String
  deriving Repr, DecidableEq

/-- What a guest asks for. -/
structure ReservationOrder where
  reservationId : ReservationId
  guestId : GuestId
  roomId : RoomId
  stay : Stay
  total : Money
  guests : List Guest
  deriving DecidableEq

structure Reservation where
  id : ReservationId
  guestId : GuestId
  roomId : RoomId
  stay : Stay
  status : ReservationStatus
  total : Money
  cancellationReason : Option String
  guests : List Guest
  createdAt : Instant
  updatedAt : Instant
  deriving DecidableEq

inductive ReservationError where
  | minimumStay
  | stayTooShort
  | checkInPast
  | noGuests
  | notAllowed (status : ReservationStatus) (change : ReservationChange)
  | alreadyCancelled
  | cancelCompleted
  | cancelActive
  | cancelTooLate
  deriving Repr, DecidableEq

def ReservationError.message : ReservationError → String
  | minimumStay => "Minimum stay is 1 night"
  | stayTooShort => "Check-out must be after check-in"
  | checkInPast => "Check-in date cannot be in the past"
  | noGuests => "At least one guest is required"
  | notAllowed status change =>
    s!"Invalid state transition: cannot {change.name} from {status.name} state"
  | alreadyCancelled => "Reservation is already cancelled"
  | cancelCompleted => "Cannot cancel a completed reservation"
  | cancelActive => "Cannot cancel an active reservation"
  | cancelTooLate => "Cannot cancel reservation within 24 hours of check-in"

namespace Reservation

/-- How long before check-in a reservation can last be cancelled. -/
def cancellationHours : Nat := 24

/-- Makes a pending reservation. The stay takes at least a day and does not start before today. -/
def make (now : Instant) (order : ReservationOrder) : Except ReservationError Reservation :=
  if order.stay.duration < Instant.nanosPerDay then
    .error (if order.stay.checkOut = order.stay.checkIn then .minimumStay else .stayTooShort)
  else if order.stay.checkIn.day < now.day then .error .checkInPast
  else if order.guests = [] then .error .noGuests
  else .ok
    { id := order.reservationId
      guestId := order.guestId
      roomId := order.roomId
      stay := order.stay
      status := .pending
      total := order.total
      cancellationReason := none
      guests := order.guests
      createdAt := now
      updatedAt := now }

def change (now : Instant) (c : ReservationChange) (r : Reservation) :
    Except ReservationError Reservation :=
  if r.status.allows c then .ok { r with status := c.target, updatedAt := now }
  else .error (.notAllowed r.status c)

/-- The reservation can be cancelled at `now`. -/
def isCancellableAt (now : Instant) (r : Reservation) : Bool :=
  r.status.isCancellable && cancellationHours * Instant.nanosPerHour ≤ now.nanosTo r.stay.checkIn

def cancel (now : Instant) (reason : String) (r : Reservation) :
    Except ReservationError Reservation :=
  match r.status with
  | .cancelled => .error .alreadyCancelled
  | .completed => .error .cancelCompleted
  | .active => .error .cancelActive
  | .pending | .confirmed =>
    if r.isCancellableAt now then
      .ok { r with status := .cancelled, cancellationReason := some reason, updatedAt := now }
    else .error .cancelTooLate

/-- The reservation keeps its room from others during its stay. -/
def holdsRoom (r : Reservation) : Bool := r.status ≠ .cancelled

/-- Two reservations claim one room at the same time. -/
def conflicts (r s : Reservation) : Bool :=
  r.roomId = s.roomId && r.holdsRoom && s.holdsRoom && r.stay.overlaps s.stay

/-- The guest who is written to. -/
def primaryGuest? (r : Reservation) : Option Guest := r.guests.head?

def nights (r : Reservation) : Int := r.stay.nights

/-- The number of midnights from `now` to check-in. -/
def daysUntilCheckIn (now : Instant) (r : Reservation) : Int := now.daysTo r.stay.checkIn

end Reservation
end HotelBooking
