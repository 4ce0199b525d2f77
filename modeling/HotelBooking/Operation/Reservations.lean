import HotelBooking.Operation.Backend

/-!
# Operations on reservations

Each operation reads, changes, stores and then announces. When it fails, nothing after the failure
is done; in particular a reservation that could not be announced has been stored.
-/

namespace HotelBooking.Reservations

variable {σ : Type} [Backend σ]

def announce (now : Instant) (e : ReservationEvent) : Action σ OperationError Unit :=
  (Backend.publish (e.toEnvelope now)).mapError .publish

/-- Makes a reservation if the room is free. -/
def create (now : Instant) (order : ReservationOrder) : Action σ OperationError Reservation := do
  let free ← (Backend.isRoomAvailable order.roomId order.stay).mapError .availability
  if free then
    let r ← Action.ofExcept ((Reservation.make now order).mapError .reservation)
    (Backend.createReservation r.id r).mapError .storage
    announce now (.ofCreated r)
    return r
  else throw (.roomUnavailable order.roomId)

def get (id : ReservationId) : Action σ OperationError Reservation :=
  (Backend.readReservation id).mapError .storage

/-- Changes a stored reservation and announces the event made from the result. -/
def modify (now : Instant) (id : ReservationId)
    (f : Reservation → Except ReservationError Reservation) (event : Reservation → ReservationEvent) :
    Action σ OperationError Reservation := do
  let r ← get id
  let r' ← Action.ofExcept ((f r).mapError .reservation)
  (Backend.updateReservation id r').mapError .storage
  announce now (event r')
  return r'

def change (now : Instant) (c : ReservationChange) (id : ReservationId) :
    Action σ OperationError Reservation :=
  modify now id (Reservation.change now c) (.ofChanged c)

def cancel (now : Instant) (id : ReservationId) (reason : String) :
    Action σ OperationError Reservation :=
  modify now id (Reservation.cancel now reason) .ofCancelled

/-- The reservations a guest has made, in the order of their identifiers. -/
def listByGuest (id : GuestId) : Action σ OperationError (List Reservation) := do
  let rs ← Backend.readReservations.mapError .storage
  return rs.filter (·.guestId = id)

end HotelBooking.Reservations
