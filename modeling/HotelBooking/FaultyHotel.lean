import HotelBooking.Hotel

/-!
# Outages

A booking system behind connections that can be told to fail, and a gateway some of whose answers
are laid down beforehand. The services run on it as they run on the system itself.
-/

namespace HotelBooking

/-- A connection that can fail. -/
inductive Connection where
  | readReservation
  | readReservations
  | readPayment
  | availability
  deriving Repr, DecidableEq

/-- The next `skip` calls pass; every call after them fails. -/
structure Fault where
  skip : Nat
  reason : String
  deriving Repr, DecidableEq

/-- An answer of the gateway that is laid down. -/
inductive ScriptedAnswer where
  | authorize (answer : Except GatewayError String)
  | capture (answer : Except GatewayError Unit)
  | refund (answer : Except GatewayError Unit)

/-- A system with its faults, and the answers that the gateway has still to give. -/
structure FaultyHotel where
  hotel : Hotel := {}
  fault : Connection → Option Fault := fun _ => none
  script : List ScriptedAnswer := []

namespace FaultyHotel

variable {ε α : Type}

def onHotel (x : Action Hotel ε α) : Action FaultyHotel ε α :=
  x.zoom (·.hotel) fun t s => { s with hotel := t }

def setFault (c : Connection) (f : Option Fault) (s : FaultyHotel) : FaultyHotel :=
  { s with fault := fun d => if d = c then f else s.fault d }

/-- Uses a connection; fails with what `error` makes of the reason if the connection is down. -/
def through (c : Connection) (error : String → ε) (x : Action FaultyHotel ε α) :
    Action FaultyHotel ε α := fun s =>
  match s.fault c with
  | none => x s
  | some ⟨0, reason⟩ => .error (error reason) s
  | some ⟨skip + 1, reason⟩ => x (s.setFault c (some ⟨skip, reason⟩))

def readReservations : Action FaultyHotel StorageError (List Reservation) :=
  through .readReservations .unavailable (onHotel Backend.readReservations)

/-- Looks through the stored reservations, which have to be read for it. -/
def isRoomAvailable (roomId : RoomId) (stay : Stay) : Action FaultyHotel AvailabilityError Bool :=
  through .availability .unavailable do
    let rs ← readReservations.mapError .storage
    return (rs.filter (·.blocks roomId stay)).isEmpty

/-- The laid-down answer if the next one is for authorizing, otherwise that of the gateway. -/
def authorize (p : Payment) : Action FaultyHotel GatewayError String := fun s =>
  match s.script with
  | .authorize answer :: script => Action.ofExcept answer { s with script }
  | _ => onHotel (Backend.authorize p) s

def capture (transactionId : String) (amount : Money) : Action FaultyHotel GatewayError Unit :=
  fun s =>
    match s.script with
    | .capture answer :: script => Action.ofExcept answer { s with script }
    | _ => onHotel (Backend.capture transactionId amount) s

def refund (transactionId : String) (amount : Money) : Action FaultyHotel GatewayError Unit :=
  fun s =>
    match s.script with
    | .refund answer :: script => Action.ofExcept answer { s with script }
    | _ => onHotel (Backend.refund transactionId amount) s

instance : Backend FaultyHotel where
  readReservation id := through .readReservation .unavailable (onHotel (Backend.readReservation id))
  readReservations := readReservations
  createReservation id r := onHotel (Backend.createReservation id r)
  updateReservation id r := onHotel (Backend.updateReservation id r)
  isRoomAvailable := isRoomAvailable
  readPayment id := through .readPayment .unavailable (onHotel (Backend.readPayment id))
  createPayment id p := onHotel (Backend.createPayment id p)
  updatePayment id p := onHotel (Backend.updatePayment id p)
  authorize := authorize
  capture := capture
  refund := refund
  publish e := onHotel (Backend.publish e)
  sendConfirmation r := onHotel (Backend.sendConfirmation r)
  sendCancellation r reason := onHotel (Backend.sendCancellation r reason)
  count m := onHotel (Backend.count m)

end FaultyHotel
end HotelBooking
