import HotelBooking.Uuid

/-!
# Identifiers

Texts that name reservations, payments, guests and rooms. A type of its own for each keeps them
apart. `new` makes one that nobody else has, from a fresh universally unique identifier.
-/

namespace HotelBooking

structure ReservationId where
  text : String
  deriving Repr, DecidableEq

structure PaymentId where
  text : String
  deriving Repr, DecidableEq

structure GuestId where
  text : String
  deriving Repr, DecidableEq

structure RoomId where
  text : String
  deriving Repr, DecidableEq

def ReservationId.new (u : Uuid) : ReservationId := ⟨"res-" ++ u.toText⟩

def PaymentId.new (u : Uuid) : PaymentId := ⟨"pay-" ++ u.toText⟩

def GuestId.new (u : Uuid) : GuestId := ⟨"guest-" ++ u.toText⟩

def RoomId.new (u : Uuid) : RoomId := ⟨"room-" ++ u.toText⟩

end HotelBooking
