import HotelBooking.Action
import HotelBooking.Metrics
import HotelBooking.Notifier
import HotelBooking.Operation.Error

/-!
# What the services need

The services for reservations and payments are written once, for every kind of state that offers
these operations.
-/

namespace HotelBooking

class Backend (σ : Type) where
  readReservation (id : ReservationId) : Action σ StorageError Reservation
  /-- In the order of their identifiers. -/
  readReservations : Action σ StorageError (List Reservation)
  createReservation (id : ReservationId) (r : Reservation) : Action σ StorageError Unit
  updateReservation (id : ReservationId) (r : Reservation) : Action σ StorageError Unit
  /-- No reservation that holds the room overlaps the stay. -/
  isRoomAvailable (roomId : RoomId) (stay : Stay) : Action σ AvailabilityError Bool
  readPayment (id : PaymentId) : Action σ StorageError Payment
  createPayment (id : PaymentId) (p : Payment) : Action σ StorageError Unit
  updatePayment (id : PaymentId) (p : Payment) : Action σ StorageError Unit
  authorize (p : Payment) : Action σ GatewayError String
  capture (transactionId : String) (amount : Money) : Action σ GatewayError Unit
  refund (transactionId : String) (amount : Money) : Action σ GatewayError Unit
  publish (e : Envelope) : Action σ PublishError Unit
  sendConfirmation (r : Reservation) : Action σ NoticeError Unit
  sendCancellation (r : Reservation) (reason : String) : Action σ NoticeError Unit
  count {ε : Type} (m : Metric) : Action σ ε Unit

end HotelBooking
