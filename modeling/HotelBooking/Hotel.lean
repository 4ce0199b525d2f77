import HotelBooking.Operation.Backend
import HotelBooking.Storage.EventLog

/-!
# The booking system in memory
-/

namespace HotelBooking

structure Hotel where
  reservations : Table Reservation := { entity := "Reservation" }
  payments : Table Payment := { entity := "Payment" }
  gateway : Gateway := {}
  log : EventLog := {}
  notifier : Notifier := {}
  metrics : Metrics := {}

/-- The reservation keeps others out of the room during the stay. -/
def Reservation.blocks (roomId : RoomId) (stay : Stay) (r : Reservation) : Bool :=
  r.roomId = roomId && r.holdsRoom && r.stay.overlaps stay

namespace Hotel

/-- The system in which nothing has happened yet. -/
def empty : Hotel := {}

variable {ε α : Type}

def onReservations (x : Action (Table Reservation) ε α) : Action Hotel ε α :=
  x.zoom (·.reservations) fun r s => { s with reservations := r }

def onPayments (x : Action (Table Payment) ε α) : Action Hotel ε α :=
  x.zoom (·.payments) fun p s => { s with payments := p }

def onGateway (x : Action Gateway ε α) : Action Hotel ε α :=
  x.zoom (·.gateway) fun g s => { s with gateway := g }

def onLog (x : Action EventLog ε α) : Action Hotel ε α :=
  x.zoom (·.log) fun l s => { s with log := l }

def onNotifier (x : Action Notifier ε α) : Action Hotel ε α :=
  x.zoom (·.notifier) fun n s => { s with notifier := n }

def count (m : Metric) : Action Hotel ε Unit := fun s =>
  .ok () { s with metrics := s.metrics.increment m }

/-- The reservations that keep others out of the room during the stay. -/
def blocking (s : Hotel) (roomId : RoomId) (stay : Stay) : List Reservation :=
  s.reservations.values.filter (·.blocks roomId stay)

instance : Backend Hotel where
  readReservation id := onReservations (Table.read id.text)
  readReservations := fun s => .ok s.reservations.values s
  createReservation id r := onReservations (Table.create id.text r)
  updateReservation id r := onReservations (Table.update id.text r)
  isRoomAvailable roomId stay := fun s => .ok (s.blocking roomId stay).isEmpty s
  readPayment id := onPayments (Table.read id.text)
  createPayment id p := onPayments (Table.create id.text p)
  updatePayment id p := onPayments (Table.update id.text p)
  authorize p := onGateway (Gateway.authorize p)
  capture transactionId amount := onGateway (Gateway.capture transactionId amount)
  refund transactionId amount := onGateway (Gateway.refund transactionId amount)
  publish e := onLog (EventLog.publish e)
  sendConfirmation r := onNotifier (Notifier.sendConfirmation r)
  sendCancellation r reason := onNotifier (Notifier.sendCancellation r reason)
  count m := count m

end Hotel
end HotelBooking
