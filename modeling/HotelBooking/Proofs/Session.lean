import HotelBooking.Booking.Pump
import HotelBooking.Proofs.Parts
import HotelBooking.Proofs.Services

/-!
# Sessions

A session is what happens to a system over time: calls of its operations, one after the other, with
outages that begin and end and a clock that is set forwards or backwards in between. What the
services may do carries over to a whole session (`Session.run_moves`).
-/

namespace HotelBooking

open HotelBooking.Action

/-- A call of an operation of the system. -/
inductive Call where
  | complete (order : BookingOrder)
  | initiate (order : ReservationOrder)
  | cancelBooking (id : ReservationId) (reason : String)
  | onAuthorized (id : PaymentId) (reservationId : ReservationId)
  | onCaptured (id : ReservationId)
  | onFailed (id : ReservationId) (reason : String)
  | handle (e : Envelope)
  | pump
  | createReservation (order : ReservationOrder)
  | changeReservation (c : ReservationChange) (id : ReservationId)
  | cancelReservation (id : ReservationId) (reason : String)
  | getReservation (id : ReservationId)
  | listByGuest (id : GuestId)
  | authorizePayment (order : PaymentOrder)
  | retryAuthorization (id : PaymentId)
  | capturePayment (id : PaymentId)
  | refundPayment (id : PaymentId)
  | getPayment (id : PaymentId)

/-- What a call is answered with. -/
inductive Answer where
  | booking (r : Except BookingError Reservation)
  | paidBooking (r : Except BookingError Payment)
  | reaction (r : Except BookingError Reaction)
  | topics (ts : List String)
  | reservation (r : Except OperationError Reservation)
  | reservations (r : Except OperationError (List Reservation))
  | payment (r : Except OperationError Payment)

/-- The answer to a call and the system after it. -/
def Call.perform (now : Instant) (s : Hotel) : Call → Answer × Hotel
  | complete order => ((Booking.complete now order).outcome s).map .booking id
  | initiate order => ((Booking.initiate now order).outcome s).map .booking id
  | cancelBooking i reason => ((Booking.cancel now i reason).outcome s).map .booking id
  | onAuthorized i reservationId =>
    ((Booking.onAuthorized now i reservationId).outcome s).map .paidBooking id
  | onCaptured i => ((Booking.onCaptured now i).outcome s).map .booking id
  | onFailed i reason => ((Booking.onFailed now i reason).outcome s).map .booking id
  | handle e => ((Booking.handle now e).outcome s).map .reaction id
  | pump => (s.pump now).map .topics id
  | createReservation order => ((Reservations.create now order).outcome s).map .reservation id
  | changeReservation c i => ((Reservations.change now c i).outcome s).map .reservation id
  | cancelReservation i reason => ((Reservations.cancel now i reason).outcome s).map .reservation id
  | getReservation i => ((Reservations.get i).outcome s).map .reservation id
  | listByGuest i => ((Reservations.listByGuest i).outcome s).map .reservations id
  | authorizePayment order => ((Payments.authorize now order).outcome s).map .payment id
  | retryAuthorization i => ((Payments.retryAuthorization now i).outcome s).map .payment id
  | capturePayment i => ((Payments.capture now i).outcome s).map .payment id
  | refundPayment i => ((Payments.refund now i).outcome s).map .payment id
  | getPayment i => ((Payments.get i).outcome s).map .payment id

/-- The system with these outages and no others. -/
def Hotel.withOutages (o : Outages) (s : Hotel) : Hotel where
  reservations :=
    { s.reservations with refusesCreate := o.newReservations, refusesUpdate := o.reservationChanges }
  payments := { s.payments with refusesCreate := o.newPayments, refusesUpdate := o.paymentChanges }
  gateway :=
    { s.gateway with failsAuthorize := o.authorize, failsCapture := o.capture, failsRefund := o.refund }
  log := { s.log with refused := o.topics }
  notifier := { s.notifier with isDown := o.notices }
  metrics := s.metrics

/-- A system and the time that its clock shows. -/
structure Session where
  now : Instant
  hotel : Hotel

namespace Session

/-- What can happen next. -/
inductive Event where
  | call (c : Call)
  | setClock (now : Instant)
  | setOutages (o : Outages)

/-- Nothing has happened yet. -/
def start (now : Instant) : Session := ⟨now, Hotel.empty⟩

def step (x : Session) : Event → Session
  | .call c => ⟨x.now, (c.perform x.now x.hotel).2⟩
  | .setClock now => ⟨now, x.hotel⟩
  | .setOutages o => ⟨x.now, x.hotel.withOutages o⟩

def run (x : Session) (events : List Event) : Session := events.foldl step x

end Session

section
variable {R : Hotel → Hotel → Prop} [IsPreorder Hotel R] (h : Booking.ServicesMove R)
  (hdrain : ∀ s : Hotel, R s { s with log := s.log.drain }) (now : Instant)
include h

theorem Hotel.foldl_react_moves (queue : List Envelope) (s : Hotel) :
    R s (queue.foldl (Hotel.react now) s) := by
  induction queue generalizing s with
  | nil => exact Std.Refl.refl s
  | cons e queue ih => exact IsTrans.trans _ _ _ (Booking.handle_moves now h e s) (ih _)

include hdrain

theorem Hotel.pumpRounds_moves (rounds : Nat) (s : Hotel) :
    R s (Hotel.pumpRounds now rounds s).2 := by
  induction rounds generalizing s with
  | zero => exact Std.Refl.refl s
  | succ rounds ih =>
      rw [Hotel.pumpRounds]
      split_ifs
      · exact Std.Refl.refl s
      · have hround : R s (Hotel.pumpRound now s) :=
          IsTrans.trans _ _ _ (hdrain s) (Hotel.foldl_react_moves h now s.log.queue _)
        exact IsTrans.trans _ _ _ hround (ih _)

theorem Call.perform_moves (c : Call) (s : Hotel) : R s (c.perform now s).2 := by
  cases c with
  | complete order => exact Booking.complete_moves now h order s
  | initiate order => exact Booking.initiate_moves now h order s
  | cancelBooking id reason => exact Booking.cancel_moves now h id reason s
  | onAuthorized id reservationId => exact Booking.onAuthorized_moves now h id reservationId s
  | onCaptured id => exact Booking.onCaptured_moves now h id s
  | onFailed id reason => exact Booking.onFailed_moves now h id reason s
  | handle e => exact Booking.handle_moves now h e s
  | pump => exact Hotel.pumpRounds_moves h hdrain now Hotel.stages s
  | createReservation order => exact h.createReservation now order s
  | changeReservation c id => exact h.changeReservation now c id s
  | cancelReservation id reason => exact h.cancelReservation now id reason s
  | getReservation id => exact h.getReservation id s
  | listByGuest id => exact h.listByGuest id s
  | authorizePayment order => exact h.authorize now order s
  | retryAuthorization id => exact h.retryAuthorization now id s
  | capturePayment id => exact h.capture now id s
  | refundPayment id => exact h.refund now id s
  | getPayment id => exact h.getPayment id s

theorem Session.step_moves (houtages : ∀ o s, R s (s.withOutages o)) (x : Session)
    (e : Session.Event) : R x.hotel (x.step e).hotel := by
  cases e with
  | call c => exact Call.perform_moves h hdrain x.now c x.hotel
  | setClock now => exact Std.Refl.refl x.hotel
  | setOutages o => exact houtages o x.hotel

theorem Session.run_moves (houtages : ∀ o s, R s (s.withOutages o)) (x : Session)
    (events : List Session.Event) : R x.hotel (x.run events).hotel := by
  induction events generalizing x with
  | nil => exact Std.Refl.refl x.hotel
  | cons e events ih => exact IsTrans.trans _ _ _ (step_moves h hdrain houtages x e) (ih _)

end
end HotelBooking
