/-!
# The steps of a booking

A booking makes a reservation, has its payment authorized and captured, and confirms the
reservation. When a step fails, the ones before it are undone.
-/

namespace HotelBooking

inductive BookingStep where
  | createReservation
  | authorizePayment
  | capturePayment
  | confirmReservation
  deriving Repr, DecidableEq

/-- What kind of undertaking a booking is. -/
def Booking.kind : String := "HotelBooking"

namespace BookingStep

/-- The steps in their order. -/
def all : List BookingStep :=
  [createReservation, authorizePayment, capturePayment, confirmReservation]

def number : BookingStep → Nat
  | createReservation => 1
  | authorizePayment => 2
  | capturePayment => 3
  | confirmReservation => 4

def name : BookingStep → String
  | createReservation => "create_reservation"
  | authorizePayment => "authorize_payment"
  | capturePayment => "capture_payment"
  | confirmReservation => "confirm_reservation"

def title (s : BookingStep) : String := s!"step {s.number} ({s.name})"

/-- Why a reservation is cancelled when its payment cannot be captured. -/
def captureFailedReason : String := "payment_capture_failed"

/-- Why a reservation is cancelled when the step fails. If the first step fails there is none. -/
def cancellationReason : BookingStep → Option String
  | createReservation => none
  | authorizePayment => some "payment_authorization_failed"
  | capturePayment => some captureFailedReason
  | confirmReservation => some "confirmation_failed"

end BookingStep

/-- What is done to undo earlier steps. -/
inductive Compensation where
  | refundPayment
  | cancelReservation
  deriving Repr, DecidableEq

namespace Compensation

def all : List Compensation := [refundPayment, cancelReservation]

def name : Compensation → String
  | refundPayment => "refund_payment"
  | cancelReservation => "cancel_reservation"

end Compensation
end HotelBooking
