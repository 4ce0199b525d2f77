import HotelBooking.Booking.Step
import HotelBooking.Envelope
import HotelBooking.Gateway
import HotelBooking.Reservation.Basic
import HotelBooking.Storage.Table

/-!
# Why an operation failed
-/

namespace HotelBooking

/-- Why it could not be found out whether a room is free. -/
inductive AvailabilityError where
  | storage (e : StorageError)
  | unavailable (reason : String)
  deriving Repr, DecidableEq

def AvailabilityError.message : AvailabilityError → String
  | storage e => s!"Failed to read reservations: {e.message}"
  | unavailable reason => s!"Availability source unavailable: {reason}"

/-- Why an operation on reservations or payments failed. -/
inductive OperationError where
  | reservation (e : ReservationError)
  | payment (e : PaymentError)
  | storage (e : StorageError)
  | publish (e : PublishError)
  | gateway (operation : GatewayOperation) (e : GatewayError)
  | availability (e : AvailabilityError)
  | roomUnavailable (roomId : RoomId)
  deriving DecidableEq

def OperationError.message : OperationError → String
  | reservation e => s!"Reservation error: {e.message}"
  | payment e => s!"Payment error: {e.message}"
  | storage e => s!"Repository error: {e.message}"
  | publish e => s!"Failed to publish event: {e.message}"
  | gateway operation e => s!"Payment gateway {operation.name} failed: {e.message}"
  | availability e => s!"Failed to check availability: {e.message}"
  | roomUnavailable roomId => s!"Room {roomId.text} is not available for the selected dates"

structure CompensationFailure where
  action : Compensation
  error : OperationError
  deriving DecidableEq

def CompensationFailure.message (f : CompensationFailure) : String :=
  s!"{f.action.name}: {f.error.message}"

/-- Why a booking, or the reaction to an event, failed. -/
inductive BookingError where
  | stepFailed (step : BookingStep) (source : OperationError)
  | compensationFailed (step : BookingStep) (source : OperationError)
      (failures : List CompensationFailure)
  | service (source : OperationError)
  | unsupportedEvent (topic : String)
  | malformedEvent (topic : String)
  deriving DecidableEq

namespace BookingError

def message : BookingError → String
  | stepFailed step source => s!"Booking {step.title} failed: {source.message}"
  | compensationFailed step source failures =>
    let compensations := "; ".intercalate (failures.map (·.message))
    s!"Booking {step.title} failed: {source.message}; compensation failed: {compensations}"
  | service source => s!"Domain error: {source.message}"
  | unsupportedEvent topic => s!"Unsupported event on topic '{topic}'"
  | malformedEvent topic => s!"Malformed event on topic '{topic}'"

/-- The step that failed, if the error comes from one. -/
def step? : BookingError → Option BookingStep
  | stepFailed step _ => some step
  | compensationFailed step _ _ => some step
  | service _ => none
  | unsupportedEvent _ => none
  | malformedEvent _ => none

/-- The compensations that failed as well. -/
def failures : BookingError → List CompensationFailure
  | compensationFailed _ _ failures => failures
  | stepFailed _ _ => []
  | service _ => []
  | unsupportedEvent _ => []
  | malformedEvent _ => []

/-- The error of the operation that failed first. -/
def source? : BookingError → Option OperationError
  | stepFailed _ source => some source
  | compensationFailed _ source _ => some source
  | service source => some source
  | unsupportedEvent _ => none
  | malformedEvent _ => none

end BookingError
end HotelBooking
