import HotelBooking.Booking.Step
import HotelBooking.Gateway
import HotelBooking.Json.Fields

/-!
# Steps and operations as JSON
-/

namespace HotelBooking

namespace GatewayOperation

def label : GatewayOperation → String
  | authorize => "Authorize"
  | capture => "Capture"
  | refund => "Refund"

def ofLabel? (s : String) : Option GatewayOperation := all.find? (·.label = s)

def toJson (op : GatewayOperation) : Json := .text op.label

def ofJson? (j : Json) : Option GatewayOperation := j.alternative?.bind ofLabel?

end GatewayOperation

namespace BookingStep

def label : BookingStep → String
  | createReservation => "CreateReservation"
  | authorizePayment => "AuthorizePayment"
  | capturePayment => "CapturePayment"
  | confirmReservation => "ConfirmReservation"

def ofLabel? (s : String) : Option BookingStep := all.find? (·.label = s)

def toJson (step : BookingStep) : Json := .text step.label

def ofJson? (j : Json) : Option BookingStep := j.alternative?.bind ofLabel?

end BookingStep

namespace Compensation

def label : Compensation → String
  | refundPayment => "RefundPayment"
  | cancelReservation => "CancelReservation"

def ofLabel? (s : String) : Option Compensation := all.find? (·.label = s)

def toJson (c : Compensation) : Json := .text c.label

def ofJson? (j : Json) : Option Compensation := j.alternative?.bind ofLabel?

end Compensation
end HotelBooking
