import HotelBooking.Json.Fields
import HotelBooking.Time.Text

/-!
# Instants as JSON
-/

namespace HotelBooking.Instant

def toJson (t : Instant) : Json := .text t.toText

def ofJson? (j : Json) : Option Instant := j.text?.bind ofText?

end HotelBooking.Instant
