import HotelBooking.Demo
import HotelBooking.Json.Writer
import Std.Time.DateTime.Timestamp

/-!
# Command line

Reads the configuration from the environment, runs the demonstration on an empty hotel and reports
how it went. The exit code is 0 if the booking was confirmed.
-/

namespace HotelBooking

def ConfigError.message (e : ConfigError) : String :=
  s!"invalid value for {e.variableName}: " ++ String.ofList (Json.quote e.value)

namespace Demo

/-- The lines that report how the demonstration went. -/
def Report.lines (r : Report) : List String :=
  let topics := "published events: " ++ ", ".intercalate r.topics
  let failure := match r.error with
    | some e => ["demo booking failed: " ++ e.message]
    | none => []
  let reservation := match r.reservation with
    | some reservation =>
      if r.succeeded then []
      else
        let reason := reservation.cancellationReason.getD "none"
        [s!"booking not confirmed: {reservation.id.text} is {reservation.status.name}, reason {reason}"]
    | none => []
  failure ++ [topics] ++ reservation

/-- Sends the receipt of a booking that went through, and reports that. -/
def Report.sendReceipt (r : Report) (n : Notifier) : List String :=
  match r.payment with
  | some p =>
    if r.succeeded then
      match Notifier.sendReceipt p n with
      | .ok () _ => [s!"payment receipt sent: {p.amount.toText}"]
      | .error e _ => [s!"payment receipt not sent: {e.message}"]
    else []
  | none => []

end Demo
end HotelBooking

open HotelBooking

def currentInstant : IO Instant := do
  let t ← Std.Time.Timestamp.now
  match Instant.ofNanos? t.toNanosecondsSinceUnixEpoch.val with
  | some now => return now
  | none => throw (IO.userError "the clock is out of range")

def settingNames : List String :=
  ["RUST_LOG", "BOOKING_CURRENCY", Config.logFormatVariable, Config.rateVariable,
    Config.nightsVariable, Config.checkInVariable, Config.gatewayFailureVariable,
    Config.modeVariable]

def environment : IO (List (String × String)) := do
  settingNames.filterMapM fun name => do return (← IO.getEnv name).map (name, ·)

def main : IO UInt32 := do
  let now ← currentInstant
  let settings ← environment
  match Config.load now (settings.lookup ·) with
  | .error e =>
    IO.eprintln s!"configuration error: {e.message}"
    return 1
  | .ok config =>
    match Demo.run now config Hotel.empty with
    | .error e _ =>
      IO.eprintln s!"invalid demo configuration: {e.message}"
      return 1
    | .ok report hotel =>
      (report.lines ++ report.sendReceipt hotel.notifier).forM IO.println
      return if report.succeeded then 0 else 1
