import HotelBooking.Gateway
import HotelBooking.Stay
import HotelBooking.Text.Blank

/-!
# Configuration of the demonstration

Settings are read from named variables, each with a default. The price and the stay that follow from
them have to be representable, which depends on the time.
-/

namespace HotelBooking

inductive LogFormat where
  | text
  | json
  deriving Repr, DecidableEq

/-- Whether a booking is made in one go or driven by its events. -/
inductive BookingMode where
  | orchestrated
  | eventDriven
  deriving Repr, DecidableEq

def LogFormat.label : LogFormat → String
  | text => "Text"
  | json => "Json"

def BookingMode.label : BookingMode → String
  | orchestrated => "Orchestrated"
  | eventDriven => "EventDriven"

/-- The value of a variable is not usable. -/
structure ConfigError where
  variableName : String
  value : String
  deriving Repr, DecidableEq

structure Config where
  logLevel : String := "info"
  logFormat : LogFormat := .text
  currency : String := "USD"
  nightlyRate : Int64 := 15000
  nights : Int64 := 2
  checkInDays : Int64 := 7
  /-- The operation of the gateway that is made to fail. -/
  gatewayFailure : Option GatewayOperation := none
  mode : BookingMode := .orchestrated
  deriving DecidableEq

namespace Config

def rateVariable : String := "BOOKING_NIGHTLY_RATE_CENTS"

def nightsVariable : String := "BOOKING_NIGHTS"

def checkInVariable : String := "BOOKING_CHECK_IN_DAYS"

def logFormatVariable : String := "LOG_FORMAT"

def gatewayFailureVariable : String := "BOOKING_GATEWAY_FAILURE"

def modeVariable : String := "BOOKING_MODE"

/-- The text with the letters A to Z in lower case. -/
def lowerAscii (s : String) : String := String.ofList (s.toList.map Char.toLower)

def parseLogFormat (s : String) : Option LogFormat :=
  match lowerAscii s with
  | "text" => some .text
  | "json" => some .json
  | _ => none

def parseGatewayFailure (s : String) : Option (Option GatewayOperation) :=
  match lowerAscii s with
  | "none" => some none
  | "" => some none
  | "authorize" => some (some .authorize)
  | "capture" => some (some .capture)
  | "refund" => some (some .refund)
  | _ => none

def parseMode (s : String) : Option BookingMode :=
  match lowerAscii s with
  | "orchestrated" => some .orchestrated
  | "event-driven" => some .eventDriven
  | "event_driven" => some .eventDriven
  | _ => none

/-- Digits with an optional sign. -/
def parseInt (s : String) : Option Int64 :=
  let (negative, ds) := match s.toList with
    | '-' :: ds => (true, ds)
    | '+' :: ds => (false, ds)
    | ds => (false, ds)
  if ds ≠ [] ∧ ds.all Char.isDigit then
    word? (if negative then -(Text.value ds : Int) else Text.value ds)
  else none

def intText (n : Int64) : String := String.ofList (Text.signedDigits n.toInt)

/-- The value of a variable without blanks around it, or the default if it is not set. -/
def setting {α : Type} (lookup : String → Option String) (name : String)
    (parse : String → Option α) (default : α) : Except ConfigError α :=
  match lookup name with
  | none => .ok default
  | some value =>
    match parse (Text.trim value) with
    | some a => .ok a
    | none => .error ⟨name, value⟩

def requirePositive (name : String) (n : Int64) : Except ConfigError Int64 :=
  if 0 < n then .ok n else .error ⟨name, intText n⟩

/-- The price of the whole stay. -/
def total (c : Config) : Except ConfigError Money :=
  match word? (c.nightlyRate.toInt * c.nights.toInt) with
  | some amount => .ok (Money.of amount c.currency)
  | none => .error ⟨rateVariable, intText c.nightlyRate⟩

/-- The stay booked at `now`. -/
def stay (now : Instant) (c : Config) : Except ConfigError Stay :=
  match now.addDays? c.checkInDays.toInt with
  | none => .error ⟨checkInVariable, intText c.checkInDays⟩
  | some checkIn =>
    match checkIn.addDays? c.nights.toInt with
    | none => .error ⟨nightsVariable, intText c.nights⟩
    | some checkOut => .ok ⟨checkIn, checkOut⟩

def validate (now : Instant) (c : Config) : Except ConfigError Unit := do
  if c.nightlyRate < 0 then throw ⟨rateVariable, intText c.nightlyRate⟩
  let _ ← requirePositive nightsVariable c.nights
  let _ ← c.total
  let _ ← c.stay now

/-- Reads the settings, the first unusable one being reported, and checks them. -/
def load (now : Instant) (lookup : String → Option String) : Except ConfigError Config := do
  let default : Config := {}
  let logFormat ← setting lookup logFormatVariable parseLogFormat default.logFormat
  let nightlyRate ← setting lookup rateVariable parseInt default.nightlyRate
  let nights ← setting lookup nightsVariable parseInt default.nights
  let nights ← requirePositive nightsVariable nights
  let checkInDays ← setting lookup checkInVariable parseInt default.checkInDays
  let gatewayFailure ←
    setting lookup gatewayFailureVariable parseGatewayFailure default.gatewayFailure
  let mode ← setting lookup modeVariable parseMode default.mode
  let config : Config :=
    { logLevel := (lookup "RUST_LOG").getD default.logLevel
      logFormat
      currency := (lookup "BOOKING_CURRENCY").getD default.currency
      nightlyRate
      nights
      checkInDays
      gatewayFailure
      mode }
  config.validate now
  return config

end Config
end HotelBooking
