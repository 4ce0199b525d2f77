import HotelBooking.Identifier
import HotelBooking.Money
import HotelBooking.Time.Instant

/-!
# Payments

A payment is authorized, then captured, and may be refunded after that. It can fail until it is
captured, and a failed payment can be authorized again. Every change of status is recorded as an
attempt, and a refused operation changes nothing.
-/

namespace HotelBooking

inductive PaymentStatus where
  | pending
  | authorized
  | captured
  | failed
  | refunded
  deriving Repr, DecidableEq, Inhabited

namespace PaymentStatus

def all : List PaymentStatus := [pending, authorized, captured, failed, refunded]

def name : PaymentStatus → String
  | pending => "pending"
  | authorized => "authorized"
  | captured => "captured"
  | failed => "failed"
  | refunded => "refunded"

def ofName? (s : String) : Option PaymentStatus := all.find? (·.name = s)

def canAuthorize (s : PaymentStatus) : Bool := s = pending || s = failed

def canCapture (s : PaymentStatus) : Bool := s = authorized

def canRefund (s : PaymentStatus) : Bool := s = captured

def canFail (s : PaymentStatus) : Bool := s ≠ captured && s ≠ refunded

end PaymentStatus

/-- A change of status, with a code and a message if it was a failure. -/
structure PaymentAttempt where
  time : Instant
  status : PaymentStatus
  errorCode : Option String
  errorMessage : Option String
  deriving Repr, DecidableEq

namespace PaymentAttempt

def succeeded (time : Instant) (status : PaymentStatus) : PaymentAttempt :=
  ⟨time, status, none, none⟩

def failed (time : Instant) (code message : String) : PaymentAttempt :=
  ⟨time, .failed, some code, some message⟩

def isFailure (a : PaymentAttempt) : Bool := a.status = .failed

end PaymentAttempt

/-- What is to be paid, for which reservation and how. -/
structure PaymentOrder where
  paymentId : PaymentId
  reservationId : ReservationId
  amount : Money
  method : String
  deriving DecidableEq

structure Payment where
  id : PaymentId
  reservationId : ReservationId
  amount : Money
  status : PaymentStatus
  method : String
  transactionId : Option String
  attempts : List PaymentAttempt
  createdAt : Instant
  updatedAt : Instant
  deriving DecidableEq

/-- What can be refused for the status of the payment alone. -/
inductive PaymentAction where
  | authorize
  | fail
  | retryAuthorization
  deriving Repr, DecidableEq

def PaymentAction.name : PaymentAction → String
  | authorize => "authorize"
  | fail => "fail"
  | retryAuthorization => "retry authorization"

inductive PaymentError where
  | notAllowed (status : PaymentStatus) (action : PaymentAction)
  | alreadyAuthorized
  | notAuthorized
  | alreadyCaptured
  | alreadyRefunded
  | notCaptured
  | retryLimit (failures : Nat)
  deriving Repr, DecidableEq

def PaymentError.message : PaymentError → String
  | notAllowed status action =>
    s!"Invalid payment state transition: cannot {action.name} from {status.name} state"
  | alreadyAuthorized => "Payment already authorized"
  | notAuthorized => "Payment not authorized"
  | alreadyCaptured => "Payment already captured"
  | alreadyRefunded => "Payment already refunded"
  | notCaptured => "Can only refund captured payments"
  | retryLimit failures => s!"Retry limit exceeded after {failures} failed attempts"

namespace Payment

/-- After this many failures authorization is not tried again. -/
def maxFailures : Nat := 3

def make (now : Instant) (order : PaymentOrder) : Payment where
  id := order.paymentId
  reservationId := order.reservationId
  amount := order.amount
  status := .pending
  method := order.method
  transactionId := none
  attempts := []
  createdAt := now
  updatedAt := now

/-- Moves the payment to the status of the attempt and records it. -/
def record (p : Payment) (a : PaymentAttempt) : Payment :=
  { p with status := a.status, attempts := p.attempts ++ [a], updatedAt := a.time }

def authorize (now : Instant) (transactionId : String) (p : Payment) : Except PaymentError Payment :=
  if p.status = .authorized then .error .alreadyAuthorized
  else if p.status.canAuthorize then
    .ok { p.record (.succeeded now .authorized) with transactionId := some transactionId }
  else .error (.notAllowed p.status .authorize)

def capture (now : Instant) (p : Payment) : Except PaymentError Payment :=
  if p.status = .captured then .error .alreadyCaptured
  else if p.status.canCapture then .ok (p.record (.succeeded now .captured))
  else .error .notAuthorized

def refund (now : Instant) (p : Payment) : Except PaymentError Payment :=
  if p.status = .refunded then .error .alreadyRefunded
  else if p.status.canRefund then .ok (p.record (.succeeded now .refunded))
  else .error .notCaptured

def fail (now : Instant) (code message : String) (p : Payment) : Except PaymentError Payment :=
  if p.status.canFail then .ok (p.record (.failed now code message))
  else .error (.notAllowed p.status .fail)

def failureCount (p : Payment) : Nat := p.attempts.countP (·.isFailure)

/-- Authorization can be tried again. -/
def isRetryable (p : Payment) : Bool := p.status.canAuthorize && p.failureCount < maxFailures

/-- Why authorization cannot be tried again, if it cannot. -/
def checkRetryable (p : Payment) : Except PaymentError Unit :=
  if !p.status.canAuthorize then .error (.notAllowed p.status .retryAuthorization)
  else if maxFailures ≤ p.failureCount then .error (.retryLimit p.failureCount)
  else .ok ()

def isSuccessful (p : Payment) : Bool := p.status = .captured

end Payment
end HotelBooking
