import HotelBooking.Operation.Backend

/-!
# Operations on payments

The gateway is asked first; what it answers is then recorded in the payment, stored and announced.
A rejected authorization or capture is recorded and announced as a failure before it is reported.
-/

namespace HotelBooking.Payments

variable {σ : Type} [Backend σ]

/-- The code of a failed authorization. -/
def authorizationFailed : String := "gateway_error"

/-- The code of a failed capture. -/
def captureFailed : String := "capture_failed"

def announce (now : Instant) (e : PaymentEvent) : Action σ OperationError Unit :=
  (Backend.publish (e.toEnvelope now)).mapError .publish

/-- Announces a failure; if that is not possible, nothing happens. -/
def announceFailure (now : Instant) (p : Payment) : Action σ OperationError Unit := do
  let _ ← (Backend.publish (PaymentEvent.toEnvelope now (.ofFailed p))).attempt

/-- Has a payment authorized, and stores the result with `store`, also if it is a failure. -/
def authorizeWith (now : Instant) (store : Payment → Action σ StorageError Unit) (p : Payment) :
    Action σ OperationError Payment := do
  match ← (Backend.authorize p).attempt with
  | .ok transactionId =>
    let p ← Action.ofExcept ((p.authorize now transactionId).mapError .payment)
    (store p).mapError .storage
    announce now (.ofAuthorized p)
    return p
  | .error e =>
    Backend.count (.gatewayFailures .authorize)
    let p ← Action.ofExcept ((p.fail now authorizationFailed e.message).mapError .payment)
    (store p).mapError .storage
    announceFailure now p
    throw (.gateway .authorize e)

/-- Has a new payment authorized. -/
def authorize (now : Instant) (order : PaymentOrder) : Action σ OperationError Payment :=
  authorizeWith now (fun p => Backend.createPayment p.id p) (Payment.make now order)

def get (id : PaymentId) : Action σ OperationError Payment :=
  (Backend.readPayment id).mapError .storage

/-- Tries again to have a payment authorized. -/
def retryAuthorization (now : Instant) (id : PaymentId) : Action σ OperationError Payment := do
  let p ← get id
  Action.ofExcept (p.checkRetryable.mapError .payment)
  authorizeWith now (Backend.updatePayment id) p

/-- Records that a capture failed, as far as that is possible. -/
def recordCaptureFailure (now : Instant) (id : PaymentId) (e : GatewayError) (p : Payment) :
    Action σ OperationError Unit :=
  match p.fail now captureFailed e.message with
  | .ok p => do
    let _ ← (Backend.updatePayment id p).attempt
    announceFailure now p
  | .error _ => return ()

def capture (now : Instant) (id : PaymentId) : Action σ OperationError Payment := do
  let p ← get id
  match ← (Backend.capture (p.transactionId.getD "") p.amount).attempt with
  | .ok () =>
    let p ← Action.ofExcept ((p.capture now).mapError .payment)
    (Backend.updatePayment id p).mapError .storage
    announce now (.ofSettled .captured p)
    return p
  | .error e =>
    Backend.count (.gatewayFailures .capture)
    recordCaptureFailure now id e p
    throw (.gateway .capture e)

/-- Refunds a captured payment. If the gateway rejects that, the payment stays as it is. -/
def refund (now : Instant) (id : PaymentId) : Action σ OperationError Payment := do
  let p ← get id
  match ← (Backend.refund (p.transactionId.getD "") p.amount).attempt with
  | .ok () =>
    let p ← Action.ofExcept ((p.refund now).mapError .payment)
    (Backend.updatePayment id p).mapError .storage
    announce now (.ofSettled .refunded p)
    return p
  | .error e =>
    Backend.count (.gatewayFailures .refund)
    throw (.gateway .refund e)

end HotelBooking.Payments
