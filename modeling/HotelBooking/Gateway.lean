import HotelBooking.Action
import HotelBooking.Payment.Basic
import Std.Data.ExtTreeMap

/-!
# Payment gateway

A gateway keeps the authorized amounts as open transactions. One is captured if the amount is the
same, and closed when it is refunded. Each operation can be told to fail; every call is counted.
-/

namespace HotelBooking

inductive GatewayOperation where
  | authorize
  | capture
  | refund
  deriving Repr, DecidableEq

namespace GatewayOperation

def all : List GatewayOperation := [authorize, capture, refund]

def name : GatewayOperation → String
  | authorize => "authorize"
  | capture => "capture"
  | refund => "refund"

end GatewayOperation

inductive GatewayError where
  | declined (reason : String)
  | transactionNotFound (id : String)
  | amountMismatch (authorized requested : Money)
  | unavailable (reason : String)
  deriving DecidableEq

def GatewayError.message : GatewayError → String
  | declined reason => s!"Payment declined: {reason}"
  | transactionNotFound id => s!"Transaction not found: {id}"
  | amountMismatch authorized requested =>
    s!"Amount mismatch: authorized {authorized.toText}, requested {requested.toText}"
  | unavailable reason => s!"Gateway unavailable: {reason}"

structure Gateway where
  transactions : Std.ExtTreeMap String Money := ∅
  failsAuthorize : Bool := false
  failsCapture : Bool := false
  failsRefund : Bool := false
  authorizeCalls : Nat := 0
  captureCalls : Nat := 0
  refundCalls : Nat := 0

namespace Gateway

/-- Makes one operation fail, or work again. -/
def setFailure (op : GatewayOperation) (fails : Bool) (g : Gateway) : Gateway :=
  match op with
  | .authorize => { g with failsAuthorize := fails }
  | .capture => { g with failsCapture := fails }
  | .refund => { g with failsRefund := fails }

/-- The transaction under which a payment of `amount` is authorized. -/
def transactionId (id : PaymentId) (amount : Int64) : String :=
  "txn_" ++ id.text ++ "_" ++ String.ofList (Text.signedDigits amount.toInt)

def authorize (p : Payment) : Action Gateway GatewayError String := fun g =>
  let g := { g with authorizeCalls := g.authorizeCalls + 1 }
  if g.failsAuthorize then .error (.declined "insufficient funds") g
  else
    let id := transactionId p.id p.amount.amount
    .ok id { g with transactions := g.transactions.insert id p.amount }

def capture (id : String) (amount : Money) : Action Gateway GatewayError Unit := fun g =>
  let g := { g with captureCalls := g.captureCalls + 1 }
  if g.failsCapture then .error (.unavailable "capture timed out") g
  else
    match g.transactions[id]? with
    | none => .error (.transactionNotFound id) g
    | some authorized =>
      if authorized = amount then .ok () g else .error (.amountMismatch authorized amount) g

/-- The amount does not matter: the whole transaction is refunded. -/
def refund (id : String) (_amount : Money) : Action Gateway GatewayError Unit := fun g =>
  let g := { g with refundCalls := g.refundCalls + 1 }
  if g.failsRefund then .error (.unavailable "refund rejected") g
  else if g.transactions.contains id then
    .ok () { g with transactions := g.transactions.erase id }
  else .error (.transactionNotFound id) g

end Gateway
end HotelBooking
