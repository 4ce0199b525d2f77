import HotelBooking.Proofs.Payments
import HotelBooking.Proofs.Steps

/-!
# Captures and refunds

A payment is captured and refunded in the same way: the gateway is asked, then the payment itself, and then
its new form is stored and announced (`settle_apply`). When the payment refuses, nothing is stored or announced,
but the gateway has done its part by then: it has counted the call, and it has closed the transaction that it
was asked to refund (`refused_settlement`). So a payment that is authorized, and refuses to be refunded, can be
captured no more.
-/

namespace HotelBooking

namespace Settlement

variable {σ : Type} [Backend σ]

def perform (now : Instant) (id : PaymentId) : Settlement → Action σ OperationError Payment
  | captured => Payments.capture now id
  | refunded => Payments.refund now id

def operation : Settlement → GatewayOperation
  | captured => .capture
  | refunded => .refund

/-- The status that a payment must have before. -/
def source : Settlement → PaymentStatus
  | captured => .authorized
  | refunded => .captured

/-- The status that it has after. -/
def target : Settlement → PaymentStatus
  | captured => .captured
  | refunded => .refunded

/-- The payment after its money has moved, unless it refuses. -/
def settle (now : Instant) (p : Payment) : Settlement → Except PaymentError Payment
  | captured => p.capture now
  | refunded => p.refund now

theorem settle_eq_ok_iff {now : Instant} {p q : Payment} {c : Settlement} :
    c.settle now p = .ok q ↔ p.status = c.source ∧ q = p.record (.succeeded now c.target) := by
  cases c with
  | captured => exact Payment.capture_eq_ok_iff
  | refunded => exact Payment.refund_eq_ok_iff

/-- Why the gateway moves no money for the payment. -/
def gatewayError? (p : Payment) (g : Gateway) : Settlement → Option GatewayError
  | captured => g.captureError? (p.transactionId.getD "") p.amount
  | refunded => g.refundError? (p.transactionId.getD "")

/-- The system after the gateway has moved the money for the payment. -/
def accepted (p : Payment) (s : Hotel) : Settlement → Hotel
  | captured => s.amountCaptured
  | refunded => s.transactionRefunded (p.transactionId.getD "")

/-- The system after the gateway has not done so. -/
def rejected (now : Instant) (id : PaymentId) (e : GatewayError) (p : Payment) (s : Hotel) :
    Settlement → Hotel
  | captured => (s.rejected .capture).captureFailed now id e p
  | refunded => s.rejected .refund

end Settlement

namespace Payments

open HotelBooking.Action

variable {now : Instant} {s t : Hotel} {id : PaymentId} {p : Payment} {e : PaymentError}

theorem settle_apply (now : Instant) (s : Hotel) (id : PaymentId) (c : Settlement) :
    c.perform now id s =
      match s.payment? id with
      | none => .error (.storage (.notFound s.payments.entity id.text)) s
      | some p =>
        match c.gatewayError? p s.gateway with
        | some e => .error (.gateway c.operation e) (c.rejected now id e p s)
        | none =>
          match c.settle now p with
          | .error e => .error (.payment e) (c.accepted p s)
          | .ok q =>
            (c.accepted p s).save (s.payments.updateError? id.text) id q
              (PaymentEvent.toEnvelope now (.ofSettled c q)) := by
  cases c with
  | captured => exact capture_apply now s id
  | refunded => exact refund_apply now s id

/-- What is saved was not refused by the payment. -/
theorem save_ne_refused {error? : Option StorageError} {q : Payment} {envelope : Envelope} :
    s.save error? id q envelope ≠ .error (.payment e) t := by
  unfold Hotel.save
  cases error? with
  | some err => nofun
  | none =>
      cases s.log.publishError? envelope.topic with
      | some err => nofun
      | none => nofun

/-- A payment refuses only what the gateway has agreed to. -/
theorem settle_refused_iff (c : Settlement) : c.perform now id s = .error (.payment e) t ↔
    ∃ p, s.payment? id = some p ∧ c.settle now p = .error e ∧ c.gatewayError? p s.gateway = none ∧
      t = c.accepted p s := by
  rw [settle_apply]
  cases s.payment? id with
  | none => simp
  | some p =>
      dsimp only
      cases hgateway : c.gatewayError? p s.gateway with
      | some err => simp [hgateway]
      | none =>
          dsimp only
          cases hsettle : c.settle now p with
          | ok q => simp [hsettle, save_ne_refused]
          | error err => simp [hgateway, hsettle, eq_comm]

/-- Nothing is captured from a transaction that is closed. -/
theorem capture_closed (hp : s.payment? id = some p)
    (hclosed : s.gateway.transactions[p.transactionId.getD ""]? = none) (later : Instant) :
    ∃ err u, capture later id s = .error (.gateway .capture err) u := by
  cases hgateway : s.gateway.captureError? (p.transactionId.getD "") p.amount with
  | none =>
      have hopen := (Gateway.captureError?_eq_none_iff.mp hgateway).2
      rw [hclosed] at hopen
      contradiction
  | some err =>
      rw [capture_apply, hp]
      dsimp only
      rw [hgateway]
      exact ⟨err, _, rfl⟩

/-- A payment refuses a capture or a refund only where the gateway has agreed to it. Then nothing has changed
but the gateway: the call is counted, and a transaction that was to be refunded is closed, so that nothing
can be captured from it, though the payment is stored as before. -/
theorem refused_settlement (now : Instant) (s : Hotel) (id : PaymentId) :
    (∀ e t, capture now id s = .error (.payment e) t ↔
      ∃ p, s.payment? id = some p ∧ p.capture now = .error e ∧ s.gateway.failsCapture = false ∧
        s.gateway.transactions[p.transactionId.getD ""]? = some p.amount ∧
          t = s.withGateway { s.gateway with captureCalls := s.gateway.captureCalls + 1 }) ∧
      (∀ e t, refund now id s = .error (.payment e) t ↔
        ∃ p, s.payment? id = some p ∧ p.refund now = .error e ∧ s.gateway.failsRefund = false ∧
          s.gateway.transactions[p.transactionId.getD ""]?.isSome ∧
            t = s.withGateway { s.gateway with
              refundCalls := s.gateway.refundCalls + 1
              transactions := s.gateway.transactions.erase (p.transactionId.getD "") }) ∧
      ∀ e t, refund now id s = .error (.payment e) t →
        t.payment? id = s.payment? id ∧
          ∀ later, ∃ err u, capture later id t = .error (.gateway .capture err) u := by
  have hcapture {e t} : Settlement.captured.perform now id s = .error (.payment e) t ↔ _ :=
    settle_refused_iff .captured
  have hrefund {e t} : Settlement.refunded.perform now id s = .error (.payment e) t ↔ _ :=
    settle_refused_iff .refunded
  simp only [Settlement.gatewayError?, Gateway.captureError?_eq_none_iff, and_assoc] at hcapture
  simp only [Settlement.gatewayError?, Gateway.refundError?_eq_none_iff, and_assoc] at hrefund
  refine ⟨fun e t => hcapture, fun e t => hrefund, fun e t h => ?_⟩
  obtain ⟨p, hp, -, -, -, rfl⟩ := hrefund.mp h
  have hclosed : (s.transactionRefunded (p.transactionId.getD "")).gateway.transactions[
      p.transactionId.getD ""]? = none := by
    simp [Hotel.transactionRefunded]
  exact ⟨rfl, capture_closed hp hclosed⟩

open Sample

/-- A payment has been authorized, and that is all. -/
def authorizedOnly : Hotel := (authorize (day 1) booking.payment).after .empty

set_option maxRecDepth 10000 in
theorem authorizedOnly_refused_settlement :
    ∃ t err u, refund (day 1) booking.paymentId authorizedOnly = .error (.payment .notCaptured) t ∧
      t.payment? booking.paymentId = some (booking.authorizedPayment (day 1)) ∧
        capture (day 2) booking.paymentId t = .error (.gateway .capture err) u := by
  have hstored : authorizedOnly.payment? booking.paymentId = some (booking.authorizedPayment (day 1)) := by
    decide +kernel
  have h : refund (day 1) booking.paymentId authorizedOnly = .error (.payment .notCaptured) _ :=
    eq_error_of_outcome (by decide +kernel)
  obtain ⟨-, -, hrefused⟩ := refused_settlement (day 1) authorizedOnly booking.paymentId
  obtain ⟨hkept, hlost⟩ := hrefused _ _ h
  obtain ⟨err, u, hcapture⟩ := hlost (day 2)
  exact ⟨_, err, u, h, hkept.trans hstored, hcapture⟩

set_option maxRecDepth 10000 in
/-- The refund is refused and the payment stays authorized, yet the amount that could be captured before
cannot be captured any more. -/
theorem refused_refund_releases :
    ∃ t, refund (day 1) booking.paymentId authorizedOnly = .error (.payment .notCaptured) t ∧
      t.payment? booking.paymentId = some (booking.authorizedPayment (day 1)) ∧
        t.gateway.refundCalls ≠ authorizedOnly.gateway.refundCalls ∧
          authorizedOnly.gateway.transactions.contains booking.transactionId = true ∧
            t.gateway.transactions.contains booking.transactionId = false ∧
              ((capture (day 1) booking.paymentId).outcome authorizedOnly).1 =
                .ok (booking.capturedPayment (day 1)) ∧
                ((capture (day 1) booking.paymentId).outcome t).1 =
                  .error (.gateway .capture (.transactionNotFound booking.transactionId)) := by
  have h : refund (day 1) booking.paymentId authorizedOnly = .error (.payment .notCaptured) _ :=
    eq_error_of_outcome (by decide +kernel)
  exact ⟨_, h, by decide +kernel, by decide +kernel, by decide +kernel, by decide +kernel,
    by decide +kernel, by decide +kernel⟩

end Payments
end HotelBooking
