import HotelBooking.Proofs.Settlement

/-!
# What the answer of a payment operation tells

An operation on a payment can end in many places: the gateway, the payment itself, the storage and the log can
each refuse. The answer tells which of them it was, and with that what is stored and announced
(`payment_answers`). In spite of an error a payment has been stored in two cases only: it could not be announced,
or it has failed at the gateway, which is recorded and announced as far as that is possible.
-/

namespace HotelBooking

/-- The log with the envelope, unless its topic is refused. -/
def EventLog.offered (e : Envelope) (l : EventLog) : EventLog :=
  match l.publishError? e.topic with
  | none => l.append e
  | some _ => l

theorem PaymentStatus.canFail_eq_false_iff {s : PaymentStatus} :
    s.canFail = false ↔ s = captured ∨ s = refunded := by
  cases s <;> decide

namespace Hotel

theorem offered_log (e : Envelope) (s : Hotel) : (s.offered e).log = s.log.offered e := by
  unfold offered EventLog.offered
  cases s.log.publishError? e.topic <;> rfl

theorem offered_payments (e : Envelope) (s : Hotel) : (s.offered e).payments = s.payments := by
  unfold offered
  cases s.log.publishError? e.topic <;> rfl

/-- No payment is stored, and nothing is announced. -/
def KeepsPayments (s t : Hotel) : Prop := t.payments = s.payments ∧ t.log = s.log

/-- Just this payment is stored, and the log has become the given one. -/
def RecordsPayment (id : PaymentId) (p : Payment) (log : EventLog) (s t : Hotel) : Prop :=
  t.payments = s.payments.insert id.text p ∧ t.log = log

end Hotel

namespace Settlement

/-- What is recorded of money that the gateway has not moved: a failed capture, if the payment was not captured
before and can be changed, but no failed refund. -/
def FailureRecorded (now : Instant) (id : PaymentId) (e : GatewayError) (p : Payment) (s t : Hotel) :
    Settlement → Prop
  | captured =>
    let q := p.record (.failed now Payments.captureFailed e.message)
    t.payments =
        (if (p.status = .captured ∨ p.status = .refunded) ∨ s.payments.refusesUpdate = true then
          s.payments
        else s.payments.insert id.text q) ∧
      t.log =
        if p.status = .captured ∨ p.status = .refunded then s.log
        else s.log.offered ((PaymentEvent.ofFailed q).toEnvelope now)
  | refunded => s.KeepsPayments t

end Settlement

namespace Payments

/-- How an authorization can end, and why. -/
def AuthorizeEnds (now : Instant) (order : PaymentOrder) (s : Hotel) :
    EStateM.Result OperationError Hotel Payment → Prop
  | .ok p t =>
    s.gateway.authorizeError? = none ∧ s.payments.createError? order.paymentId.text = none ∧
      s.log.publishError? PaymentEvent.authorizedTopic = none ∧ s.payment? order.paymentId = none ∧
        p.order = order ∧ p.status = .authorized ∧ p.attempts = [.succeeded now .authorized] ∧
          s.RecordsPayment order.paymentId p
            (s.log.append ((PaymentEvent.ofAuthorized p).toEnvelope now)) t
  | .error (.gateway op e) t =>
    op = .authorize ∧ s.gateway.authorizeError? = some e ∧
      s.payments.createError? order.paymentId.text = none ∧ s.payment? order.paymentId = none ∧
        ∃ p : Payment, p.order = order ∧ p.status = .failed ∧
          p.attempts = [.failed now authorizationFailed e.message] ∧
            s.RecordsPayment order.paymentId p
              (s.log.offered ((PaymentEvent.ofFailed p).toEnvelope now)) t
  | .error (.storage e) t =>
    s.payments.createError? order.paymentId.text = some e ∧ s.KeepsPayments t
  | .error (.publish e) t =>
    s.gateway.authorizeError? = none ∧ s.payments.createError? order.paymentId.text = none ∧
      s.log.publishError? PaymentEvent.authorizedTopic = some e ∧ s.payment? order.paymentId = none ∧
        ∃ p : Payment, p.order = order ∧ p.status = .authorized ∧
          p.attempts = [.succeeded now .authorized] ∧ s.RecordsPayment order.paymentId p s.log t
  | .error (.payment _) _ | .error (.reservation _) _ | .error (.availability _) _
  | .error (.roomUnavailable _) _ => False

/-- How a capture or a refund can end, and why. -/
def SettleEnds (now : Instant) (c : Settlement) (id : PaymentId) (s : Hotel) :
    EStateM.Result OperationError Hotel Payment → Prop
  | .ok q t =>
    ∃ p, s.payment? id = some p ∧ c.gatewayError? p s.gateway = none ∧ p.status = c.source ∧
      s.payments.refusesUpdate = false ∧ s.log.publishError? c.topic = none ∧
        q = p.record (.succeeded now c.target) ∧
          s.RecordsPayment id q (s.log.append ((PaymentEvent.ofSettled c q).toEnvelope now)) t
  | .error (.gateway op e) t =>
    op = c.operation ∧ ∃ p, s.payment? id = some p ∧ c.gatewayError? p s.gateway = some e ∧
      c.FailureRecorded now id e p s t
  | .error (.payment e) t =>
    (∃ p, s.payment? id = some p ∧ c.gatewayError? p s.gateway = none ∧ c.settle now p = .error e) ∧
      s.KeepsPayments t
  | .error (.storage _) t =>
    (s.payment? id = none ∨ s.payments.refusesUpdate = true) ∧ s.KeepsPayments t
  | .error (.publish e) t =>
    ∃ p, s.payment? id = some p ∧ c.gatewayError? p s.gateway = none ∧ p.status = c.source ∧
      s.payments.refusesUpdate = false ∧ s.log.publishError? c.topic = some e ∧
        s.RecordsPayment id (p.record (.succeeded now c.target)) s.log t
  | .error (.reservation _) _ | .error (.availability _) _ | .error (.roomUnavailable _) _ => False

variable (now : Instant) (s : Hotel)

theorem authorize_ends (order : PaymentOrder) : AuthorizeEnds now order s (authorize now order s) := by
  rw [authorize_apply]
  cases hgateway : s.gateway.authorizeError? with
  | some e =>
      dsimp only
      cases hcreate : s.payments.createError? order.paymentId.text with
      | some err => exact ⟨hcreate, rfl, rfl⟩
      | none =>
          have hnew := (Table.createError?_eq_none_iff.mp hcreate).2
          exact ⟨rfl, hgateway, hcreate, hnew, _, rfl, rfl, rfl, Hotel.offered_payments _ _,
            Hotel.offered_log _ _⟩
  | none =>
      dsimp only [Hotel.save]
      cases hcreate : s.payments.createError? order.paymentId.text with
      | some err => exact ⟨hcreate, rfl, rfl⟩
      | none =>
          have hnew := (Table.createError?_eq_none_iff.mp hcreate).2
          dsimp only
          cases hlog : (s.transactionOpened (.make now order)).log.publishError? _ with
          | some err => exact ⟨hgateway, hcreate, hlog, hnew, _, rfl, rfl, rfl, rfl, rfl⟩
          | none => exact ⟨hgateway, hcreate, hlog, hnew, rfl, rfl, rfl, rfl, rfl⟩

/-- A failed capture is recorded, unless the payment has been captured or cannot be changed. -/
theorem captureFailed_recorded {id : PaymentId} {p : Payment} (hp : s.payment? id = some p)
    (e : GatewayError) :
    Settlement.captured.FailureRecorded now id e p s ((s.rejected .capture).captureFailed now id e p) := by
  cases hcan : p.status.canFail with
  | false =>
      have hsettled := PaymentStatus.canFail_eq_false_iff.mp hcan
      have hkept : (s.rejected .capture).captureFailed now id e p = s.rejected .capture := by
        simp [Hotel.captureFailed, Payment.fail, hcan]
      rw [hkept]
      exact ⟨(if_pos (.inl hsettled)).symm, (if_pos hsettled).symm⟩
  | true =>
      have hopen : ¬ (p.status = .captured ∨ p.status = .refunded) := by
        rw [← PaymentStatus.canFail_eq_false_iff, hcan]
        nofun
      have hfail := Payment.fail_eq_ok_iff.mpr
        ⟨hcan, (rfl : p.record (.failed now captureFailed e.message) = _)⟩
      unfold Hotel.captureFailed
      rw [hfail]
      dsimp only
      cases hupdate : (s.rejected .capture).payments.updateError? id.text with
      | none =>
          have hworks : s.payments.refusesUpdate = false := (Table.updateError?_eq_none_iff hp).mp hupdate
          have hchanged : ¬ ((p.status = .captured ∨ p.status = .refunded) ∨
              s.payments.refusesUpdate = true) := by
            rw [hworks]
            exact not_or.mpr ⟨hopen, nofun⟩
          exact ⟨(Hotel.offered_payments _ _).trans (if_neg hchanged).symm,
            (Hotel.offered_log _ _).trans (if_neg hopen).symm⟩
      | some err =>
          have hrefuses : s.payments.refusesUpdate = true :=
            Table.refusesUpdate_of_updateError? hp hupdate
          exact ⟨(Hotel.offered_payments _ _).trans (if_pos (.inr hrefuses)).symm,
            (Hotel.offered_log _ _).trans (if_neg hopen).symm⟩

theorem settle_ends (c : Settlement) (id : PaymentId) : SettleEnds now c id s (c.perform now id s) := by
  rw [settle_apply]
  cases hp : s.payment? id with
  | none => exact ⟨.inl hp, rfl, rfl⟩
  | some p =>
      dsimp only
      cases hgateway : c.gatewayError? p s.gateway with
      | some e =>
          refine ⟨rfl, p, hp, hgateway, ?_⟩
          cases c with
          | captured => exact captureFailed_recorded now s hp e
          | refunded => exact ⟨rfl, rfl⟩
      | none =>
          -- Nothing but the gateway has changed before the payment is saved.
          have hpayments : (c.accepted p s).payments = s.payments := by cases c <;> rfl
          have hlog : (c.accepted p s).log = s.log := by cases c <;> rfl
          dsimp only
          cases hsettle : c.settle now p with
          | error e => exact ⟨⟨p, hp, hgateway, hsettle⟩, hpayments, hlog⟩
          | ok q =>
              obtain ⟨hstatus, rfl⟩ := Settlement.settle_eq_ok_iff.mp hsettle
              dsimp only [Hotel.save]
              cases hupdate : s.payments.updateError? id.text with
              | some err =>
                  exact ⟨.inr (Table.refusesUpdate_of_updateError? hp hupdate), hpayments, hlog⟩
              | none =>
                  have hworks := (Table.updateError?_eq_none_iff hp).mp hupdate
                  have hstored := congrArg (Table.insert id.text (p.record (.succeeded now c.target)))
                    hpayments
                  dsimp only
                  rw [PaymentEvent.topic_toEnvelope, hlog]
                  cases htopic : s.log.publishError? (PaymentEvent.ofSettled c _).topic with
                  | some err => exact ⟨p, hp, hgateway, hstatus, hworks, htopic, hstored, hlog⟩
                  | none =>
                      exact ⟨p, hp, hgateway, hstatus, hworks, htopic, rfl, hstored,
                        congrArg (EventLog.append _) hlog⟩

/-- The answer of a payment operation tells what is stored and announced, whatever the system was like. An
authorization is never refused by the payment itself. -/
theorem payment_answers :
    (∀ order, AuthorizeEnds now order s (authorize now order s)) ∧
      (∀ id, SettleEnds now .captured id s (capture now id s)) ∧
        ∀ id, SettleEnds now .refunded id s (refund now id s) :=
  ⟨authorize_ends now s, settle_ends now s .captured, settle_ends now s .refunded⟩

end Payments
end HotelBooking
