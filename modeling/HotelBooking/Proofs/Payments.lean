import HotelBooking.Operation.Payments
import HotelBooking.Proofs.Parts

/-!
# Operations on payments

The gateway is asked first, so what it did stays done when its answer cannot be stored. As for
reservations, the `_apply` equations give the whole result of an operation on the system, and the
`_after` equations what it leaves. Where the gateway agreed, the first end in `Hotel.save`: the new form
of the payment is stored, then announced.
-/

namespace HotelBooking

namespace Payment

/-- What was ordered. -/
def order (p : Payment) : PaymentOrder := ⟨p.id, p.reservationId, p.amount, p.method⟩

/-- The payment as it is authorized. -/
def authorized (now : Instant) (transactionId : String) (p : Payment) : Payment :=
  { p.record (.succeeded now .authorized) with transactionId := some transactionId }

theorem authorize_eq_ok_iff {now : Instant} {transactionId : String} {p q : Payment} :
    p.authorize now transactionId = .ok q ↔
      p.status.canAuthorize = true ∧ q = p.authorized now transactionId := by
  unfold authorize
  split_ifs with hs hc
  · simp [hs, PaymentStatus.canAuthorize]
  · simp [hc, authorized, eq_comm]
  · simp [hc]

theorem capture_eq_ok_iff {now : Instant} {p q : Payment} :
    p.capture now = .ok q ↔
      p.status = .authorized ∧ q = p.record (.succeeded now .captured) := by
  unfold capture PaymentStatus.canCapture
  split_ifs with hs hc
  · simp [hs]
  · rw [decide_eq_true_eq] at hc
    simp [hc, eq_comm]
  · rw [decide_eq_true_eq] at hc
    simp [hc]

theorem refund_eq_ok_iff {now : Instant} {p q : Payment} :
    p.refund now = .ok q ↔ p.status = .captured ∧ q = p.record (.succeeded now .refunded) := by
  unfold refund PaymentStatus.canRefund
  split_ifs with hs hc
  · simp [hs]
  · rw [decide_eq_true_eq] at hc
    simp [hc, eq_comm]
  · rw [decide_eq_true_eq] at hc
    simp [hc]

theorem fail_eq_ok_iff {now : Instant} {code message : String} {p q : Payment} :
    p.fail now code message = .ok q ↔
      p.status.canFail = true ∧ q = p.record (.failed now code message) := by
  unfold fail
  split_ifs with hc
  · simp [hc, eq_comm]
  · simp [hc]

end Payment

namespace Hotel

/-- The payment is stored, unless there is an error, and then announced. -/
def save (error? : Option StorageError) (id : PaymentId) (p : Payment) (e : Envelope) (s : Hotel) :
    EStateM.Result OperationError Hotel Payment :=
  match error? with
  | some err => .error (.storage err) s
  | none =>
    match s.log.publishError? e.topic with
    | some err => .error (.publish err) (s.storePayment id p)
    | none => .ok p ((s.storePayment id p).published e)

theorem save_eq_ok_iff {error? : Option StorageError} {id : PaymentId} {p q : Payment} {e : Envelope}
    {s t : Hotel} :
    s.save error? id p e = .ok q t ↔
      error? = none ∧ s.log.publishError? e.topic = none ∧ q = p ∧
        t = (s.storePayment id p).published e := by
  unfold save
  cases error? with
  | some err => simp
  | none =>
      cases s.log.publishError? e.topic with
      | some err => simp
      | none => simp [eq_comm]

theorem save_after (error? : Option StorageError) (id : PaymentId) (p : Payment) (e : Envelope)
    (s : Hotel) : Action.after (save error? id p e) s = match error? with
      | none => (s.storePayment id p).offered e
      | some _ => s := by
  unfold Action.after Action.outcome save offered
  cases error? with
  | some err => rfl
  | none =>
      rw [storePayment_log]
      cases s.log.publishError? e.topic <;> rfl

/-- The system after the gateway has rejected a call. -/
def rejected (op : GatewayOperation) (s : Hotel) : Hotel :=
  (s.withGateway (s.gateway.called op)).counted (.gatewayFailures op)

/-- The system after the gateway has opened a transaction for the payment. -/
def transactionOpened (p : Payment) (s : Hotel) : Hotel :=
  s.withGateway ((s.gateway.called .authorize).opened
    (Gateway.transactionId p.id p.amount.amount) p.amount)

/-- The system after the gateway has captured an amount. -/
def amountCaptured (s : Hotel) : Hotel := s.withGateway (s.gateway.called .capture)

/-- The system after the gateway has refunded the transaction. -/
def transactionRefunded (id : String) (s : Hotel) : Hotel :=
  s.withGateway ((s.gateway.called .refund).closed id)

/-- The system after it has recorded, as far as possible, that a capture failed. -/
def captureFailed (now : Instant) (id : PaymentId) (e : GatewayError) (p : Payment) (s : Hotel) :
    Hotel :=
  match p.fail now Payments.captureFailed e.message with
  | .ok q =>
    match s.payments.updateError? id.text with
    | none => (s.storePayment id q).offered (PaymentEvent.toEnvelope now (.ofFailed q))
    | some _ => s.offered (PaymentEvent.toEnvelope now (.ofFailed q))
  | .error _ => s

end Hotel

namespace Payments

variable (now : Instant) (s : Hotel)

theorem announce_apply (e : PaymentEvent) :
    announce now e s = match s.log.publishError? e.topic with
      | none => .ok () (s.published (e.toEnvelope now))
      | some err => .error (.publish err) s := by
  rw [announce, Action.mapError_apply, Hotel.publish_apply, PaymentEvent.topic_toEnvelope]
  cases s.log.publishError? e.topic <;> rfl

theorem announceFailure_apply (p : Payment) :
    announceFailure now p s =
      .ok () (s.offered (PaymentEvent.toEnvelope now (.ofFailed p))) := by
  simp only [announceFailure, Action.bind_apply, Action.attempt_apply, Hotel.publish_apply,
    Hotel.offered]
  cases s.log.publishError? (PaymentEvent.toEnvelope now (.ofFailed p)).topic <;> rfl

/-- Storing a payment and announcing it, whichever way it is stored. -/
theorem store_announce_apply {store : Payment → Action Hotel StorageError Unit}
    {error? : Option StorageError} {id : PaymentId} {p : Payment} (event : PaymentEvent)
    (hstore : store p s = match error? with
      | none => .ok () (s.storePayment id p)
      | some e => .error e s) :
    (do
      (store p).mapError .storage
      announce now event
      return p : Action Hotel OperationError Payment) s =
        s.save error? id p (event.toEnvelope now) := by
  simp only [Action.bind_apply, Action.mapError_apply, hstore, Hotel.save]
  cases error? with
  | some e => rfl
  | none =>
      dsimp only
      rw [announce_apply, PaymentEvent.topic_toEnvelope, Hotel.storePayment_log]
      cases s.log.publishError? event.topic <;> rfl

theorem recordCaptureFailure_apply (id : PaymentId) (e : GatewayError) (p : Payment) :
    recordCaptureFailure now id e p s = .ok () (s.captureFailed now id e p) := by
  unfold recordCaptureFailure Hotel.captureFailed
  cases p.fail now captureFailed e.message with
  | error _ => rfl
  | ok q =>
      simp only [Action.bind_apply, Action.attempt_apply, Hotel.updatePayment_apply]
      cases s.payments.updateError? id.text with
      | none => exact announceFailure_apply now _ q
      | some _ => exact announceFailure_apply now _ q

theorem authorizeWith_apply {store : Payment → Action Hotel StorageError Unit} (key : PaymentId)
    (error? : Table Payment → Option StorageError) (p : Payment)
    (hstore : ∀ (q : Payment) (t : Hotel), q.id = p.id →
      store q t = match error? t.payments with
        | none => .ok () (t.storePayment key q)
        | some e => .error e t) :
    authorizeWith now store p s =
      match s.gateway.authorizeError? with
      | some e =>
        match p.fail now authorizationFailed e.message with
        | .error err => .error (.payment err) (s.rejected .authorize)
        | .ok q =>
          match error? s.payments with
          | some err => .error (.storage err) (s.rejected .authorize)
          | none =>
            .error (.gateway .authorize e) (((s.rejected .authorize).storePayment key q).offered
              (PaymentEvent.toEnvelope now (.ofFailed q)))
      | none =>
        match p.authorize now (Gateway.transactionId p.id p.amount.amount) with
        | .error e => .error (.payment e) (s.transactionOpened p)
        | .ok q =>
          (s.transactionOpened p).save (error? s.payments) key q
            (PaymentEvent.toEnvelope now (.ofAuthorized q)) := by
  unfold authorizeWith
  simp only [Action.bind_apply, Action.attempt_apply, Hotel.authorize_apply]
  cases s.gateway.authorizeError? with
  | some e =>
      simp only [Action.bind_apply, Hotel.count_apply]
      cases hq : p.fail now authorizationFailed e.message with
      | error err => rfl
      | ok q =>
          have hid : q.id = p.id := by
            rw [(Payment.fail_eq_ok_iff.mp hq).2]
            rfl
          simp only [Except.mapError, Action.ofExcept_ok, Action.mapError_apply, hstore q _ hid,
            Hotel.counted_payments, Hotel.withGateway_payments]
          cases error? s.payments with
          | some err => rfl
          | none => simp only [announceFailure_apply, Action.throw_apply, Hotel.rejected]
  | none =>
      dsimp only
      cases hq : p.authorize now (Gateway.transactionId p.id p.amount.amount) with
      | error e => rfl
      | ok q =>
          have hid : q.id = p.id := by
            rw [(Payment.authorize_eq_ok_iff.mp hq).2]
            rfl
          exact store_announce_apply now _ _ (hstore q _ hid)

/-- A new payment is announced and stored as failed if the gateway rejects it. -/
theorem authorize_apply (order : PaymentOrder) :
    authorize now order s =
      match s.gateway.authorizeError? with
      | some e =>
        match s.payments.createError? order.paymentId.text with
        | some err => .error (.storage err) (s.rejected .authorize)
        | none =>
          let p := (Payment.make now order).record (.failed now authorizationFailed e.message)
          .error (.gateway .authorize e) (((s.rejected .authorize).storePayment p.id p).offered
            (PaymentEvent.toEnvelope now (.ofFailed p)))
      | none =>
        let p := (Payment.make now order).authorized now
          (Gateway.transactionId order.paymentId order.amount.amount)
        (s.transactionOpened (.make now order)).save
          (s.payments.createError? order.paymentId.text) order.paymentId p
          (PaymentEvent.toEnvelope now (.ofAuthorized p)) := by
  unfold authorize
  rw [authorizeWith_apply now s order.paymentId (fun t => t.createError? order.paymentId.text)
    (.make now order) fun q t hq => Hotel.createPayment_own_apply t hq]
  cases s.gateway.authorizeError? with
  | some e => rfl
  | none => rfl

theorem authorize_after (order : PaymentOrder) :
    (authorize now order).after s =
      match s.gateway.authorizeError?, s.payments.createError? order.paymentId.text with
      | some _, some _ => s.rejected .authorize
      | some e, none =>
        let p := (Payment.make now order).record (.failed now authorizationFailed e.message)
        ((s.rejected .authorize).storePayment order.paymentId p).offered
          (PaymentEvent.toEnvelope now (.ofFailed p))
      | none, some _ => s.transactionOpened (.make now order)
      | none, none =>
        let p := (Payment.make now order).authorized now
          (Gateway.transactionId order.paymentId order.amount.amount)
        ((s.transactionOpened (.make now order)).storePayment order.paymentId p).offered
          (PaymentEvent.toEnvelope now (.ofAuthorized p)) := by
  unfold Action.after Action.outcome
  rw [authorize_apply]
  cases s.gateway.authorizeError? with
  | some e => cases s.payments.createError? order.paymentId.text <;> rfl
  | none =>
      refine (Hotel.save_after ..).trans ?_
      cases s.payments.createError? order.paymentId.text <;> rfl

theorem authorize_eq_ok_iff {order : PaymentOrder} {p : Payment} {t : Hotel} :
    authorize now order s = .ok p t ↔
      s.gateway.authorizeError? = none ∧
        s.payments.createError? order.paymentId.text = none ∧
          s.log.publishError? PaymentEvent.authorizedTopic = none ∧
            p = (Payment.make now order).authorized now
              (Gateway.transactionId order.paymentId order.amount.amount) ∧
              t = ((s.transactionOpened (.make now order)).storePayment order.paymentId p).published
                (PaymentEvent.toEnvelope now (.ofAuthorized p)) := by
  rw [authorize_apply]
  cases s.gateway.authorizeError? with
  | some e =>
      cases s.payments.createError? order.paymentId.text with
      | some err => simp
      | none => simp
  | none =>
      dsimp only
      rw [Hotel.save_eq_ok_iff]
      constructor
      · rintro ⟨hnew, hlog, rfl, rfl⟩
        exact ⟨rfl, hnew, hlog, rfl, rfl⟩
      · rintro ⟨-, hnew, hlog, rfl, rfl⟩
        exact ⟨hnew, hlog, rfl, rfl⟩

/-- Where a payment may be tried again, it is authorized like a new one, but stored over the old. -/
theorem retryAuthorization_apply (id : PaymentId) :
    retryAuthorization now id s =
      match s.payment? id with
      | none => .error (.storage (.notFound s.payments.entity id.text)) s
      | some p =>
        match p.checkRetryable with
        | .error e => .error (.payment e) s
        | .ok _ => authorizeWith now (Backend.updatePayment id) p s := by
  unfold retryAuthorization get
  simp only [Action.bind_apply, Action.mapError_apply, Hotel.readPayment_apply]
  cases s.payment? id with
  | none => rfl
  | some p =>
      dsimp only
      cases p.checkRetryable with
      | error e => rfl
      | ok _ => rfl

theorem capture_apply (id : PaymentId) :
    capture now id s =
      match s.payment? id with
      | none => .error (.storage (.notFound s.payments.entity id.text)) s
      | some p =>
        match s.gateway.captureError? (p.transactionId.getD "") p.amount with
        | some e => .error (.gateway .capture e) ((s.rejected .capture).captureFailed now id e p)
        | none =>
          match p.capture now with
          | .error e => .error (.payment e) s.amountCaptured
          | .ok q =>
            s.amountCaptured.save (s.payments.updateError? id.text) id q
              (PaymentEvent.toEnvelope now (.ofSettled .captured q)) := by
  unfold capture get
  simp only [Action.bind_apply, Action.mapError_apply, Hotel.readPayment_apply]
  cases s.payment? id with
  | none => rfl
  | some p =>
      simp only [Action.attempt_apply, Hotel.capture_apply]
      cases s.gateway.captureError? (p.transactionId.getD "") p.amount with
      | some e =>
          simp only [Action.bind_apply, Hotel.count_apply, recordCaptureFailure_apply,
            Action.throw_apply, Hotel.rejected]
      | none =>
          cases p.capture now with
          | error e => rfl
          | ok q => exact store_announce_apply now _ _ (Hotel.updatePayment_apply _ id q)

theorem capture_after (id : PaymentId) :
    (capture now id).after s =
      match s.payment? id with
      | none => s
      | some p =>
        match s.gateway.captureError? (p.transactionId.getD "") p.amount with
        | some e => (s.rejected .capture).captureFailed now id e p
        | none =>
          match p.capture now, s.payments.updateError? id.text with
          | .ok q, none =>
            (s.amountCaptured.storePayment id q).offered
              (PaymentEvent.toEnvelope now (.ofSettled .captured q))
          | _, _ => s.amountCaptured := by
  unfold Action.after Action.outcome
  rw [capture_apply]
  cases s.payment? id with
  | none => rfl
  | some p =>
      dsimp only
      cases s.gateway.captureError? (p.transactionId.getD "") p.amount with
      | some e => rfl
      | none =>
          dsimp only
          cases p.capture now with
          | error e => rfl
          | ok q =>
              refine (Hotel.save_after ..).trans ?_
              cases s.payments.updateError? id.text <;> rfl

theorem capture_eq_ok_iff {id : PaymentId} {p q : Payment} {t : Hotel}
    (hp : s.payment? id = some p) :
    capture now id s = .ok q t ↔
      s.gateway.captureError? (p.transactionId.getD "") p.amount = none ∧ p.status = .authorized ∧
        s.payments.updateError? id.text = none ∧
          s.log.publishError? Settlement.captured.topic = none ∧
            q = p.record (.succeeded now .captured) ∧
              t = (s.amountCaptured.storePayment id q).published
                (PaymentEvent.toEnvelope now (.ofSettled .captured q)) := by
  rw [capture_apply, hp]
  dsimp only
  cases s.gateway.captureError? (p.transactionId.getD "") p.amount with
  | some e => simp
  | none =>
      dsimp only
      cases hq : p.capture now with
      | error e =>
          have hs : p.status ≠ .authorized := by
            intro hs
            have hok : p.capture now = .ok _ := Payment.capture_eq_ok_iff.mpr ⟨hs, rfl⟩
            rw [hq] at hok
            contradiction
          simp [hs]
      | ok captured =>
          obtain ⟨hs, rfl⟩ := Payment.capture_eq_ok_iff.mp hq
          dsimp only
          rw [Hotel.save_eq_ok_iff]
          constructor
          · rintro ⟨hupdate, hlog, rfl, rfl⟩
            exact ⟨rfl, hs, hupdate, hlog, rfl, rfl⟩
          · rintro ⟨-, -, hupdate, hlog, rfl, rfl⟩
            exact ⟨hupdate, hlog, rfl, rfl⟩

/-- A captured payment is not captured once more. -/
theorem capture_ne_ok {s : Hotel} {id : PaymentId} {p q : Payment} {t : Hotel}
    (hp : s.payment? id = some p) (hcaptured : p.status = .captured) : capture now id s ≠ .ok q t := by
  intro hcapture
  obtain ⟨-, hstatus, -⟩ := (capture_eq_ok_iff now s hp).mp hcapture
  rw [hcaptured] at hstatus
  contradiction

theorem refund_apply (id : PaymentId) :
    refund now id s =
      match s.payment? id with
      | none => .error (.storage (.notFound s.payments.entity id.text)) s
      | some p =>
        match s.gateway.refundError? (p.transactionId.getD "") with
        | some e => .error (.gateway .refund e) (s.rejected .refund)
        | none =>
          let t := s.transactionRefunded (p.transactionId.getD "")
          match p.refund now with
          | .error e => .error (.payment e) t
          | .ok q =>
            t.save (s.payments.updateError? id.text) id q
              (PaymentEvent.toEnvelope now (.ofSettled .refunded q)) := by
  unfold refund get
  simp only [Action.bind_apply, Action.mapError_apply, Hotel.readPayment_apply]
  cases s.payment? id with
  | none => rfl
  | some p =>
      simp only [Action.attempt_apply, Hotel.refund_apply]
      cases s.gateway.refundError? (p.transactionId.getD "") with
      | some e =>
          simp only [Action.bind_apply, Hotel.count_apply, Action.throw_apply, Hotel.rejected]
      | none =>
          cases p.refund now with
          | error e => rfl
          | ok q => exact store_announce_apply now _ _ (Hotel.updatePayment_apply _ id q)

end Payments
end HotelBooking
