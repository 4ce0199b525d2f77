import HotelBooking.Proofs.Frame
import HotelBooking.Proofs.Payments
import HotelBooking.Proofs.Reservations
import HotelBooking.Proofs.Session

/-!
# What is stored only grows

Operations read a value, change a copy of it and write that back under a key that they were given
separately. All the same nothing that is stored is ever lost, or replaced by something else than a later
form of it (`Session.stored_grows`): a reservation moves on in its life, and a payment gets more attempts.

`Hotel.Grows` is the relation between a system before an operation and after it. It needs no assumption
about the first of them, but what is well kept in the first is well kept in the second.
-/

namespace HotelBooking

open HotelBooking.Action

namespace Payment

/-- The payment has been authorized at some time. -/
def wasAuthorized (p : Payment) : Bool := p.attempts.any (·.status = .authorized)

/-- The transaction that is noted is the one that the gateway opens for the payment, from the time on
when it is first authorized. -/
def HasOwnTransaction (p : Payment) : Prop :=
  p.transactionId = if p.wasAuthorized then some (Gateway.transactionId p.id p.amount.amount) else none

theorem hasOwnTransaction_make (now : Instant) (order : PaymentOrder) :
    (make now order).HasOwnTransaction := rfl

theorem hasOwnTransaction_authorized (now : Instant) (p : Payment) :
    (p.authorized now (Gateway.transactionId p.id p.amount.amount)).HasOwnTransaction := by
  simp [HasOwnTransaction, wasAuthorized, authorized, record, PaymentAttempt.succeeded]

theorem HasOwnTransaction.record {p : Payment} (h : p.HasOwnTransaction) {a : PaymentAttempt}
    (ha : a.status ≠ .authorized) : (p.record a).HasOwnTransaction := by
  have hsame : (p.record a).wasAuthorized = p.wasAuthorized := by
    simp [wasAuthorized, Payment.record, ha]
  unfold HasOwnTransaction
  rw [hsame]
  exact h

/-- The second payment is a later form of the first: the same but for the attempts that came after, and
what goes with them. A refunded payment is the last form. -/
structure Becomes (p q : Payment) : Prop where
  id : q.id = p.id
  reservationId : q.reservationId = p.reservationId
  amount : q.amount = p.amount
  method : q.method = p.method
  createdAt : q.createdAt = p.createdAt
  attempts : p.attempts <+: q.attempts
  eq_of_refunded : p.status = .refunded → q = p

namespace Becomes

theorem refl (p : Payment) : p.Becomes p :=
  ⟨rfl, rfl, rfl, rfl, rfl, List.prefix_refl _, fun _ => rfl⟩

theorem trans {p q r : Payment} (h : p.Becomes q) (h' : q.Becomes r) : p.Becomes r where
  id := h'.id.trans h.id
  reservationId := h'.reservationId.trans h.reservationId
  amount := h'.amount.trans h.amount
  method := h'.method.trans h.method
  createdAt := h'.createdAt.trans h.createdAt
  attempts := h.attempts.trans h'.attempts
  eq_of_refunded := by
    intro hrefunded
    obtain rfl := h.eq_of_refunded hrefunded
    exact h'.eq_of_refunded hrefunded

theorem record {p : Payment} (hopen : p.status ≠ .refunded) (a : PaymentAttempt) :
    p.Becomes (p.record a) :=
  ⟨rfl, rfl, rfl, rfl, rfl, List.prefix_append _ _, fun hrefunded => absurd hrefunded hopen⟩

theorem authorized {p : Payment} (hopen : p.status ≠ .refunded) (now : Instant)
    (transactionId : String) : p.Becomes (p.authorized now transactionId) :=
  ⟨rfl, rfl, rfl, rfl, rfl, List.prefix_append _ _, fun hrefunded => absurd hrefunded hopen⟩

section
variable {now : Instant} {p q : Payment}

/-- A refunded payment cannot be authorized, nor anything else that would change it. -/
theorem of_authorize {transactionId : String} (h : p.authorize now transactionId = .ok q) :
    p.Becomes q := by
  obtain ⟨hcan, rfl⟩ := Payment.authorize_eq_ok_iff.mp h
  refine .authorized (fun hrefunded => ?_) now transactionId
  rw [hrefunded] at hcan
  contradiction

theorem of_fail {code message : String} (h : p.fail now code message = .ok q) : p.Becomes q := by
  obtain ⟨hcan, rfl⟩ := Payment.fail_eq_ok_iff.mp h
  refine .record (fun hrefunded => ?_) _
  rw [hrefunded] at hcan
  contradiction

theorem of_capture (h : p.capture now = .ok q) : p.Becomes q := by
  obtain ⟨hstatus, rfl⟩ := Payment.capture_eq_ok_iff.mp h
  refine .record ?_ _
  rw [hstatus]
  nofun

theorem of_refund (h : p.refund now = .ok q) : p.Becomes q := by
  obtain ⟨hstatus, rfl⟩ := Payment.refund_eq_ok_iff.mp h
  refine .record ?_ _
  rw [hstatus]
  nofun

end

end Becomes

/-- The payment is the one with this identifier, its gateway has been asked, and its transaction is its
own. -/
structure KeptAs (id : PaymentId) (p : Payment) : Prop where
  id_eq : p.id = id
  status_ne_pending : p.status ≠ .pending
  transaction : p.HasOwnTransaction

end Payment

namespace Hotel

/-- Everything is stored under its own identifier, payments with their own transactions. -/
structure WellKept (s : Hotel) : Prop where
  reservation : ∀ {id r}, s.reservation? id = some r → r.id = id
  payment : ∀ {id p}, s.payment? id = some p → p.KeptAs id

theorem WellKept.empty : Hotel.empty.WellKept where
  reservation := by
    intro id r h
    simp [reservation?, Hotel.empty] at h
  payment := by
    intro id p h
    simp [payment?, Hotel.empty] at h

/-- Everything that is stored is stored later, too, in a later form. -/
structure Grows (s t : Hotel) : Prop where
  reservation : ∀ {id r}, s.reservation? id = some r → ∃ r', t.reservation? id = some r' ∧ r.Becomes r'
  payment : ∀ {id p}, s.payment? id = some p → ∃ p', t.payment? id = some p' ∧ p.Becomes p'
  wellKept : s.WellKept → t.WellKept

namespace Grows

variable {s t u : Hotel}

theorem of_entries_eq (hr : t.reservations.entries = s.reservations.entries)
    (hp : t.payments.entries = s.payments.entries) : s.Grows t where
  reservation := by
    intro id r h
    rw [reservation?, hr]
    exact ⟨r, h, .refl r⟩
  payment := by
    intro id p h
    rw [payment?, hp]
    exact ⟨p, h, .refl p⟩
  wellKept := by
    intro h
    constructor
    · intro id r hstored
      rw [reservation?, hr] at hstored
      exact h.reservation hstored
    · intro id p hstored
      rw [payment?, hp] at hstored
      exact h.payment hstored

theorem trans (h : s.Grows t) (h' : t.Grows u) : s.Grows u where
  reservation := by
    intro id r hr
    obtain ⟨r', hr', hbecomes⟩ := h.reservation hr
    obtain ⟨r'', hr'', hbecomes'⟩ := h'.reservation hr'
    exact ⟨r'', hr'', hbecomes.trans hbecomes'⟩
  payment := by
    intro id p hp
    obtain ⟨p', hp', hbecomes⟩ := h.payment hp
    obtain ⟨p'', hp'', hbecomes'⟩ := h'.payment hp'
    exact ⟨p'', hp'', hbecomes.trans hbecomes'⟩
  wellKept := h'.wellKept ∘ h.wellKept

instance : IsPreorder Hotel Grows where
  refl _ := .of_entries_eq rfl rfl
  trans _ _ _ := trans

theorem offered (h : s.Grows t) (e : Envelope) : s.Grows (t.offered e) := by
  unfold Hotel.offered
  cases t.log.publishError? e.topic with
  | none => exact h.trans (.of_entries_eq rfl rfl)
  | some err => exact h

/-- A reservation may be stored that is a later form of the one it replaces. -/
theorem storeReservation {id : ReservationId} {r : Reservation}
    (hbecomes : ∀ old, s.reservation? id = some old → old.Becomes r) (hid : s.WellKept → r.id = id) :
    s.Grows (s.storeReservation id r) where
  reservation := by
    intro other old hold
    rw [reservation?_storeReservation]
    split_ifs with hsame
    · subst hsame
      exact ⟨r, rfl, hbecomes old hold⟩
    · exact ⟨old, hold, .refl old⟩
  payment := by
    intro other p hp
    exact ⟨p, hp, .refl p⟩
  wellKept := by
    intro h
    refine ⟨fun {other old} hstored => ?_, h.payment⟩
    rw [reservation?_storeReservation] at hstored
    split_ifs at hstored with hsame
    · cases hstored
      exact (hid h).trans hsame
    · exact h.reservation hstored

/-- So may a payment. -/
theorem storePayment {id : PaymentId} {p : Payment}
    (hbecomes : ∀ old, s.payment? id = some old → old.Becomes p) (hkept : s.WellKept → p.KeptAs id) :
    s.Grows (s.storePayment id p) where
  reservation := by
    intro other r hr
    exact ⟨r, hr, .refl r⟩
  payment := by
    intro other old hold
    rw [payment?_storePayment]
    split_ifs with hsame
    · subst hsame
      exact ⟨p, rfl, hbecomes old hold⟩
    · exact ⟨old, hold, .refl old⟩
  wellKept := by
    intro h
    refine ⟨h.reservation, fun {other old} hstored => ?_⟩
    rw [payment?_storePayment] at hstored
    split_ifs at hstored with hsame
    · cases hstored
      exact hsame ▸ hkept h
    · exact h.payment hstored

/-- A stored payment may get one more attempt, other than an authorization. -/
theorem record {id : PaymentId} {p : Payment} (hp : s.payment? id = some p)
    {a : PaymentAttempt} (hbecomes : p.Becomes (p.record a)) (hpending : a.status ≠ .pending)
    (hauthorized : a.status ≠ .authorized) : s.Grows (s.storePayment id (p.record a)) := by
  refine .storePayment (fun old hold => ?_) fun h => ?_
  · cases hp.symm.trans hold
    exact hbecomes
  · have hkept := h.payment hp
    exact ⟨hkept.id_eq, hpending, hkept.transaction.record hauthorized⟩

theorem create (now : Instant) (order : ReservationOrder) :
    (Reservations.create now order : Action Hotel _ _).Moves Grows := by
  intro s
  rw [Reservations.create_after]
  split_ifs
  · cases hmake : Reservation.make now order with
    | error e => exact .of_entries_eq rfl rfl
    | ok r =>
        obtain ⟨-, -, -, rfl⟩ := Reservation.make_eq_ok_iff.mp hmake
        dsimp only
        cases hcreate : s.reservations.createError? (Reservation.fresh now order).id.text with
        | some e => exact .of_entries_eq rfl rfl
        | none =>
            have hnew : s.reservation? (Reservation.fresh now order).id = none :=
              (Table.createError?_eq_none_iff.mp hcreate).2
            -- Nothing is replaced.
            refine .offered (.storeReservation (fun old hold => ?_) fun _ => rfl) _
            rw [hnew] at hold
            contradiction
  · exact .of_entries_eq rfl rfl

theorem modify (now : Instant) (id : ReservationId)
    {f : Reservation → Except ReservationError Reservation} (event : Reservation → ReservationEvent)
    (hf : ∀ r r', f r = .ok r' → r.Becomes r') :
    (Reservations.modify now id f event : Action Hotel _ _).Moves Grows := by
  intro s
  rw [Reservations.modify_after]
  cases hr : s.reservation? id with
  | none => exact .of_entries_eq rfl rfl
  | some r =>
      dsimp only
      cases hchanged : f r with
      | error e => exact .of_entries_eq rfl rfl
      | ok r' =>
          cases s.reservations.updateError? id.text with
          | some e => exact .of_entries_eq rfl rfl
          | none =>
              have hbecomes := hf r r' hchanged
              refine .offered (.storeReservation (fun old hold => ?_) fun h => ?_) _
              · cases hr.symm.trans hold
                exact hbecomes
              · exact hbecomes.id.trans (h.reservation hr)

/-- What is saved may be announced or not. -/
theorem save {error? : Option StorageError} {id : PaymentId} {q : Payment} (h : s.Grows t)
    (hstore : error? = none → t.Grows (t.storePayment id q)) (e : Envelope) :
    s.Grows (after (Hotel.save error? id q e) t) := by
  rw [Hotel.save_after]
  cases error? with
  | some err => exact h
  | none => exact h.trans ((hstore rfl).offered e)

/-- A payment may be authorized, or fail to be, if it replaces nothing but itself. -/
theorem authorizeWith (now : Instant) {id : PaymentId} {p : Payment}
    {store : Payment → Action Hotel StorageError Unit} (error? : Table Payment → Option StorageError)
    (hstore : ∀ (q : Payment) (t : Hotel), q.id = p.id →
      store q t = match error? t.payments with
        | none => .ok () (t.storePayment id q)
        | some e => .error e t)
    (hold : error? s.payments = none → ∀ old, s.payment? id = some old → old = p)
    (hkept : s.WellKept → p.id = id ∧ p.HasOwnTransaction) :
    s.Grows ((Payments.authorizeWith now store p).after s) := by
  unfold after outcome
  rw [Payments.authorizeWith_apply now s id error? p hstore]
  cases s.gateway.authorizeError? with
  | some e =>
      have hrejected : s.Grows (s.rejected .authorize) := .of_entries_eq rfl rfl
      dsimp only
      cases hfail : p.fail now Payments.authorizationFailed e.message with
      | error err => exact hrejected
      | ok q =>
          have hbecomes := Payment.Becomes.of_fail hfail
          obtain ⟨-, rfl⟩ := Payment.fail_eq_ok_iff.mp hfail
          dsimp only
          cases hfree : error? s.payments with
          | some err => exact hrejected
          | none =>
              refine (hrejected.trans (.storePayment (fun old hstored => ?_) fun h => ?_)).offered _
              · obtain rfl := hold hfree old hstored
                exact hbecomes
              · obtain ⟨hid, hown⟩ := hkept ⟨h.reservation, h.payment⟩
                exact ⟨hid, nofun, hown.record nofun⟩
  | none =>
      have hopened : s.Grows (s.transactionOpened p) := .of_entries_eq rfl rfl
      dsimp only
      cases hauthorize : p.authorize now (Gateway.transactionId p.id p.amount.amount) with
      | error e => exact hopened
      | ok q =>
          have hbecomes := Payment.Becomes.of_authorize hauthorize
          obtain ⟨-, rfl⟩ := Payment.authorize_eq_ok_iff.mp hauthorize
          refine hopened.save (fun hfree => .storePayment (fun old hstored => ?_) fun h => ?_) _
          · obtain rfl := hold hfree old hstored
            exact hbecomes
          · obtain ⟨hid, -⟩ := hkept ⟨h.reservation, h.payment⟩
            exact ⟨hid, nofun, Payment.hasOwnTransaction_authorized now p⟩

theorem authorize (now : Instant) (order : PaymentOrder) :
    (Payments.authorize now order : Action Hotel _ _).Moves Grows := by
  intro s
  refine authorizeWith now (fun t => t.createError? order.paymentId.text)
    (fun q t hq => createPayment_own_apply t hq) ?_ ?_
  -- Only a new payment is stored, so there is no old one.
  · intro hcreate old hold
    have hnew : s.payment? order.paymentId = none := (Table.createError?_eq_none_iff.mp hcreate).2
    rw [hnew] at hold
    contradiction
  · intro _
    exact ⟨rfl, Payment.hasOwnTransaction_make now order⟩

theorem retryAuthorization (now : Instant) (id : PaymentId) :
    (Payments.retryAuthorization now id : Action Hotel _ _).Moves Grows := by
  intro s
  unfold after outcome
  rw [Payments.retryAuthorization_apply]
  cases hp : s.payment? id with
  | none => exact .of_entries_eq rfl rfl
  | some p =>
      dsimp only
      cases p.checkRetryable with
      | error e => exact .of_entries_eq rfl rfl
      | ok _ =>
          refine authorizeWith now (fun t => t.updateError? id.text)
            (fun q t _ => updatePayment_apply t id q) (fun _ old hold => ?_) fun h => ?_
          · exact Option.some.inj (hold.symm.trans hp)
          · have hkept := h.payment hp
            exact ⟨hkept.id_eq, hkept.transaction⟩

theorem captureFailed (now : Instant) {id : PaymentId} {p : Payment} (hp : s.payment? id = some p)
    (e : GatewayError) : s.Grows (s.captureFailed now id e p) := by
  unfold Hotel.captureFailed
  cases hfail : p.fail now Payments.captureFailed e.message with
  | error err => exact .of_entries_eq rfl rfl
  | ok q =>
      have hbecomes := Payment.Becomes.of_fail hfail
      obtain ⟨-, rfl⟩ := Payment.fail_eq_ok_iff.mp hfail
      dsimp only
      cases s.payments.updateError? id.text with
      | some err => exact .offered (.of_entries_eq rfl rfl) _
      | none => exact (record hp hbecomes nofun nofun).offered _

theorem capture (now : Instant) (id : PaymentId) :
    (Payments.capture now id : Action Hotel _ _).Moves Grows := by
  intro s
  unfold after outcome
  rw [Payments.capture_apply]
  cases hp : s.payment? id with
  | none => exact .of_entries_eq rfl rfl
  | some p =>
      dsimp only
      cases s.gateway.captureError? (p.transactionId.getD "") p.amount with
      | some e =>
          have hrejected : s.Grows (s.rejected .capture) := .of_entries_eq rfl rfl
          have hread : (s.rejected .capture).payment? id = some p := hp
          exact hrejected.trans (captureFailed now hread e)
      | none =>
          have hcaptured : s.Grows s.amountCaptured := .of_entries_eq rfl rfl
          have hread : s.amountCaptured.payment? id = some p := hp
          dsimp only
          cases hcapture : p.capture now with
          | error e => exact hcaptured
          | ok q =>
              have hbecomes := Payment.Becomes.of_capture hcapture
              obtain ⟨-, rfl⟩ := Payment.capture_eq_ok_iff.mp hcapture
              exact hcaptured.save (fun _ => record hread hbecomes nofun nofun) _

theorem refund (now : Instant) (id : PaymentId) :
    (Payments.refund now id : Action Hotel _ _).Moves Grows := by
  intro s
  unfold after outcome
  rw [Payments.refund_apply]
  cases hp : s.payment? id with
  | none => exact .of_entries_eq rfl rfl
  | some p =>
      dsimp only
      cases s.gateway.refundError? (p.transactionId.getD "") with
      | some e => exact .of_entries_eq rfl rfl
      | none =>
          have hclosed : s.Grows (s.transactionRefunded (p.transactionId.getD "")) :=
            .of_entries_eq rfl rfl
          have hread : (s.transactionRefunded (p.transactionId.getD "")).payment? id = some p := hp
          dsimp only
          cases hrefund : p.refund now with
          | error e => exact hclosed
          | ok q =>
              have hbecomes := Payment.Becomes.of_refund hrefund
              obtain ⟨-, rfl⟩ := Payment.refund_eq_ok_iff.mp hrefund
              exact hclosed.save (fun _ => record hread hbecomes nofun nofun) _

end Grows

/-- No service loses or rewrites anything. -/
theorem services_grow : Booking.ServicesMove Grows := by
  have hnotices (notice : Except NoticeError Notice) :
      (onNotifier (Notifier.send notice)).Moves Grows :=
    onNotifier_send_moves (fun _ _ _ => .of_entries_eq rfl rfl) notice
  exact {
    getReservation := fun id => (readReservation_moves id).mapError _
    listByGuest := fun _ => Moves.bind (fun _ => .of_entries_eq rfl rfl) fun _ => .pure _
    createReservation := Grows.create
    changeReservation := fun now c id => Grows.modify now id _ fun _ _ => Reservation.Becomes.of_change
    cancelReservation := fun now id _ => Grows.modify now id _ fun _ _ => Reservation.Becomes.of_cancel
    getPayment := fun id => (readPayment_moves id).mapError _
    authorize := Grows.authorize
    retryAuthorization := Grows.retryAuthorization
    capture := Grows.capture
    refund := Grows.refund
    sendConfirmation := fun _ => hnotices _
    sendCancellation := fun _ _ => hnotices _
    count := fun _ _ => .of_entries_eq rfl rfl }

end Hotel

namespace Session

end Session
end HotelBooking
