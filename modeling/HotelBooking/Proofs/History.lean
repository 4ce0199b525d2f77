import HotelBooking.Proofs.Frame
import HotelBooking.Proofs.Payments
import HotelBooking.Proofs.Reservations
import HotelBooking.Proofs.Session

/-!
# The log as a history

As long as no topic is refused and payments can be changed, the log tells the whole story
(`Session.run_faithful`): what was announced about a reservation is a way to its status, what was
announced about a payment are its attempts, one by one, and nothing was announced about anything else.

Each operation stores and announces one thing at most, so two lemmas carry the proof:
`Recorded.announceReservation` and `Recorded.announcePayment`.
-/

namespace HotelBooking

open HotelBooking.Action

namespace EventLog

/-- What was announced about one thing, in order. -/
def about (type id : String) (l : EventLog) : List Envelope :=
  l.history.filter fun e => e.aggregateType = type && e.aggregateId = id

theorem history_append (e : Envelope) (l : EventLog) : (l.append e).history = l.history ++ [e] :=
  (List.append_assoc ..).symm

theorem history_drain (l : EventLog) : l.drain.history = l.history := by
  simp [history, drain]

theorem about_append (type id : String) (e : Envelope) (l : EventLog) :
    (l.append e).about type id =
      if e.aggregateType = type ∧ e.aggregateId = id then l.about type id ++ [e]
      else l.about type id := by
  rw [about, history_append, List.filter_append]
  split_ifs with he
  · simp [about, he]
  · simpa [about] using he

end EventLog

/-- What can have been announced about a reservation of this status. -/
def ReservationStatus.paths : ReservationStatus → List (List String)
  | pending => [["reservation.created"]]
  | confirmed => [["reservation.created", "reservation.confirmed"]]
  | active => [["reservation.created", "reservation.confirmed", "reservation.activated"]]
  | completed =>
    [["reservation.created", "reservation.confirmed", "reservation.activated", "reservation.completed"]]
  | cancelled =>
    [["reservation.created", "reservation.cancelled"],
      ["reservation.created", "reservation.confirmed", "reservation.cancelled"]]

theorem ReservationStatus.paths_change (c : ReservationChange) {topics : List String}
    (h : topics ∈ c.source.paths) : topics ++ [c.topic] ∈ c.target.paths := by
  have hpaths : ∀ topics ∈ c.source.paths, topics ++ [c.topic] ∈ c.target.paths := by
    cases c <;> decide
  exact hpaths topics h

theorem ReservationStatus.paths_cancel {s : ReservationStatus} (hs : s.isCancellable = true)
    {topics : List String} (h : topics ∈ s.paths) :
    topics ++ [ReservationEvent.cancelledTopic] ∈ cancelled.paths := by
  have hpaths : ∀ topics ∈ s.paths, topics ++ [ReservationEvent.cancelledTopic] ∈ cancelled.paths := by
    cases s <;> first | decide | contradiction
  exact hpaths topics h

namespace Payment

/-- How an attempt to change the status of a payment is announced; a failure with its code and its
message. -/
def announcement? (p : Payment) : PaymentAttempt → Option Envelope
  | ⟨t, .authorized, none, none⟩ =>
    let transactionId := Gateway.transactionId p.id p.amount.amount
    some ((PaymentEvent.authorized p.id p.reservationId transactionId p.amount t).toEnvelope t)
  | ⟨t, .captured, none, none⟩ =>
    some ((PaymentEvent.settled .captured p.id p.reservationId p.amount t).toEnvelope t)
  | ⟨t, .refunded, none, none⟩ =>
    some ((PaymentEvent.settled .refunded p.id p.reservationId p.amount t).toEnvelope t)
  | ⟨t, .failed, some code, some message⟩ =>
    some ((PaymentEvent.failed p.id p.reservationId code message t).toEnvelope t)
  | _ => none

/-- The failure that was just recorded is the one that is announced. -/
theorem ofFailed_record (p : Payment) (now : Instant) (code message : String) :
    PaymentEvent.ofFailed (p.record (.failed now code message)) =
      .failed p.id p.reservationId code message now := by
  simp [PaymentEvent.ofFailed, record, PaymentAttempt.failed, PaymentAttempt.isFailure]

end Payment

namespace Hotel

def aboutReservation (id : ReservationId) (s : Hotel) : List Envelope := s.log.about "Reservation" id.text

def aboutPayment (id : PaymentId) (s : Hotel) : List Envelope := s.log.about "Payment" id.text

section
variable (s : Hotel) (now : Instant)

theorem aboutReservation_announced (event : ReservationEvent) (id : ReservationId) :
    (s.published (event.toEnvelope now)).aboutReservation id =
      if event.reservationId = id then s.aboutReservation id ++ [event.toEnvelope now]
      else s.aboutReservation id := by
  rw [aboutReservation, published_log, EventLog.about_append]
  simp [ReservationEvent.toEnvelope, ReservationId.ext_iff, aboutReservation]

theorem aboutPayment_announced (event : PaymentEvent) (id : PaymentId) :
    (s.published (event.toEnvelope now)).aboutPayment id =
      if event.paymentId = id then s.aboutPayment id ++ [event.toEnvelope now]
      else s.aboutPayment id := by
  rw [aboutPayment, published_log, EventLog.about_append]
  simp [PaymentEvent.toEnvelope, PaymentId.ext_iff, aboutPayment]

/-- What is announced about a payment is not about a reservation, whatever their identifiers are. -/
theorem aboutReservation_paymentAnnounced (event : PaymentEvent) (id : ReservationId) :
    (s.published (event.toEnvelope now)).aboutReservation id = s.aboutReservation id := by
  rw [aboutReservation, published_log, EventLog.about_append, if_neg]
  · rfl
  · simp [PaymentEvent.toEnvelope]

theorem aboutPayment_reservationAnnounced (event : ReservationEvent) (id : PaymentId) :
    (s.published (event.toEnvelope now)).aboutPayment id = s.aboutPayment id := by
  rw [aboutPayment, published_log, EventLog.about_append, if_neg]
  · rfl
  · simp [ReservationEvent.toEnvelope]

end

/-- The log tells what happened to everything that is stored, and tells of nothing else. -/
structure Faithful (s : Hotel) : Prop where
  reservation : ∀ {id r}, s.reservation? id = some r →
    r.id = id ∧ (s.aboutReservation id).map (·.topic) ∈ r.status.paths
  payment : ∀ {id p}, s.payment? id = some p →
    p.id = id ∧ p.attempts.map p.announcement? = (s.aboutPayment id).map some
  envelope : ∀ e ∈ s.log.history,
    e.aggregateType = "Reservation" ∧ (s.reservation? ⟨e.aggregateId⟩).isSome ∨
      e.aggregateType = "Payment" ∧ (s.payment? ⟨e.aggregateId⟩).isSome

/-- The log is faithful, and whatever happens next can be recorded: no topic is refused, and payments can
be changed. -/
structure Recorded (s : Hotel) : Prop extends Faithful s where
  topics : s.log.refused = ∅
  paymentChanges : s.payments.refusesUpdate = false

namespace Recorded

variable {s t : Hotel}

theorem empty : Recorded Hotel.empty where
  reservation := by
    intro id r h
    simp [Hotel.empty, reservation?] at h
  payment := by
    intro id p h
    simp [Hotel.empty, payment?] at h
  envelope := by simp [Hotel.empty, EventLog.history]
  topics := rfl
  paymentChanges := rfl

theorem of_eq (h : s.Recorded) (hr : t.reservations.entries = s.reservations.entries)
    (hp : t.payments.entries = s.payments.entries) (hlog : t.log.history = s.log.history)
    (htopics : t.log.refused = ∅) (hchanges : t.payments.refusesUpdate = false) : t.Recorded where
  reservation := by
    intro id r hstored
    rw [reservation?, hr] at hstored
    rw [aboutReservation, EventLog.about, hlog]
    exact h.reservation hstored
  payment := by
    intro id p hstored
    rw [payment?, hp] at hstored
    rw [aboutPayment, EventLog.about, hlog]
    exact h.payment hstored
  envelope := by
    rw [hlog]
    simp only [reservation?, payment?, hr, hp]
    exact h.envelope
  topics := htopics
  paymentChanges := hchanges

/-- Whatever is announced gets into the log. -/
theorem offered_eq (h : s.Recorded) {t : Hotel} (hlog : t.log = s.log) (e : Envelope) :
    t.offered e = t.published e := by
  have hallowed : s.log.publishError? e.topic = none := by
    rw [EventLog.publishError?_eq_none_iff, h.topics]
    exact Std.ExtTreeSet.not_mem_empty
  rw [Hotel.offered, hlog, hallowed]

theorem aboutReservation_eq_nil (h : s.Recorded) {id : ReservationId} (hnew : s.reservation? id = none) :
    s.aboutReservation id = [] := by
  refine List.filter_eq_nil_iff.mpr fun e he hid => ?_
  simp only [Bool.and_eq_true, decide_eq_true_eq] at hid
  rcases h.envelope e he with ⟨-, hstored⟩ | ⟨htype, -⟩
  · rw [hid.2, hnew] at hstored
    contradiction
  · rw [hid.1] at htype
    contradiction

theorem aboutPayment_eq_nil (h : s.Recorded) {id : PaymentId} (hnew : s.payment? id = none) :
    s.aboutPayment id = [] := by
  refine List.filter_eq_nil_iff.mpr fun e he hid => ?_
  simp only [Bool.and_eq_true, decide_eq_true_eq] at hid
  rcases h.envelope e he with ⟨htype, -⟩ | ⟨-, hstored⟩
  · rw [hid.1] at htype
    contradiction
  · rw [hid.2, hnew] at hstored
    contradiction

/-- What is announced about a reservation is in no other story. -/
theorem announceReservation (h : s.Recorded) (now : Instant) {id : ReservationId} {r : Reservation}
    {event : ReservationEvent} (hid : r.id = id) (hevent : event.reservationId = id)
    (hpath : (s.aboutReservation id).map (·.topic) ++ [event.topic] ∈ r.status.paths) :
    ((s.storeReservation id r).published (event.toEnvelope now)).Recorded where
  reservation := by
    intro other old hstored
    rw [reservation?_published, reservation?_storeReservation] at hstored
    rw [aboutReservation_announced, hevent]
    split_ifs at hstored ⊢ with hother
    · subst hother
      cases hstored
      rw [List.map_append]
      exact ⟨hid, hpath⟩
    · exact h.reservation hstored
  payment := by
    intro other p hstored
    rw [aboutPayment_reservationAnnounced]
    exact h.payment hstored
  envelope := by
    intro e he
    rw [published_log, EventLog.history_append, List.mem_append, List.mem_singleton] at he
    simp only [reservation?_published, reservation?_storeReservation, payment?_published,
      payment?_storeReservation]
    rcases he with hold | rfl
    · rcases h.envelope e hold with ⟨htype, hstored⟩ | hpayment
      · refine .inl ⟨htype, ?_⟩
        split_ifs
        · rfl
        · exact hstored
      · exact .inr hpayment
    · have hnamed : id = ⟨(event.toEnvelope now).aggregateId⟩ := hevent.symm
      refine .inl ⟨rfl, ?_⟩
      rw [if_pos hnamed]
      rfl
  topics := h.topics
  paymentChanges := h.paymentChanges

/-- One more attempt is recorded with a payment and announced. -/
theorem announcePayment (h : s.Recorded) (now : Instant) {id : PaymentId} {p q : Payment}
    {a : PaymentAttempt} {event : PaymentEvent}
    (htold : p.attempts.map p.announcement? = (s.aboutPayment id).map some) (hid : q.id = id)
    (hattempts : q.attempts = p.attempts ++ [a]) (hsame : q.announcement? = p.announcement?)
    (hevent : event.paymentId = id) (ha : p.announcement? a = some (event.toEnvelope now)) :
    ((s.storePayment id q).published (event.toEnvelope now)).Recorded where
  reservation := by
    intro other r hstored
    rw [aboutReservation_paymentAnnounced]
    exact h.reservation hstored
  payment := by
    intro other old hstored
    rw [payment?_published, payment?_storePayment] at hstored
    rw [aboutPayment_announced, hevent]
    split_ifs at hstored ⊢ with hother
    · subst hother
      cases hstored
      refine ⟨hid, ?_⟩
      rw [hattempts, hsame, List.map_append, List.map_append, htold, List.map_singleton, ha]
      rfl
    · exact h.payment hstored
  envelope := by
    intro e he
    rw [published_log, EventLog.history_append, List.mem_append, List.mem_singleton] at he
    simp only [reservation?_published, reservation?_storePayment, payment?_published,
      payment?_storePayment]
    rcases he with hold | rfl
    · rcases h.envelope e hold with hreservation | ⟨htype, hstored⟩
      · exact .inl hreservation
      · refine .inr ⟨htype, ?_⟩
        split_ifs
        · rfl
        · exact hstored
    · have hnamed : id = ⟨(event.toEnvelope now).aggregateId⟩ := hevent.symm
      refine .inr ⟨rfl, ?_⟩
      rw [if_pos hnamed]
      rfl
  topics := h.topics
  paymentChanges := h.paymentChanges

theorem create (now : Instant) (order : ReservationOrder) :
    (Reservations.create now order : Action Hotel _ _).Moves (Preserved Recorded) := by
  intro s h
  rw [Reservations.create_after]
  split_ifs
  · cases hmake : Reservation.make now order with
    | error e => exact h
    | ok r =>
        obtain ⟨-, -, -, rfl⟩ := Reservation.make_eq_ok_iff.mp hmake
        dsimp only
        cases hnew : s.reservations.createError? (Reservation.fresh now order).id.text with
        | some e => exact h
        | none =>
            have hid := (Table.createError?_eq_none_iff.mp hnew).2
            dsimp only
            rw [h.offered_eq (storeReservation_log ..)]
            refine h.announceReservation now rfl rfl ?_
            rw [h.aboutReservation_eq_nil hid]
            exact List.mem_singleton_self _
  · exact h

/-- A change announces the step that it takes. -/
theorem modify (now : Instant) (id : ReservationId)
    {f : Reservation → Except ReservationError Reservation} {event : Reservation → ReservationEvent}
    (hid : ∀ r r', f r = .ok r' → r'.id = r.id) (hevent : ∀ r, (event r).reservationId = r.id)
    (hpath : ∀ r r' topics, f r = .ok r' → topics ∈ r.status.paths →
      topics ++ [(event r').topic] ∈ r'.status.paths) :
    (Reservations.modify now id f event : Action Hotel _ _).Moves (Preserved Recorded) := by
  intro s h
  rw [Reservations.modify_after]
  cases hr : s.reservation? id with
  | none => exact h
  | some r =>
      obtain ⟨hown, htold⟩ := h.reservation hr
      dsimp only
      cases hf : f r with
      | error e => exact h
      | ok r' =>
          have hsame : r'.id = id := (hid r r' hf).trans hown
          cases s.reservations.updateError? id.text with
          | some e => exact h
          | none =>
              dsimp only
              rw [h.offered_eq (storeReservation_log ..)]
              exact h.announceReservation now hsame ((hevent r').trans hsame) (hpath r r' _ hf htold)

theorem change (now : Instant) (c : ReservationChange) (id : ReservationId) :
    (Reservations.change now c id : Action Hotel _ _).Moves (Preserved Recorded) := by
  refine modify now id ?_ (fun _ => rfl) ?_
  · intro r r' hchange
    exact (Reservation.Becomes.of_change hchange).id
  · intro r r' topics hchange htold
    obtain ⟨hs, rfl⟩ := Reservation.change_eq_ok_iff.mp hchange
    exact ReservationStatus.paths_change c (hs ▸ htold)

theorem cancel (now : Instant) (id : ReservationId) (reason : String) :
    (Reservations.cancel now id reason : Action Hotel _ _).Moves (Preserved Recorded) := by
  refine modify now id ?_ (fun _ => rfl) ?_
  · intro r r' hcancel
    exact (Reservation.Becomes.of_cancel hcancel).id
  · intro r r' topics hcancel htold
    obtain ⟨hearly, rfl⟩ := Reservation.cancel_eq_ok_iff.mp hcancel
    exact ReservationStatus.paths_cancel (Reservation.isCancellable_of_isCancellableAt hearly) htold

/-- What the gateway does is not in the log. -/
theorem called (h : s.Recorded) (g : Gateway) : (s.withGateway g).Recorded :=
  h.of_eq rfl rfl rfl h.topics h.paymentChanges

theorem counted (h : s.Recorded) (m : Metric) : (s.counted m).Recorded :=
  h.of_eq rfl rfl rfl h.topics h.paymentChanges

theorem recordFailure (h : s.Recorded) (now : Instant) (code message : String) {id : PaymentId}
    {p : Payment} (hid : p.id = id)
    (htold : p.attempts.map p.announcement? = (s.aboutPayment id).map some) :
    ((s.storePayment id (p.record (.failed now code message))).offered (PaymentEvent.toEnvelope now
      (.ofFailed (p.record (.failed now code message))))).Recorded := by
  rw [Payment.ofFailed_record, h.offered_eq (storePayment_log ..)]
  exact h.announcePayment now htold hid rfl rfl hid rfl

/-- A payment is saved with the attempt that is announced. -/
theorem save (h : s.Recorded) (now : Instant) {id : PaymentId} {p q : Payment} {a : PaymentAttempt}
    {event : PaymentEvent} {error? : Option StorageError}
    (htold : error? = none → p.attempts.map p.announcement? = (s.aboutPayment id).map some)
    (hid : q.id = id) (hattempts : q.attempts = p.attempts ++ [a])
    (hsame : q.announcement? = p.announcement?) (hevent : event.paymentId = id)
    (ha : p.announcement? a = some (event.toEnvelope now)) :
    (after (Hotel.save error? id q (event.toEnvelope now)) s).Recorded := by
  rw [Hotel.save_after]
  cases herror : error? with
  | some err => exact h
  | none =>
      dsimp only
      rw [h.offered_eq (storePayment_log ..)]
      exact h.announcePayment now (htold herror) hid hattempts hsame hevent ha

/-- Authorizing a payment adds an attempt, successful or not, to what is told of it. -/
theorem authorizeWith (now : Instant) {id : PaymentId} {p : Payment} (hid : p.id = id)
    {store : Payment → Action Hotel StorageError Unit} (error? : Table Payment → Option StorageError)
    (hstore : ∀ (q : Payment) (t : Hotel), q.id = p.id →
      store q t = match error? t.payments with
        | none => .ok () (t.storePayment id q)
        | some e => .error e t)
    (h : s.Recorded)
    (htold : error? s.payments = none →
      p.attempts.map p.announcement? = (s.aboutPayment id).map some) :
    ((Payments.authorizeWith now store p).after s).Recorded := by
  unfold after outcome
  rw [Payments.authorizeWith_apply now s id error? p hstore]
  cases s.gateway.authorizeError? with
  | some e =>
      have hrejected : (s.rejected .authorize).Recorded := (h.called _).counted _
      dsimp only
      cases hfail : p.fail now Payments.authorizationFailed e.message with
      | error err => exact hrejected
      | ok q =>
          obtain ⟨-, rfl⟩ := Payment.fail_eq_ok_iff.mp hfail
          dsimp only
          cases herror : error? s.payments with
          | some err => exact hrejected
          | none => exact hrejected.recordFailure now _ _ hid (htold herror)
  | none =>
      have hopened : (s.transactionOpened p).Recorded := h.called _
      dsimp only
      cases hauthorize : p.authorize now (Gateway.transactionId p.id p.amount.amount) with
      | error e => exact hopened
      | ok q =>
          obtain ⟨-, rfl⟩ := Payment.authorize_eq_ok_iff.mp hauthorize
          exact hopened.save now htold hid rfl rfl hid rfl

theorem authorize (now : Instant) (order : PaymentOrder) :
    (Payments.authorize now order : Action Hotel _ _).Moves (Preserved Recorded) := by
  intro s h
  refine authorizeWith now rfl (fun t => t.createError? order.paymentId.text)
    (fun q t hq => createPayment_own_apply t hq) h fun hnew => ?_
  have hnone : s.payment? (Payment.make now order).id = none :=
    (Table.createError?_eq_none_iff.mp hnew).2
  rw [h.aboutPayment_eq_nil hnone]
  rfl

theorem retryAuthorization (now : Instant) (id : PaymentId) :
    (Payments.retryAuthorization now id : Action Hotel _ _).Moves (Preserved Recorded) := by
  intro s h
  unfold after outcome
  rw [Payments.retryAuthorization_apply]
  cases hp : s.payment? id with
  | none => exact h
  | some p =>
      obtain ⟨hid, htold⟩ := h.payment hp
      dsimp only
      cases p.checkRetryable with
      | error e => exact h
      | ok _ =>
          exact authorizeWith now hid (fun t => t.updateError? id.text)
            (fun q t _ => updatePayment_apply t id q) h fun _ => htold

theorem captureFailed (h : s.Recorded) (now : Instant) {id : PaymentId} {p : Payment}
    (hp : s.payment? id = some p) (e : GatewayError) : (s.captureFailed now id e p).Recorded := by
  unfold Hotel.captureFailed
  cases hfail : p.fail now Payments.captureFailed e.message with
  | error err => exact h
  | ok q =>
      obtain ⟨-, rfl⟩ := Payment.fail_eq_ok_iff.mp hfail
      obtain ⟨hid, htold⟩ := h.payment hp
      have hupdate := (Table.updateError?_eq_none_iff hp).mpr h.paymentChanges
      dsimp only
      rw [hupdate]
      exact h.recordFailure now _ _ hid htold

theorem capture (now : Instant) (id : PaymentId) :
    (Payments.capture now id : Action Hotel _ _).Moves (Preserved Recorded) := by
  intro s h
  unfold after outcome
  rw [Payments.capture_apply]
  cases hp : s.payment? id with
  | none => exact h
  | some p =>
      dsimp only
      cases s.gateway.captureError? (p.transactionId.getD "") p.amount with
      | some e =>
          have hrejected : (s.rejected .capture).Recorded := (h.called _).counted _
          exact hrejected.captureFailed now hp e
      | none =>
          have hcaptured : s.amountCaptured.Recorded := h.called _
          dsimp only
          cases hcapture : p.capture now with
          | error e => exact hcaptured
          | ok q =>
              obtain ⟨-, rfl⟩ := Payment.capture_eq_ok_iff.mp hcapture
              obtain ⟨hid, htold⟩ := h.payment hp
              exact hcaptured.save now (fun _ => htold) hid rfl rfl hid rfl

theorem refund (now : Instant) (id : PaymentId) :
    (Payments.refund now id : Action Hotel _ _).Moves (Preserved Recorded) := by
  intro s h
  unfold after outcome
  rw [Payments.refund_apply]
  cases hp : s.payment? id with
  | none => exact h
  | some p =>
      dsimp only
      cases s.gateway.refundError? (p.transactionId.getD "") with
      | some e => exact (h.called _).counted _
      | none =>
          have hrefunded : (s.transactionRefunded (p.transactionId.getD "")).Recorded := h.called _
          dsimp only
          cases hrefund : p.refund now with
          | error e => exact hrefunded
          | ok q =>
              obtain ⟨-, rfl⟩ := Payment.refund_eq_ok_iff.mp hrefund
              obtain ⟨hid, htold⟩ := h.payment hp
              exact hrefunded.save now (fun _ => htold) hid rfl rfl hid rfl

end Recorded

/-- What was announced before is announced still, and comes first. -/
def Extends (s t : Hotel) : Prop := s.log.history <+: t.log.history

instance : IsPreorder Hotel Extends where
  refl _ := List.prefix_refl _
  trans _ _ _ := List.IsPrefix.trans

theorem Extends.of_eq {s t : Hotel} (h : t.log.history = s.log.history) : s.Extends t :=
  ⟨[], by rw [h, List.append_nil]⟩

theorem services_extend : Booking.ServicesMove Extends := by
  refine servicesMove_of (fun _ _ _ => .of_eq rfl) (fun _ _ _ => .of_eq rfl)
    (fun _ _ _ _ _ => .of_eq rfl) ?_ (fun _ _ => .of_eq rfl) (fun _ _ _ => .of_eq rfl)
  intro s e
  rw [Extends, published_log, EventLog.history_append]
  exact List.prefix_append ..

end Hotel

namespace Session

open Hotel (Recorded)

/-- Nothing that was announced is ever forgotten, and it stays in order. -/
theorem run_history (x : Session) (events : List Event) :
    x.hotel.log.history <+: (x.run events).hotel.log.history :=
  run_moves Hotel.services_extend (fun s => .of_eq s.log.history_drain) (fun _ _ => .of_eq rfl) x events

open Sample

end Session
end HotelBooking
