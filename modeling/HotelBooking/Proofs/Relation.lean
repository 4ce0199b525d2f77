import HotelBooking.Proofs.Payments
import HotelBooking.Proofs.Reservations
import HotelBooking.Proofs.Services
import HotelBooking.Proofs.Steps

/-!
# Two systems side by side

Two systems of different kinds can be run side by side. If everything that the services use answers
the same in both and keeps their states related, so do the services: a whole booking is answered the
same, whatever else one of the systems may keep.
-/

namespace HotelBooking

namespace Action

variable {σ τ ε ε' α β : Type}

/-- Both results have the same answer or the same error, and their states are related. -/
inductive Agree (R : σ → τ → Prop) : EStateM.Result ε σ α → EStateM.Result ε τ α → Prop where
  | ok {a : α} {s : σ} {t : τ} (h : R s t) : Agree R (.ok a s) (.ok a t)
  | error {e : ε} {s : σ} {t : τ} (h : R s t) : Agree R (.error e s) (.error e t)

/-- From related states the two operations lead to results that agree. -/
def Related (R : σ → τ → Prop) (x : Action σ ε α) (y : Action τ ε α) : Prop :=
  ∀ s t, R s t → Agree R (x s) (y t)

namespace Agree

variable {R : σ → τ → Prop} {x : Action σ ε α} {y : Action τ ε α} {s : σ} {t : τ}

theorem outcome_eq (h : Agree R (x s) (y t)) : (x.outcome s).1 = (y.outcome t).1 := by
  unfold outcome
  cases hs : x s <;> cases ht : y t <;> rw [hs, ht] at h <;> cases h <;> rfl

theorem after (h : Agree R (x s) (y t)) : R (x.after s) (y.after t) := by
  unfold Action.after outcome
  cases hs : x s <;> cases ht : y t <;> rw [hs, ht] at h <;> cases h <;> assumption

protected theorem bind (h : Agree R (x s) (y t)) {f : α → Action σ ε β} {g : α → Action τ ε β}
    (hf : ∀ a u, x s = .ok a u → Related R (f a) (g a)) : Agree R ((x >>= f) s) ((y >>= g) t) := by
  rw [bind_apply, bind_apply]
  cases hs : x s <;> cases ht : y t <;> rw [hs, ht] at h <;> cases h
  · exact hf _ _ hs _ _ ‹_›
  · exact .error ‹_›

protected theorem mapError (h : Agree R (x s) (y t)) (f : ε → ε') :
    Agree R (x.mapError f s) (y.mapError f t) := by
  rw [mapError_apply, mapError_apply]
  cases hs : x s <;> cases ht : y t <;> rw [hs, ht] at h <;> cases h
  · exact .ok ‹_›
  · exact .error ‹_›

protected theorem attempt (h : Agree R (x s) (y t)) :
    Agree R ((x.attempt : Action σ ε' _) s) ((y.attempt : Action τ ε' _) t) := by
  rw [attempt_apply, attempt_apply]
  cases hs : x s <;> cases ht : y t <;> rw [hs, ht] at h <;> cases h
  · exact .ok ‹_›
  · exact .ok ‹_›

theorem of_ok (h : Agree R (x s) (y t)) {s' : σ} {a : α} (hx : x s = .ok a s') :
    ∃ t', y t = .ok a t' ∧ R s' t' := by
  rw [hx] at h
  cases ht : y t <;> rw [ht] at h <;> cases h
  exact ⟨_, rfl, ‹_›⟩

theorem of_error (h : Agree R (x s) (y t)) {s' : σ} {e : ε} (hx : x s = .error e s') :
    ∃ t', y t = .error e t' ∧ R s' t' := by
  rw [hx] at h
  cases ht : y t <;> rw [ht] at h <;> cases h
  exact ⟨_, rfl, ‹_›⟩

end Agree

namespace Related

variable {R : σ → τ → Prop} {x : Action σ ε α} {y : Action τ ε α}

protected theorem pure (a : α) : Related R (pure a : Action σ ε α) (pure a) :=
  fun _ _ h => .ok h

protected theorem throw (e : ε) : Related R (throw e : Action σ ε α) (throw e) :=
  fun _ _ h => .error h

protected theorem ofExcept (r : Except ε α) : Related R (ofExcept r : Action σ ε α) (ofExcept r) := by
  intro s t h
  cases r with
  | ok a => exact .ok h
  | error e => exact .error h

protected theorem bind (hx : Related R x y) {f : α → Action σ ε β} {g : α → Action τ ε β}
    (hf : ∀ a, Related R (f a) (g a)) : Related R (x >>= f) (y >>= g) :=
  fun s t h => (hx s t h).bind fun a _ _ => hf a

/-- Of the value that is carried on with, it is known where it comes from. -/
protected theorem ofExcept_bind {r : Except ε' α} (k : ε' → ε) {f : α → Action σ ε β}
    {g : α → Action τ ε β} (hf : ∀ a, r = .ok a → Related R (f a) (g a)) :
    Related R (Action.ofExcept (r.mapError k) >>= f) (Action.ofExcept (r.mapError k) >>= g) := by
  intro s t h
  cases r with
  | ok a => exact hf a rfl s t h
  | error e => exact .error h

protected theorem mapError (f : ε → ε') (hx : Related R x y) :
    Related R (x.mapError f) (y.mapError f) :=
  fun s t h => (hx s t h).mapError f

protected theorem attempt (hx : Related R x y) :
    Related R (x.attempt : Action σ ε' _) y.attempt :=
  fun s t h => (hx s t h).attempt

/-- What is answered does not matter if it is not looked at. -/
theorem discard_attempt (h : ∀ s t, R s t → R (x.after s) (y.after t)) :
    Related R (do let _ ← x.attempt : Action σ ε' Unit) (do let _ ← y.attempt) := by
  intro s t hst
  have hxy := h s t hst
  unfold after outcome at hxy
  rw [bind_apply, bind_apply, attempt_apply, attempt_apply]
  cases hs : x s <;> cases ht : y t <;> rw [hs, ht] at hxy <;> exact .ok hxy

/-- The operation on a part is answered the same if the part is the same in both. -/
theorem zoom {ρ : Type} {get : σ → ρ} {set : ρ → σ → σ} {get' : τ → ρ} {set' : ρ → τ → τ}
    (hget : ∀ s t, R s t → get s = get' t) (hset : ∀ p s t, R s t → R (set p s) (set' p t))
    (z : Action ρ ε α) : Related R (z.zoom get set) (z.zoom get' set') := by
  intro s t h
  unfold Action.zoom
  rw [← hget s t h]
  cases z (get s) with
  | ok a p => exact .ok (hset p s t h)
  | error e p => exact .error (hset p s t h)

end Related
end Action

open HotelBooking.Action

variable {σ τ : Type} [Backend σ] [Backend τ]

/-- Everything that the services use answers the same in both systems and keeps them related. Only
what notices are answered with may differ, since the services do not look at it. -/
structure Backend.Alike (R : σ → τ → Prop) : Prop where
  readReservation : ∀ id, Related R (readReservation id : Action σ _ _) (readReservation id)
  createReservation : ∀ id r, Related R (createReservation id r : Action σ _ _) (createReservation id r)
  updateReservation : ∀ id r, Related R (updateReservation id r : Action σ _ _) (updateReservation id r)
  isRoomAvailable : ∀ roomId stay,
    Related R (isRoomAvailable roomId stay : Action σ _ _) (isRoomAvailable roomId stay)
  readPayment : ∀ id, Related R (readPayment id : Action σ _ _) (readPayment id)
  createPayment : ∀ id p, Related R (createPayment id p : Action σ _ _) (createPayment id p)
  updatePayment : ∀ id p, Related R (updatePayment id p : Action σ _ _) (updatePayment id p)
  authorize : ∀ p, Related R (authorize p : Action σ _ _) (authorize p)
  capture : ∀ id amount, Related R (capture id amount : Action σ _ _) (capture id amount)
  refund : ∀ id amount, Related R (refund id amount : Action σ _ _) (refund id amount)
  publish : ∀ e, Related R (publish e : Action σ _ _) (publish e)
  sendConfirmation : ∀ r (s : σ) (t : τ), R s t →
    R ((sendConfirmation r : Action σ _ _).after s) ((sendConfirmation r : Action τ _ _).after t)
  count : ∀ {ε : Type} m, Related R (count m : Action σ ε Unit) (count m)

/-- All reservations are answered the same as well, and no notice tells the systems apart. -/
structure Backend.AlikeThroughout (R : σ → τ → Prop) : Prop extends Backend.Alike R where
  readReservations : Related R (readReservations : Action σ _ _) readReservations
  sendCancellation : ∀ r reason (s : σ) (t : τ), R s t →
    R ((sendCancellation r reason : Action σ _ _).after s)
      ((sendCancellation r reason : Action τ _ _).after t)

/-- The same for what is used to store and announce one reservation. -/
structure Backend.ReservationWritesAlike (R : σ → τ → Prop) (id : ReservationId) : Prop where
  create : ∀ r, Related R (createReservation id r : Action σ _ _) (createReservation id r)
  update : ∀ r, Related R (updateReservation id r : Action σ _ _) (updateReservation id r)
  publish : ∀ e, Related R (publish e : Action σ _ _) (publish e)

/-- The reservation is also read alike. -/
structure Backend.ReservationAlike (R : σ → τ → Prop) (id : ReservationId) : Prop
    extends ReservationWritesAlike R id where
  read : Related R (readReservation id : Action σ _ _) (readReservation id)

/-- The same for what is used to record one payment. -/
structure Backend.PaymentAlike (R : σ → τ → Prop) (id : PaymentId) : Prop where
  read : Related R (readPayment id : Action σ _ _) (readPayment id)
  create : ∀ p, Related R (createPayment id p : Action σ _ _) (createPayment id p)
  update : ∀ p, Related R (updatePayment id p : Action σ _ _) (updatePayment id p)
  publish : ∀ e, Related R (publish e : Action σ _ _) (publish e)
  count : ∀ {ε : Type} m, Related R (count m : Action σ ε Unit) (count m)

variable {R : σ → τ → Prop}

namespace Booking

section
variable {now : Instant} {order : BookingOrder} {s : σ} {t : τ}
  (hperform : ∀ {step u v}, Reaches now order s step u → Reaches now order t step v → R u v →
    Agree R (perform now order step u) (perform now order step v))
include hperform

/-- If the steps that are reached are answered the same, both systems reach the same steps. -/
theorem Reaches.transfer (hst : R s t) {step : BookingStep} {u : σ} (hu : Reaches now order s step u) :
    ∃ v, Reaches now order t step v ∧ R u v := by
  induction hu with
  | first => exact ⟨t, .first, hst⟩
  | next hreaches hnext hstep ih =>
      obtain ⟨v, hv, huv⟩ := ih
      obtain ⟨w, hw, hR⟩ := (hperform hreaches hv huv).of_ok hstep
      exact ⟨w, hv.next hnext hw, hR⟩

/-- They fail at the same step then, too. -/
theorem FailsAt.transfer (hst : R s t) {step : BookingStep} {e : OperationError} {u : σ}
    (hu : FailsAt now order s step e u) : ∃ v, FailsAt now order t step e v ∧ R u v := by
  obtain ⟨w, hw, hstep⟩ := hu
  obtain ⟨v, hv, hwv⟩ := hw.transfer hperform hst
  obtain ⟨x, hx, hR⟩ := (hperform hw hv hwv).of_error hstep
  exact ⟨x, ⟨v, hv, hx⟩, hR⟩

end
end Booking

theorem Backend.Alike.reservation (h : Backend.Alike R) (id : ReservationId) :
    Backend.ReservationAlike R id :=
  ⟨⟨h.createReservation id, h.updateReservation id, h.publish⟩, h.readReservation id⟩

theorem Backend.Alike.payment (h : Backend.Alike R) (id : PaymentId) : Backend.PaymentAlike R id :=
  ⟨h.readPayment id, h.createPayment id, h.updatePayment id, h.publish, h.count⟩

section
variable (now : Instant)

namespace Backend.ReservationWritesAlike

variable {id : ReservationId} (h : ReservationWritesAlike R id)
include h

theorem announce (e : ReservationEvent) :
    Related R (Reservations.announce now e : Action σ _ _) (Reservations.announce now e) :=
  (h.publish _).mapError _

/-- A new reservation is answered the same if it is answered the same whether the room is free. -/
theorem make {order : ReservationOrder} (hid : order.reservationId = id) {s : σ} {t : τ}
    (hroom : Agree R ((isRoomAvailable order.roomId order.stay : Action σ _ _) s)
      ((isRoomAvailable order.roomId order.stay : Action τ _ _) t)) :
    Agree R (Reservations.create now order s) (Reservations.create now order t) := by
  unfold Reservations.create
  refine (hroom.mapError _).bind fun free _ _ => ?_
  split_ifs
  · refine Related.ofExcept_bind _ fun r hr => ?_
    obtain ⟨-, -, -, rfl⟩ := Reservation.make_eq_ok_iff.mp hr
    subst hid
    refine ((h.create _).mapError _).bind fun _ => ?_
    exact (h.announce now _).bind fun _ => .pure _
  · exact .throw _

/-- A change is answered the same if the reservation is read alike. -/
theorem modify_agree (f : Reservation → Except ReservationError Reservation)
    (event : Reservation → ReservationEvent) {s : σ} {t : τ}
    (hread : Agree R ((readReservation id : Action σ _ _) s) ((readReservation id : Action τ _ _) t)) :
    Agree R (Reservations.modify now id f event s) (Reservations.modify now id f event t) := by
  unfold Reservations.modify
  refine (hread.mapError _).bind fun r _ _ => (Related.ofExcept _).bind fun r' => ?_
  refine ((h.update r').mapError _).bind fun _ => ?_
  exact (h.announce now _).bind fun _ => .pure r'

end Backend.ReservationWritesAlike

theorem Backend.ReservationAlike.modify {id : ReservationId} (h : ReservationAlike R id)
    (f : Reservation → Except ReservationError Reservation) (event : Reservation → ReservationEvent) :
    Related R (Reservations.modify now id f event : Action σ _ _)
      (Reservations.modify now id f event) :=
  fun s t hst => h.modify_agree now f event (h.read s t hst)

namespace Backend.PaymentAlike

variable {id : PaymentId} (h : PaymentAlike R id)
include h

theorem announce (e : PaymentEvent) :
    Related R (Payments.announce now e : Action σ _ _) (Payments.announce now e) :=
  (h.publish _).mapError _

theorem announceFailure (p : Payment) :
    Related R (Payments.announceFailure now p : Action σ _ _) (Payments.announceFailure now p) :=
  ((h.publish _).attempt).bind fun _ => .pure _

theorem record {store : Payment → Action σ StorageError Unit}
    {store' : Payment → Action τ StorageError Unit} {result : Except PaymentError Payment}
    (hstore : ∀ p, result = .ok p → Related R (store p) (store' p))
    (event : Payment → PaymentEvent) :
    Related R
      (do
        let p ← Action.ofExcept (result.mapError .payment)
        (store p).mapError .storage
        Payments.announce now (event p)
        return p : Action σ OperationError Payment)
      (do
        let p ← Action.ofExcept (result.mapError .payment)
        (store' p).mapError .storage
        Payments.announce now (event p)
        return p) := by
  refine Related.ofExcept_bind _ fun p hp => ((hstore p hp).mapError _).bind fun _ => ?_
  exact (h.announce now _).bind fun _ => .pure p

theorem authorizeWith {p : Payment} {store : Payment → Action σ StorageError Unit}
    {store' : Payment → Action τ StorageError Unit}
    (hgateway : Related R (Backend.authorize p : Action σ _ _) (Backend.authorize p))
    (hstore : ∀ q, q.id = p.id → Related R (store q) (store' q)) :
    Related R (Payments.authorizeWith now store p) (Payments.authorizeWith now store' p) := by
  unfold Payments.authorizeWith
  refine hgateway.attempt.bind fun answer => ?_
  cases answer with
  | ok transactionId =>
      refine h.record now (fun q hq => hstore q ?_) _
      rw [(Payment.authorize_eq_ok_iff.mp hq).2]
      rfl
  | error e =>
      refine (h.count _).bind fun _ => Related.ofExcept_bind _ fun q hq => ?_
      have hid : q.id = p.id := by
        rw [(Payment.fail_eq_ok_iff.mp hq).2]
        rfl
      refine ((hstore q hid).mapError _).bind fun _ => ?_
      exact (h.announceFailure now _).bind fun _ => .throw _

theorem authorize {order : PaymentOrder} (hid : order.paymentId = id)
    (hgateway : Related R (Backend.authorize (Payment.make now order) : Action σ _ _)
      (Backend.authorize (Payment.make now order))) :
    Related R (Payments.authorize now order : Action σ _ _) (Payments.authorize now order) := by
  refine h.authorizeWith now hgateway fun q hq => ?_
  have hq : q.id = id := hq.trans hid
  rw [hq]
  exact h.create q

theorem recordCaptureFailure (e : GatewayError) (p : Payment) :
    Related R (Payments.recordCaptureFailure now id e p : Action σ _ _)
      (Payments.recordCaptureFailure now id e p) := by
  unfold Payments.recordCaptureFailure
  cases p.fail now Payments.captureFailed e.message with
  | ok q => exact ((h.update q).attempt).bind fun _ => h.announceFailure now q
  | error _ => exact .pure _

/-- A capture is answered the same if the gateway answers the same about the payment that is read. -/
theorem capture {s : σ} {t : τ} (hst : R s t)
    (hgateway : ∀ p u, (readPayment id : Action σ _ _) s = .ok p u →
      Related R (Backend.capture (p.transactionId.getD "") p.amount : Action σ _ _)
        (Backend.capture (p.transactionId.getD "") p.amount)) :
    Agree R (Payments.capture now id s) (Payments.capture now id t) := by
  unfold Payments.capture Payments.get
  refine ((h.read s t hst).mapError _).bind fun p u hp => ?_
  refine (hgateway p u (mapError_eq_ok_iff.mp hp)).attempt.bind fun answer => ?_
  cases answer with
  | ok _ => exact h.record now (fun q _ => h.update q) _
  | error e =>
      refine (h.count _).bind fun _ => ?_
      exact (h.recordCaptureFailure now e p).bind fun _ => .throw _

/-- So is a refund. -/
theorem refund {s : σ} {t : τ} (hst : R s t)
    (hgateway : ∀ p u, (readPayment id : Action σ _ _) s = .ok p u →
      Related R (Backend.refund (p.transactionId.getD "") p.amount : Action σ _ _)
        (Backend.refund (p.transactionId.getD "") p.amount)) :
    Agree R (Payments.refund now id s) (Payments.refund now id t) := by
  unfold Payments.refund Payments.get
  refine ((h.read s t hst).mapError _).bind fun p u hp => ?_
  refine (hgateway p u (mapError_eq_ok_iff.mp hp)).attempt.bind fun answer => ?_
  cases answer with
  | ok _ => exact h.record now (fun q _ => h.update q) _
  | error e => exact (h.count _).bind fun _ => .throw _

end Backend.PaymentAlike

end

namespace Booking

section
variable (hcount : ∀ m, Related R (Backend.count m : Action σ BookingError Unit) (Backend.count m))
include hcount

theorem settle_related {α : Type} (action : Compensation) (result : Except OperationError α) :
    Related R (settle action result : Action σ _ _) (settle action result) := by
  unfold settle
  refine (hcount _).bind fun _ => ?_
  cases result with
  | ok a => exact .pure _
  | error e => exact .pure _

/-- A compensation is answered the same if what it consists in is. -/
theorem refundCaptured_agree (now : Instant) {s : σ} {t : τ} (hst : R s t) {captured : Option PaymentId}
    (hrefund : ∀ id, captured = some id → Agree R (Payments.refund now id s) (Payments.refund now id t)) :
    Agree R (refundCaptured now captured s) (refundCaptured now captured t) := by
  cases captured with
  | none => exact .ok hst
  | some id => exact (hrefund id rfl).attempt.bind fun _ _ _ => settle_related hcount _ _

theorem cancelAfter_related (now : Instant) (step : BookingStep) {id : ReservationId}
    (hcancel : ∀ reason, Related R (Reservations.cancel now id reason : Action σ _ _)
      (Reservations.cancel now id reason)) :
    Related R (cancelAfter now step id : Action σ _ _) (cancelAfter now step id) := by
  unfold cancelAfter
  cases step.cancellationReason with
  | none => exact .pure _
  | some reason => exact (hcancel reason).attempt.bind fun _ => settle_related hcount _ _

/-- A booking is undone in the same way if its compensations are answered the same. -/
theorem compensate_agree {α : Type} (now : Instant) (step : BookingStep) (source : OperationError)
    {id : ReservationId} {captured : Option PaymentId} {s : σ} {t : τ} (hst : R s t)
    (hrefund : ∀ id, captured = some id → Agree R (Payments.refund now id s) (Payments.refund now id t))
    (hcancel : ∀ reason, Related R (Reservations.cancel now id reason : Action σ _ _)
      (Reservations.cancel now id reason)) :
    Agree R ((compensate now step source id captured : Action σ _ α) s)
      ((compensate now step source id captured : Action τ _ α) t) := by
  rw [compensate_eq, compensate_eq]
  refine (refundCaptured_agree hcount now hst hrefund).bind fun _ _ _ => ?_
  exact (cancelAfter_related hcount now step hcancel).bind fun _ => .throw _

end
end Booking

section
variable (h : Backend.Alike R) (now : Instant)
include h

namespace Reservations

theorem get_related (id : ReservationId) : Related R (get id : Action σ _ _) (get id) :=
  (h.readReservation id).mapError _

theorem create_related (order : ReservationOrder) :
    Related R (create now order : Action σ _ _) (create now order) :=
  fun s t hst => (h.reservation _).make now rfl (h.isRoomAvailable _ _ s t hst)

theorem modify_related (id : ReservationId) (f : Reservation → Except ReservationError Reservation)
    (event : Reservation → ReservationEvent) :
    Related R (modify now id f event : Action σ _ _) (modify now id f event) :=
  (h.reservation id).modify now f event

end Reservations

namespace Payments

theorem get_related (id : PaymentId) : Related R (get id : Action σ _ _) (get id) :=
  (h.readPayment id).mapError _

theorem authorize_related (order : PaymentOrder) :
    Related R (authorize now order : Action σ _ _) (authorize now order) :=
  (h.payment _).authorize now rfl (h.authorize _)

theorem retryAuthorization_related (id : PaymentId) :
    Related R (retryAuthorization now id : Action σ _ _) (retryAuthorization now id) := by
  unfold retryAuthorization
  refine (get_related h id).bind fun p => (Related.ofExcept _).bind fun _ => ?_
  exact (h.payment id).authorizeWith now (h.authorize p) fun q _ => h.updatePayment id q

theorem capture_related (id : PaymentId) :
    Related R (capture now id : Action σ _ _) (capture now id) :=
  fun _ _ hst => (h.payment id).capture now hst fun p _ _ => h.capture _ p.amount

theorem refund_related (id : PaymentId) :
    Related R (refund now id : Action σ _ _) (refund now id) :=
  fun _ _ hst => (h.payment id).refund now hst fun p _ _ => h.refund _ p.amount

end Payments

namespace Booking

theorem compensate_related {α : Type} (step : BookingStep) (source : OperationError)
    (id : ReservationId) (captured : Option PaymentId) :
    Related R (compensate now step source id captured : Action σ _ α)
      (compensate now step source id captured) :=
  fun s t hst => compensate_agree h.count now step source hst
    (fun id _ => Payments.refund_related h now id s t hst)
    fun _ => Reservations.modify_related h now id _ _

omit now in
theorem notifyConfirmation_related (r : Reservation) :
    Related R (notifyConfirmation r : Action σ _ _) (notifyConfirmation r) :=
  Related.discard_attempt (h.sendConfirmation r)

theorem run_related (order : BookingOrder) :
    Related R (run now order : Action σ _ _) (run now order) := by
  unfold run
  refine ((Reservations.create_related h now _).mapError _).bind fun r => ?_
  refine ((Payments.authorize_related h now _).attempt).bind fun authorized => ?_
  cases authorized with
  | error e => exact compensate_related h now _ _ _ _
  | ok p =>
      refine ((Payments.capture_related h now _).attempt).bind fun captured => ?_
      cases captured with
      | error e => exact compensate_related h now _ _ _ _
      | ok _ =>
          refine ((Reservations.modify_related h now _ _ _).attempt).bind fun changed => ?_
          cases changed with
          | error e => exact compensate_related h now _ _ _ _
          | ok _ =>
              refine ((Reservations.get_related h _).mapError _).bind fun confirmed => ?_
              exact (notifyConfirmation_related h confirmed).bind fun _ => .pure confirmed

/-- A whole booking is answered the same by related systems. -/
theorem complete_related (order : BookingOrder) :
    Related R (complete now order : Action σ _ _) (complete now order) := by
  rw [complete_eq, complete_eq]
  refine (h.count _).bind fun _ => ((run_related h now order).attempt).bind fun result => ?_
  exact (h.count _).bind fun _ => (h.count _).bind fun _ => .ofExcept result

theorem initiate_related (order : ReservationOrder) :
    Related R (initiate now order : Action σ _ _) (initiate now order) :=
  (Reservations.create_related h now order).mapError _

theorem onCreated_related (id : ReservationId) (total : Money) :
    Related R (onCreated now id total : Action σ _ _) (onCreated now id total) :=
  (Payments.authorize_related h now _).mapError _

theorem onAuthorized_related (id : PaymentId) (reservationId : ReservationId) :
    Related R (onAuthorized now id reservationId : Action σ _ _)
      (onAuthorized now id reservationId) := by
  unfold onAuthorized
  refine ((Payments.capture_related h now id).attempt).bind fun captured => ?_
  cases captured with
  | ok p => exact .pure _
  | error e =>
      exact ((Reservations.modify_related h now _ _ _).attempt).bind fun _ => .throw _

theorem onCaptured_related (id : ReservationId) :
    Related R (onCaptured now id : Action σ _ _) (onCaptured now id) := by
  unfold onCaptured
  refine ((Reservations.modify_related h now id _ _).mapError _).bind fun r => ?_
  exact (notifyConfirmation_related h r).bind fun _ => .pure _

theorem onFailed_related (id : ReservationId) (reason : String) :
    Related R (onFailed now id reason : Action σ _ _) (onFailed now id reason) :=
  (Reservations.modify_related h now id _ _).mapError _

/-- An event is reacted to in the same way. -/
theorem handle_related (e : Envelope) :
    Related R (handle now e : Action σ _ _) (handle now e) := by
  unfold handle
  split_ifs
  · split
    · exact (onCreated_related h now _ _).bind fun _ => .pure _
    · exact .throw _
    · exact .throw _
  · split
    · exact (onAuthorized_related h now _ _).bind fun _ => .pure _
    · exact .throw _
    · exact .throw _
  · split
    · exact (onCaptured_related h now _).bind fun _ => .pure _
    · exact .throw _
    · exact .throw _
  · split
    · exact (onFailed_related h now _ _).bind fun _ => .pure _
    · exact .throw _
    · exact .throw _
  · exact .pure _

end Booking
end

section
variable (h : Backend.AlikeThroughout R)
include h

theorem Reservations.listByGuest_related (id : GuestId) :
    Related R (listByGuest id : Action σ _ _) (listByGuest id) :=
  (h.readReservations.mapError _).bind fun _ => .pure _

/-- A cancellation is answered the same, though the guest is told of it. -/
theorem Booking.cancel_related (now : Instant) (id : ReservationId) (reason : String) :
    Related R (cancel now id reason : Action σ _ _) (cancel now id reason) := by
  unfold cancel
  refine ((Reservations.modify_related h.toAlike now id _ _).mapError _).bind fun r => ?_
  exact (Related.discard_attempt (h.sendCancellation r reason)).bind fun _ => .pure r

end

namespace Hotel

/-- Both systems have the same stores, gateway and counters, whatever these are, and stay related as they publish and
send notices. -/
structure SharesParts (R : Hotel → Hotel → Prop) : Prop where
  reservations : ∀ s t, R s t → s.reservations = t.reservations
  setReservations : ∀ x s t, R s t → R { s with reservations := x } { t with reservations := x }
  payments : ∀ s t, R s t → s.payments = t.payments
  setPayments : ∀ x s t, R s t → R { s with payments := x } { t with payments := x }
  gateway : ∀ s t, R s t → s.gateway = t.gateway
  setGateway : ∀ x s t, R s t → R { s with gateway := x } { t with gateway := x }
  metrics : ∀ s t, R s t → s.metrics = t.metrics
  setMetrics : ∀ x s t, R s t → R { s with metrics := x } { t with metrics := x }
  publish : ∀ e, Related R (Backend.publish e : Action Hotel _ _) (Backend.publish e)
  sendConfirmation : ∀ r s t, R s t →
    R ((Backend.sendConfirmation r : Action Hotel _ _).after s) ((Backend.sendConfirmation r).after t)

theorem SharesParts.alike {R : Hotel → Hotel → Prop} (h : SharesParts R) : Backend.Alike R where
  readReservation _ := .zoom h.reservations h.setReservations _
  createReservation _ _ := .zoom h.reservations h.setReservations _
  updateReservation _ _ := .zoom h.reservations h.setReservations _
  isRoomAvailable roomId stay s t hst := by
    change Agree R (.ok (s.blocking roomId stay).isEmpty s) (.ok (t.blocking roomId stay).isEmpty t)
    rw [blocking, h.reservations s t hst]
    exact .ok hst
  readPayment _ := .zoom h.payments h.setPayments _
  createPayment _ _ := .zoom h.payments h.setPayments _
  updatePayment _ _ := .zoom h.payments h.setPayments _
  authorize _ := .zoom h.gateway h.setGateway _
  capture _ _ := .zoom h.gateway h.setGateway _
  refund _ _ := .zoom h.gateway h.setGateway _
  publish := h.publish
  sendConfirmation := h.sendConfirmation
  count m s t hst := by
    change Agree R (.ok () (s.counted m)) (.ok () (t.counted m))
    rw [counted, h.metrics s t hst]
    exact .ok (h.setMetrics _ s t hst)

end Hotel
end HotelBooking
