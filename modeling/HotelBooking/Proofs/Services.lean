import HotelBooking.Booking.Reaction
import HotelBooking.Proofs.Action
import Mathlib.Tactic.SplitIfs

/-!
# The reach of the services

The services are written for any kind of state that offers what they need. So what they may do to
it follows from what each thing they use may do: `Backend.ReservationsMove` for the operations on
reservations, `Backend.PaymentsMove` for those on payments, and `Booking.ServicesMove`, which is
about these operations themselves, for whole bookings and for the reactions to events.
-/

namespace HotelBooking

open HotelBooking.Action

variable {σ : Type} [Backend σ]

namespace Backend

/-- Whatever the operations on reservations use stays within `R`. -/
structure ReservationsMove (R : σ → σ → Prop) : Prop where
  read : ∀ id, (readReservation id : Action σ _ _).Moves R
  readAll : (readReservations : Action σ _ _).Moves R
  create : ∀ id r, (createReservation id r : Action σ _ _).Moves R
  update : ∀ id r, (updateReservation id r : Action σ _ _).Moves R
  isRoomAvailable : ∀ roomId stay, (isRoomAvailable roomId stay : Action σ _ _).Moves R
  publish : ∀ e, (publish e : Action σ _ _).Moves R

/-- Whatever the operations on payments use to record what they did stays within `R`. -/
structure PaymentRecordsMove (R : σ → σ → Prop) : Prop where
  read : ∀ id, (readPayment id : Action σ _ _).Moves R
  create : ∀ id p, (createPayment id p : Action σ _ _).Moves R
  update : ∀ id p, (updatePayment id p : Action σ _ _).Moves R
  publish : ∀ e, (publish e : Action σ _ _).Moves R
  count : ∀ {ε : Type} m, (count m : Action σ ε Unit).Moves R

/-- Whatever the operations on payments use stays within `R`, the gateway included. -/
structure PaymentsMove (R : σ → σ → Prop) : Prop extends PaymentRecordsMove R where
  authorize : ∀ p, (authorize p : Action σ _ _).Moves R
  capture : ∀ id amount, (capture id amount : Action σ _ _).Moves R
  refund : ∀ id amount, (refund id amount : Action σ _ _).Moves R

end Backend

variable {R : σ → σ → Prop} (now : Instant)

namespace Reservations

theorem get_moves (h : Backend.ReservationsMove R) (id : ReservationId) :
    (get id : Action σ _ _).Moves R :=
  (h.read id).mapError _

theorem announce_moves (h : Backend.ReservationsMove R) (e : ReservationEvent) :
    (announce now e : Action σ _ _).Moves R :=
  (h.publish _).mapError _

variable [IsPreorder σ R]

theorem create_moves (h : Backend.ReservationsMove R) (order : ReservationOrder) :
    (create now order : Action σ _ _).Moves R := by
  unfold create
  refine ((h.isRoomAvailable _ _).mapError _).bind fun free => ?_
  split_ifs
  · refine (Moves.ofExcept _).bind fun r => ?_
    exact ((h.create _ _).mapError _).bind fun _ => (announce_moves now h _).bind fun _ => .pure _
  · exact .throw _

theorem modify_moves (h : Backend.ReservationsMove R) (id : ReservationId)
    (f : Reservation → Except ReservationError Reservation)
    (event : Reservation → ReservationEvent) : (modify now id f event : Action σ _ _).Moves R := by
  unfold modify
  refine (get_moves h id).bind fun r => (Moves.ofExcept _).bind fun r' => ?_
  exact ((h.update _ _).mapError _).bind fun _ => (announce_moves now h _).bind fun _ => .pure _

theorem listByGuest_moves (h : Backend.ReservationsMove R) (id : GuestId) :
    (listByGuest id : Action σ _ _).Moves R :=
  (h.readAll.mapError _).bind fun _ => .pure _

end Reservations

namespace Payments

section
variable (h : Backend.PaymentRecordsMove R)
include h

theorem get_moves (id : PaymentId) : (get id : Action σ _ _).Moves R :=
  (h.read id).mapError _

theorem announce_moves (e : PaymentEvent) : (announce now e : Action σ _ _).Moves R :=
  (h.publish _).mapError _

variable [IsPreorder σ R]

theorem announceFailure_moves (p : Payment) : (announceFailure now p : Action σ _ _).Moves R :=
  ((h.publish _).attempt).bind fun _ => .pure _

/-- What follows when the gateway has agreed. -/
theorem record_moves {store : Payment → Action σ StorageError Unit}
    (hstore : ∀ p, (store p).Moves R) (result : Except PaymentError Payment)
    (event : Payment → PaymentEvent) :
    (do
      let p ← Action.ofExcept (result.mapError .payment)
      (store p).mapError .storage
      announce now (event p)
      return p : Action σ OperationError Payment).Moves R := by
  refine (Moves.ofExcept _).bind fun p => ?_
  refine ((hstore p).mapError _).bind fun _ => ?_
  exact (announce_moves now h _).bind fun _ => .pure _

theorem recordCaptureFailure_moves (id : PaymentId) (e : GatewayError) (p : Payment) :
    (recordCaptureFailure now id e p : Action σ _ _).Moves R := by
  unfold recordCaptureFailure
  cases p.fail now captureFailed e.message with
  | ok q => exact ((h.update id q).attempt).bind fun _ => announceFailure_moves now h q
  | error _ => exact .pure _

theorem authorizeWith_moves (hauthorize : ∀ p, (Backend.authorize p : Action σ _ _).Moves R)
    {store : Payment → Action σ StorageError Unit} (hstore : ∀ p, (store p).Moves R) (p : Payment) :
    (authorizeWith now store p).Moves R := by
  unfold authorizeWith
  refine ((hauthorize p).attempt).bind fun answer => ?_
  cases answer with
  | ok transactionId => exact record_moves now h hstore _ _
  | error e =>
      refine (h.count _).bind fun _ => (Moves.ofExcept _).bind fun p => ?_
      exact ((hstore p).mapError _).bind fun _ => (announceFailure_moves now h p).bind fun _ => .throw _

theorem authorize_moves (hauthorize : ∀ p, (Backend.authorize p : Action σ _ _).Moves R)
    (order : PaymentOrder) : (authorize now order : Action σ _ _).Moves R :=
  authorizeWith_moves now h hauthorize (fun p => h.create p.id p) _

theorem retryAuthorization_moves (hauthorize : ∀ p, (Backend.authorize p : Action σ _ _).Moves R)
    (id : PaymentId) : (retryAuthorization now id : Action σ _ _).Moves R := by
  unfold retryAuthorization
  refine (get_moves h id).bind fun p => (Moves.ofExcept _).bind fun _ => ?_
  exact authorizeWith_moves now h hauthorize (h.update id) p

theorem capture_moves
    (hcapture : ∀ id amount, (Backend.capture id amount : Action σ _ _).Moves R) (id : PaymentId) :
    (capture now id : Action σ _ _).Moves R := by
  unfold capture
  refine (get_moves h id).bind fun p => ((hcapture _ _).attempt).bind fun answer => ?_
  cases answer with
  | ok _ => exact record_moves now h (h.update id) _ _
  | error e =>
      refine (h.count _).bind fun _ => ?_
      exact (recordCaptureFailure_moves now h id e p).bind fun _ => .throw _

theorem refund_moves (hrefund : ∀ id amount, (Backend.refund id amount : Action σ _ _).Moves R)
    (id : PaymentId) : (refund now id : Action σ _ _).Moves R := by
  unfold refund
  refine (get_moves h id).bind fun p => ((hrefund _ _).attempt).bind fun answer => ?_
  cases answer with
  | ok _ => exact record_moves now h (h.update id) _ _
  | error e => exact (h.count _).bind fun _ => .throw _

end

end Payments

namespace Booking

/-- Refunds the payment if it was captured; answers with the failure, if it is one. -/
def refundCaptured (captured : Option PaymentId) :
    Action σ BookingError (List CompensationFailure) :=
  match captured with
  | some id => do settle .refundPayment (← (Payments.refund now id).attempt)
  | none => pure []

/-- Cancels the reservation because the step failed; answers with the failure, if it is one. -/
def cancelAfter (step : BookingStep) (id : ReservationId) :
    Action σ BookingError (List CompensationFailure) :=
  match step.cancellationReason with
  | some reason => do
    settle .cancelReservation (← (Reservations.cancel now id reason).attempt)
  | none => pure []

/-- What is reported of a failed step, given the compensations that failed as well. -/
def failureReport (step : BookingStep) (source : OperationError) :
    List CompensationFailure → BookingError
  | [] => .stepFailed step source
  | failures => .compensationFailed step source failures

theorem compensate_eq {α : Type} (step : BookingStep) (source : OperationError)
    (id : ReservationId) (captured : Option PaymentId) :
    (compensate now step source id captured : Action σ BookingError α) = (do
      let refunds ← refundCaptured now captured
      let cancellations ← cancelAfter now step id
      throw (failureReport step source (refunds ++ cancellations))) := by
  unfold compensate refundCaptured cancelAfter
  cases captured with
  | none =>
      cases step.cancellationReason with
      | none => rfl
      | some reason =>
          simp only [bind_assoc, pure_bind]
          refine bind_congr fun _ => bind_congr fun cancellations => ?_
          cases cancellations <;> rfl
  | some payment =>
      simp only [bind_assoc]
      refine bind_congr fun _ => bind_congr fun refunds => ?_
      cases step.cancellationReason with
      | none => cases refunds <;> rfl
      | some reason =>
          simp only [bind_assoc]
          refine bind_congr fun _ => bind_congr fun cancellations => ?_
          cases refunds <;> cases cancellations <;> rfl

/-- How the end of a booking is counted. -/
def endMetric {α : Type} : Except BookingError α → Metric
  | .ok _ => .completed
  | .error e => .failed e.step?

theorem complete_eq (order : BookingOrder) :
    (complete now order : Action σ _ _) = (do
      Backend.count .executions
      let result ← (run now order).attempt
      Backend.count .durations
      Backend.count (endMetric result)
      Action.ofExcept result) := by
  unfold complete
  refine bind_congr fun _ => bind_congr fun result => bind_congr fun _ => ?_
  cases result <;> rfl

/-- The operations on reservations and payments stay within `R`, at any time, and so do notices and
counts. -/
structure ServicesMove (R : σ → σ → Prop) : Prop where
  getReservation : ∀ id, (Reservations.get id : Action σ _ _).Moves R
  listByGuest : ∀ id, (Reservations.listByGuest id : Action σ _ _).Moves R
  createReservation : ∀ now order, (Reservations.create now order : Action σ _ _).Moves R
  changeReservation : ∀ now c id, (Reservations.change now c id : Action σ _ _).Moves R
  cancelReservation : ∀ now id reason, (Reservations.cancel now id reason : Action σ _ _).Moves R
  getPayment : ∀ id, (Payments.get id : Action σ _ _).Moves R
  authorize : ∀ now order, (Payments.authorize now order : Action σ _ _).Moves R
  retryAuthorization : ∀ now id, (Payments.retryAuthorization now id : Action σ _ _).Moves R
  capture : ∀ now id, (Payments.capture now id : Action σ _ _).Moves R
  refund : ∀ now id, (Payments.refund now id : Action σ _ _).Moves R
  sendConfirmation : ∀ r, (Backend.sendConfirmation r : Action σ _ _).Moves R
  sendCancellation : ∀ r reason, (Backend.sendCancellation r reason : Action σ _ _).Moves R
  count : ∀ {ε : Type} m, (Backend.count m : Action σ ε Unit).Moves R

variable [IsPreorder σ R]

theorem servicesMove_of (hr : Backend.ReservationsMove R) (hp : Backend.PaymentsMove R)
    (hconfirmation : ∀ r, (Backend.sendConfirmation r : Action σ _ _).Moves R)
    (hcancellation : ∀ r reason, (Backend.sendCancellation r reason : Action σ _ _).Moves R) :
    ServicesMove R where
  getReservation := Reservations.get_moves hr
  listByGuest := Reservations.listByGuest_moves hr
  createReservation now := Reservations.create_moves now hr
  changeReservation now _ id := Reservations.modify_moves now hr id _ _
  cancelReservation now id _ := Reservations.modify_moves now hr id _ _
  getPayment := Payments.get_moves hp.toPaymentRecordsMove
  authorize now := Payments.authorize_moves now hp.toPaymentRecordsMove hp.authorize
  retryAuthorization now := Payments.retryAuthorization_moves now hp.toPaymentRecordsMove hp.authorize
  capture now := Payments.capture_moves now hp.toPaymentRecordsMove hp.capture
  refund now := Payments.refund_moves now hp.toPaymentRecordsMove hp.refund
  sendConfirmation := hconfirmation
  sendCancellation := hcancellation
  count := hp.count

section
variable (hcount : ∀ m, (Backend.count m : Action σ BookingError Unit).Moves R)
include hcount

theorem settle_moves {α : Type} (action : Compensation) (result : Except OperationError α) :
    (settle action result : Action σ _ _).Moves R := by
  unfold settle
  refine (hcount _).bind fun _ => ?_
  cases result with
  | ok a => exact .pure _
  | error e => exact .pure _

theorem refundCaptured_moves (hrefund : ∀ id, (Payments.refund now id : Action σ _ _).Moves R)
    (captured : Option PaymentId) : (refundCaptured now captured : Action σ _ _).Moves R := by
  cases captured with
  | none => exact .pure _
  | some id => exact ((hrefund id).attempt).bind fun _ => settle_moves hcount _ _

theorem cancelAfter_moves
    (hcancel : ∀ id reason, (Reservations.cancel now id reason : Action σ _ _).Moves R)
    (step : BookingStep) (id : ReservationId) : (cancelAfter now step id : Action σ _ _).Moves R := by
  unfold cancelAfter
  cases step.cancellationReason with
  | none => exact .pure _
  | some reason => exact ((hcancel id reason).attempt).bind fun _ => settle_moves hcount _ _

end

variable (h : ServicesMove R)
include h

theorem compensate_moves {α : Type} (step : BookingStep) (source : OperationError)
    (id : ReservationId) (captured : Option PaymentId) :
    (compensate now step source id captured : Action σ _ α).Moves R := by
  rw [compensate_eq]
  refine (refundCaptured_moves now h.count (h.refund now) captured).bind fun _ => ?_
  exact (cancelAfter_moves now h.count (h.cancelReservation now) step id).bind fun _ => .throw _

theorem notifyConfirmation_moves (r : Reservation) :
    (notifyConfirmation r : Action σ _ _).Moves R :=
  ((h.sendConfirmation r).attempt).bind fun _ => .pure _

theorem notifyCancellation_moves (r : Reservation) (reason : String) :
    (notifyCancellation r reason : Action σ _ _).Moves R :=
  ((h.sendCancellation r reason).attempt).bind fun _ => .pure _

/-- What comes after the first step stays within `R`. -/
theorem run_after_create (order : BookingOrder) (s : σ) :
    R ((Reservations.create now order.reservation).after s) ((run now order).after s) := by
  rw [← after_mapError (BookingError.stepFailed .createReservation)]
  unfold run
  refine Moves.after_bind (fun r => ?_) s
  refine ((h.authorize now _).attempt).bind fun authorized => ?_
  cases authorized with
  | error e => exact compensate_moves now h _ _ _ _
  | ok p =>
      refine ((h.capture now _).attempt).bind fun captured => ?_
      cases captured with
      | error e => exact compensate_moves now h _ _ _ _
      | ok _ =>
          refine ((h.changeReservation now _ _).attempt).bind fun changed => ?_
          cases changed with
          | error e => exact compensate_moves now h _ _ _ _
          | ok _ =>
              refine ((h.getReservation _).mapError _).bind fun confirmed => ?_
              exact (notifyConfirmation_moves h confirmed).bind fun _ => .pure _

theorem run_moves (order : BookingOrder) : (run now order : Action σ _ _).Moves R := fun s =>
  IsTrans.trans _ _ _ (h.createReservation now order.reservation s) (run_after_create now h order s)

theorem complete_moves (order : BookingOrder) : (complete now order : Action σ _ _).Moves R := by
  rw [complete_eq]
  refine (h.count _).bind fun _ => ((run_moves now h order).attempt).bind fun result => ?_
  exact (h.count _).bind fun _ => (h.count _).bind fun _ => .ofExcept _

theorem cancel_moves (id : ReservationId) (reason : String) :
    (cancel now id reason : Action σ _ _).Moves R := by
  unfold cancel
  refine ((h.cancelReservation now id reason).mapError _).bind fun r => ?_
  exact (notifyCancellation_moves h r reason).bind fun _ => .pure _

omit [IsPreorder σ R] in
theorem initiate_moves (order : ReservationOrder) : (initiate now order : Action σ _ _).Moves R :=
  (h.createReservation now order).mapError _

omit [IsPreorder σ R] in
theorem onCreated_moves (id : ReservationId) (total : Money) :
    (onCreated now id total : Action σ _ _).Moves R :=
  (h.authorize now _).mapError _

theorem onAuthorized_moves (id : PaymentId) (reservationId : ReservationId) :
    (onAuthorized now id reservationId : Action σ _ _).Moves R := by
  unfold onAuthorized
  refine ((h.capture now id).attempt).bind fun captured => ?_
  cases captured with
  | ok p => exact .pure _
  | error e => exact ((h.cancelReservation now _ _).attempt).bind fun _ => .throw _

theorem onCaptured_moves (id : ReservationId) : (onCaptured now id : Action σ _ _).Moves R := by
  unfold onCaptured
  refine ((h.changeReservation now _ id).mapError _).bind fun r => ?_
  exact (notifyConfirmation_moves h r).bind fun _ => .pure _

omit [IsPreorder σ R] in
theorem onFailed_moves (id : ReservationId) (reason : String) :
    (onFailed now id reason : Action σ _ _).Moves R :=
  (h.cancelReservation now id reason).mapError _

theorem handle_moves (e : Envelope) : (handle now e : Action σ _ _).Moves R := by
  unfold handle
  split_ifs
  · split
    · exact (onCreated_moves now h _ _).bind fun _ => .pure _
    · exact .throw _
    · exact .throw _
  · split
    · exact (onAuthorized_moves now h _ _).bind fun _ => .pure _
    · exact .throw _
    · exact .throw _
  · split
    · exact (onCaptured_moves now h _).bind fun _ => .pure _
    · exact .throw _
    · exact .throw _
  · split
    · exact (onFailed_moves now h _ _).bind fun _ => .pure _
    · exact .throw _
    · exact .throw _
  · exact .pure _

end Booking
end HotelBooking
