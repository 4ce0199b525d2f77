import HotelBooking.Proofs.Completion
import HotelBooking.Proofs.Relation

/-!
# What the gateway is asked

A gateway counts its calls but does not keep them. `Audited` keeps them beside the system, each with
whether it was accepted. That changes nothing about the system, and the calls of each step of a
booking are known: `Reaches.audited` and `FailsAt.audited` say which calls have been made when a step
begins and when it fails.
-/

namespace HotelBooking

open HotelBooking.Action

inductive GatewayRequest where
  | authorize (p : Payment)
  | capture (transactionId : String) (amount : Money)
  | refund (transactionId : String) (amount : Money)
  deriving DecidableEq

structure GatewayCall where
  request : GatewayRequest
  accepted : Bool
  deriving DecidableEq

/-- A system and the calls of its gateway. -/
structure Audited (σ : Type) where
  system : σ
  calls : List GatewayCall

namespace Audited

variable {σ ε α : Type}

/-- The operation leaves the gateway alone. -/
def lift (x : Action σ ε α) : Action (Audited σ) ε α :=
  x.zoom (·.system) fun s a => { a with system := s }

/-- The operation is a call of the gateway. -/
def record (request : GatewayRequest) (x : Action σ ε α) : Action (Audited σ) ε α := fun a =>
  match x a.system with
  | .ok answer s => .ok answer ⟨s, a.calls ++ [⟨request, true⟩]⟩
  | .error e s => .error e ⟨s, a.calls ++ [⟨request, false⟩]⟩

instance [Backend σ] : Backend (Audited σ) where
  readReservation id := lift (Backend.readReservation id)
  readReservations := lift Backend.readReservations
  createReservation id r := lift (Backend.createReservation id r)
  updateReservation id r := lift (Backend.updateReservation id r)
  isRoomAvailable roomId stay := lift (Backend.isRoomAvailable roomId stay)
  readPayment id := lift (Backend.readPayment id)
  createPayment id p := lift (Backend.createPayment id p)
  updatePayment id p := lift (Backend.updatePayment id p)
  authorize p := record (.authorize p) (Backend.authorize p)
  capture id amount := record (.capture id amount) (Backend.capture id amount)
  refund id amount := record (.refund id amount) (Backend.refund id amount)
  publish e := lift (Backend.publish e)
  sendConfirmation r := lift (Backend.sendConfirmation r)
  sendCancellation r reason := lift (Backend.sendCancellation r reason)
  count m := lift (Backend.count m)

/-- The system is the one that is audited. -/
def Of (a : Audited σ) (s : σ) : Prop := a.system = s

theorem lift_related (x : Action σ ε α) : Related Of (lift x) x := by
  rintro a s rfl
  unfold lift zoom
  cases x a.system with
  | ok b t => exact .ok rfl
  | error e t => exact .error rfl

theorem record_related (request : GatewayRequest) (x : Action σ ε α) :
    Related Of (record request x) x := by
  rintro a s rfl
  unfold record
  cases x a.system with
  | ok b t => exact .ok rfl
  | error e t => exact .error rfl

theorem lift_moves (x : Action σ ε α) : (lift x).Moves (Same calls) := by
  intro a
  unfold Same after outcome lift zoom
  cases x a.system <;> rfl

theorem record_after (request : GatewayRequest) (x : Action σ ε α) (a : Audited σ) :
    ((record request x).after a).calls = a.calls ++ [⟨request, (x.outcome a.system).1.isOk⟩] := by
  unfold after outcome record
  cases x a.system <;> rfl

variable [Backend σ]

/-- The audit changes nothing about the system. -/
theorem alike : Backend.Alike (Of : Audited σ → σ → Prop) where
  readReservation _ := lift_related _
  createReservation _ _ := lift_related _
  updateReservation _ _ := lift_related _
  isRoomAvailable _ _ := lift_related _
  readPayment _ := lift_related _
  createPayment _ _ := lift_related _
  updatePayment _ _ := lift_related _
  authorize _ := record_related _ _
  capture _ _ := record_related _ _
  refund _ _ := record_related _ _
  publish _ := lift_related _
  sendConfirmation r a s h := by
    cases h
    unfold Of after outcome
    simp only [Backend.sendConfirmation, lift, zoom]
    cases (Backend.sendConfirmation r : Action σ _ _) a.system <;> rfl
  count _ := lift_related _

theorem reservations_keep_calls :
    Backend.ReservationsMove (Same (calls : Audited σ → List GatewayCall)) where
  read _ := lift_moves _
  readAll := lift_moves _
  create _ _ := lift_moves _
  update _ _ := lift_moves _
  isRoomAvailable _ _ := lift_moves _
  publish _ := lift_moves _

theorem paymentRecords_keep_calls :
    Backend.PaymentRecordsMove (Same (calls : Audited σ → List GatewayCall)) where
  read _ := lift_moves _
  create _ _ := lift_moves _
  update _ _ := lift_moves _
  publish _ := lift_moves _
  count _ := lift_moves _

end Audited

namespace Hotel

variable (s : Hotel)

theorem isOk_authorize (p : Payment) :
    ((Backend.authorize p : Action Hotel _ _).outcome s).1.isOk = !s.gateway.failsAuthorize := by
  unfold outcome
  rw [authorize_apply]
  unfold Gateway.authorizeError?
  cases s.gateway.failsAuthorize <;> rfl

theorem isOk_capture {id : String} {amount : Money} (h : s.gateway.transactions[id]? = some amount) :
    ((Backend.capture id amount : Action Hotel _ _).outcome s).1.isOk = !s.gateway.failsCapture := by
  unfold outcome
  rw [capture_apply]
  unfold Gateway.captureError?
  rw [h]
  dsimp only
  rw [if_pos rfl]
  cases s.gateway.failsCapture <;> rfl

theorem isOk_refund {id : String} {amount : Money} (h : s.gateway.transactions[id]? = some amount) :
    ((Backend.refund id amount : Action Hotel _ _).outcome s).1.isOk = !s.gateway.failsRefund := by
  unfold outcome
  rw [refund_apply]
  unfold Gateway.refundError?
  rw [h, Option.isSome_some, if_pos rfl]
  cases s.gateway.failsRefund <;> rfl

end Hotel

namespace Payments

theorem authorizeWith_calls {σ : Type} [Backend σ] (now : Instant)
    {store : Payment → Action (Audited σ) StorageError Unit}
    (hstore : ∀ p, (store p).Moves (Same Audited.calls)) (p : Payment) (a : Audited σ) :
    ((authorizeWith now store p).after a).calls =
      a.calls ++ [⟨.authorize p, ((Backend.authorize p : Action σ _ _).outcome a.system).1.isOk⟩] := by
  have hrecords := Audited.paymentRecords_keep_calls (σ := σ)
  unfold authorizeWith
  refine (Moves.after_bind (R := Same Audited.calls) (fun answer => ?_) a).trans ?_
  · cases answer with
    | ok transactionId => exact record_moves now hrecords hstore _ _
    | error e =>
        refine (hrecords.count _).bind fun _ => (Moves.ofExcept _).bind fun p => ?_
        refine ((hstore p).mapError _).bind fun _ => ?_
        exact (announceFailure_moves now hrecords p).bind fun _ => .throw _
  · rw [after_attempt]
    exact Audited.record_after _ _ a

variable (now : Instant) (a : Audited Hotel)

theorem authorize_calls (order : PaymentOrder) :
    ((authorize now order).after a).calls =
      a.calls ++ [⟨.authorize (.make now order), !a.system.gateway.failsAuthorize⟩] := by
  have hrecords := Audited.paymentRecords_keep_calls (σ := Hotel)
  rw [authorize, authorizeWith_calls now fun p => hrecords.create p.id p, Hotel.isOk_authorize]

variable {a} in
theorem get_audited {id : PaymentId} {p : Payment} (hp : a.system.payment? id = some p) :
    (get id : Action (Audited Hotel) _ _) a = .ok p a := by
  have hread : (Backend.readPayment id : Action Hotel _ _) a.system = .ok p a.system := by
    rw [Hotel.readPayment_apply, hp]
  unfold get
  rw [mapError_eq_ok_iff]
  change Audited.lift (Backend.readPayment id) a = _
  unfold Audited.lift zoom
  rw [hread]

theorem capture_calls {id : PaymentId} {p : Payment} (hp : a.system.payment? id = some p)
    (hopen : a.system.gateway.transactions[p.transactionId.getD ""]? = some p.amount) :
    ((capture now id).after a).calls =
      a.calls ++ [⟨.capture (p.transactionId.getD "") p.amount, !a.system.gateway.failsCapture⟩] := by
  have hrecords := Audited.paymentRecords_keep_calls (σ := Hotel)
  unfold capture
  rw [after_bind_ok _ (get_audited hp)]
  refine (Moves.after_bind (R := Same Audited.calls) (fun answer => ?_) a).trans ?_
  · cases answer with
    | ok _ => exact record_moves now hrecords (hrecords.update id) _ _
    | error e =>
        refine (hrecords.count _).bind fun _ => ?_
        exact (recordCaptureFailure_moves now hrecords id e p).bind fun _ => .throw _
  · rw [after_attempt, ← Hotel.isOk_capture a.system hopen]
    exact Audited.record_after _ _ a

theorem refund_calls {id : PaymentId} {p : Payment} (hp : a.system.payment? id = some p)
    (hopen : a.system.gateway.transactions[p.transactionId.getD ""]? = some p.amount) :
    ((refund now id).after a).calls =
      a.calls ++ [⟨.refund (p.transactionId.getD "") p.amount, !a.system.gateway.failsRefund⟩] := by
  have hrecords := Audited.paymentRecords_keep_calls (σ := Hotel)
  unfold refund
  rw [after_bind_ok _ (get_audited hp)]
  refine (Moves.after_bind (R := Same Audited.calls) (fun answer => ?_) a).trans ?_
  · cases answer with
    | ok _ => exact record_moves now hrecords (hrecords.update id) _ _
    | error e => exact (hrecords.count _).bind fun _ => .throw _
  · rw [after_attempt, ← Hotel.isOk_refund a.system hopen]
    exact Audited.record_after _ _ a

end Payments

namespace BookingStep

/-- The steps before this one, in their order. -/
def earlier : BookingStep → List BookingStep
  | createReservation => []
  | authorizePayment => [createReservation]
  | capturePayment => [createReservation, authorizePayment]
  | confirmReservation => [createReservation, authorizePayment, capturePayment]

theorem earlier_next {step step' : BookingStep} (h : step.next? = some step') :
    step'.earlier = step.earlier ++ [step] := by
  cases step <;> cases h <;> rfl

end BookingStep

namespace Booking

section
variable {σ τ : Type} [Backend σ] [Backend τ] {R : σ → τ → Prop} (h : Backend.Alike R)
  {now : Instant} {order : BookingOrder}
include h

theorem perform_related (step : BookingStep) :
    Related R (perform now order step : Action σ _ _) (perform now order step) := by
  cases step with
  | createReservation => exact (Reservations.create_related h now _).bind fun _ => .pure _
  | authorizePayment => exact (Payments.authorize_related h now _).bind fun _ => .pure _
  | capturePayment => exact (Payments.capture_related h now _).bind fun _ => .pure _
  | confirmReservation => exact (Reservations.modify_related h now _ _ _).bind fun _ => .pure _

end

variable (now : Instant) (order : BookingOrder) (s : Hotel)

/-- What a step asks of the gateway, if the steps before it succeed. -/
def stepCalls : BookingStep → List GatewayCall
  | .createReservation => []
  | .authorizePayment => [⟨.authorize (.make now order.payment), !s.gateway.failsAuthorize⟩]
  | .capturePayment =>
    [⟨.capture order.transactionId order.reservation.total, !s.gateway.failsCapture⟩]
  | .confirmReservation => []

theorem perform_calls {step : BookingStep} {a : Audited Hotel}
    (ha : a.system = before now order s step) :
    ((perform now order step).after a).calls = a.calls ++ stepCalls now order s step := by
  have hreservations := Audited.reservations_keep_calls (σ := Hotel)
  have houtages : a.system.outages = s.outages := by rw [ha, before_outages]
  unfold perform stepCalls
  cases step with
  | createReservation =>
      rw [after_discard, List.append_nil]
      exact Reservations.create_moves now hreservations _ a
  | authorizePayment =>
      have hfails : a.system.gateway.failsAuthorize = s.gateway.failsAuthorize :=
        congrArg Outages.authorize houtages
      rw [after_discard, Payments.authorize_calls, hfails]
  | capturePayment =>
      have hfails : a.system.gateway.failsCapture = s.gateway.failsCapture :=
        congrArg Outages.capture houtages
      have hpayment : a.system.payment? order.paymentId = some (order.authorizedPayment now) := by
        rw [ha, before_capture_payment?]
      have hopen : a.system.gateway.transactions[order.transactionId]? =
          some order.reservation.total := by
        rw [ha]
        exact before_transactions now order s (.inl rfl)
      rw [after_discard, Payments.capture_calls now a hpayment hopen, hfails]
      rfl
  | confirmReservation =>
      rw [after_discard, List.append_nil]
      exact Reservations.modify_moves now hreservations _ _ _ a

variable {now order s}

theorem Reaches.audited {c : List GatewayCall} {step : BookingStep} {b : Audited Hotel}
    (h : Reaches now order ⟨s, c⟩ step b) :
    Reaches now order s step b.system ∧
      b.calls = c ++ step.earlier.flatMap (stepCalls now order s) := by
  induction h with
  | first => exact ⟨.first, (List.append_nil c).symm⟩
  | @next step step' t u _ hnext hperform ih =>
      obtain ⟨hreaches, hcalls⟩ := ih
      obtain ⟨v, hv, rfl⟩ := (perform_related Audited.alike step _ _ rfl).of_ok hperform
      refine ⟨hreaches.next hnext hv, ?_⟩
      have hstep := perform_calls now order s hreaches.eq_before
      rw [after_of_ok hperform] at hstep
      rw [hstep, hcalls, BookingStep.earlier_next hnext, List.flatMap_append, List.append_assoc]
      simp

theorem FailsAt.audited {c : List GatewayCall} {step : BookingStep} {e : OperationError}
    {b : Audited Hotel} (h : FailsAt now order ⟨s, c⟩ step e b) :
    FailsAt now order s step e b.system ∧
      b.calls = c ++ (step.earlier ++ [step]).flatMap (stepCalls now order s) := by
  obtain ⟨t, ht, hperform⟩ := h
  obtain ⟨hreaches, hcalls⟩ := ht.audited
  obtain ⟨v, hv, rfl⟩ := (perform_related Audited.alike step _ _ rfl).of_error hperform
  refine ⟨⟨t.system, hreaches, hv⟩, ?_⟩
  have hstep := perform_calls now order s hreaches.eq_before
  rw [after_of_error hperform] at hstep
  rw [hstep, hcalls, List.flatMap_append, List.append_assoc]
  simp

theorem compensate_calls {step : BookingStep} {e : OperationError} {a : Audited Hotel}
    (h : FailsAt now order s step e a.system) (source : OperationError) (id : ReservationId) :
    ((compensate now step source id (capturedBy order step) :
      Action (Audited Hotel) _ Reservation).after a).calls =
        a.calls ++
          if step = .confirmReservation then
            [⟨.refund order.transactionId order.reservation.total, !s.gateway.failsRefund⟩]
          else [] := by
  have hrecords := Audited.paymentRecords_keep_calls (σ := Hotel)
  have hreservations := Audited.reservations_keep_calls (σ := Hotel)
  rw [compensate_eq]
  refine (Moves.after_bind (R := Same Audited.calls) (fun _ => ?_) a).trans ?_
  · exact (cancelAfter_moves now hrecords.count
      (fun id _ => Reservations.modify_moves now hreservations id _ _) step id).bind fun _ => .throw _
  · by_cases hstep : step = .confirmReservation
    · subst hstep
      obtain ⟨hpayment, hopen, -⟩ := h.captured
      have hfails : a.system.gateway.failsRefund = s.gateway.failsRefund :=
        congrArg Outages.refund h.outages
      unfold capturedBy refundCaptured
      refine (Moves.after_bind (R := Same Audited.calls)
        (fun _ => settle_moves hrecords.count _ _) a).trans ?_
      rw [after_attempt, Payments.refund_calls now a hpayment hopen, hfails]
      rfl
    · rw [capturedBy_eq_none order hstep, if_neg hstep, List.append_nil]
      rfl

/-- The audit changes nothing about a booking. -/
theorem complete_audited (c : List GatewayCall) :
    Agree Audited.Of (complete now order (⟨s, c⟩ : Audited Hotel)) (complete now order s) :=
  complete_related Audited.alike now order _ _ rfl

variable (now order s) in
/-- What the gateway is asked during a booking. -/
def gatewayCalls : List GatewayCall :=
  ((complete now order : Action (Audited Hotel) _ _).after ⟨s, []⟩).calls

/-- What is counted about a booking does not ask the gateway anything. -/
theorem gatewayCalls_eq : gatewayCalls now order s =
    ((run now order).after (⟨s.counted .executions, []⟩ : Audited Hotel)).calls := by
  have hcount {ε : Type} (m : Metric) :
      (Backend.count m : Action (Audited Hotel) ε Unit).Moves (Same Audited.calls) :=
    Audited.paymentRecords_keep_calls.count m
  have hfirst : (Backend.count .executions : Action (Audited Hotel) BookingError Unit) ⟨s, []⟩ =
      .ok () ⟨s.counted .executions, []⟩ := rfl
  unfold gatewayCalls
  rw [complete_eq, after_bind_ok _ hfirst]
  refine (Moves.after_bind (R := Same Audited.calls) (fun _ => ?_) _).trans ?_
  · exact (hcount _).bind fun _ => (hcount _).bind fun _ => .ofExcept _
  · rw [after_attempt]

/-- The calls of a booking that fails: those of its steps up to the failed one, and that for a refund
if the amount has been captured. -/
theorem gatewayCalls_of_error {step : BookingStep} {err : BookingError} {t : Hotel}
    (h : complete now order s = .error err t) (hstep : err.step? = some step) :
    gatewayCalls now order s =
      (step.earlier ++ [step]).flatMap (stepCalls now order s) ++
        if step = .confirmReservation then
          [⟨.refund order.transactionId order.reservation.total, !s.gateway.failsRefund⟩]
        else [] := by
  obtain ⟨step', source, u, refunds, v, cancellations, w, hfails, -, -, rfl, -⟩ := complete_eq_error h
  rw [failureReport_step?] at hstep
  cases hstep
  rw [gatewayCalls_eq]
  rcases run_cases now order (⟨s.counted .executions, []⟩ : Audited Hotel) with
    ⟨b, c, hreaches, hperform, -⟩ | ⟨step'', e, b, hb, hrun⟩
  · obtain ⟨hplain, -⟩ := hreaches.audited
    obtain ⟨c', hc', -⟩ := (perform_related Audited.alike _ _ _ rfl).of_ok hperform
    exact absurd (hplain.all_feasible hc' step) hfails.not_feasible
  · obtain ⟨hplain, hcalls⟩ := hb.audited
    obtain ⟨rfl, rfl, rfl⟩ := hplain.unique hfails
    have hafter : (run now order).after (⟨s.counted .executions, []⟩ : Audited Hotel) =
        (compensate now step'' e order.reservation.reservationId (capturedBy order step'') :
          Action (Audited Hotel) _ Reservation).after b := by
      unfold after outcome
      rw [hrun]
    rw [hafter, compensate_calls hplain, hcalls, List.nil_append]
    rfl

end Booking
end HotelBooking
