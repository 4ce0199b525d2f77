import HotelBooking.Proofs.Frame
import HotelBooking.Proofs.Payments
import HotelBooking.Proofs.Reservations

/-!
# A booking, step by step

`perform` is one step by itself, and `Reaches` says which state the system is in when a step begins.
The state is known in full: each step that succeeds has one effect, so the state when a step begins
is `before`, and whether the step succeeds is decided by the system at the very start (`Feasible`).
-/

namespace HotelBooking

/-- The step that follows. -/
def BookingStep.next? : BookingStep → Option BookingStep
  | createReservation => some authorizePayment
  | authorizePayment => some capturePayment
  | capturePayment => some confirmReservation
  | confirmReservation => none

namespace BookingOrder

def transactionId (order : BookingOrder) : String :=
  Gateway.transactionId order.paymentId order.reservation.total.amount

variable (now : Instant) (order : BookingOrder)

def pendingReservation : Reservation := .fresh now order.reservation

def confirmedReservation : Reservation :=
  { order.pendingReservation now with status := .confirmed }

def authorizedPayment : Payment :=
  (Payment.make now order.payment).authorized now order.transactionId

def capturedPayment : Payment := (order.authorizedPayment now).record (.succeeded now .captured)

def refundedPayment : Payment := (order.capturedPayment now).record (.succeeded now .refunded)

end BookingOrder

/-- The system after it has tried to tell the guest that the reservation is confirmed. -/
@[simps] def Hotel.confirmationSent (r : Reservation) (s : Hotel) : Hotel :=
  { s with notifier := (Notifier.sendConfirmation r).after s.notifier }

namespace Booking

section
variable {σ : Type} [Backend σ] (now : Instant) (order : BookingOrder)

/-- One step of a booking by itself. -/
def perform : BookingStep → Action σ OperationError Unit
  | .createReservation => do let _ ← Reservations.create now order.reservation
  | .authorizePayment => do let _ ← Payments.authorize now order.payment
  | .capturePayment => do let _ ← Payments.capture now order.paymentId
  | .confirmReservation => do
    let _ ← Reservations.change now .confirm order.reservation.reservationId

/-- The steps before the given one succeed, and the system is in the given state then. -/
inductive Reaches (s : σ) : BookingStep → σ → Prop where
  | first : Reaches s .createReservation s
  | next {step step' : BookingStep} {t u : σ} : Reaches s step t → step.next? = some step' →
      perform now order step t = .ok () u → Reaches s step' u

/-- The step is reached and fails, which leaves the system in the given state. -/
def FailsAt (s : σ) (step : BookingStep) (e : OperationError) (u : σ) : Prop :=
  ∃ t, Reaches now order s step t ∧ perform now order step t = .error e u

/-- The payment to be refunded when a step fails. -/
def capturedBy : BookingStep → Option PaymentId
  | .confirmReservation => some order.paymentId
  | .createReservation | .authorizePayment | .capturePayment => none

theorem capturedBy_eq_none {step : BookingStep} (h : step ≠ .confirmReservation) :
    capturedBy order step = none := by
  cases step with
  | createReservation => rfl
  | authorizePayment => rfl
  | capturePayment => rfl
  | confirmReservation => exact absurd rfl h

/-- The reservation is read once more, and the guest is told. -/
def finish : Action σ BookingError Reservation := do
  let confirmed ← (Reservations.get order.reservation.reservationId).mapError .service
  notifyConfirmation confirmed
  return confirmed

theorem perform_moves {R : σ → σ → Prop} [IsPreorder σ R] (h : ServicesMove R)
    (step : BookingStep) : (perform now order step : Action σ _ _).Moves R := by
  cases step with
  | createReservation => exact (h.createReservation now _).bind fun _ => .pure _
  | authorizePayment => exact (h.authorize now _).bind fun _ => .pure _
  | capturePayment => exact (h.capture now _).bind fun _ => .pure _
  | confirmReservation => exact (h.changeReservation now _ _).bind fun _ => .pure _

/-- The first step answers with the reservation that was ordered. -/
theorem id_of_create {order : ReservationOrder} {r : Reservation} {s t : σ}
    (h : Reservations.create now order s = .ok r t) : r.id = order.reservationId := by
  unfold Reservations.create at h
  obtain ⟨free, u, -, h⟩ := Action.bind_eq_ok_iff.mp h
  cases free with
  | false => cases h
  | true =>
      obtain ⟨made, v, hmade, h⟩ := Action.bind_eq_ok_iff.mp h
      obtain ⟨-, w, -, h⟩ := Action.bind_eq_ok_iff.mp h
      obtain ⟨-, x, -, h⟩ := Action.bind_eq_ok_iff.mp h
      cases h
      obtain ⟨hmade, -⟩ := Action.ofExcept_eq_ok_iff.mp hmade
      cases hmake : Reservation.make now order with
      | error e =>
          rw [hmake] at hmade
          cases hmade
      | ok r' =>
          rw [hmake] at hmade
          cases hmade
          obtain ⟨-, -, -, rfl⟩ := Reservation.make_eq_ok_iff.mp hmake
          rfl

/-- The second step answers with the payment that was ordered. -/
theorem id_of_authorize {order : PaymentOrder} {p : Payment} {s t : σ}
    (h : Payments.authorize now order s = .ok p t) : p.id = order.paymentId := by
  unfold Payments.authorize Payments.authorizeWith at h
  obtain ⟨answer, u, -, h⟩ := Action.bind_eq_ok_iff.mp h
  cases answer with
  | error e =>
      obtain ⟨-, v, -, h⟩ := Action.bind_eq_ok_iff.mp h
      obtain ⟨q, w, -, h⟩ := Action.bind_eq_ok_iff.mp h
      obtain ⟨-, x, -, h⟩ := Action.bind_eq_ok_iff.mp h
      obtain ⟨-, y, -, h⟩ := Action.bind_eq_ok_iff.mp h
      cases h
  | ok transactionId =>
      obtain ⟨q, v, hq, h⟩ := Action.bind_eq_ok_iff.mp h
      obtain ⟨-, w, -, h⟩ := Action.bind_eq_ok_iff.mp h
      obtain ⟨-, x, -, h⟩ := Action.bind_eq_ok_iff.mp h
      cases h
      obtain ⟨hq, -⟩ := Action.ofExcept_eq_ok_iff.mp hq
      cases hauthorized : (Payment.make now order).authorize now transactionId with
      | error e =>
          rw [hauthorized] at hq
          cases hq
      | ok q' =>
          rw [hauthorized] at hq
          cases hq
          obtain ⟨-, rfl⟩ := Payment.authorize_eq_ok_iff.mp hauthorized
          rfl

/-- A booking is its four steps in order, up to the first one that fails. -/
theorem run_apply (s : σ) :
    run now order s =
      match perform now order .createReservation s with
      | .error e t => compensate now .createReservation e order.reservation.reservationId none t
      | .ok _ t =>
        match perform now order .authorizePayment t with
        | .error e t => compensate now .authorizePayment e order.reservation.reservationId none t
        | .ok _ t =>
          match perform now order .capturePayment t with
          | .error e t => compensate now .capturePayment e order.reservation.reservationId none t
          | .ok _ t =>
            match perform now order .confirmReservation t with
            | .error e t =>
              compensate now .confirmReservation e order.reservation.reservationId
                (some order.paymentId) t
            | .ok _ t => finish order t := by
  unfold run perform finish
  simp only [Action.bind_apply, Action.mapError_apply, Action.attempt_apply]
  cases hcreate : Reservations.create now order.reservation s with
  | error e t => rfl
  | ok r t =>
      have hreservation := id_of_create now hcreate
      simp only [Action.pure_apply, hreservation]
      cases hauthorize : Payments.authorize now order.payment t with
      | error e u => rfl
      | ok p u =>
          have hpayment : p.id = order.paymentId := id_of_authorize now hauthorize
          simp only [hpayment, Action.bind_apply, Action.attempt_apply]
          cases Payments.capture now order.paymentId u with
          | error e v => rfl
          | ok q v =>
              simp only [Action.bind_apply, Action.attempt_apply]
              cases Reservations.change now .confirm order.reservation.reservationId v with
              | error e w => rfl
              | ok r' w => simp only [Action.bind_apply, Action.mapError_apply, Action.pure_apply]

/-- A booking either goes through all its steps or is undone where one of them fails. -/
theorem run_cases (s : σ) :
    (∃ t u, Reaches now order s .confirmReservation t ∧
      perform now order .confirmReservation t = .ok () u ∧ run now order s = finish order u) ∨
    ∃ step e u, FailsAt now order s step e u ∧
      run now order s =
        compensate now step e order.reservation.reservationId (capturedBy order step) u := by
  rw [run_apply]
  have hfirst : Reaches now order s .createReservation s := .first
  cases hcreate : perform now order .createReservation s with
  | error e t => exact .inr ⟨_, e, t, ⟨s, hfirst, hcreate⟩, rfl⟩
  | ok _ t =>
      have hsecond := hfirst.next rfl hcreate
      dsimp only
      cases hauthorize : perform now order .authorizePayment t with
      | error e u => exact .inr ⟨_, e, u, ⟨t, hsecond, hauthorize⟩, rfl⟩
      | ok _ u =>
          have hthird := hsecond.next rfl hauthorize
          dsimp only
          cases hcapture : perform now order .capturePayment u with
          | error e v => exact .inr ⟨_, e, v, ⟨u, hthird, hcapture⟩, rfl⟩
          | ok _ v =>
              have hfourth := hthird.next rfl hcapture
              dsimp only
              cases hconfirm : perform now order .confirmReservation v with
              | error e w => exact .inr ⟨_, e, w, ⟨v, hfourth, hconfirm⟩, rfl⟩
              | ok _ w => exact .inl ⟨v, w, hfourth, hconfirm, rfl⟩

end

variable (now : Instant) (order : BookingOrder)

/-- What a step does when it succeeds. -/
def effect : BookingStep → Hotel → Hotel
  | .createReservation, s =>
    (s.storeReservation order.reservation.reservationId (order.pendingReservation now)).published
      ((ReservationEvent.ofCreated (order.pendingReservation now)).toEnvelope now)
  | .authorizePayment, s =>
    ((s.transactionOpened (.make now order.payment)).storePayment order.paymentId
      (order.authorizedPayment now)).published
        (PaymentEvent.toEnvelope now (.ofAuthorized (order.authorizedPayment now)))
  | .capturePayment, s =>
    (s.amountCaptured.storePayment order.paymentId (order.capturedPayment now)).published
      (PaymentEvent.toEnvelope now (.ofSettled .captured (order.capturedPayment now)))
  | .confirmReservation, s =>
    (s.storeReservation order.reservation.reservationId (order.confirmedReservation now)).published
      ((ReservationEvent.ofChanged .confirm (order.confirmedReservation now)).toEnvelope now)

/-- The system when a step begins, if all steps before it succeed. -/
def before (s : Hotel) : BookingStep → Hotel
  | .createReservation => s
  | .authorizePayment => effect now order .createReservation s
  | .capturePayment => effect now order .authorizePayment (effect now order .createReservation s)
  | .confirmReservation =>
    effect now order .capturePayment
      (effect now order .authorizePayment (effect now order .createReservation s))

/-- What has to be so at the start for a step to succeed. -/
def Feasible (s : Hotel) : BookingStep → Prop
  | .createReservation =>
    s.blocking order.reservation.roomId order.reservation.stay = [] ∧
      Instant.nanosPerDay ≤ order.reservation.stay.duration ∧
        now.day ≤ order.reservation.stay.checkIn.day ∧ order.reservation.guests ≠ [] ∧
          s.reservation? order.reservation.reservationId = none ∧
            s.reservations.refusesCreate = false ∧ ReservationEvent.createdTopic ∉ s.log.refused
  | .authorizePayment =>
    s.gateway.failsAuthorize = false ∧ s.payment? order.paymentId = none ∧
      s.payments.refusesCreate = false ∧ PaymentEvent.authorizedTopic ∉ s.log.refused
  | .capturePayment =>
    s.gateway.failsCapture = false ∧ s.payments.refusesUpdate = false ∧
      Settlement.captured.topic ∉ s.log.refused
  | .confirmReservation =>
    s.reservations.refusesUpdate = false ∧ ReservationChange.confirm.topic ∉ s.log.refused

section
variable (s : Hotel)

theorem effect_outages (step : BookingStep) : (effect now order step s).outages = s.outages := by
  cases step with
  | createReservation => rfl
  | authorizePayment => simp [effect, Hotel.outages, Hotel.transactionOpened]
  | capturePayment => simp [effect, Hotel.outages, Hotel.amountCaptured]
  | confirmReservation => rfl

theorem before_outages (step : BookingStep) : (before now order s step).outages = s.outages := by
  cases step <;> simp only [before, effect_outages]

theorem before_next {step step' : BookingStep} (h : step.next? = some step') :
    before now order s step' = effect now order step (before now order s step) := by
  cases step <;> cases h <;> rfl

theorem effect_reservation? : (effect now order .createReservation s).reservation?
    order.reservation.reservationId = some (order.pendingReservation now) := by
  simp [effect, Hotel.reservation?_storeReservation]

theorem effect_payment? : (effect now order .authorizePayment s).payment? order.paymentId =
    some (order.authorizedPayment now) := by
  simp [effect, Hotel.payment?_storePayment]

theorem effect_transactions :
    (effect now order .authorizePayment s).gateway.transactions[order.transactionId]? =
      some order.reservation.total := by
  simp only [effect, Hotel.published_gateway, Hotel.storePayment_gateway, Hotel.transactionOpened,
    Hotel.withGateway_gateway, Gateway.opened_transactions]
  exact Std.ExtTreeMap.getElem?_insert_self

/-- The reservation waits to be confirmed from the first step on. -/
theorem before_reservation? {step : BookingStep} (h : step ≠ .createReservation) :
    (before now order s step).reservation? order.reservation.reservationId =
      some (order.pendingReservation now) := by
  have hstored := effect_reservation? now order s
  cases step with
  | createReservation => exact absurd rfl h
  | authorizePayment => exact hstored
  | capturePayment => exact hstored
  | confirmReservation => exact hstored

theorem before_capture_payment? :
    (before now order s .capturePayment).payment? order.paymentId =
      some (order.authorizedPayment now) :=
  effect_payment? now order _

theorem before_confirm_payment? :
    (before now order s .confirmReservation).payment? order.paymentId =
      some (order.capturedPayment now) := by
  simp [before, effect, Hotel.payment?_storePayment]

/-- The amount stays open at the gateway once it is authorized. -/
theorem before_transactions {step : BookingStep}
    (h : step = .capturePayment ∨ step = .confirmReservation) :
    (before now order s step).gateway.transactions[order.transactionId]? =
      some order.reservation.total := by
  have hopened := effect_transactions now order (effect now order .createReservation s)
  rcases h with rfl | rfl
  · exact hopened
  · simpa [before, effect, Hotel.amountCaptured] using hopened

theorem perform_create_eq_ok_iff {u : Hotel} :
    perform now order .createReservation s = .ok () u ↔
      Feasible now order s .createReservation ∧ u = effect now order .createReservation s := by
  unfold perform
  rw [Action.discard_eq_ok_iff]
  constructor
  · rintro ⟨r, h⟩
    obtain ⟨hfree, hmake, hnew, hlog, rfl⟩ := (Reservations.create_eq_ok_iff now s).mp h
    obtain ⟨hstay, hday, hguests, rfl⟩ := Reservation.make_eq_ok_iff.mp hmake
    obtain ⟨hcreate, hid⟩ := Table.createError?_eq_none_iff.mp hnew
    have htopic := EventLog.publishError?_eq_none_iff.mp hlog
    exact ⟨⟨hfree, hstay, hday, hguests, hid, hcreate, htopic⟩, rfl⟩
  · rintro ⟨⟨hfree, hstay, hday, hguests, hid, hcreate, htopic⟩, rfl⟩
    have hmake := Reservation.make_eq_ok_iff.mpr ⟨hstay, hday, hguests, rfl⟩
    have hnew := Table.createError?_eq_none_iff.mpr ⟨hcreate, hid⟩
    have hlog := EventLog.publishError?_eq_none_iff.mpr htopic
    exact ⟨_, (Reservations.create_eq_ok_iff now s).mpr ⟨hfree, hmake, hnew, hlog, rfl⟩⟩

theorem perform_authorize_eq_ok_iff {u : Hotel} :
    perform now order .authorizePayment (before now order s .authorizePayment) = .ok () u ↔
      Feasible now order s .authorizePayment ∧
        u = effect now order .authorizePayment (before now order s .authorizePayment) := by
  unfold perform
  rw [Action.discard_eq_ok_iff]
  constructor
  · rintro ⟨p, h⟩
    obtain ⟨hgateway, hnew, hlog, rfl, rfl⟩ := (Payments.authorize_eq_ok_iff now _).mp h
    obtain ⟨hcreate, hid⟩ := Table.createError?_eq_none_iff.mp hnew
    have hworks := Gateway.authorizeError?_eq_none_iff.mp hgateway
    have htopic := EventLog.publishError?_eq_none_iff.mp hlog
    exact ⟨⟨hworks, hid, hcreate, htopic⟩, rfl⟩
  · rintro ⟨⟨hworks, hid, hcreate, htopic⟩, rfl⟩
    have hnew : s.payments.createError? order.paymentId.text = none :=
      Table.createError?_eq_none_iff.mpr ⟨hcreate, hid⟩
    have hgateway := Gateway.authorizeError?_eq_none_iff.mpr hworks
    have hlog := EventLog.publishError?_eq_none_iff.mpr htopic
    exact ⟨_, (Payments.authorize_eq_ok_iff now _).mpr ⟨hgateway, hnew, hlog, rfl, rfl⟩⟩

theorem perform_capture_eq_ok_iff {u : Hotel} :
    perform now order .capturePayment (before now order s .capturePayment) = .ok () u ↔
      Feasible now order s .capturePayment ∧
        u = effect now order .capturePayment (before now order s .capturePayment) := by
  have hpayment := before_capture_payment? now order s
  have hopen := before_transactions now order s (.inl rfl)
  have houtages := before_outages now order s .capturePayment
  have hfails := congrArg Outages.capture houtages
  have hchanges := congrArg Outages.paymentChanges houtages
  have htopics := congrArg Outages.topics houtages
  simp only [Hotel.outages_capture, Hotel.outages_paymentChanges, Hotel.outages_topics]
    at hfails hchanges htopics
  unfold perform
  rw [Action.discard_eq_ok_iff]
  generalize hs : before now order s .capturePayment = t at *
  constructor
  · rintro ⟨q, h⟩
    obtain ⟨hgateway, -, hupdate, hlog, rfl, rfl⟩ := (Payments.capture_eq_ok_iff now t hpayment).mp h
    obtain ⟨hworks, -⟩ := Gateway.captureError?_eq_none_iff.mp hgateway
    have htopic := EventLog.publishError?_eq_none_iff.mp hlog
    have hstore := (Table.updateError?_eq_none_iff hpayment).mp hupdate
    exact ⟨⟨hfails ▸ hworks, hchanges ▸ hstore, htopics ▸ htopic⟩, rfl⟩
  · rintro ⟨⟨hworks, hstore, htopic⟩, rfl⟩
    have hgateway : t.gateway.captureError? ((order.authorizedPayment now).transactionId.getD "")
        (order.authorizedPayment now).amount = none :=
      Gateway.captureError?_eq_none_iff.mpr ⟨hfails.trans hworks, hopen⟩
    have hupdate := (Table.updateError?_eq_none_iff hpayment).mpr (hchanges.trans hstore)
    have hlog := EventLog.publishError?_eq_none_iff.mpr (htopics ▸ htopic)
    exact ⟨_, (Payments.capture_eq_ok_iff now t hpayment).mpr
      ⟨hgateway, rfl, hupdate, hlog, rfl, rfl⟩⟩

theorem perform_confirm_eq_ok_iff {u : Hotel} :
    perform now order .confirmReservation (before now order s .confirmReservation) = .ok () u ↔
      Feasible now order s .confirmReservation ∧
        u = effect now order .confirmReservation (before now order s .confirmReservation) := by
  have hreservation : (before now order s .confirmReservation).reservation?
      order.reservation.reservationId = some (order.pendingReservation now) :=
    before_reservation? now order s nofun
  have houtages := before_outages now order s .confirmReservation
  have hchanges := congrArg Outages.reservationChanges houtages
  have htopics := congrArg Outages.topics houtages
  simp only [Hotel.outages_reservationChanges, Hotel.outages_topics] at hchanges htopics
  unfold perform Reservations.change
  rw [Action.discard_eq_ok_iff]
  generalize hs : before now order s .confirmReservation = t at *
  constructor
  · rintro ⟨r, h⟩
    obtain ⟨hchange, hupdate, hlog, rfl⟩ := (Reservations.modify_eq_ok_iff now t hreservation).mp h
    obtain ⟨-, rfl⟩ := Reservation.change_eq_ok_iff.mp hchange
    have hstore := (Table.updateError?_eq_none_iff hreservation).mp hupdate
    have htopic := EventLog.publishError?_eq_none_iff.mp hlog
    exact ⟨⟨hchanges ▸ hstore, htopics ▸ htopic⟩, rfl⟩
  · rintro ⟨⟨hstore, htopic⟩, rfl⟩
    have hchange : (order.pendingReservation now).change now .confirm =
        .ok (order.confirmedReservation now) := rfl
    have hupdate := (Table.updateError?_eq_none_iff hreservation).mpr (hchanges.trans hstore)
    have hlog := EventLog.publishError?_eq_none_iff.mpr (htopics ▸ htopic)
    exact ⟨_, (Reservations.modify_eq_ok_iff now t hreservation).mpr ⟨hchange, hupdate, hlog, rfl⟩⟩

/-- If the steps before it have succeeded, a step succeeds if it is feasible from the start. -/
theorem perform_before_eq_ok_iff {step : BookingStep} {u : Hotel} :
    perform now order step (before now order s step) = .ok () u ↔
      Feasible now order s step ∧ u = effect now order step (before now order s step) := by
  cases step with
  | createReservation => exact perform_create_eq_ok_iff now order s
  | authorizePayment => exact perform_authorize_eq_ok_iff now order s
  | capturePayment => exact perform_capture_eq_ok_iff now order s
  | confirmReservation => exact perform_confirm_eq_ok_iff now order s

end

namespace Reaches

variable {now order} {s t : Hotel} {step : BookingStep}

/-- A step that begins finds the effects of all steps before it. -/
theorem eq_before (h : Reaches now order s step t) : t = before now order s step := by
  induction h with
  | first => rfl
  | next _ hnext hperform ih =>
      rw [ih, perform_before_eq_ok_iff] at hperform
      rw [before_next now order s hnext, hperform.2]

/-- A step begins only if all steps before it are feasible. -/
theorem feasible (h : Reaches now order s step t) {earlier : BookingStep}
    (he : earlier.number < step.number) : Feasible now order s earlier := by
  induction h with
  | first => cases earlier <;> contradiction
  | @next step step' t u hreaches hnext hperform ih =>
      rw [hreaches.eq_before, perform_before_eq_ok_iff] at hperform
      by_cases hstep : earlier = step
      · rw [hstep]
        exact hperform.1
      · apply ih
        cases earlier <;> cases step <;> cases hnext <;> first | contradiction | decide

end Reaches

/-- The guest being told makes no difference to anything but the notices. -/
theorem notifyConfirmation_apply (r : Reservation) (u : Hotel) :
    notifyConfirmation r u = .ok () (u.confirmationSent r) := by
  unfold notifyConfirmation Hotel.confirmationSent Action.after Action.outcome
  simp only [Action.bind_apply, Action.attempt_apply, Backend.sendConfirmation, Hotel.onNotifier,
    Action.zoom]
  cases Notifier.sendConfirmation r u.notifier with
  | ok _ n => rfl
  | error e n => rfl

theorem finish_apply {u : Hotel} {r : Reservation}
    (hr : u.reservation? order.reservation.reservationId = some r) :
    finish order u = .ok r (u.confirmationSent r) := by
  unfold finish Reservations.get
  simp only [Action.bind_apply, Action.mapError_apply, Hotel.readReservation_apply, hr,
    notifyConfirmation_apply, Action.pure_apply]

/-- Once all steps have succeeded, nothing can fail any more. -/
theorem finish_of_reaches {s t u : Hotel} (h : Reaches now order s .confirmReservation t)
    (hperform : perform now order .confirmReservation t = .ok () u) :
    u = effect now order .confirmReservation (before now order s .confirmReservation) ∧
      ∃ n, finish order u = .ok (order.confirmedReservation now) { u with notifier := n } := by
  rw [h.eq_before, perform_before_eq_ok_iff] at hperform
  refine ⟨hperform.2, _, finish_apply order ?_⟩
  rw [hperform.2]
  simp [effect, Hotel.reservation?_storeReservation]

/-- A whole booking is its steps with what is counted about them. -/
theorem complete_apply (s : Hotel) :
    complete now order s =
      match run now order (s.counted .executions) with
      | .ok r t => .ok r ((t.counted .durations).counted .completed)
      | .error e t => .error e ((t.counted .durations).counted (.failed e.step?)) := by
  rw [complete_eq]
  simp only [Action.bind_apply, Action.attempt_apply, Hotel.count_apply]
  cases run now order (s.counted .executions) with
  | ok r t => rfl
  | error e t => rfl

theorem complete_after (s : Hotel) :
    ∃ m, (complete now order).after s =
      (((run now order).after (s.counted .executions)).counted .durations).counted m := by
  unfold Action.after Action.outcome
  rw [complete_apply]
  cases run now order (s.counted .executions) with
  | ok r t => exact ⟨_, rfl⟩
  | error e t => exact ⟨_, rfl⟩

end Booking

/-- One room for one guest, to be paid by card. -/
def Sample.booking : BookingOrder := ⟨order "res-1" 3 5, ⟨"pay-1"⟩, "card"⟩

end HotelBooking
