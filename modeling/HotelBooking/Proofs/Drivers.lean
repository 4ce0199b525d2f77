import HotelBooking.Proofs.TimeText
import HotelBooking.Proofs.Working

/-!
# One booking, driven in two ways

A booking in one go and a booking by events do the same as long as storage and announcements work
(`Booking.drivers_agree`). What the events set off is followed through to each of the ends that the booking
can come to, and compared with what the booking in one go leaves there.
-/

namespace HotelBooking

open HotelBooking.Action

/-- The order that a booking by events comes to. -/
def BookingOrder.ofEvents (order : ReservationOrder) : BookingOrder :=
  ⟨order, Booking.paymentIdFor order.reservationId, Booking.defaultMethod⟩

namespace Booking

variable (now : Instant) (order : ReservationOrder) (s : Hotel)

theorem react_created :
    s.react now ((ReservationEvent.ofCreated ((BookingOrder.ofEvents order).pendingReservation now)
      ).toEnvelope now) = (Payments.authorize now (BookingOrder.ofEvents order).payment).after s := by
  have htask : Task.of? ((ReservationEvent.ofCreated ((BookingOrder.ofEvents order).pendingReservation now)
      ).toEnvelope now) = some (.authorize order.reservationId order.total) :=
    Task.of?_toEnvelope_reservation now _
  rw [Hotel.react_of_task now htask, Task.perform, after_return, onCreated, after_mapError]
  rfl

theorem react_authorized (order : BookingOrder) :
    s.react now ((PaymentEvent.ofAuthorized (order.authorizedPayment now)).toEnvelope now) =
      (onAuthorized now order.paymentId order.reservation.reservationId).after s := by
  have htask : Task.of? ((PaymentEvent.ofAuthorized (order.authorizedPayment now)).toEnvelope now) =
      some (.capture order.paymentId order.reservation.reservationId) :=
    Task.of?_toEnvelope_payment now _
  rw [Hotel.react_of_task now htask, Task.perform, after_return]

theorem react_captured (order : BookingOrder) :
    s.react now ((PaymentEvent.ofSettled .captured (order.capturedPayment now)).toEnvelope now) =
      (onCaptured now order.reservation.reservationId).after s := by
  have htask : Task.of? ((PaymentEvent.ofSettled .captured (order.capturedPayment now)).toEnvelope now) =
      some (.confirm order.reservation.reservationId) :=
    Task.of?_toEnvelope_payment now _
  rw [Hotel.react_of_task now htask, Task.perform, after_return]

theorem react_failed (p : Payment) : ∃ reason, ∀ s : Hotel,
    s.react now ((PaymentEvent.ofFailed p).toEnvelope now) =
      (Reservations.cancel now p.reservationId reason).after s := by
  have htask : ∃ reason, Task.of? ((PaymentEvent.ofFailed p).toEnvelope now) =
      some (.cancel p.reservationId reason) := ⟨_, Task.of?_toEnvelope_payment now _⟩
  obtain ⟨reason, hreason⟩ := htask
  refine ⟨reason, fun s => ?_⟩
  rw [Hotel.react_of_task now hreason, Task.perform, after_return, onFailed, after_mapError]

theorem react_changed (c : ReservationChange) (r : Reservation) :
    s.react now ((ReservationEvent.ofChanged c r).toEnvelope now) = s :=
  Hotel.react_of_none now (Task.of?_toEnvelope_reservation now _) s

theorem react_cancelled (r : Reservation) :
    s.react now ((ReservationEvent.ofCancelled r).toEnvelope now) = s :=
  Hotel.react_of_none now (Task.of?_toEnvelope_reservation now _) s

variable {s}

/-- The payment of a new reservation is declined, so the reservation is cancelled. -/
theorem pump_declined (h : s.Working)
    (hqueue : s.log.queue =
      [(ReservationEvent.ofCreated ((BookingOrder.ofEvents order).pendingReservation now)).toEnvelope now])
    (hr : s.reservation? order.reservationId = some ((BookingOrder.ofEvents order).pendingReservation now))
    (hnew : s.payment? (paymentIdFor order.reservationId) = none)
    (hgateway : s.gateway.failsAuthorize = true) :
    ∃ reason t, t = (s.drained.paymentDeclined now (.ofEvents order)).drained.withdrawn now
        ((BookingOrder.ofEvents order).pendingReservation now) reason ∧
      s.pump now =
        (ReservationEvent.createdTopic :: PaymentEvent.failedTopic :: t.log.topics, t.drained) := by
  have hdeclined : s.drained.react now _ = s.drained.paymentDeclined now (.ofEvents order) :=
    (react_created now order _).trans
      (after_of_error (h.drained.authorize_error now (.ofEvents order) hnew hgateway))
  have hw : (s.drained.paymentDeclined now (.ofEvents order)).Working :=
    h.drained.of_outages (Hotel.paymentDeclined_outages now _ _)
  obtain ⟨reason, hfailed⟩ := react_failed now ((BookingOrder.ofEvents order).declinedPayment now)
  have hcancelled := (hfailed _).trans (hw.drained.cancel_after now hr rfl reason)
  refine ⟨reason, _, rfl, ?_⟩
  rw [Hotel.pump_of_single now hqueue hdeclined, Hotel.pump_of_single now rfl hcancelled,
    Hotel.pump_of_idle now]
  · simp only [ReservationEvent.topic_toEnvelope, PaymentEvent.topic_toEnvelope]
    rfl
  · intro e he
    rw [Hotel.withdrawn_queue] at he
    split_ifs at he
    · rw [List.mem_singleton.mp he]
      exact react_cancelled now _ _
    · exact absurd he List.not_mem_nil

/-- The payment of a new reservation is authorized. -/
theorem pump_authorized (h : s.Working)
    (hqueue : s.log.queue =
      [(ReservationEvent.ofCreated ((BookingOrder.ofEvents order).pendingReservation now)).toEnvelope now])
    (hnew : s.payment? (paymentIdFor order.reservationId) = none)
    (hgateway : s.gateway.failsAuthorize = false) :
    ∃ t, t = effect now (.ofEvents order) .authorizePayment s.drained ∧
      s.pump now = (ReservationEvent.createdTopic :: (t.pump now).1, (t.pump now).2) := by
  have hauthorized : s.drained.react now _ = effect now (.ofEvents order) .authorizePayment s.drained :=
    (react_created now order _).trans
      (after_of_ok (h.drained.authorize_ok now (.ofEvents order) hnew hgateway))
  exact ⟨_, rfl, Hotel.pump_of_single now hqueue hauthorized⟩

section
variable (order : BookingOrder) (h : s.Working)
  (hqueue : s.log.queue = [(PaymentEvent.ofAuthorized (order.authorizedPayment now)).toEnvelope now])
  (hr : s.reservation? order.reservation.reservationId = some (order.pendingReservation now))
  (hp : s.payment? order.paymentId = some (order.authorizedPayment now))
include h hqueue hr hp

/-- An authorized payment is not captured, so the reservation is cancelled; the event of the failure
comes too late to do that once more. -/
theorem pump_uncaptured (hgateway : s.gateway.failsCapture = true) :
    ∃ t, t = (s.drained.paymentUncaptured now order).withdrawn now (order.pendingReservation now)
        BookingStep.captureFailedReason ∧
      s.pump now = (PaymentEvent.authorizedTopic :: t.log.topics, t.drained) := by
  have hw : (s.drained.paymentUncaptured now order).Working :=
    h.drained.of_outages (Hotel.paymentUncaptured_outages now order _)
  have hcancelled : s.drained.react now ((PaymentEvent.ofAuthorized (order.authorizedPayment now)
      ).toEnvelope now) = (s.drained.paymentUncaptured now order).withdrawn now
        (order.pendingReservation now) BookingStep.captureFailedReason := by
    rw [react_authorized, onAuthorized_after, h.drained.capture_error now hp hgateway]
    exact hw.cancel_after now hr rfl _
  obtain ⟨reason, hfailed⟩ := react_failed now (order.uncapturedPayment now)
  obtain ⟨r, hstored, hid, hlate⟩ := Hotel.withdrawn_reservation? now (order.pendingReservation now)
    BookingStep.captureFailedReason (s.drained.paymentUncaptured now order) hr
  refine ⟨_, rfl, ?_⟩
  rw [Hotel.pump_of_single now hqueue hcancelled, Hotel.pump_of_idle now]
  · rfl
  · intro e he
    rw [Hotel.withdrawn_queue] at he
    rcases List.mem_append.mp he with hfirst | hlast
    · rw [List.mem_singleton.mp hfirst, hfailed]
      refine ((hw.withdrawn now _ _).drained.cancel_after now hstored hid reason).trans ?_
      exact if_neg (by simp [hlate])
    · split_ifs at hlast
      · rw [List.mem_singleton.mp hlast]
        exact react_cancelled now _ _
      · exact absurd hlast List.not_mem_nil

/-- An authorized payment is captured, and the reservation is confirmed. -/
theorem pump_captured
    (hopen : s.gateway.transactions[order.transactionId]? = some order.reservation.total)
    (hgateway : s.gateway.failsCapture = false) :
    ∃ t, t = (effect now order .confirmReservation
        (effect now order .capturePayment s.drained).drained).confirmationSent
          (order.confirmedReservation now) ∧
      s.pump now =
        ([PaymentEvent.authorizedTopic, Settlement.captured.topic, ReservationChange.confirm.topic],
          t.drained) := by
  have hcaptured : s.drained.react now ((PaymentEvent.ofAuthorized (order.authorizedPayment now)
      ).toEnvelope now) = effect now order .capturePayment s.drained := by
    rw [react_authorized, onAuthorized_after, h.drained.capture_ok now hp hopen hgateway]
  have hw : (effect now order .capturePayment s.drained).Working :=
    h.drained.of_outages (effect_outages now order s.drained _)
  have hconfirmed := (react_captured now (effect now order .capturePayment s.drained).drained order).trans
    (hw.drained.onCaptured_after now hr)
  refine ⟨_, rfl, ?_⟩
  rw [Hotel.pump_of_single now hqueue hcaptured, Hotel.pump_of_single now rfl hconfirmed,
    Hotel.pump_of_idle now]
  · rfl
  · intro e he
    rw [List.mem_singleton.mp he]
    exact react_changed now _ .confirm _

end

/-! ### Compared -/

/-- What a booking by events leaves, compared with what the same booking in one go leaves: the payment has
the default method, and if it was declined, another reason is given for the cancellation. -/
structure Concurs (order : ReservationOrder) (u v : Hotel) : Prop where
  reservations : v.reservations = u.reservations ∨
    u.gateway.failsAuthorize = true ∧ ∃ r reason, u.reservation? order.reservationId = some r ∧
      r.status = .cancelled ∧ v.reservations = u.reservations.insert order.reservationId.text
        { r with cancellationReason := some reason }
  payments : ∃ p, u.payment? (paymentIdFor order.reservationId) = some p ∧
    v.payments = u.payments.insert (paymentIdFor order.reservationId).text
      { p with method := defaultMethod }
  gateway : v.gateway = u.gateway
  notifier : v.notifier = u.notifier

section
variable {order : ReservationOrder} {u v : Hotel}

/-- Of the values under the key of the payment, only the last one counts. -/
theorem Concurs.of_payments {t : Table Payment} {p : Payment}
    (hu : u.payments = t.insert (paymentIdFor order.reservationId).text p)
    (hv : v.payments = t.insert (paymentIdFor order.reservationId).text
      { p with method := defaultMethod }) :
    ∃ p, u.payment? (paymentIdFor order.reservationId) = some p ∧
      v.payments = u.payments.insert (paymentIdFor order.reservationId).text
        { p with method := defaultMethod } := by
  refine ⟨p, ?_, ?_⟩
  · rw [Hotel.payment?, hu, Table.getElem?_insert, if_pos rfl]
  · rw [hv, hu, Table.insert_insert]

theorem Concurs.counted (h : Concurs order u v) (m : Metric) : Concurs order (u.counted m) v :=
  ⟨h.reservations, h.payments, h.gateway, h.notifier⟩

/-- The reservation is cancelled in both systems; for the same reason, unless the payment was declined. -/
theorem Concurs.withdrawn {r : Reservation} {reason reason' : String} {t : Table Payment} {p : Payment}
    (hid : r.id = order.reservationId) (hreservations : v.reservations = u.reservations)
    (hreason : reason' = reason ∨ u.gateway.failsAuthorize = true)
    (hu : u.payments = t.insert (paymentIdFor order.reservationId).text p)
    (hv : v.payments = t.insert (paymentIdFor order.reservationId).text
      { p with method := defaultMethod })
    (hgateway : v.gateway = u.gateway) (hnotifier : v.notifier = u.notifier) :
    Concurs order (u.withdrawn now r reason) (v.withdrawn now r reason').drained where
  reservations := by
    rw [← hid]
    rcases Hotel.withdrawn_reservations_of_reason now r reason u hreservations reason' with
      hsame | ⟨r', hr', hstatus, hinsert⟩
    · exact .inl hsame
    · rcases hreason with rfl | hdeclined
      · left
        rw [Hotel.drained_reservations, Hotel.withdrawn_reservations, Hotel.withdrawn_reservations,
          hreservations]
      · rw [Hotel.withdrawn_gateway]
        exact .inr ⟨hdeclined, r', reason', hr', hstatus, hinsert⟩
  payments := Concurs.of_payments ((Hotel.withdrawn_payments now r reason u).trans hu)
    ((Hotel.withdrawn_payments now r reason' v).trans hv)
  gateway := by rw [Hotel.drained_gateway, Hotel.withdrawn_gateway, Hotel.withdrawn_gateway, hgateway]
  notifier := by
    rw [Hotel.drained_notifier, Hotel.withdrawn_notifier, Hotel.withdrawn_notifier, hnotifier]

end

theorem effect_topics (order : BookingOrder) (step : BookingStep) :
    (effect now order step s).log.topics = s.log.topics ++ [step.topic] := by
  cases step <;> exact EventLog.topics_append _ _

section
variable {order : ReservationOrder} {s : Hotel}

/-- Once the reservation is made, the rest of the booking ends alike in both ways. -/
def EndsAlike (order : ReservationOrder) (method : String) (s : Hotel) : Prop :=
  Concurs order ((complete now ⟨order, paymentIdFor order.reservationId, method⟩).after s)
      ((effect now (.ofEvents order) .createReservation s).pump now).2 ∧
    ((effect now (.ofEvents order) .createReservation s).pump now).1 =
      ((complete now ⟨order, paymentIdFor order.reservationId, method⟩).after s).log.topics

variable {method : String}

/-- What is counted does not matter. -/
theorem EndsAlike.of_run {t u : Hotel} {topics : List String}
    (hrun : (run now ⟨order, paymentIdFor order.reservationId, method⟩).after
      (s.counted .executions) = t)
    (hpump : (effect now (.ofEvents order) .createReservation s).pump now = (topics, u))
    (h : Concurs order t u) (htopics : topics = t.log.topics) : EndsAlike now order method s := by
  obtain ⟨n, hcomplete⟩ := complete_after now ⟨order, paymentIdFor order.reservationId, method⟩ s
  unfold EndsAlike
  rw [hcomplete, hrun, hpump]
  exact ⟨(h.counted _).counted n, htopics⟩

/-- The queue of a booking by events when its first event is handled. -/
theorem queue_of_created (hqueue : s.log.queue = []) :
    (effect now (.ofEvents order) .createReservation s).log.queue =
      [(ReservationEvent.ofCreated ((BookingOrder.ofEvents order).pendingReservation now)
        ).toEnvelope now] := by
  simp [effect, hqueue]

variable (h : s.Working)
  (hqueue : s.log.queue = []) (hnew : s.payment? (paymentIdFor order.reservationId) = none)
  (hcreate : Feasible now (.ofEvents order) s .createReservation)
include h hqueue hnew hcreate

theorem endsAlike_declined (hgateway : s.gateway.failsAuthorize = true) :
    EndsAlike now order method s := by
  have hw : (effect now (.ofEvents order) .createReservation s).Working :=
    h.of_outages (effect_outages now _ s _)
  have hstart : (s.counted .executions).Working := h.of_outages rfl
  obtain ⟨m, hrun⟩ := run_declined now ⟨order, _, method⟩ hstart hcreate hnew hgateway
  obtain ⟨reason, t, rfl, hpump⟩ := pump_declined now order hw (queue_of_created now hqueue)
    (effect_reservation? now _ s) hnew hgateway
  refine .of_run now hrun hpump (.counted ?_ m) ?_
  · exact .withdrawn now (t := s.payments) rfl rfl (.inr hgateway) rfl rfl rfl rfl
  · rw [Hotel.counted_log, Hotel.withdrawn_topics, Hotel.withdrawn_topics,
      Hotel.paymentDeclined_topics, before, effect_topics, Hotel.counted_log,
      Hotel.topics_of_queue hqueue]
    rfl

variable (hauthorize : s.gateway.failsAuthorize = false)
include hauthorize

theorem endsAlike_uncaptured (hcapture : s.gateway.failsCapture = true) :
    EndsAlike now order method s := by
  have hw : (effect now (.ofEvents order) .createReservation s).Working :=
    h.of_outages (effect_outages now _ s _)
  have hstart : (s.counted .executions).Working := h.of_outages rfl
  obtain ⟨m, hrun⟩ := run_uncaptured now ⟨order, _, method⟩ hstart hcreate
    ⟨hauthorize, hnew, h.newPayments, h.not_mem_refused _⟩ hcapture
  obtain ⟨t, rfl, hauthorized⟩ :=
    pump_authorized now order hw (queue_of_created now hqueue) hnew hauthorize
  obtain ⟨t, rfl, hpump⟩ := pump_uncaptured now (.ofEvents order)
    (hw.drained.of_outages (effect_outages now _ _ _)) rfl (effect_reservation? now _ s)
      (effect_payment? now _ _) hcapture
  rw [hpump] at hauthorized
  refine .of_run now hrun hauthorized (.counted ?_ m) ?_
  · -- The parts are taken out first, since the events need not be compared.
    refine .withdrawn now (t := s.payments) rfl ?_ (.inl rfl)
      ((Hotel.paymentUncaptured_payments ..).trans (Table.insert_insert ..))
      ((Hotel.paymentUncaptured_payments ..).trans (Table.insert_insert ..)) ?_ ?_
    · simp only [Hotel.paymentUncaptured_reservations, before, effect, Hotel.published_reservations,
        Hotel.storePayment_reservations, Hotel.drained_reservations,
        Hotel.transactionOpened, Hotel.withGateway_reservations]
      rfl
    · simp only [Hotel.paymentUncaptured_gateway, before, effect, Hotel.published_gateway,
        Hotel.storePayment_gateway, Hotel.drained_gateway,
        Hotel.transactionOpened, Hotel.withGateway_gateway]
      rfl
    · simp only [Hotel.paymentUncaptured_notifier, before, effect, Hotel.published_notifier,
        Hotel.storePayment_notifier, Hotel.drained_notifier,
        Hotel.transactionOpened, Hotel.withGateway_notifier]
      rfl
  · rw [Hotel.counted_log, Hotel.withdrawn_topics, Hotel.withdrawn_topics,
      Hotel.paymentUncaptured_topics, Hotel.paymentUncaptured_topics, before, effect_topics,
      effect_topics, Hotel.counted_log, Hotel.topics_of_queue hqueue]
    rfl

theorem endsAlike_confirmed (hcapture : s.gateway.failsCapture = false) :
    EndsAlike now order method s := by
  have hw : (effect now (.ofEvents order) .createReservation s).Working :=
    h.of_outages (effect_outages now _ s _)
  have hstart : (s.counted .executions).Working := h.of_outages rfl
  have hrun := run_confirmed now ⟨order, _, method⟩ hstart hcreate
    ⟨hauthorize, hnew, h.newPayments, h.not_mem_refused _⟩ hcapture
  obtain ⟨t, rfl, hauthorized⟩ :=
    pump_authorized now order hw (queue_of_created now hqueue) hnew hauthorize
  obtain ⟨t, rfl, hpump⟩ := pump_captured now (.ofEvents order)
    (hw.drained.of_outages (effect_outages now _ _ _)) rfl (effect_reservation? now _ s)
      (effect_payment? now _ _) (effect_transactions now _ _) hcapture
  rw [hpump] at hauthorized
  refine .of_run now hrun hauthorized ⟨.inl ?_, ?_, ?_, ?_⟩ ?_
  · simp only [Hotel.confirmationSent_reservations, before, effect, Hotel.published_reservations,
      Hotel.storeReservation_reservations, Hotel.storePayment_reservations, Hotel.drained_reservations,
      Hotel.transactionOpened, Hotel.amountCaptured, Hotel.withGateway_reservations]
    rfl
  · exact Concurs.of_payments (t := s.payments) (Table.insert_insert ..) (Table.insert_insert ..)
  · simp only [Hotel.confirmationSent_gateway, before, effect, Hotel.published_gateway,
      Hotel.storeReservation_gateway, Hotel.storePayment_gateway, Hotel.drained_gateway,
      Hotel.transactionOpened, Hotel.amountCaptured, Hotel.withGateway_gateway]
    rfl
  · simp only [Hotel.confirmationSent_notifier, before, effect, Hotel.published_notifier,
      Hotel.storeReservation_notifier, Hotel.storePayment_notifier, Hotel.drained_notifier,
      Hotel.transactionOpened, Hotel.amountCaptured, Hotel.withGateway_notifier]
    rfl
  · rw [Hotel.confirmationSent_log, effect_topics, before, effect_topics, effect_topics, effect_topics,
      Hotel.counted_log, Hotel.topics_of_queue hqueue]
    rfl

end

/-- A booking in one go and a booking by events agree if storage and announcements work. Both fail to make
the reservation for one reason, which changes nothing; or both leave the same, and announce the same in
the same order, but for the method of the payment and why the reservation is cancelled if it was
declined. -/
theorem drivers_agree (order : ReservationOrder) (method : String) (s : Hotel) (h : s.Working)
    (hqueue : s.log.queue = []) (hnew : s.payment? (paymentIdFor order.reservationId) = none) :
    (∃ e t, complete now ⟨order, paymentIdFor order.reservationId, method⟩ s =
          .error (.stepFailed .createReservation e) t ∧ { t with metrics := s.metrics } = s ∧
        initiate now order s = .error (.stepFailed .createReservation e) s) ∨
      ∃ r t, initiate now order s = .ok r t ∧
        Concurs order ((complete now ⟨order, paymentIdFor order.reservationId, method⟩).after s)
          (t.pump now).2 ∧
            (t.pump now).1 =
              ((complete now ⟨order, paymentIdFor order.reservationId, method⟩).after s).log.topics := by
  cases hcreate : s.creationError? now order with
  | some e =>
      left
      have hrefused := h.create_refused now (.ofEvents order) hcreate
      refine ⟨e, _, h.complete_refused now ⟨order, _, method⟩ hcreate, rfl, ?_⟩
      rw [initiate, mapError_apply, show Reservations.create now order s = _ from hrefused]
  | none =>
      right
      have hcreated := h.create_ok now (.ofEvents order) hcreate
      have hfeasible : Feasible now (.ofEvents order) s .createReservation :=
        ((perform_create_eq_ok_iff now _ s).mp (discard_eq_ok_iff.mpr ⟨_, hcreated⟩)).1
      refine ⟨_, _, mapError_eq_ok_iff.mpr hcreated, ?_⟩
      cases hauthorize : s.gateway.failsAuthorize with
      | true => exact endsAlike_declined now h hqueue hnew hfeasible hauthorize
      | false =>
          cases hcapture : s.gateway.failsCapture with
          | true => exact endsAlike_uncaptured now h hqueue hnew hfeasible hauthorize hcapture
          | false => exact endsAlike_confirmed now h hqueue hnew hfeasible hauthorize hcapture

/-- The gateway captures nothing. -/
def uncapturing : Hotel where
  gateway := { failsCapture := true }

set_option maxRecDepth 10000 in
theorem uncapturing_drivers_agree :
    ∃ r t, initiate (Sample.day 1) Sample.booking.reservation uncapturing = .ok r t ∧
      Concurs Sample.booking.reservation ((complete (Sample.day 1)
        ⟨Sample.booking.reservation, ⟨"pay-res-1"⟩, "card"⟩).after uncapturing) (t.pump (Sample.day 1)).2 ∧
          (t.pump (Sample.day 1)).1 = ((complete (Sample.day 1)
            ⟨Sample.booking.reservation, ⟨"pay-res-1"⟩, "card"⟩).after uncapturing).log.topics := by
  have hinitiate : initiate (Sample.day 1) Sample.booking.reservation uncapturing =
      .ok (Sample.booking.pendingReservation (Sample.day 1)) _ := eq_ok_of_outcome (by decide +kernel)
  rcases drivers_agree (Sample.day 1) Sample.booking.reservation "card" uncapturing
    ⟨rfl, rfl, rfl, rfl, rfl⟩ rfl rfl with ⟨e, t, -, -, hrefused⟩ | hagree
  · rw [hinitiate] at hrefused
    contradiction
  · exact hagree

end Booking
end HotelBooking
