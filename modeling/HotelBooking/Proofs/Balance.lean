import HotelBooking.Proofs.Compensation
import HotelBooking.Proofs.Session
import Mathlib.Algebra.GroupWithZero.Nat
import Mathlib.Data.List.Sublists

/-!
# Counters that balance

The answer to a booking tells what was counted of it (`journal`), but for the failed calls of the
gateway: that it began and ended and how, and each compensation that was tried. So after any number of
bookings the counters are those of their answers (`Session.run_counts`), and they balance
(`Session.counters_balance`).
-/

namespace HotelBooking

open HotelBooking.Action

/-- The count of a metric, where failed calls of the gateway do not count. -/
def Metrics.ofBookings (c : Metrics) : Metric → Nat
  | .gatewayFailures _ => 0
  | m => c.count m

namespace Hotel

/-- What has been counted of bookings. -/
def counts (s : Hotel) : Metric → Nat := s.metrics.ofBookings

theorem counts_counted {m : Metric} (hm : ∀ op, m ≠ .gatewayFailures op) (s : Hotel) (n : Metric) :
    (s.counted m).counts n = s.counts n + [m].count n := by
  by_cases h : n = m
  · subst h
    cases n <;> simp [counts, Metrics.ofBookings, Metrics.increment] at hm ⊢
  · cases n <;> simp [counts, Metrics.ofBookings, Metrics.increment, h, Ne.symm h]

theorem counts_rejected (op : GatewayOperation) (s : Hotel) : (s.rejected op).counts = s.counts := by
  funext m
  cases m <;> simp [counts, Metrics.ofBookings, Metrics.increment, rejected]

theorem counts_offered (e : Envelope) (s : Hotel) : (s.offered e).counts = s.counts := by
  unfold offered
  cases s.log.publishError? e.topic <;> rfl

theorem counts_save (error? : Option StorageError) (id : PaymentId) (p : Payment) (e : Envelope)
    (s : Hotel) : (after (save error? id p e) s).counts = s.counts := by
  rw [save_after]
  cases error? with
  | some err => rfl
  | none => exact counts_offered e _

theorem counts_captureFailed (now : Instant) (id : PaymentId) (e : GatewayError) (p : Payment)
    (s : Hotel) : (s.captureFailed now id e p).counts = s.counts := by
  unfold captureFailed
  cases p.fail now Payments.captureFailed e.message with
  | error err => rfl
  | ok q => cases s.payments.updateError? id.text <;> exact counts_offered _ _

theorem reservations_keep_counts : Backend.ReservationsMove (Same counts) :=
  reservations_keep counts (fun _ _ _ => rfl) fun _ _ => rfl

theorem authorize_keeps_counts (now : Instant) (order : PaymentOrder) :
    (Payments.authorize now order : Action Hotel _ _).Moves (Same counts) := by
  intro s
  have hrejected := counts_rejected .authorize s
  rw [Same, Payments.authorize_after]
  cases s.gateway.authorizeError? with
  | some e =>
      cases s.payments.createError? order.paymentId.text with
      | some err => exact hrejected
      | none => exact (counts_offered _ _).trans hrejected
  | none =>
      cases s.payments.createError? order.paymentId.text with
      | some err => rfl
      | none => exact counts_offered _ _

theorem capture_keeps_counts (now : Instant) (id : PaymentId) :
    (Payments.capture now id : Action Hotel _ _).Moves (Same counts) := by
  intro s
  rw [Same, Payments.capture_after]
  cases s.payment? id with
  | none => rfl
  | some p =>
      dsimp only
      cases s.gateway.captureError? (p.transactionId.getD "") p.amount with
      | some e => exact (counts_captureFailed now id e p _).trans (counts_rejected .capture s)
      | none =>
          dsimp only
          cases p.capture now with
          | error e => rfl
          | ok q =>
              cases s.payments.updateError? id.text with
              | some err => rfl
              | none => exact counts_offered _ _

theorem refund_keeps_counts (now : Instant) (id : PaymentId) :
    (Payments.refund now id : Action Hotel _ _).Moves (Same counts) := by
  intro s
  unfold Same after outcome
  rw [Payments.refund_apply]
  cases s.payment? id with
  | none => rfl
  | some p =>
      dsimp only
      cases s.gateway.refundError? (p.transactionId.getD "") with
      | some e => exact counts_rejected .refund s
      | none =>
          dsimp only
          cases p.refund now with
          | error e => rfl
          | ok q => exact counts_save _ id q _ _

end Hotel

/-- The compensations that are tried when the step fails. -/
def BookingStep.compensations : BookingStep → List Compensation
  | createReservation => []
  | authorizePayment | capturePayment => [.cancelReservation]
  | confirmReservation => [.refundPayment, .cancelReservation]

namespace BookingError

/-- The compensations that were tried before the error was reported. -/
def tried (e : BookingError) : List Compensation := (e.step?.map (·.compensations)).getD []

/-- The compensations among them that failed. -/
def failed (e : BookingError) : List Compensation := e.failures.map (·.action)

/-- The error is that of a step that failed, with some of the compensations that it calls for. -/
def OfStep (e : BookingError) : Prop :=
  ∃ step source failures, e = Booking.failureReport step source failures ∧
    (failures.map (·.action)).Sublist step.compensations

end BookingError

namespace Booking

/-- What is counted of the compensations that were tried before the answer. -/
def compensationMetrics : Except BookingError Reservation → List Metric
  | .ok _ => []
  | .error e => e.tried.map fun a => .compensations a (a ∉ e.failed)

/-- All that is counted of a booking that is answered in this way. -/
def journal (r : Except BookingError Reservation) : List Metric :=
  .executions :: compensationMetrics r ++ [.durations, endMetric r]

section
variable {now : Instant} {order : BookingOrder} {s t u : Hotel} {step : BookingStep}

theorem perform_keeps_counts (now : Instant) (order : BookingOrder) (step : BookingStep) :
    (perform now order step : Action Hotel _ _).Moves (Same Hotel.counts) := by
  have hreservations := Hotel.reservations_keep_counts
  cases step with
  | createReservation => exact (Reservations.create_moves now hreservations _).bind fun _ => .pure _
  | authorizePayment => exact (Hotel.authorize_keeps_counts now _).bind fun _ => .pure _
  | capturePayment => exact (Hotel.capture_keeps_counts now _).bind fun _ => .pure _
  | confirmReservation =>
      exact (Reservations.modify_moves now hreservations _ _ _).bind fun _ => .pure _

theorem Reaches.counts_eq (h : Reaches now order s step t) : t.counts = s.counts := by
  induction h with
  | first => rfl
  | @next step step' t u _ _ hperform ih =>
      exact ((perform_keeps_counts now order step).of_ok hperform).trans ih

theorem FailsAt.counts_eq {e : OperationError} (h : FailsAt now order s step e u) :
    u.counts = s.counts := by
  obtain ⟨t, hreaches, hperform⟩ := h
  exact ((perform_keeps_counts now order step).of_error hperform).trans hreaches.counts_eq

/-- A compensation is counted with how it ended, and reported if it failed. -/
theorem settle_counts {α : Type} {action : Compensation} {result : Except OperationError α}
    {failures : List CompensationFailure} (h : settle action result s = .ok failures t) (m : Metric) :
    t.counts m = s.counts m + [Metric.compensations action result.isOk].count m ∧
      failures.map (·.action) = if result.isOk then [] else [action] := by
  have hcounted := Hotel.counts_counted (m := .compensations action result.isOk) nofun s m
  unfold settle at h
  cases result with
  | ok a =>
      cases h
      exact ⟨hcounted, rfl⟩
  | error e =>
      cases h
      exact ⟨hcounted, rfl⟩

theorem refundCaptured_counts {id : PaymentId} {refunds : List CompensationFailure}
    (h : refundCaptured now (some id) s = .ok refunds t) :
    ∃ ok : Bool, refunds.map (·.action) = (if ok then [] else [.refundPayment]) ∧
      ∀ m, t.counts m = s.counts m + [Metric.compensations .refundPayment ok].count m := by
  obtain ⟨result, u, hrefund, hsettle⟩ := bind_eq_ok_iff.mp h
  have hu : u.counts = s.counts := (Hotel.refund_keeps_counts now id).attempt.of_ok hrefund
  refine ⟨result.isOk, (settle_counts hsettle .executions).2, fun m => ?_⟩
  rw [(settle_counts hsettle m).1, hu]

theorem cancelAfter_counts {reason : String} (hreason : step.cancellationReason = some reason)
    {id : ReservationId} {cancellations : List CompensationFailure}
    (h : cancelAfter now step id s = .ok cancellations t) :
    ∃ ok : Bool, cancellations.map (·.action) = (if ok then [] else [.cancelReservation]) ∧
      ∀ m, t.counts m = s.counts m + [Metric.compensations .cancelReservation ok].count m := by
  unfold cancelAfter at h
  rw [hreason] at h
  obtain ⟨result, u, hcancel, hsettle⟩ := bind_eq_ok_iff.mp h
  have hu : u.counts = s.counts :=
    (Reservations.modify_moves now Hotel.reservations_keep_counts id _ _).attempt.of_ok hcancel
  refine ⟨result.isOk, (settle_counts hsettle .executions).2, fun m => ?_⟩
  rw [(settle_counts hsettle m).1, hu]

/-- Each compensation that the step calls for is counted once, with whether it is reported as failed. -/
theorem compensations_counts {refunds cancellations : List CompensationFailure} {id : ReservationId}
    (hrefund : refundCaptured now (capturedBy order step) s = .ok refunds t)
    (hcancel : cancelAfter now step id t = .ok cancellations u) :
    let failed := (refunds ++ cancellations).map (·.action)
    failed.Sublist step.compensations ∧
      ∀ m, u.counts m = s.counts m +
        (step.compensations.map fun a => Metric.compensations a (a ∉ failed)).count m := by
  by_cases hfirst : step = .createReservation
  · subst hfirst
    cases hrefund
    cases hcancel
    exact ⟨List.Sublist.refl _, fun m => rfl⟩
  · obtain ⟨reason, hreason⟩ := BookingStep.exists_cancellationReason hfirst
    obtain ⟨cancelled, hcancelled, hcounted⟩ := cancelAfter_counts hreason hcancel
    by_cases hlast : step = .confirmReservation
    · subst hlast
      obtain ⟨refunded, hrefunded, hbefore⟩ := refundCaptured_counts hrefund
      rw [List.map_append, hrefunded, hcancelled]
      refine ⟨?_, fun m => ?_⟩
      · cases refunded <;> cases cancelled <;> simp [BookingStep.compensations]
      · rw [hcounted, hbefore, Nat.add_assoc, ← List.count_append]
        cases refunded <;> cases cancelled <;> simp [BookingStep.compensations]
    · have hcompensations : step.compensations = [.cancelReservation] := by
        cases step <;> first | rfl | contradiction
      rw [capturedBy_eq_none order hlast] at hrefund
      cases hrefund
      rw [List.nil_append, hcancelled, hcompensations]
      refine ⟨?_, fun m => ?_⟩
      · cases cancelled <;> simp
      · rw [hcounted]
        cases cancelled <;> simp

end

theorem failureReport_failures (step : BookingStep) (source : OperationError)
    (failures : List CompensationFailure) :
    (failureReport step source failures).failures = failures := by
  cases failures <;> rfl

theorem compensationMetrics_failureReport (step : BookingStep) (source : OperationError)
    (failures : List CompensationFailure) :
    compensationMetrics (.error (failureReport step source failures)) =
      step.compensations.map fun a => .compensations a (a ∉ failures.map (·.action)) := by
  have htried : (failureReport step source failures).tried = step.compensations := by
    rw [BookingError.tried, failureReport_step?]
    rfl
  have hfailed : (failureReport step source failures).failed = failures.map (·.action) := by
    rw [BookingError.failed, failureReport_failures]
  simp only [compensationMetrics, htried, hfailed]

theorem counts_ended (r : Except BookingError Reservation) (s : Hotel) (m : Metric) :
    ((s.counted .durations).counted (endMetric r)).counts m =
      s.counts m + [.durations, endMetric r].count m := by
  have hend : ∀ op, endMetric r ≠ .gatewayFailures op := by
    cases r <;> exact nofun
  rw [Hotel.counts_counted hend, Hotel.counts_counted (m := .durations) nofun, Nat.add_assoc,
    ← List.count_append]
  rfl

/-- What a booking counts can be told from its answer. -/
theorem complete_counts (now : Instant) (order : BookingOrder) (s : Hotel) :
    (∀ e, ((complete now order).outcome s).1 = .error e → e.OfStep) ∧
      ∀ m, ((complete now order).after s).counts m =
        s.counts m + (journal ((complete now order).outcome s).1).count m := by
  have hstart := Hotel.counts_counted (m := .executions) nofun s
  unfold after outcome
  rw [complete_apply]
  rcases run_cases now order (s.counted .executions) with
    ⟨t, u, hreaches, hperform, hrun⟩ | ⟨step, source, u, hfails, hrun⟩
  · obtain ⟨-, n, hfinish⟩ := finish_of_reaches now order hreaches hperform
    have hu : u.counts = (s.counted .executions).counts :=
      ((perform_keeps_counts now order _).of_ok hperform).trans hreaches.counts_eq
    rw [hrun, hfinish]
    dsimp only
    refine ⟨fun e he => by contradiction, fun m => ?_⟩
    have hn : ({ u with notifier := n } : Hotel).counts m = s.counts m + [.executions].count m := by
      rw [← hstart, ← hu]
      rfl
    refine (counts_ended (.ok (order.confirmedReservation now)) _ m).trans ?_
    rw [hn, Nat.add_assoc, ← List.count_append]
    rfl
  · obtain ⟨refunds, v, cancellations, w, hrefund, hcancel, hcompensate⟩ :=
      compensate_apply now step source order.reservation.reservationId (capturedBy order step) u
    obtain ⟨hfailed, hcounted⟩ := compensations_counts hrefund hcancel
    rw [hrun, hcompensate]
    dsimp only
    constructor
    · rintro e ⟨⟩
      exact ⟨step, source, refunds ++ cancellations, rfl, hfailed⟩
    · intro m
      refine (counts_ended (.error (failureReport step source (refunds ++ cancellations))) _ m).trans ?_
      rw [hcounted, hfails.counts_eq, hstart, journal, compensationMetrics_failureReport]
      simp only [Nat.add_assoc, ← List.count_append]
      rfl

end Booking

/-- The step at which a booking failed, if it did. -/
def failedStep? : Except BookingError Reservation → Option BookingStep
  | .ok _ => none
  | .error e => e.step?

/-- The compensations that a booking reports as failed. -/
def failedCompensations : Except BookingError Reservation → List Compensation
  | .ok _ => []
  | .error e => e.failed

/-- The counters agree with the answers to the bookings and with each other. -/
structure Balances (count : Metric → Nat) (answers : List (Except BookingError Reservation)) : Prop where
  ofStep : ∀ e, .error e ∈ answers → e.OfStep
  executions : count .executions = answers.length
  durations : count .durations = count .executions
  completed : count .completed = answers.countP (·.isOk)
  unknown : count (.failed none) = 0
  failed : ∀ step, count (.failed (some step)) = answers.countP (failedStep? · = some step)
  ended : count .executions =
    count .completed + (BookingStep.all.map fun step => count (.failed (some step))).sum
  cancellations : count (.compensations .cancelReservation true) +
      count (.compensations .cancelReservation false) =
    count (.failed (some .authorizePayment)) + count (.failed (some .capturePayment)) +
      count (.failed (some .confirmReservation))
  refunds : count (.compensations .refundPayment true) + count (.compensations .refundPayment false) =
    count (.failed (some .confirmReservation))
  reported : ∀ action, count (.compensations action false) =
    (answers.flatMap failedCompensations).count action

namespace Balances

theorem nil : Balances (fun _ => 0) [] := by
  constructor <;> simp [BookingStep.all]

/-- Failed calls of the gateway make no difference. -/
theorem of_counts {s : Hotel} {answers : List (Except BookingError Reservation)}
    (h : Balances s.counts answers) : Balances s.metrics.count answers where
  ofStep := h.ofStep
  executions := h.executions
  durations := h.durations
  completed := h.completed
  unknown := h.unknown
  failed := h.failed
  ended := h.ended
  cancellations := h.cancellations
  refunds := h.refunds
  reported := h.reported

theorem append {count count' : Metric → Nat} {answers answers' : List (Except BookingError Reservation)}
    (h : Balances count answers) (h' : Balances count' answers') :
    Balances (fun m => count m + count' m) (answers ++ answers') where
  ofStep := by
    intro e he
    rcases List.mem_append.mp he with he | he
    · exact h.ofStep e he
    · exact h'.ofStep e he
  executions := by rw [h.executions, h'.executions, List.length_append]
  durations := by rw [h.durations, h'.durations]
  completed := by rw [h.completed, h'.completed, List.countP_append]
  unknown := by rw [h.unknown, h'.unknown]
  failed step := by rw [h.failed, h'.failed, List.countP_append]
  ended := by
    have hended := h.ended
    have hended' := h'.ended
    simp only [BookingStep.all, List.map_cons, List.map_nil, List.sum_cons, List.sum_nil] at hended hended' ⊢
    omega
  cancellations := by
    have hcancellations := h.cancellations
    have hcancellations' := h'.cancellations
    omega
  refunds := by
    have hrefunds := h.refunds
    have hrefunds' := h'.refunds
    omega
  reported action := by
    rw [h.reported, h'.reported, List.flatMap_append, List.count_append]

theorem ok (r : Reservation) : Balances (Booking.journal (.ok r)).count [.ok r] := by
  constructor <;>
    simp [Booking.journal, Booking.compensationMetrics, Booking.endMetric, BookingStep.all, failedStep?,
      failedCompensations, Except.isOk, Except.toBool]

/-- Of the compensations that a step calls for, each is counted, and those reported as failed as such. -/
theorem count_compensations {step : BookingStep} {failed : List Compensation}
    (h : failed.Sublist step.compensations) (action : Compensation) :
    let counted := step.compensations.map fun a => Metric.compensations a (a ∉ failed)
    counted.count (.compensations action true) + counted.count (.compensations action false) =
        step.compensations.count action ∧
      counted.count (.compensations action false) = failed.count action := by
  have hall : ∀ failed ∈ step.compensations.sublists,
      let counted := step.compensations.map fun a => Metric.compensations a (a ∉ failed)
      counted.count (.compensations action true) + counted.count (.compensations action false) =
          step.compensations.count action ∧
        counted.count (.compensations action false) = failed.count action := by
    cases step <;> cases action <;> decide
  exact hall failed (List.mem_sublists.mpr h)

theorem error {e : BookingError} (h : e.OfStep) :
    Balances (Booking.journal (.error e)).count [.error e] := by
  obtain ⟨step, source, failures, rfl, hfailed⟩ := h
  have hstep := Booking.failureReport_step? step source failures
  generalize he : Booking.failureReport step source failures = e at *
  have hjournal (m : Metric) : (Booking.journal (.error e)).count m =
      (step.compensations.map fun a =>
        Metric.compensations a (a ∉ failures.map (·.action))).count m +
        [.executions, .durations, .failed (some step)].count m := by
    rw [← he, Booking.journal, Booking.compensationMetrics_failureReport, Booking.endMetric, he,
      hstep, ← List.count_append]
    exact List.perm_middle.symm.count_eq m
  have hother (m : Metric) (hm : ∀ action succeeded, m ≠ .compensations action succeeded) :
      (Booking.journal (.error e)).count m = [.executions, .durations, .failed (some step)].count m := by
    rw [hjournal, List.count_eq_zero_of_not_mem, Nat.zero_add]
    simp only [List.mem_map, not_exists, not_and]
    exact fun action _ hsame => hm _ _ hsame.symm
  have hexecutions := hother .executions nofun
  have hdurations := hother .durations nofun
  have hcompleted := hother .completed nofun
  have hended (step? : Option BookingStep) := hother (.failed step?) nofun
  have hcompensations (action : Compensation) (succeeded : Bool) :
      (Booking.journal (.error e)).count (.compensations action succeeded) =
        (step.compensations.map fun a =>
          Metric.compensations a (a ∉ failures.map (·.action))).count
            (.compensations action succeeded) := by
    rw [hjournal]
    simp
  exact {
    ofStep := by
      intro e' he'
      cases List.mem_singleton.mp he'
      exact ⟨step, source, failures, he.symm, hfailed⟩
    executions := hexecutions
    durations := hdurations.trans hexecutions.symm
    completed := hcompleted
    unknown := hended none
    failed := by
      intro step'
      rw [hended]
      cases step <;> cases step' <;> simp [failedStep?, hstep]
    ended := by
      simp only [BookingStep.all, List.map_cons, List.map_nil, List.sum_cons, List.sum_nil,
        hexecutions, hcompleted, hended]
      cases step <;> decide
    cancellations := by
      rw [hcompensations, hcompensations, (count_compensations hfailed _).1]
      simp only [hended]
      cases step <;> decide
    refunds := by
      rw [hcompensations, hcompensations, (count_compensations hfailed _).1, hended]
      cases step <;> decide
    reported := by
      intro action
      rw [hcompensations, (count_compensations hfailed _).2, ← he]
      simp [failedCompensations, BookingError.failed, Booking.failureReport_failures] }

end Balances

namespace Session

/-- The event is a booking, or sets the clock or the outages. -/
def Event.Books : Event → Prop
  | .call (.complete _) | .setClock _ | .setOutages _ => True
  | .call _ => False

/-- The answers to the bookings of a session. -/
def bookings : Session → List Event → List (Except BookingError Reservation)
  | _, [] => []
  | x, .call (.complete order) :: events =>
    ((Booking.complete x.now order).outcome x.hotel).1 ::
      bookings (x.step (.call (.complete order))) events
  | x, e :: events => bookings (x.step e) events

/-- What a session of bookings adds to the counters balances. -/
theorem run_counts (x : Session) {events : List Event} (h : ∀ e ∈ events, e.Books) :
    ∃ count, Balances count (x.bookings events) ∧
      ∀ m, (x.run events).hotel.counts m = x.hotel.counts m + count m := by
  induction events generalizing x with
  | nil => exact ⟨_, .nil, fun m => rfl⟩
  | cons e events ih =>
      have hbooks := h e (List.mem_cons_self ..)
      obtain ⟨count, hcount, hrun⟩ := ih (x.step e) fun e he => h e (List.mem_cons_of_mem _ he)
      cases e with
      | setClock now => exact ⟨count, hcount, hrun⟩
      | setOutages o => exact ⟨count, hcount, hrun⟩
      | call c =>
          cases c with
          | complete order =>
              obtain ⟨hofStep, hcounted⟩ := Booking.complete_counts x.now order x.hotel
              have hanswer : Balances (Booking.journal ((Booking.complete x.now order).outcome x.hotel).1).count
                  [((Booking.complete x.now order).outcome x.hotel).1] := by
                cases hr : ((Booking.complete x.now order).outcome x.hotel).1 with
                | ok r => exact .ok r
                | error e => exact .error (hofStep e hr)
              refine ⟨_, hanswer.append hcount, fun m => ?_⟩
              rw [← Nat.add_assoc, ← hcounted m]
              exact hrun m
          | _ => exact hbooks.elim

/-- After any session of bookings, whatever goes out or comes back in between, the counters agree with the
answers that were given, and balance. -/
theorem counters_balance (x : Session) (hstart : ∀ m, x.hotel.metrics.count m = 0)
    {events : List Event} (hbooks : ∀ e ∈ events, e.Books) :
    Balances (x.run events).hotel.metrics.count (x.bookings events) := by
  obtain ⟨count, h, hrun⟩ := x.run_counts hbooks
  have hzero (m : Metric) : x.hotel.counts m = 0 := by
    cases m with
    | gatewayFailures op => rfl
    | _ => exact hstart _
  have hcounts : (x.run events).hotel.counts = count := by
    funext m
    rw [hrun, hzero, Nat.zero_add]
  exact .of_counts (hcounts ▸ h)

open Sample

/-- A booking goes through, one fails at its last step with both of its compensations, one is cancelled
because its payment is rejected, and the last one finds the room taken. -/
def roughSeason : List Event :=
  [.call (.complete booking),
    .setOutages { reservationChanges := true, topics := {"payment.refunded"} },
    .call (.complete ⟨order "res-2" 5 7, ⟨"pay-2"⟩, "card"⟩),
    .setOutages { authorize := true },
    .call (.complete ⟨order "res-3" 7 9, ⟨"pay-3"⟩, "card"⟩),
    .call (.complete ⟨order "res-4" 4 6, ⟨"pay-4"⟩, "card"⟩)]

set_option maxRecDepth 10000 in
theorem roughSeason_balances :
    (∀ m, (start (day 1)).hotel.metrics.count m = 0) ∧ (∀ e ∈ roughSeason, e.Books) ∧
      Balances ((start (day 1)).run roughSeason).hotel.metrics.count
        ((start (day 1)).bookings roughSeason) ∧
      ((start (day 1)).bookings roughSeason).map failedStep? =
        [none, some .confirmReservation, some .authorizePayment, some .createReservation] ∧
      ((start (day 1)).bookings roughSeason).flatMap failedCompensations =
        [.refundPayment, .cancelReservation] := by
  have hbooks : ∀ e ∈ roughSeason, e.Books := by
    simp [roughSeason, Event.Books]
  exact ⟨fun _ => rfl, hbooks, counters_balance (start (day 1)) (fun _ => rfl) hbooks,
    by decide +kernel, by decide +kernel⟩

end Session
end HotelBooking
