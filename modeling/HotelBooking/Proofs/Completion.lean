import HotelBooking.Proofs.Compensation

/-!
# When a booking goes through

A booking goes through if and only if all its steps are feasible from the start: no step makes a
later one fail that would have succeeded otherwise, and the guest not being told is no failure.
-/

namespace HotelBooking.Booking

variable {now : Instant} {order : BookingOrder} {s : Hotel}

theorem FailsAt.not_feasible {step : BookingStep} {e : OperationError} {u : Hotel}
    (h : FailsAt now order s step e u) : ¬ Feasible now order s step := by
  intro hfeasible
  obtain ⟨t, hreaches, hperform⟩ := h
  have hok := (perform_before_eq_ok_iff now order s).mpr ⟨hfeasible, rfl⟩
  rw [← hreaches.eq_before, hperform] at hok
  contradiction

theorem Reaches.all_feasible {t u : Hotel} (h : Reaches now order s .confirmReservation t)
    (hperform : perform now order .confirmReservation t = .ok () u) (step : BookingStep) :
    Feasible now order s step := by
  have hlast : Feasible now order s .confirmReservation := by
    rw [h.eq_before, perform_before_eq_ok_iff] at hperform
    exact hperform.1
  cases step with
  | createReservation => exact h.feasible (by decide)
  | authorizePayment => exact h.feasible (by decide)
  | capturePayment => exact h.feasible (by decide)
  | confirmReservation => exact hlast

/-- At most one step fails, in one way. -/
theorem FailsAt.unique {step step' : BookingStep} {e e' : OperationError} {u u' : Hotel}
    (h : FailsAt now order s step e u) (h' : FailsAt now order s step' e' u') :
    step = step' ∧ e = e' ∧ u = u' := by
  have hle : ¬ step'.number < step.number := by
    obtain ⟨t, hreaches, -⟩ := h
    exact fun hlt => h'.not_feasible (hreaches.feasible hlt)
  have hge : ¬ step.number < step'.number := by
    obtain ⟨t, hreaches, -⟩ := h'
    exact fun hlt => h.not_feasible (hreaches.feasible hlt)
  have hstep : step = step' := by
    cases step <;> cases step' <;>
      first | rfl | exact absurd (by decide) hle | exact absurd (by decide) hge
  subst hstep
  obtain ⟨t, hreaches, hperform⟩ := h
  obtain ⟨t', hreaches', hperform'⟩ := h'
  rw [hreaches.eq_before] at hperform
  rw [hreaches'.eq_before, hperform] at hperform'
  cases hperform'
  exact ⟨rfl, rfl, rfl⟩

theorem FailsAt.run_eq {step : BookingStep} {e : OperationError} {u : Hotel}
    (h : FailsAt now order s step e u) :
    run now order s =
      compensate now step e order.reservation.reservationId (capturedBy order step) u := by
  rcases run_cases now order s with ⟨t, v, hreaches, hperform, -⟩ | ⟨step', e', u', h', hrun⟩
  · exact absurd (hreaches.all_feasible hperform step) h.not_feasible
  · obtain ⟨rfl, rfl, rfl⟩ := h.unique h'
    exact hrun

theorem Reaches.run_eq {t u : Hotel} (h : Reaches now order s .confirmReservation t)
    (hperform : perform now order .confirmReservation t = .ok () u) :
    run now order s = finish order u := by
  rcases run_cases now order s with ⟨t', u', h', hperform', hrun⟩ | ⟨step, e, v, hfails, -⟩
  · rw [h'.eq_before, ← h.eq_before, hperform] at hperform'
    cases hperform'
    exact hrun
  · exact absurd (h.all_feasible hperform step) hfails.not_feasible

/-- The answer of a booking that goes through, and the system after it. -/
theorem complete_of_feasible (h : ∀ step, Feasible now order s step) :
    ∃ n, complete now order s = .ok (order.confirmedReservation now)
      (((({ effect now order .confirmReservation
        (before now order (s.counted .executions) .confirmReservation) with
          notifier := n } : Hotel)).counted .durations).counted .completed) := by
  rw [complete_apply]
  rcases run_cases now order (s.counted .executions) with
    ⟨t, u, hreaches, hperform, hrun⟩ | ⟨step, source, u, hfails, -⟩
  · obtain ⟨rfl, n, hfinish⟩ := finish_of_reaches now order hreaches hperform
    refine ⟨n, ?_⟩
    rw [hrun, hfinish]
  · exact absurd (h step) hfails.not_feasible

theorem feasible_of_complete {r : Reservation} {t : Hotel} (h : complete now order s = .ok r t)
    (step : BookingStep) : Feasible now order s step := by
  rw [complete_apply] at h
  rcases run_cases now order (s.counted .executions) with
    ⟨t, u, hreaches, hperform, -⟩ | ⟨step, source, u, -, hrun⟩
  · exact hreaches.all_feasible hperform step
  · obtain ⟨refunds, v, cancellations, w, -, -, hcompensate⟩ :=
      compensate_apply now step source order.reservation.reservationId (capturedBy order step) u
    rw [hrun, hcompensate] at h
    contradiction

end HotelBooking.Booking
