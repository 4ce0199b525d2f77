import HotelBooking.Booking.Pump
import HotelBooking.Proofs.Relation

/-!
# Handling events one after another

The envelopes that a round takes are handed to `Booking.handle` in their order, and an error keeps none of the later
ones from being handled (`Hotel.Handles`). How much of what was published is still in the queue does not matter to
that, so whether the queue is emptied in between does not either (`Hotel.SameButQueue.alike`).
-/

namespace HotelBooking

open HotelBooking.Action

namespace Hotel

variable (now : Instant)

/-- The envelopes are handled one after another, in this order and each once. An error leaves its traces in the state,
and the next envelope is handled all the same. -/
inductive Handles : Hotel → List Envelope → Hotel → Prop where
  | done {s : Hotel} : Handles s [] s
  | answered {s t u : Hotel} {e : Envelope} {es : List Envelope} {reaction : Reaction} :
      Booking.handle now e s = .ok reaction t → Handles t es u → Handles s (e :: es) u
  | failed {s t u : Hotel} {e : Envelope} {es : List Envelope} {err : BookingError} :
      Booking.handle now e s = .error err t → Handles t es u → Handles s (e :: es) u

/-- A round handles what it took just so. -/
theorem handles_foldl (es : List Envelope) (s : Hotel) : Handles now s es (es.foldl (react now) s) := by
  induction es generalizing s with
  | nil => exact .done
  | cons e es ih =>
      rw [List.foldl_cons]
      cases hhandle : Booking.handle now e s with
      | ok reaction t =>
          rw [show s.react now e = t from after_of_ok hhandle]
          exact .answered hhandle (ih t)
      | error err t =>
          rw [show s.react now e = t from after_of_error hhandle]
          exact .failed hhandle (ih t)

/-- The systems differ at most in how much of what was published is still in the queue. -/
structure SameButQueue (s t : Hotel) : Prop where
  reservations : s.reservations = t.reservations
  payments : s.payments = t.payments
  gateway : s.gateway = t.gateway
  log : s.log.drain = t.log.drain
  notifier : s.notifier = t.notifier
  metrics : s.metrics = t.metrics

namespace SameButQueue

variable {s t : Hotel}

theorem publish (h : SameButQueue s t) (e : Envelope) :
    Agree SameButQueue (Backend.publish e s) (Backend.publish e t) := by
  have hrefused : s.log.refused = t.log.refused := (congrArg EventLog.refused h.log :)
  have hhistory : s.log.history = t.log.history := congrArg EventLog.taken h.log
  have herror : s.log.publishError? e.topic = t.log.publishError? e.topic := by
    rw [EventLog.publishError?, EventLog.publishError?, hrefused]
  rw [publish_apply, publish_apply, herror]
  cases t.log.publishError? e.topic with
  | some err => exact .error h
  | none =>
      refine .ok { h with log := ?_ }
      unfold EventLog.history at hhistory
      simp only [published_log, EventLog.drain, EventLog.append, ← List.append_assoc, hhistory, hrefused]

/-- Nothing that the services ask for depends on the queue, and what is published comes after all that was published,
however much of it is still there. -/
theorem alike : Backend.Alike SameButQueue := SharesParts.alike {
  reservations := fun _ _ h => h.reservations
  setReservations := fun _ _ _ h => { h with reservations := rfl }
  payments := fun _ _ h => h.payments
  setPayments := fun _ _ _ h => { h with payments := rfl }
  gateway := fun _ _ h => h.gateway
  setGateway := fun _ _ _ h => { h with gateway := rfl }
  metrics := fun _ _ h => h.metrics
  setMetrics := fun _ _ _ h => { h with metrics := rfl }
  publish := fun _ _ _ h => h.publish _
  sendConfirmation := fun r s t h => by
    have hnotice : Related SameButQueue (Backend.sendConfirmation r : Action Hotel _ _)
        (Backend.sendConfirmation r) :=
      .zoom (fun _ _ h => h.notifier) (fun _ _ _ h => { h with notifier := rfl }) _
    exact (hnotice s t h).after }

end SameButQueue

namespace Handles

variable {now} {s s' t u : Hotel} {es es' : List Envelope}

theorem eq_foldl (h : Handles now s es t) : t = es.foldl (react now) s := by
  induction h with
  | done => rfl
  | answered hhandle _ ih => rw [List.foldl_cons, ih, react, ← after, after_of_ok hhandle]
  | failed hhandle _ ih => rw [List.foldl_cons, ih, react, ← after, after_of_error hhandle]

theorem append (h : Handles now s es t) (h' : Handles now t es' u) : Handles now s (es ++ es') u := by
  induction h with
  | done => exact h'
  | answered hhandle _ ih => exact .answered hhandle (ih h')
  | failed hhandle _ ih => exact .failed hhandle (ih h')

/-- Systems that are answered alike stay so while the same envelopes are handled. -/
theorem related {R : Hotel → Hotel → Prop} (halike : Backend.Alike R) (h : Handles now s es t) (hs : R s s') :
    ∃ t', Handles now s' es t' ∧ R t t' := by
  induction h generalizing s' with
  | done => exact ⟨s', .done, hs⟩
  | answered hhandle _ ih =>
      obtain ⟨t', hhandle', ht⟩ := (Booking.handle_related halike now _ _ _ hs).of_ok hhandle
      obtain ⟨u', hrest, hu⟩ := ih ht
      exact ⟨u', .answered hhandle' hrest, hu⟩
  | failed hhandle _ ih =>
      obtain ⟨t', hhandle', ht⟩ := (Booking.handle_related halike now _ _ _ hs).of_error hhandle
      obtain ⟨u', hrest, hu⟩ := ih ht
      exact ⟨u', .failed hhandle' hrest, hu⟩

end Handles
end Hotel
end HotelBooking
