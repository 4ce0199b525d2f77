import HotelBooking.Proofs.Charge

/-!
# When the first step fails

A booking whose reservation is not made leaves everything as it was, so there is nothing to undo.
There is one exception: a reservation that was stored, and whose announcement was refused. It keeps
the room from others, though nobody has booked it, and no compensation takes it away.
-/

namespace HotelBooking

open HotelBooking.Action

/-- The operation got as far as to announce what it had done. -/
def OperationError.IsUnannounced (e : OperationError) : Prop := ∃ err, e = .publish err

namespace Hotel

/-- The system but for what has been counted. -/
def uncounted (s : Hotel) : Hotel := { s with metrics := {} }

/-- Nothing has changed but what is counted. -/
def Untouched (s t : Hotel) : Prop := t.uncounted = s.uncounted

namespace Untouched

variable {s t u : Hotel}

protected theorem refl (s : Hotel) : s.Untouched s := rfl

theorem trans (h : s.Untouched t) (h' : t.Untouched u) : s.Untouched u := Eq.trans h' h

theorem counted (m : Metric) : s.Untouched (s.counted m) := rfl

theorem storeReservation (h : s.Untouched t) (id : ReservationId) (r : Reservation) :
    (s.storeReservation id r).Untouched (t.storeReservation id r) := by
  have hparts := congrArg (Hotel.storeReservation id r) (show t.uncounted = s.uncounted from h)
  exact hparts

theorem reservations_eq (h : s.Untouched t) : t.reservations = s.reservations := by
  have hparts := congrArg Hotel.reservations (show t.uncounted = s.uncounted from h)
  exact hparts

theorem reservation?_eq (h : s.Untouched t) (id : ReservationId) :
    t.reservation? id = s.reservation? id :=
  reservation?_of_eq h.reservations_eq id

theorem blocking_eq (h : s.Untouched t) (roomId : RoomId) (stay : Stay) :
    t.blocking roomId stay = s.blocking roomId stay := by
  rw [blocking, blocking, h.reservations_eq]

end Untouched

/-- A stored reservation keeps others out of its room. -/
theorem blocking_ne_nil {s : Hotel} {id : ReservationId} {r : Reservation}
    (hr : s.reservation? id = some r) (hholds : r.holdsRoom = true)
    (hstay : r.stay.checkIn < r.stay.checkOut) : s.blocking r.roomId r.stay ≠ [] := by
  have hmem : r ∈ s.reservations.values := Table.mem_values_iff.mpr ⟨id.text, hr⟩
  have hblocks : r.blocks r.roomId r.stay = true := by
    simp [Reservation.blocks, hholds, Stay.overlaps_self hstay]
  exact List.ne_nil_of_mem (List.mem_filter.mpr ⟨hmem, hblocks⟩)

end Hotel

namespace Booking

/-- What is left of a booking whose reservation failed with the error `e`. -/
structure FailedStart (now : Instant) (order : ReservationOrder) (s : Hotel) (e : OperationError)
    (t : Hotel) : Prop where
  untouched_iff : s.Untouched t ↔ ¬ e.IsUnannounced
  blocking_iff : (∀ roomId stay, t.blocking roomId stay = s.blocking roomId stay) ↔
    ¬ e.IsUnannounced
  stored : e.IsUnannounced → (s.storeReservation order.reservationId (.fresh now order)).Untouched t
  blocked : e.IsUnannounced →
    s.blocking order.roomId order.stay = [] ∧ t.blocking order.roomId order.stay ≠ []

namespace FailedStart

variable {now : Instant} {order : ReservationOrder} {s t : Hotel} {e : OperationError}

theorem of_untouched (he : ¬ e.IsUnannounced) (h : s.Untouched t) : FailedStart now order s e t where
  untouched_iff := iff_of_true h he
  blocking_iff := iff_of_true h.blocking_eq he
  stored hpublish := absurd hpublish he
  blocked hpublish := absurd hpublish he

theorem of_stored (he : e.IsUnannounced) (hfree : s.blocking order.roomId order.stay = [])
    (hstay : Instant.nanosPerDay ≤ order.stay.duration)
    (hnew : s.reservation? order.reservationId = none)
    (h : (s.storeReservation order.reservationId (.fresh now order)).Untouched t) :
    FailedStart now order s e t := by
  have hr : t.reservation? order.reservationId = some (.fresh now order) := by
    rw [h.reservation?_eq, Hotel.reservation?_storeReservation]
    exact if_pos rfl
  have hblocked : t.blocking order.roomId order.stay ≠ [] :=
    Hotel.blocking_ne_nil hr rfl (Stay.checkIn_lt_checkOut hstay)
  refine ⟨iff_of_false ?_ (not_not.mpr he), iff_of_false ?_ (not_not.mpr he), fun _ => h,
    fun _ => ⟨hfree, hblocked⟩⟩
  · intro huntouched
    rw [huntouched.reservation?_eq, hnew] at hr
    contradiction
  · intro hsame
    rw [hsame, hfree] at hblocked
    contradiction

/-- The reservation itself failed; counting before and after it makes no difference. -/
theorem of_create {s' t' : Hotel} (hs : s.Untouched s') (ht : t'.Untouched t)
    (h : Reservations.create now order s' = .error e t') : FailedStart now order s e t := by
  rcases Reservations.create_eq_error now s' h with ⟨he, rfl⟩ | ⟨err, rfl, hfree, hstay, hnew, rfl⟩
  · refine of_untouched ?_ (hs.trans ht)
    rintro ⟨err, rfl⟩
    exact he err rfl
  · rw [hs.blocking_eq] at hfree
    rw [hs.reservation?_eq] at hnew
    exact of_stored ⟨err, rfl⟩ hfree hstay hnew ((hs.storeReservation _ _).trans ht)

/-- It leaves no reservation that is confirmed. -/
theorem not_confirmed (h : FailedStart now order s e t) {r : Reservation}
    (hnew : s.reservation? order.reservationId = none)
    (hr : t.reservation? order.reservationId = some r) : r.status ≠ .confirmed := by
  by_cases he : e.IsUnannounced
  · rw [(h.stored he).reservation?_eq, Hotel.reservation?_storeReservation, if_pos rfl] at hr
    cases hr
    nofun
  · rw [(h.untouched_iff.mpr he).reservation?_eq, hnew] at hr
    contradiction

end FailedStart

theorem complete_failedStart {now : Instant} {order : BookingOrder} {s t : Hotel} {e : OperationError}
    (h : complete now order s = .error (.stepFailed .createReservation e) t) :
    FailedStart now order.reservation s e t := by
  obtain ⟨step, source, u, refunds, v, cancellations, w, hfails, hrefund, hcancel, herr, rfl⟩ :=
    complete_eq_error h
  obtain ⟨-, rfl, rfl⟩ := failureReport_eq_stepFailed_iff.mp herr.symm
  -- No compensation belongs to the first step.
  cases hrefund
  cases hcancel
  obtain ⟨r, hreaches, hperform⟩ := hfails
  have hr : r = s.counted .executions := hreaches.eq_before
  rw [hr] at hperform
  have hstart : s.Untouched (s.counted .executions) := .counted _
  have hend : u.Untouched ((u.counted .durations).counted (.failed (some .createReservation))) := rfl
  exact .of_create hstart hend (discard_eq_error_iff.mp hperform)

/-- When the first step fails, nothing has changed, unless the reservation was stored and could not be
announced: it blocks the room then. It makes no difference whether the whole booking was asked for or
only its reservation. -/
theorem failed_start (now : Instant) (s : Hotel) :
    (∀ (order : BookingOrder) e t,
      complete now order s = .error (.stepFailed .createReservation e) t →
        FailedStart now order.reservation s e t) ∧
      ∀ (order : ReservationOrder) err t, initiate now order s = .error err t →
        ∃ e, err = .stepFailed .createReservation e ∧ FailedStart now order s e t := by
  constructor
  · intro order e t h
    exact complete_failedStart h
  · intro order err t h
    unfold initiate at h
    rw [mapError_apply] at h
    cases hcreate : Reservations.create now order s with
    | ok r u =>
        rw [hcreate] at h
        contradiction
    | error e u =>
        rw [hcreate] at h
        cases h
        exact ⟨e, rfl, .of_create (.refl s) (.refl t) hcreate⟩

/-- New reservations cannot be stored. -/
def bookedOut : Hotel where
  reservations := { entity := "Reservation", refusesCreate := true }

open Sample

set_option maxRecDepth 10000 in
theorem bookedOut_failed_start :
    ∃ e t u, complete (day 1) booking bookedOut = .error (.stepFailed .createReservation e) t ∧
      initiate (day 1) booking.reservation bookedOut =
        .error (.stepFailed .createReservation e) u ∧
          bookedOut.Untouched t ∧ bookedOut.Untouched u := by
  have hcomplete : complete (day 1) booking bookedOut = .error (.stepFailed .createReservation
      (.storage (.unavailable "Reservation storage unavailable"))) _ :=
    eq_error_of_outcome (by decide +kernel)
  have hinitiate : initiate (day 1) booking.reservation bookedOut = .error
      (.stepFailed .createReservation
        (.storage (.unavailable "Reservation storage unavailable"))) _ :=
    eq_error_of_outcome (by decide +kernel)
  obtain ⟨hcompleted, hinitiated⟩ := failed_start (day 1) bookedOut
  have ht := hcompleted booking _ _ hcomplete
  obtain ⟨e, he, hu⟩ := hinitiated booking.reservation _ _ hinitiate
  cases he
  have hstored : ¬ OperationError.IsUnannounced
      (.storage (.unavailable "Reservation storage unavailable")) := by
    rintro ⟨err, herr⟩
    contradiction
  exact ⟨_, _, _, hcomplete, hinitiate, ht.untouched_iff.mpr hstored, hu.untouched_iff.mpr hstored⟩

set_option maxRecDepth 10000 in
/-- A reservation that nobody has booked stays behind, and its room is taken. -/
theorem unannounced_reservation_blocks :
    ∃ t, complete (day 1) booking (refusing ReservationEvent.createdTopic) =
      .error (.stepFailed .createReservation (.publish (.refused "reservation.created"))) t ∧
        (refusing ReservationEvent.createdTopic).reservation? ⟨"res-1"⟩ = none ∧
          t.reservation? ⟨"res-1"⟩ = some (booking.pendingReservation (day 1)) ∧
            (refusing ReservationEvent.createdTopic).blocking ⟨"room-101"⟩ ⟨day 3, day 5⟩ = [] ∧
              t.blocking ⟨"room-101"⟩ ⟨day 3, day 5⟩ ≠ [] := by
  have h : complete (day 1) booking (refusing ReservationEvent.createdTopic) =
      .error (.stepFailed .createReservation (.publish (.refused "reservation.created"))) _ :=
    eq_error_of_outcome (by decide +kernel)
  exact ⟨_, h, by decide +kernel, by decide +kernel, by decide +kernel, by decide +kernel⟩

end Booking
end HotelBooking
