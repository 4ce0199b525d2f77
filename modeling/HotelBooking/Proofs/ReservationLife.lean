import HotelBooking.Proofs.Reservations
import Mathlib.Computability.Language

/-!
# The life of a reservation

A reservation can be called at any time, and refuses what its status does not allow, and to be cancelled too late.
Whatever the calls are, those that it accepted are one of `courses`: the guest's stay as far as it has come, or a
cancellation, which nothing follows, of a reservation that was confirmed or was not yet. They decide its status, its
cancellation reason and the time of its last change; all else stays as it was ordered (`Reservation.life_of_make`).
Each of these courses is that of some reservation (`Reservation.mem_courses_iff`).
-/

open scoped Computability

namespace HotelBooking

/-- What is asked of a reservation. -/
inductive ReservationCall where
  | change (c : ReservationChange)
  | cancel (reason : String)

namespace ReservationCall

def perform (now : Instant) (r : Reservation) : ReservationCall → Except ReservationError Reservation
  | change c => r.change now c
  | cancel reason => r.cancel now reason

/-- The call is allowed in this status, if it is early enough. -/
def isAllowedIn (s : ReservationStatus) : ReservationCall → Bool
  | change c => s.allows c
  | cancel _ => s.isCancellable

def isAllowed (now : Instant) (r : Reservation) : ReservationCall → Bool
  | change c => r.status.allows c
  | cancel _ => r.isCancellableAt now

/-- The status to which the call leads. -/
def target : ReservationCall → ReservationStatus
  | change c => c.target
  | cancel _ => .cancelled

/-- The reason that the call gives. -/
def reason? : ReservationCall → Option String
  | change _ => none
  | cancel reason => some reason

/-- The reservation once it has accepted the call. -/
def accept (now : Instant) (r : Reservation) (c : ReservationCall) : Reservation :=
  { r with
    status := c.target
    cancellationReason := c.reason?.or r.cancellationReason
    updatedAt := now }

theorem isAllowedIn_of_isAllowed {now : Instant} {r : Reservation} {c : ReservationCall}
    (h : c.isAllowed now r = true) : c.isAllowedIn r.status = true := by
  cases c with
  | change c => exact h
  | cancel reason => exact Reservation.isCancellable_of_isCancellableAt h

theorem perform_eq_ok_iff {now : Instant} {r r' : Reservation} {c : ReservationCall} :
    c.perform now r = .ok r' ↔ c.isAllowed now r = true ∧ r' = c.accept now r := by
  cases c with
  | change c =>
      refine Reservation.change_eq_ok_iff.trans ?_
      simp [isAllowed, ReservationStatus.allows, accept, target, reason?]
  | cancel reason => exact Reservation.cancel_eq_ok_iff

/-- The calls of a stay, as far as it has come. -/
def stays : Language ReservationCall := {w | w <+: [change .confirm, change .activate, change .complete]}

def cancellations : Language ReservationCall := {w | ∃ reason, w = [cancel reason]}

/-- What a reservation can have accepted. -/
def courses : Language ReservationCall := stays + (1 + {[change .confirm]}) * cancellations

/-- Where a course has led: to which status, and for which reason if it was a cancellation. -/
inductive Course : List ReservationCall → ReservationStatus → Option String → Prop where
  | made : Course [] .pending none
  | confirmed : Course [change .confirm] .confirmed none
  | activated : Course [change .confirm, change .activate] .active none
  | completed : Course [change .confirm, change .activate, change .complete] .completed none
  | withdrawn (reason : String) : Course [cancel reason] .cancelled (some reason)
  | cancelled (reason : String) : Course [change .confirm, cancel reason] .cancelled (some reason)

namespace Course

variable {w : List ReservationCall} {s : ReservationStatus} {reason? : Option String}

theorem accept (h : Course w s reason?) {c : ReservationCall} (hc : c.isAllowedIn s = true) :
    Course (w ++ [c]) c.target (c.reason?.or reason?) := by
  cases c with
  | cancel reason =>
      cases h with
      | made => exact .withdrawn reason
      | confirmed => exact .cancelled reason
      | activated | completed | withdrawn | cancelled => contradiction
  | change c =>
      obtain rfl : s = c.source := of_decide_eq_true hc
      cases c with
      | confirm =>
          cases h
          exact .confirmed
      | activate =>
          cases h
          exact .activated
      | complete =>
          cases h
          exact .completed

theorem mem_courses (h : Course w s reason?) : w ∈ courses := by
  have hcancel {before : List ReservationCall} (hbefore : before = [] ∨ before = [change .confirm])
      (reason : String) : before ++ [cancel reason] ∈ courses :=
    .inr (Language.append_mem_mul hbefore ⟨reason, rfl⟩)
  cases h with
  | made | confirmed | activated | completed => exact .inl (List.prefix_iff_eq_take.mpr rfl)
  | withdrawn reason => exact hcancel (.inl rfl) reason
  | cancelled reason => exact hcancel (.inr rfl) reason

theorem status_eq (h : Course w s reason?) : s = (w.getLast?.map target).getD .pending := by
  cases h <;> rfl

theorem isSome_iff (h : Course w s reason?) : reason?.isSome ↔ s = .cancelled := by
  cases h <;> simp

theorem reason_iff (h : Course w s reason?) {reason : String} :
    reason? = some reason ↔ w.getLast? = some (cancel reason) := by
  cases h <;> simp

end Course

theorem exists_course {w : List ReservationCall} (hw : w ∈ courses) : ∃ s reason?, Course w s reason? := by
  rcases hw with hw | hw
  · have hprefix : w <+: [change .confirm, change .activate, change .complete] := hw
    simp only [List.prefix_cons_iff, List.prefix_nil] at hprefix
    rcases hprefix with rfl | ⟨_, rfl, rfl | ⟨_, rfl, rfl | ⟨_, rfl, rfl⟩⟩⟩
    · exact ⟨_, _, .made⟩
    · exact ⟨_, _, .confirmed⟩
    · exact ⟨_, _, .activated⟩
    · exact ⟨_, _, .completed⟩
  · obtain ⟨before, hbefore, _, ⟨reason, rfl⟩, rfl⟩ := Language.mem_mul.mp hw
    rcases hbefore with rfl | rfl
    · exact ⟨_, _, .withdrawn reason⟩
    · exact ⟨_, _, .cancelled reason⟩

end ReservationCall

namespace Reservation

open ReservationCall (Course courses)

/-- The reservation after a call. If it is refused, nothing changes. -/
def afterCall (r : Reservation) (call : Instant × ReservationCall) : Reservation :=
  match call.2.perform call.1 r with
  | .ok r' => r'
  | .error _ => r

def afterCalls (r : Reservation) (calls : List (Instant × ReservationCall)) : Reservation :=
  calls.foldl afterCall r

/-- Those of the calls that the reservation accepts. -/
def accepted (r : Reservation) : List (Instant × ReservationCall) → List (Instant × ReservationCall)
  | [] => []
  | call :: calls =>
    match call.2.perform call.1 r with
    | .ok r' => call :: r'.accepted calls
    | .error _ => r.accepted calls

theorem accepted_cons_of_isAllowed {t : Instant} {c : ReservationCall} {r : Reservation}
    (h : c.isAllowed t r = true) (calls : List (Instant × ReservationCall)) :
    r.accepted ((t, c) :: calls) = (t, c) :: (c.accept t r).accepted calls := by
  rw [accepted, ReservationCall.perform_eq_ok_iff.mpr ⟨h, rfl⟩]

/-- What is known of a reservation that was made and then accepted these calls. -/
structure Traced (now : Instant) (order : ReservationOrder) (accepted : List (Instant × ReservationCall))
    (r : Reservation) : Prop where
  kept : r = { fresh now order with
    status := r.status
    cancellationReason := r.cancellationReason
    updatedAt := r.updatedAt }
  course : Course (accepted.map Prod.snd) r.status r.cancellationReason
  updatedAt : r.updatedAt = (accepted.getLast?.map Prod.fst).getD now

namespace Traced

variable {now t : Instant} {order : ReservationOrder} {calls : List (Instant × ReservationCall)}
  {r : Reservation} {c : ReservationCall}

theorem fresh (now : Instant) (order : ReservationOrder) : Traced now order [] (.fresh now order) where
  kept := rfl
  course := .made
  updatedAt := rfl

theorem accept (h : Traced now order calls r) (hc : c.isAllowed t r = true) :
    Traced now order (calls ++ [(t, c)]) (c.accept t r) where
  kept := by
    rw [h.kept]
    rfl
  course := by
    rw [List.map_append]
    exact h.course.accept (ReservationCall.isAllowedIn_of_isAllowed hc)
  updatedAt := by
    rw [List.getLast?_concat]
    rfl

/-- However the life of the reservation goes on, it stays traced. -/
theorem afterCalls (h : Traced now order calls r) (later : List (Instant × ReservationCall)) :
    Traced now order (calls ++ r.accepted later) (r.afterCalls later) := by
  induction later generalizing calls r with
  | nil => simpa [accepted, Reservation.afterCalls] using h
  | cons call later ih =>
      unfold accepted
      have hnext : r.afterCalls (call :: later) = (r.afterCall call).afterCalls later := rfl
      rw [hnext, afterCall]
      -- A refused call leaves everything as it is, so it takes no step.
      cases hperform : call.2.perform call.1 r with
      | error e => exact ih h
      | ok r' =>
          obtain ⟨hallowed, rfl⟩ := ReservationCall.perform_eq_ok_iff.mp hperform
          have htraced := ih (h.accept (t := call.1) hallowed)
          rwa [List.append_assoc] at htraced

end Traced

/-- The reservation takes a call: a refused one changes nothing, and an accepted one nothing but the status, the
time of the last change and, when it is a cancellation, the reason. -/
def Takes (t : Instant) (c : ReservationCall) (r : Reservation) : Prop :=
  match c.perform t r with
  | .error _ => r.afterCall (t, c) = r
  | .ok r' => r.afterCall (t, c) = r' ∧ r' = c.accept t r

theorem takes (t : Instant) (c : ReservationCall) (r : Reservation) : r.Takes t c := by
  unfold Takes afterCall
  cases hperform : c.perform t r with
  | error e => rfl
  | ok r' => exact ⟨rfl, (ReservationCall.perform_eq_ok_iff.mp hperform).2⟩

/-- What can be said of a reservation that was made and then accepted these calls. -/
structure Life (now : Instant) (order : ReservationOrder) (accepted : List (Instant × ReservationCall))
    (r : Reservation) : Prop extends Traced now order accepted r where
  mem_courses : accepted.map Prod.snd ∈ courses
  status : r.status = (accepted.getLast?.map fun call => call.2.target).getD .pending
  cancelled_iff : r.cancellationReason.isSome ↔ r.status = .cancelled
  reason_iff : ∀ reason, r.cancellationReason = some reason ↔
    ∃ t, accepted.getLast? = some (t, .cancel reason)
  guests_ne_nil : r.guests ≠ []
  stay : Instant.nanosPerDay ≤ r.stay.duration

theorem life_of_traced {now : Instant} {order : ReservationOrder} {calls : List (Instant × ReservationCall)}
    {r : Reservation} (h : Traced now order calls r) (hstay : Instant.nanosPerDay ≤ order.stay.duration)
    (hguests : order.guests ≠ []) : Life now order calls r where
  toTraced := h
  mem_courses := h.course.mem_courses
  status := by
    rw [h.course.status_eq, List.getLast?_map, Option.map_map]
    rfl
  cancelled_iff := h.course.isSome_iff
  reason_iff := by
    intro reason
    rw [h.course.reason_iff, List.getLast?_map]
    simp [Option.map_eq_some_iff]
  guests_ne_nil := by
    rw [h.kept]
    exact hguests
  stay := by
    rw [h.kept]
    exact hstay

/-- The life of a reservation, whatever it is called for and at whatever times. -/
theorem life_of_make {now : Instant} {order : ReservationOrder} {r : Reservation} (h : make now order = .ok r)
    (calls : List (Instant × ReservationCall)) :
    Life now order (r.accepted calls) (r.afterCalls calls) ∧ ∀ t c, (r.afterCalls calls).Takes t c := by
  obtain ⟨hstay, -, hguests, rfl⟩ := make_eq_ok_iff.mp h
  exact ⟨life_of_traced ((Traced.fresh now order).afterCalls calls) hstay hguests, fun t c => takes t c _⟩

open Sample

/-- Confirmed, and cancelled in time; what is asked of the reservation before and after that is refused. -/
def shortLife : List (Instant × ReservationCall) :=
  [(day 1, .change .activate), (day 1, .change .confirm), (day 3, .cancel "too late"), (day 2, .cancel "ill"),
    (day 2, .cancel "once more"), (day 3, .change .activate)]

set_option maxRecDepth 10000 in
theorem shortLife_lives :
    make (day 1) (order "res-1" 3 5) = .ok (fresh (day 1) (order "res-1" 3 5)) ∧
      Life (day 1) (order "res-1" 3 5) [(day 1, .change .confirm), (day 2, .cancel "ill")]
        ((fresh (day 1) (order "res-1" 3 5)).afterCalls shortLife) ∧
      ((fresh (day 1) (order "res-1" 3 5)).afterCalls shortLife).cancellationReason = some "ill" := by
  have hmake : make (day 1) (order "res-1" 3 5) = .ok (fresh (day 1) (order "res-1" 3 5)) := by
    decide +kernel
  obtain ⟨hlife, -⟩ := life_of_make hmake shortLife
  exact ⟨hmake, hlife, by decide +kernel⟩

/-- The reservation was made, and calls have led to what it is. -/
def Lived (r : Reservation) : Prop :=
  ∃ now order made calls, make now order = .ok made ∧ r = made.afterCalls calls

theorem Lived.stay {r : Reservation} (h : r.Lived) : Instant.nanosPerDay ≤ r.stay.duration := by
  obtain ⟨now, order, made, calls, hmake, rfl⟩ := h
  obtain ⟨hstay, -, hguests, rfl⟩ := make_eq_ok_iff.mp hmake
  rw [((Traced.fresh now order).afterCalls calls).kept]
  exact hstay

/-- There are no other courses: each of them is that of a reservation that was made early enough. -/
theorem mem_courses_iff {now early : Instant} {order : ReservationOrder} {r : Reservation}
    (h : make now order = .ok r)
    (hearly : cancellationHours * Instant.nanosPerHour ≤ early.nanosTo order.stay.checkIn)
    (w : List ReservationCall) : w ∈ courses ↔ ∃ calls, (r.accepted calls).map Prod.snd = w := by
  obtain ⟨-, -, -, rfl⟩ := make_eq_ok_iff.mp h
  constructor
  · intro hw
    have hcancel {r : Reservation} (hstay : r.stay = order.stay) (hstatus : r.status.isCancellable = true)
        (reason : String) : (ReservationCall.cancel reason).isAllowed early r = true := by
      simp [ReservationCall.isAllowed, isCancellableAt, hstay, hstatus, hearly]
    refine ⟨w.map (early, ·), ?_⟩
    obtain ⟨s, reason?, hcourse⟩ := ReservationCall.exists_course hw
    cases hcourse with
    | made => rfl
    | confirmed => rfl
    | activated => rfl
    | completed => rfl
    | withdrawn reason =>
        rw [List.map_singleton, accepted_cons_of_isAllowed (hcancel rfl rfl reason)]
        rfl
    | cancelled reason =>
        rw [List.map_cons, List.map_singleton, accepted_cons_of_isAllowed rfl,
          accepted_cons_of_isAllowed (hcancel rfl rfl reason)]
        rfl
  · rintro ⟨calls, rfl⟩
    exact ((Traced.fresh now order).afterCalls calls).course.mem_courses

end Reservation
end HotelBooking
