import HotelBooking.Proofs.Delivery

/-!
# Events that are delivered once more

A confirmed reservation whose payment is captured is done with, but an envelope that comes again is
handled again. The payment stays as it is, whatever comes. The reservation is cancelled when it is
told once more that its payment is authorized, since a captured payment cannot be captured, or that
its payment has failed, if that is early enough and can be stored; nothing else changes it.
-/

namespace HotelBooking

open HotelBooking.Action

/-- The reservation that the payment is for. -/
def PaymentEvent.reservationId : PaymentEvent → ReservationId
  | authorized _ reservationId .. => reservationId
  | settled _ _ reservationId .. => reservationId
  | failed _ reservationId .. => reservationId

/-- The envelope says that the payment for the reservation is authorized, or that it has failed. -/
def Envelope.Endangers (e : Envelope) (id : ReservationId) : Prop :=
  (e.topic = PaymentEvent.authorizedTopic ∨ e.topic = PaymentEvent.failedTopic) ∧
    ∃ event, PaymentEvent.ofJson? e.payload = some event ∧ event.topic = e.topic ∧
      event.reservationId = id

namespace Booking.Task

/-- The reservation that is cancelled if the task cannot be done or asks for that, and the reason. -/
def cancellation? : Task → Option (ReservationId × String)
  | capture _ reservationId => some (reservationId, BookingStep.captureFailedReason)
  | cancel id reason => some (id, reason)
  | authorize .. | confirm _ => none

theorem of?_eq_ofPaymentEvent? {e : Envelope} {event : PaymentEvent}
    (h : PaymentEvent.ofJson? e.payload = some event) (htopic : event.topic = e.topic) :
    of? e = ofPaymentEvent? event := by
  have hcreated : e.topic ≠ ReservationEvent.createdTopic := by
    rw [← htopic]
    exact event.topic_ne_createdTopic
  rw [of?, if_neg hcreated, h, Option.filter_some, if_pos (decide_eq_true htopic)]
  rfl

theorem endangers_iff {e : Envelope} {id : ReservationId} :
    e.Endangers id ↔ ∃ task reason, of? e = some task ∧ task.cancellation? = some (id, reason) := by
  constructor
  · rintro ⟨htopic, event, hevent, hsame, rfl⟩
    rw [of?_eq_ofPaymentEvent? hevent hsame]
    rw [← hsame] at htopic
    cases event with
    | authorized id reservationId transactionId amount t => exact ⟨_, _, rfl, rfl⟩
    | settled s id reservationId amount t =>
        have hother : ¬ (s.topic = PaymentEvent.authorizedTopic ∨ s.topic = PaymentEvent.failedTopic) := by
          cases s <;> decide
        exact absurd htopic hother
    | failed id reservationId code message t => exact ⟨_, _, rfl, rfl⟩
  · rintro ⟨task, reason, htask, hcancel⟩
    unfold of? at htask
    split_ifs at htask with hcreated
    · obtain ⟨event, -, hevent⟩ := Option.bind_eq_some_iff.mp htask
      cases event <;> cases hevent
      contradiction
    · obtain ⟨event, hread, hevent⟩ := Option.bind_eq_some_iff.mp htask
      obtain ⟨hread, hsame⟩ := Option.filter_eq_some_iff.mp hread
      have htopic : event.topic = e.topic := of_decide_eq_true hsame
      cases event with
      | authorized i reservationId transactionId amount t =>
          cases hevent
          cases hcancel
          exact ⟨.inl htopic.symm, _, hread, htopic, rfl⟩
      | settled s i reservationId amount t =>
          cases s <;> cases hevent
          contradiction
      | failed i reservationId code message t =>
          cases hevent
          cases hcancel
          exact ⟨.inr htopic.symm, _, hread, htopic, rfl⟩

end Booking.Task

namespace Hotel

open Booking (Task paymentIdFor)

variable {s : Hotel} {id : ReservationId} {r : Reservation}

/-- What a task leaves of a reservation that is confirmed and paid for. -/
def remains (now : Instant) (id : ReservationId) (r : Reservation) (task : Task) (s : Hotel) :
    Reservation :=
  match task.cancellation? with
  | some (other, reason) =>
    if other = id ∧ s.reservations.refusesUpdate = false ∧ r.isCancellableAt now = true then
      r.cancelled now reason
    else r
  | none => r

/-- A reservation that is confirmed already cannot be confirmed. -/
theorem onCaptured_reservation? (now : Instant) (hr : s.reservation? id = some r)
    (hstatus : r.status = .confirmed) (other : ReservationId) :
    ((Booking.onCaptured now other).after s).reservation? id = some r := by
  have hrefused : (r.change now .confirm).toOption.getD r = r := by
    cases hchange : r.change now .confirm with
    | error e => rfl
    | ok r' =>
        have hpending := (Reservation.change_eq_ok_iff.mp hchange).1
        rw [hstatus] at hpending
        contradiction
  rw [reservation?_of_eq (onCaptured_reservations now s other), Reservations.change,
    Reservations.modify_reservation? now hr, hrefused, ite_self]

/-- If the payment that belongs to the reservation is to be captured, that fails. -/
theorem Accounted.onAuthorized_reservation? (h : s.Accounted) (now : Instant)
    (hr : s.reservation? id = some r) (hstatus : r.status = .confirmed) {paymentId : PaymentId}
    {other : ReservationId} (hw : s.Warrants (.capture paymentId other)) :
    ((Booking.onAuthorized now paymentId other).after s).reservation? id =
      some (s.remains now id r (.capture paymentId other)) := by
  have hsame := capture_reservations now s paymentId
  rw [Booking.onAuthorized_after]
  cases hcapture : Payments.capture now paymentId s with
  | ok q t =>
      rw [after_of_ok hcapture] at hsame
      have hother : other ≠ id := by
        rintro rfl
        obtain ⟨p, hp, hcaptured⟩ := (h.reservation hr).2 hstatus
        have hfor : paymentId = paymentIdFor other := hw
        rw [← hfor] at hp
        exact Payments.capture_ne_ok now hp hcaptured hcapture
      have hrt : t.reservation? id = some r := (reservation?_of_eq hsame id).trans hr
      simpa [remains, Task.cancellation?, hother] using hrt
  | error e t =>
      rw [after_of_error hcapture] at hsame
      have hrt : t.reservation? id = some r := (reservation?_of_eq hsame id).trans hr
      dsimp only
      rw [Reservations.cancel_reservation? now hrt, hsame]
      rfl

/-- A warranted task changes a confirmed reservation only by cancelling it. -/
theorem Accounted.perform_reservation? (h : s.Accounted) (now : Instant)
    (hr : s.reservation? id = some r) (hstatus : r.status = .confirmed) {task : Task}
    (hw : s.Warrants task) :
    ((task.perform now).after s).reservation? id = some (s.remains now id r task) := by
  cases task with
  | authorize other total =>
      rw [Task.perform, after_return, Booking.onCreated, after_mapError,
        reservation?_of_eq (authorize_reservations now s _)]
      exact hr
  | capture paymentId other =>
      rw [Task.perform, after_return]
      exact h.onAuthorized_reservation? now hr hstatus hw
  | confirm other =>
      rw [Task.perform, after_return]
      exact onCaptured_reservation? now hr hstatus other
  | cancel other reason =>
      rw [Task.perform, after_return, Booking.onFailed, after_mapError,
        Reservations.cancel_reservation? now hr]
      rfl

end Hotel

namespace Session

open Booking (Task paymentIdFor)

variable {x : Session} {e : Envelope} {id : ReservationId} {r : Reservation}

/-- Handling the envelope once more undoes the reservation: the envelope says that the payment is
authorized or has failed, it is early enough to cancel, and that can be stored. -/
def Undoes (x : Session) (e : Envelope) (id : ReservationId) (r : Reservation) : Prop :=
  e.Endangers id ∧ r.isCancellableAt x.now = true ∧ x.hotel.reservations.refusesUpdate = false

theorem remains_of_undoes {task : Task} (htask : Task.of? e = some task) (h : x.Undoes e id r) :
    ∃ reason, x.hotel.remains x.now id r task = r.cancelled x.now reason := by
  obtain ⟨hendangers, hearly, hworks⟩ := h
  obtain ⟨task', reason, htask', hcancel⟩ := Task.endangers_iff.mp hendangers
  rw [htask] at htask'
  cases htask'
  refine ⟨reason, ?_⟩
  rw [Hotel.remains, hcancel]
  exact if_pos ⟨rfl, hworks, hearly⟩

theorem remains_of_not_undoes {task : Task} (htask : Task.of? e = some task)
    (h : ¬ x.Undoes e id r) : x.hotel.remains x.now id r task = r := by
  unfold Hotel.remains
  split
  · rename_i other reason hcancel
    apply if_neg
    rintro ⟨rfl, hworks, hearly⟩
    exact h ⟨Task.endangers_iff.mpr ⟨task, reason, htask, hcancel⟩, hearly, hworks⟩
  · rfl

/-- When an envelope comes once more, a captured payment stays as it is. The confirmed reservation it is
for stays as it is too, unless the envelope undoes it: it is cancelled then. -/
theorem Reachable.redelivered (h : x.Reachable) (hr : x.hotel.reservation? id = some r)
    (hstatus : r.status = .confirmed) {p : Payment} (hp : x.hotel.payment? (paymentIdFor id) = some p)
    (hcaptured : p.status = .captured) (he : e ∈ x.hotel.log.history) :
    let t := (x.step (.call (.handle e))).hotel
    t.payment? (paymentIdFor id) = some p ∧
      (¬ x.Undoes e id r → t.reservation? id = some r) ∧
        (x.Undoes e id r → ∃ reason, t.reservation? id = some (r.cancelled x.now reason)) := by
  have haccounted := h.accounted
  have hkeeps := ((Hotel.Advances.refl haccounted).handle x.now he).keeps
  refine ⟨hkeeps.payment hp hcaptured, ?_⟩
  change (_ → ((Booking.handle x.now e).after x.hotel).reservation? id = _) ∧
    (_ → ∃ reason, ((Booking.handle x.now e).after x.hotel).reservation? id = _)
  rcases Task.handle_cases (σ := Hotel) x.now e with ⟨task, htask, hhandle⟩ | ⟨hnone, hnothing⟩
  · have hremains := haccounted.perform_reservation? x.now hr hstatus (haccounted.envelope he htask)
    rw [hhandle, hremains]
    constructor
    · intro hsafe
      rw [remains_of_not_undoes htask hsafe]
    · intro hundoes
      obtain ⟨reason, hreason⟩ := remains_of_undoes htask hundoes
      exact ⟨reason, congrArg some hreason⟩
  · rw [hnothing]
    refine ⟨fun _ => hr, ?_⟩
    rintro ⟨hendangers, -⟩
    obtain ⟨task, reason, htask, -⟩ := Task.endangers_iff.mp hendangers
    rw [hnone] at htask
    contradiction

open Sample

set_option maxRecDepth 10000 in
/-- The reservation is confirmed once more, which changes nothing. -/
theorem captured_redelivered :
    pumped.hotel.reservation? ⟨"res-1"⟩ = some pumpedReservation ∧
      ∃ p e, pumped.hotel.payment? (paymentIdFor ⟨"res-1"⟩) = some p ∧ p.status = .captured ∧
        e ∈ pumped.hotel.log.history ∧ e.topic = Settlement.captured.topic ∧
          (pumped.step (.call (.handle e))).hotel.reservation? ⟨"res-1"⟩ = some pumpedReservation ∧
            (pumped.step (.call (.handle e))).hotel.payment? (paymentIdFor ⟨"res-1"⟩) = some p := by
  have hr : pumped.hotel.reservation? ⟨"res-1"⟩ = some pumpedReservation := by decide +kernel
  have hpayment : (pumped.hotel.payment? (paymentIdFor ⟨"res-1"⟩)).map (·.status) =
      some .captured := by decide +kernel
  have hevent : ∃ e ∈ pumped.hotel.log.history, e.topic = Settlement.captured.topic := by
    decide +kernel
  obtain ⟨p, hp, hcaptured⟩ := Option.map_eq_some_iff.mp hpayment
  obtain ⟨e, he, htopic⟩ := hevent
  obtain ⟨hkept, hsafe, -⟩ := pumped_reachable.redelivered hr rfl hp hcaptured he
  have hnot : ¬ pumped.Undoes e ⟨"res-1"⟩ pumpedReservation := by
    rintro ⟨⟨hother, -⟩, -⟩
    rw [htopic] at hother
    exact absurd hother (by decide)
  exact ⟨hr, p, e, hp, hcaptured, he, htopic, hsafe hnot, hkept⟩

set_option maxRecDepth 10000 in
/-- The guest has paid and loses the room. -/
theorem authorized_redelivered_cancels :
    pumped.Reachable ∧ pumped.hotel.reservation? ⟨"res-1"⟩ = some pumpedReservation ∧
      pumpedReservation.status = .confirmed ∧
        (pumped.hotel.payment? (paymentIdFor ⟨"res-1"⟩)).map (·.status) = some .captured ∧
          ∃ e ∈ pumped.hotel.log.history, e.topic = PaymentEvent.authorizedTopic ∧
            ((pumped.step (.call (.handle e))).hotel.reservation? ⟨"res-1"⟩).map (·.status) =
              some .cancelled ∧
            ((pumped.step (.call (.handle e))).hotel.payment? (paymentIdFor ⟨"res-1"⟩)).map
              (·.status) = some .captured :=
  ⟨pumped_reachable, by decide +kernel, rfl, by decide +kernel, by decide +kernel⟩

end Session
end HotelBooking
