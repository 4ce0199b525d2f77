import HotelBooking.Proofs.Handling
import HotelBooking.Proofs.Session
import HotelBooking.Proofs.Steps

/-!
# Notices make no difference

Guests are told of confirmations and cancellations as far as that is possible, and nobody waits for it. So
two systems that differ in nothing but the notices, those sent and whether any can be sent, give the same
answers, and go on to differ in nothing else (`Call.perform_alike`). It follows that a session looks the same
whenever the notices go out and come back in it (`Session.observe_eq`).
-/

namespace HotelBooking

open HotelBooking.Action

namespace Hotel

/-- The system but for the notices that were sent, and for whether any can be sent. -/
def withoutNotices (s : Hotel) : Hotel := { s with notifier := { attempts := s.notifier.attempts } }

/-- The systems differ in the notices at most; as many were tried in both. -/
structure SameButNotices (s t : Hotel) : Prop where
  reservations : s.reservations = t.reservations
  payments : s.payments = t.payments
  gateway : s.gateway = t.gateway
  log : s.log = t.log
  metrics : s.metrics = t.metrics
  attempts : s.notifier.attempts = t.notifier.attempts

theorem withoutNotices_eq_iff {s t : Hotel} :
    s.withoutNotices = t.withoutNotices ↔ SameButNotices s t := by
  simp only [withoutNotices, mk.injEq, Notifier.mk.injEq, true_and, and_true]
  constructor
  · rintro ⟨hreservations, hpayments, hgateway, hlog, hattempts, hmetrics⟩
    exact ⟨hreservations, hpayments, hgateway, hlog, hmetrics, hattempts⟩
  · intro h
    exact ⟨h.reservations, h.payments, h.gateway, h.log, h.attempts, h.metrics⟩

namespace SameButNotices

theorem send {s t : Hotel} (h : SameButNotices s t) (notice : Except NoticeError Notice) :
    SameButNotices ((onNotifier (Notifier.send notice)).after s)
      ((onNotifier (Notifier.send notice)).after t) := by
  rw [onNotifier_after, onNotifier_after, Notifier.send_after, Notifier.send_after]
  exact { h with attempts := by rw [h.attempts] }

/-- Nothing that is asked for tells the two systems apart. -/
theorem alike : Backend.AlikeThroughout SameButNotices where
  toAlike := SharesParts.alike {
    reservations := fun _ _ h => h.reservations
    setReservations := fun _ _ _ h => { h with reservations := rfl }
    payments := fun _ _ h => h.payments
    setPayments := fun _ _ _ h => { h with payments := rfl }
    gateway := fun _ _ h => h.gateway
    setGateway := fun _ _ _ h => { h with gateway := rfl }
    metrics := fun _ _ h => h.metrics
    setMetrics := fun _ _ _ h => { h with metrics := rfl }
    publish := fun _ => .zoom (fun _ _ h => h.log) (fun _ _ _ h => { h with log := rfl }) _
    sendConfirmation := fun _ _ _ h => h.send _ }
  readReservations s t h := by
    change Agree _ (.ok s.reservations.values s) (.ok t.reservations.values t)
    rw [h.reservations]
    exact .ok h
  sendCancellation _ _ _ _ h := h.send _

variable {s t : Hotel} (now : Instant)

theorem foldl_react (queue : List Envelope) (h : SameButNotices s t) :
    SameButNotices (queue.foldl (react now) s) (queue.foldl (react now) t) := by
  obtain ⟨u, hhandles, hafter⟩ := (handles_foldl now queue s).related alike.toAlike h
  rwa [hhandles.eq_foldl] at hafter

theorem pumpRound (h : SameButNotices s t) : SameButNotices (s.pumpRound now) (t.pumpRound now) := by
  unfold Hotel.pumpRound
  rw [h.log]
  exact foldl_react now _ { h with log := rfl }

theorem pumpRounds (rounds : Nat) (h : SameButNotices s t) :
    (Hotel.pumpRounds now rounds s).1 = (Hotel.pumpRounds now rounds t).1 ∧
      SameButNotices (Hotel.pumpRounds now rounds s).2 (Hotel.pumpRounds now rounds t).2 := by
  induction rounds generalizing s t with
  | zero => exact ⟨rfl, h⟩
  | succ rounds ih =>
      rw [Hotel.pumpRounds, Hotel.pumpRounds, h.log]
      split_ifs
      · exact ⟨rfl, h⟩
      · obtain ⟨htopics, hlater⟩ := ih (h.pumpRound now)
        exact ⟨congrArg (t.log.topics ++ ·) htopics, hlater⟩

/-- Whether the notices are out with the rest makes no difference. -/
theorem withOutages (h : SameButNotices s t) (o : Outages) :
    SameButNotices (s.withOutages o) (t.withOutages { o with notices := false }) where
  reservations := by simp only [Hotel.withOutages, h.reservations]
  payments := by simp only [Hotel.withOutages, h.payments]
  gateway := by simp only [Hotel.withOutages, h.gateway]
  log := by simp only [Hotel.withOutages, h.log]
  metrics := h.metrics
  attempts := h.attempts

end SameButNotices
end Hotel

open Hotel (SameButNotices)

/-- A call is answered the same, and leaves systems that differ in the notices at most. -/
theorem Call.perform_alike (now : Instant) (c : Call) {s t : Hotel} (h : SameButNotices s t) :
    (c.perform now s).1 = (c.perform now t).1 ∧
      SameButNotices (c.perform now s).2 (c.perform now t).2 := by
  have halike := SameButNotices.alike
  have of_related {ε α : Type} {x : Action Hotel ε α} (f : Except ε α → Answer)
      (hx : Related SameButNotices x x) : f (x.outcome s).1 = f (x.outcome t).1 ∧
        SameButNotices (x.outcome s).2 (x.outcome t).2 :=
    ⟨congrArg f (hx s t h).outcome_eq, (hx s t h).after⟩
  cases c with
  | complete order => exact of_related _ (Booking.complete_related halike.toAlike now order)
  | initiate order => exact of_related _ (Booking.initiate_related halike.toAlike now order)
  | cancelBooking id reason => exact of_related _ (Booking.cancel_related halike now id reason)
  | onAuthorized id reservationId =>
      exact of_related _ (Booking.onAuthorized_related halike.toAlike now id reservationId)
  | onCaptured id => exact of_related _ (Booking.onCaptured_related halike.toAlike now id)
  | onFailed id reason => exact of_related _ (Booking.onFailed_related halike.toAlike now id reason)
  | handle e => exact of_related _ (Booking.handle_related halike.toAlike now e)
  | pump =>
      obtain ⟨htopics, hafter⟩ := h.pumpRounds now Hotel.stages
      exact ⟨congrArg Answer.topics htopics, hafter⟩
  | createReservation order =>
      exact of_related _ (Reservations.create_related halike.toAlike now order)
  | changeReservation c id =>
      exact of_related _ (Reservations.modify_related halike.toAlike now id _ _)
  | cancelReservation id reason =>
      exact of_related _ (Reservations.modify_related halike.toAlike now id _ _)
  | getReservation id => exact of_related _ (Reservations.get_related halike.toAlike id)
  | listByGuest id => exact of_related _ (Reservations.listByGuest_related halike id)
  | authorizePayment order => exact of_related _ (Payments.authorize_related halike.toAlike now order)
  | retryAuthorization id => exact of_related _ (Payments.retryAuthorization_related halike.toAlike now id)
  | capturePayment id => exact of_related _ (Payments.capture_related halike.toAlike now id)
  | refundPayment id => exact of_related _ (Payments.refund_related halike.toAlike now id)
  | getPayment id => exact of_related _ (Payments.get_related halike.toAlike id)

namespace Session

/-- The session but for the notices. -/
def withoutNotices (x : Session) : Session := ⟨x.now, x.hotel.withoutNotices⟩

def setNotices (isDown : Bool) (x : Session) : Session :=
  { x with hotel := { x.hotel with notifier := { x.hotel.notifier with isDown := isDown } } }

/-- What an event is answered with, if it is a call. -/
def answer? (x : Session) : Event → Option Answer
  | .call c => some (c.perform x.now x.hotel).1
  | .setClock _ | .setOutages _ => none

/-- What the event says about notices is left out. -/
def Event.withoutNotices : Event → Event
  | .setOutages o => .setOutages { o with notices := false }
  | .call c => .call c
  | .setClock now => .setClock now

/-- An event, or the notices alone go out or come back. -/
inductive Turn where
  | event (e : Event)
  | setNotices (isDown : Bool)

/-- The turn but for what it says about notices, if there is anything else. -/
def Turn.withoutNotices? : Turn → Option Event
  | event e => some e.withoutNotices
  | setNotices _ => none

/-- The answer to each event and the session after it, but for the notices. -/
def observe : Session → List Turn → List (Option Answer × Session)
  | _, [] => []
  | x, .event e :: turns => (x.answer? e, (x.step e).withoutNotices) :: observe (x.step e) turns
  | x, .setNotices isDown :: turns => observe (x.setNotices isDown) turns

theorem withoutNotices_eq_iff {x y : Session} : x.withoutNotices = y.withoutNotices ↔
    x.now = y.now ∧ SameButNotices x.hotel y.hotel := by
  rw [withoutNotices, withoutNotices, mk.injEq, Hotel.withoutNotices_eq_iff]

/-- What an event says about notices changes neither the answer nor anything but the notices. -/
theorem step_alike {x y : Session} (h : x.withoutNotices = y.withoutNotices) (e : Event) :
    x.answer? e = y.answer? e.withoutNotices ∧
      (x.step e).withoutNotices = (y.step e.withoutNotices).withoutNotices := by
  obtain ⟨hnow, hhotel⟩ := withoutNotices_eq_iff.mp h
  rw [withoutNotices_eq_iff]
  cases e with
  | call c =>
      obtain ⟨hanswer, hafter⟩ := Call.perform_alike y.now c hhotel
      rw [answer?, step, hnow]
      exact ⟨congrArg some hanswer, rfl, hafter⟩
  | setClock now => exact ⟨rfl, rfl, hhotel⟩
  | setOutages o => exact ⟨rfl, hnow, hhotel.withOutages o⟩

/-- What is seen of a session is what is seen of it without all that is said about notices. -/
theorem observe_withoutNotices {x y : Session} (h : x.withoutNotices = y.withoutNotices)
    (turns : List Turn) :
    x.observe turns = y.observe ((turns.filterMap Turn.withoutNotices?).map .event) := by
  -- On the right only the events are left, so a turn of the notices is taken on the left alone.
  induction turns generalizing x y with
  | nil => rfl
  | cons turn turns ih =>
      cases turn with
      | event e =>
          obtain ⟨hanswer, hstep⟩ := step_alike h e
          exact congrArg₂ List.cons (congrArg₂ Prod.mk hanswer hstep) (ih hstep)
      | setNotices isDown => exact ih (x := x.setNotices isDown) h

/-- Two sessions that differ only in when the notices are out look the same: every call is answered the
same in both, and after every event the systems differ in the notices at most. -/
theorem observe_eq {x y : Session} (hstart : x.withoutNotices = y.withoutNotices)
    {turns turns' : List Turn}
    (hturns : turns.filterMap Turn.withoutNotices? = turns'.filterMap Turn.withoutNotices?) :
    x.observe turns = y.observe turns' := by
  rw [observe_withoutNotices hstart turns, hturns, ← observe_withoutNotices rfl turns']

open Sample

set_option maxRecDepth 10000 in
/-- In one of the sessions the notices go out when the room is booked, in the other they come back then. -/
theorem observe_booking_cancelled :
    (start (day 1)).observe
        [.event (.call (.complete booking)), .event (.setOutages { notices := true }),
          .event (.call (.cancelBooking ⟨"res-1"⟩ "plans changed"))] =
      ((start (day 1)).setNotices true).observe
        [.event (.call (.complete booking)), .event (.setOutages {}), .setNotices false,
          .event (.call (.cancelBooking ⟨"res-1"⟩ "plans changed"))] :=
  observe_eq rfl rfl

end Session
end HotelBooking
