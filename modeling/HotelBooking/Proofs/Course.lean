import HotelBooking.Proofs.Independence

/-!
# The course of a booking by events

Every step of a booking by events announces at most one event to which anything reacts, and that event asks for
the next step of the same booking (`Hotel.Leads`). Meanwhile its reservation keeps its room and its stay, so it
is in nobody else's way who wants another room or comes at another time.
-/

namespace HotelBooking

open HotelBooking.Action

open Booking (Task)

namespace Hotel

/-- What the queue asks for. -/
def tasks (s : Hotel) : List Task := s.log.queue.filterMap Task.of?

/-- The reservation is stored with the room and the stay that were ordered. -/
def Holds (order : ReservationOrder) (s : Hotel) : Prop :=
  ∃ r, s.reservation? order.reservationId = some r ∧ r.roomId = order.roomId ∧ r.stay = order.stay

/-- At most one task has been added to the queue, and it is the next one of the booking. -/
def Leads (order : ReservationOrder) (s t : Hotel) : Prop :=
  t.tasks = s.tasks ∨ ∃ task, t.tasks = s.tasks ++ [task] ∧ t.Awaits order task

variable {order : ReservationOrder} {s t u : Hotel}

theorem Awaits.of_payment? {task : Task} (h : s.Awaits order task)
    (hp : t.payment? order.paymentId = s.payment? order.paymentId) : t.Awaits order task := by
  cases task with
  | authorize id total => exact h
  | capture id reservationId =>
      obtain ⟨hid, hreservation, p, hread, hfor⟩ := h
      exact ⟨hid, hreservation, p, hp.trans hread, hfor⟩
  | confirm id => exact h
  | cancel id reason => exact h

theorem Holds.of_reservations (h : s.Holds order) (hsame : t.reservations = s.reservations) :
    t.Holds order := by
  obtain ⟨r, hr, hfor⟩ := h
  exact ⟨r, (reservation?_of_eq hsame _).trans hr, hfor⟩

/-- Nothing reacts to what is announced. -/
theorem tasks_of_announces {topics : List String} (h : s.Announces topics t)
    (hunheard : ∀ topic ∈ topics, topic ∉ Booking.subscribedTopics) : t.tasks = s.tasks := by
  rcases h with hlog | ⟨e, he, hlog⟩
  · rw [tasks, tasks, hlog]
  · have hnone : Task.of? e = none := by
      cases htask : Task.of? e with
      | none => rfl
      | some task => exact absurd (Task.topic_of_of? htask ▸ task.topic_mem) (hunheard _ he)
    rw [tasks, tasks, hlog, EventLog.append_queue, List.filterMap_append, List.filterMap_cons_none hnone,
      List.filterMap_nil, List.append_nil]

namespace Leads

theorem of_log (h : t.log = s.log) : Leads order s t :=
  .inl (by rw [tasks, tasks, h])

theorem of_task {e : Envelope} (h : t.log = s.log.append e) {task : Task} (htask : Task.of? e = some task)
    (hawaits : t.Awaits order task) : Leads order s t := by
  refine .inr ⟨task, ?_, hawaits⟩
  rw [tasks, tasks, h, EventLog.append_queue, List.filterMap_append, List.filterMap_cons_some htask,
    List.filterMap_nil]

theorem offered (hlog : s.log = u.log) {e : Envelope} {task : Task} (htask : Task.of? e = some task)
    (hawaits : (s.published e).Awaits order task) : Leads order u (s.offered e) := by
  unfold Hotel.offered
  cases s.log.publishError? e.topic with
  | some err => exact .of_log hlog
  | none => exact .of_task (by rw [published_log, hlog]) htask hawaits

theorem of_tasks (h : Leads order s t) (htasks : u.tasks = t.tasks)
    (hp : u.payment? order.paymentId = t.payment? order.paymentId) : Leads order s u := by
  rcases h with hsame | ⟨task, hnew, hawaits⟩
  · exact .inl (htasks.trans hsame)
  · exact .inr ⟨task, htasks.trans hnew, hawaits.of_payment? hp⟩

end Leads

variable (now : Instant)

/-- A booking either does not begin, and then nothing was stored and nothing announced, or it begins with a
new reservation for what was ordered. -/
theorem initiate_cases (order : ReservationOrder) (s : Hotel) :
    (((Booking.initiate now order).after s).reservations = s.reservations ∧
        ((Booking.initiate now order).after s).tasks = s.tasks) ∨
      s.reservation? order.reservationId = none ∧ ((Booking.initiate now order).after s).Holds order ∧
        Leads order s ((Booking.initiate now order).after s) := by
  rw [Booking.initiate, after_mapError, Reservations.create_after]
  split_ifs
  · cases hmake : Reservation.make now order with
    | error e => exact .inl ⟨rfl, rfl⟩
    | ok r =>
        obtain ⟨-, -, -, rfl⟩ := Reservation.make_eq_ok_iff.mp hmake
        dsimp only
        cases hcreate : s.reservations.createError? (Reservation.fresh now order).id.text with
        | some e => exact .inl ⟨rfl, rfl⟩
        | none =>
            have hnew : s.reservation? order.reservationId = none :=
              (Table.createError?_eq_none_iff.mp hcreate).2
            have hheld : (s.storeReservation order.reservationId (.fresh now order)).Holds order :=
              ⟨_, (reservation?_storeReservation ..).trans (if_pos rfl), rfl, rfl⟩
            refine .inr ⟨hnew, hheld.of_reservations (offered_reservations _ _), ?_⟩
            exact .offered rfl (Task.of?_toEnvelope_reservation now _) ⟨rfl, rfl⟩
  · exact .inl ⟨rfl, rfl⟩

theorem authorize_leads (order : ReservationOrder) (s : Hotel) :
    Leads order s ((Booking.onCreated now order.reservationId order.total).after s) := by
  rw [Booking.onCreated, after_mapError, Payments.authorize_after]
  cases s.gateway.authorizeError? with
  | some e =>
      cases s.payments.createError? (Booking.paymentIdFor order.reservationId).text with
      | some err => exact .of_log rfl
      | none => exact .offered rfl (Task.of?_toEnvelope_payment now _) rfl
  | none =>
      cases s.payments.createError? (Booking.paymentIdFor order.reservationId).text with
      | some err => exact .of_log rfl
      | none =>
          refine .offered rfl (Task.of?_toEnvelope_payment now _) ⟨rfl, rfl, ?_⟩
          exact ⟨_, (payment?_storePayment _ _ _ _).trans (if_pos rfl), rfl, rfl⟩

/-- A payment that is captured or not is one for the reservation. -/
theorem capture_leads {p : Payment} (hp : s.payment? order.paymentId = some p)
    (hfor : p.reservationId = order.reservationId) :
    Leads order s ((Payments.capture now order.paymentId).after s) := by
  rw [Payments.capture_after, hp]
  dsimp only
  cases s.gateway.captureError? (p.transactionId.getD "") p.amount with
  | some e =>
      dsimp only [Hotel.captureFailed]
      cases hfail : p.fail now Payments.captureFailed e.message with
      | error err => exact .of_log rfl
      | ok q =>
          obtain ⟨-, rfl⟩ := Payment.fail_eq_ok_iff.mp hfail
          dsimp only
          cases (s.rejected .capture).payments.updateError? order.paymentId.text with
          | none => exact .offered rfl (Task.of?_toEnvelope_payment now _) hfor
          | some err => exact .offered rfl (Task.of?_toEnvelope_payment now _) hfor
  | none =>
      dsimp only
      cases hcapture : p.capture now with
      | error e => exact .of_log rfl
      | ok q =>
          obtain ⟨-, rfl⟩ := Payment.capture_eq_ok_iff.mp hcapture
          cases s.payments.updateError? order.paymentId.text with
          | some err => exact .of_log rfl
          | none => exact .offered rfl (Task.of?_toEnvelope_payment now _) hfor

/-- Whatever a task leads to, it leads on in the same booking. -/
theorem perform_leads {task : Task} (h : s.Awaits order task) :
    Leads order s ((task.perform now).after s) := by
  cases task with
  | authorize id total =>
      obtain ⟨rfl, rfl⟩ := h
      rw [Task.perform, after_return]
      exact authorize_leads now order s
  | capture id reservationId =>
      obtain ⟨rfl, rfl, p, hp, hfor, -⟩ := h
      have hcapture := capture_leads now hp hfor
      rw [Task.perform, after_return, Booking.onAuthorized_after]
      cases hanswer : Payments.capture now order.paymentId s with
      | ok q t =>
          rw [after_of_ok hanswer] at hcapture
          exact hcapture
      | error e t =>
          rw [after_of_error hanswer] at hcapture
          have hcancelled : t.Announces [ReservationEvent.cancelledTopic] ((Reservations.cancel now
              order.reservationId BookingStep.captureFailedReason).after t) :=
            Reservations.modify_announces now t _ _ fun _ => rfl
          have hpayments : ((Reservations.cancel now order.reservationId
              BookingStep.captureFailedReason).after t).payments = t.payments :=
            Reservations.modify_moves now reservations_keep_payments _ _ _ t
          refine hcapture.of_tasks (tasks_of_announces hcancelled (by decide)) ?_
          rw [payment?, hpayments, payment?]
  | confirm id =>
      rw [Task.perform, after_return]
      exact .inl (tasks_of_announces (Booking.onCaptured_announces now s id) (by decide))
  | cancel id reason =>
      have hcancelled : s.Announces [ReservationEvent.cancelledTopic]
          ((Reservations.cancel now id reason).after s) :=
        Reservations.modify_announces now s _ _ fun _ => rfl
      rw [Task.perform, after_return, Booking.onFailed, after_mapError]
      exact .inl (tasks_of_announces hcancelled (by decide))

namespace Holds

theorem modify (h : s.Holds order) (id : ReservationId)
    {f : Reservation → Except ReservationError Reservation} (event : Reservation → ReservationEvent)
    (hf : ∀ r r', f r = .ok r' → r.Becomes r') :
    ((Reservations.modify now id f event).after s).Holds order := by
  rcases Reservations.modify_reservations now s id event hf with hsame | ⟨r, r', hr, hbecomes, hstored⟩
  · exact h.of_reservations hsame
  · obtain ⟨held, hheld, hroom, hstay⟩ := h
    have hread := reservation?_of_eq (s := s.storeReservation id r') hstored order.reservationId
    rw [reservation?_storeReservation] at hread
    by_cases hid : id = order.reservationId
    · cases hid
      cases hr.symm.trans hheld
      exact ⟨r', hread.trans (if_pos rfl), hbecomes.roomId.trans hroom, hbecomes.stay.trans hstay⟩
    · exact ⟨held, (hread.trans (if_neg hid)).trans hheld, hroom, hstay⟩

theorem cancel (h : s.Holds order) (id : ReservationId) (reason : String) :
    ((Reservations.cancel now id reason).after s).Holds order :=
  h.modify now id _ fun _ _ => .of_cancel

/-- No task takes a reservation to another room or another time. -/
theorem perform (h : s.Holds order) (task : Task) : ((task.perform now).after s).Holds order := by
  cases task with
  | authorize id total =>
      rw [Task.perform, after_return, Booking.onCreated, after_mapError]
      exact h.of_reservations (authorize_reservations now s _)
  | capture id reservationId =>
      have hcapture := h.of_reservations (capture_reservations now s id)
      rw [Task.perform, after_return, Booking.onAuthorized_after]
      cases hanswer : Payments.capture now id s with
      | ok q t =>
          rw [after_of_ok hanswer] at hcapture
          exact hcapture
      | error e t =>
          rw [after_of_error hanswer] at hcapture
          exact hcapture.cancel now reservationId _
  | confirm id =>
      have hconfirmed : ((Reservations.change now .confirm id).after s).Holds order :=
        h.modify now id _ fun _ _ => .of_change
      rw [Task.perform, after_return]
      exact hconfirmed.of_reservations (onCaptured_reservations now s id)
  | cancel id reason =>
      rw [Task.perform, after_return, Booking.onFailed, after_mapError]
      exact h.cancel now id reason

end Holds

/-- Only tasks count: nothing comes of any other envelope. -/
theorem foldl_react_eq (batch : List Envelope) (s : Hotel) : batch.foldl (react now) s =
    (batch.filterMap Task.of?).foldl (fun t task => (task.perform now).after t) s := by
  induction batch generalizing s with
  | nil => rfl
  | cons e batch ih =>
      rw [List.foldl_cons, ih]
      cases htask : Task.of? e with
      | none => rw [react_of_none now htask, List.filterMap_cons_none htask]
      | some task => rw [react_of_task now htask, List.filterMap_cons_some htask, List.foldl_cons]

theorem pumpRound_eq_foldl (s : Hotel) :
    s.pumpRound now = s.tasks.foldl (fun t task => (task.perform now).after t) s.drained :=
  foldl_react_eq now s.log.queue s.drained

theorem pump_of_tasks_eq_nil (h : s.tasks = []) : (s.pump now).2 = s.drained := by
  rw [pump_of_idle now fun e he => react_of_none now (List.filterMap_eq_nil_iff.mp h e he) _]

/-- What comes of a booking if nothing else happens. -/
def alone (order : ReservationOrder) (s : Hotel) : Hotel :=
  (((Booking.initiate now order).after s).pump now).2

end Hotel

namespace Booking

open Hotel (Beside)

/-- A booking begun in `s`, and how far it has come alone. -/
structure Course (now : Instant) (s : Hotel) where
  order : ReservationOrder
  hotel : Hotel
  changes : List Change
  isFor : ∀ d ∈ changes, d.IsFor order
  bare_eq : hotel.bare = s.bare.changedAll changes
  next : hotel.tasks = [] ∨ ∃ task, hotel.tasks = [task] ∧ hotel.Awaits order task
  stored : hotel.reservation? order.reservationId = s.reservation? order.reservationId ∧
      hotel.tasks = [] ∨
    s.reservation? order.reservationId = none ∧ hotel.Holds order
  outcome : (hotel.pump now).2 = s.alone now order

namespace Course

variable {now : Instant} {s : Hotel} {task : Task}

/-- The first step of a booking. -/
theorem exists_begun (now : Instant) (order : ReservationOrder) (hqueue : s.log.queue = []) :
    ∃ c : Course now s, c.order = order ∧ c.hotel = (initiate now order).after s := by
  have hbegin : Beside order [] [] s s s := .begin rfl rfl
  obtain ⟨ds, hds, hbare⟩ := (initiate_agree now (by simp) hbegin Iff.rfl).after.altered
  have htasks : s.tasks = [] := by
    rw [Hotel.tasks, hqueue]
    rfl
  rcases Hotel.initiate_cases now order s with ⟨hsame, hnone⟩ | ⟨hnew, hheld, hleads⟩
  · have hidle := hnone.trans htasks
    let c : Course now s := {
      order, hotel := (initiate now order).after s
      changes := ds, isFor := hds, bare_eq := hbare, next := .inl hidle
      stored := .inl ⟨Hotel.reservation?_of_eq hsame _, hidle⟩, outcome := rfl }
    exact ⟨c, rfl, rfl⟩
  · rw [Hotel.Leads, htasks] at hleads
    let c : Course now s := {
      order, hotel := (initiate now order).after s
      changes := ds, isFor := hds, bare_eq := hbare, next := hleads
      stored := .inr ⟨hnew, hheld⟩, outcome := rfl }
    exact ⟨c, rfl, rfl⟩

variable (c : Course now s)

/-- A task of the booking is the only one. -/
theorem next_of_mem (htask : task ∈ c.hotel.tasks) :
    c.hotel.tasks = [task] ∧ c.hotel.drained.Awaits c.order task := by
  rcases c.next with hnone | ⟨task', htasks, hawaits⟩
  · rw [hnone] at htask
    cases htask
  · rw [htasks, List.mem_singleton] at htask
    exact htask ▸ ⟨htasks, hawaits.of_payment? rfl⟩

/-- Every later step. -/
theorem exists_next (htask : task ∈ c.hotel.tasks) : ∃ d : Course now s, d.order = c.order ∧
    d.hotel = (task.perform now).after c.hotel.drained := by
  obtain ⟨htasks, hawaits⟩ := c.next_of_mem htask
  have hbegin : Beside c.order [] [] s c.hotel.drained c.hotel.drained :=
    ⟨⟨c.changes, c.isFor, c.bare_eq⟩, rfl, rfl⟩
  obtain ⟨ds, hds, hbare⟩ := (Task.perform_agree now (by simp) hbegin hawaits).after.altered
  have hround : c.hotel.pumpRound now = (task.perform now).after c.hotel.drained := by
    rw [Hotel.pumpRound_eq_foldl, htasks]
    rfl
  have hqueue : c.hotel.log.queue ≠ [] := by
    intro hempty
    rw [Hotel.tasks, hempty] at htasks
    cases htasks
  have houtcome := c.outcome
  rw [Hotel.pump_of_queue now hqueue, hround] at houtcome
  -- A booking that has something left to do is one that has begun.
  rcases c.stored with ⟨-, hnone⟩ | ⟨hnew, hheld⟩
  · rw [hnone] at htask
    cases htask
  · have hheld' : c.hotel.drained.Holds c.order := hheld.of_reservations rfl
    let d : Course now s := {
      order := c.order, hotel := (task.perform now).after c.hotel.drained
      changes := ds, isFor := hds, bare_eq := hbare
      next := Hotel.perform_leads now hawaits
      stored := .inr ⟨hnew, hheld'.perform now task⟩, outcome := houtcome }
    exact ⟨d, rfl, rfl⟩

/-- Nothing more is done once nothing is left to do. -/
theorem bare_of_tasks_eq_nil (h : c.hotel.tasks = []) : c.hotel.bare = (s.alone now c.order).bare := by
  rw [← c.outcome, Hotel.pump_of_tasks_eq_nil now h]
  rfl

end Course
end Booking
end HotelBooking
