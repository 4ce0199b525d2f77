import HotelBooking.Proofs.Delivery
import HotelBooking.Proofs.Handling
import Mathlib.Algebra.GroupWithZero.Nat

/-!
# How events die out

Handling an event publishes events of later stages only, and no more of them than the event is worth.
So the queue runs empty, whatever it held at first: after at most four rounds, in which each envelope is
handled once, in the order of publication (`Hotel.pump_drains`).
-/

namespace HotelBooking

open HotelBooking.Action

namespace EventLog

/-- The log after the envelopes were published, too. -/
@[simps] def appendAll (es : List Envelope) (l : EventLog) : EventLog :=
  { l with queue := l.queue ++ es }

theorem appendAll_nil (l : EventLog) : l.appendAll [] = l := by
  simp [appendAll]

theorem appendAll_appendAll (es es' : List Envelope) (l : EventLog) :
    (l.appendAll es).appendAll es' = l.appendAll (es ++ es') := by
  simp [appendAll]

end EventLog

namespace Hotel

/-- The system after the queue was taken. -/
@[simps] def drained (s : Hotel) : Hotel := { s with log := s.log.drain }

theorem drained_of_queue {s : Hotel} (hqueue : s.log.queue = []) : s.drained = s := by
  obtain ⟨r, p, g, ⟨taken, queue, refused⟩, n, m⟩ := s
  cases hqueue
  simp [drained, EventLog.drain]

theorem sameButQueue_drained (s : Hotel) : SameButQueue s.drained s where
  reservations := rfl
  payments := rfl
  gateway := rfl
  log := by simp [drained, EventLog.drain]
  notifier := rfl
  metrics := rfl

theorem SameButQueue.drained_eq {s t : Hotel} (h : SameButQueue s t) : s.drained = t.drained := by
  rw [drained, drained, h.reservations, h.payments, h.gateway, h.log, h.notifier, h.metrics]

/-- At most one envelope was published in between, on one of the topics. -/
def Announces (topics : List String) (s t : Hotel) : Prop :=
  t.log = s.log ∨ ∃ e, e.topic ∈ topics ∧ t.log = s.log.append e

theorem offered_announces {topics : List String} {s t : Hotel} (hlog : t.log = s.log) {e : Envelope}
    (he : e.topic ∈ topics) : s.Announces topics (t.offered e) := by
  unfold offered
  cases t.log.publishError? e.topic with
  | some err => exact .inl hlog
  | none => exact .inr ⟨e, he, by rw [published_log, hlog]⟩

end Hotel

open Hotel (Announces)

section
variable (now : Instant) (s : Hotel)

theorem Reservations.modify_announces (id : ReservationId)
    (f : Reservation → Except ReservationError Reservation) {event : Reservation → ReservationEvent}
    {topic : String} (htopic : ∀ r, (event r).topic = topic) :
    s.Announces [topic] ((modify now id f event).after s) := by
  rw [modify_after]
  cases s.reservation? id with
  | none => exact .inl rfl
  | some r =>
      dsimp only
      cases f r with
      | error e => exact .inl rfl
      | ok r' =>
          cases s.reservations.updateError? id.text with
          | some e => exact .inl rfl
          | none => exact Hotel.offered_announces rfl (List.mem_singleton.mpr (htopic r'))

theorem Payments.authorize_announces (order : PaymentOrder) :
    s.Announces [PaymentEvent.authorizedTopic, PaymentEvent.failedTopic]
      ((authorize now order).after s) := by
  rw [authorize_after]
  cases s.gateway.authorizeError? with
  | some e =>
      cases s.payments.createError? order.paymentId.text with
      | some err => exact .inl rfl
      | none => exact Hotel.offered_announces rfl (List.mem_cons_of_mem _ (List.mem_singleton_self _))
  | none =>
      cases s.payments.createError? order.paymentId.text with
      | some err => exact .inl rfl
      | none => exact Hotel.offered_announces rfl (List.mem_cons_self ..)

theorem Hotel.captureFailed_announces (id : PaymentId) (e : GatewayError) (p : Payment) :
    s.Announces [PaymentEvent.failedTopic] (s.captureFailed now id e p) := by
  unfold captureFailed
  cases p.fail now Payments.captureFailed e.message with
  | error err => exact .inl rfl
  | ok q =>
      dsimp only
      cases s.payments.updateError? id.text with
      | none => exact offered_announces rfl (List.mem_singleton_self _)
      | some err => exact offered_announces rfl (List.mem_singleton_self _)

theorem Payments.capture_announces (id : PaymentId) :
    s.Announces [Settlement.captured.topic, PaymentEvent.failedTopic] ((capture now id).after s) := by
  rw [capture_after]
  cases s.payment? id with
  | none => exact .inl rfl
  | some p =>
      dsimp only
      cases s.gateway.captureError? (p.transactionId.getD "") p.amount with
      | some e =>
          rcases Hotel.captureFailed_announces now (s.rejected .capture) id e p with
            hlog | ⟨failed, hfailed, hlog⟩
          · exact .inl hlog
          · exact .inr ⟨failed, List.mem_cons_of_mem _ hfailed, hlog⟩
      | none =>
          dsimp only
          cases p.capture now with
          | error e => exact .inl rfl
          | ok q =>
              cases s.payments.updateError? id.text with
              | some err => exact .inl rfl
              | none => exact Hotel.offered_announces rfl (List.mem_cons_self ..)

/-- Telling the guest of the confirmation publishes nothing. -/
theorem Booking.onCaptured_announces (id : ReservationId) :
    s.Announces [ReservationChange.confirm.topic] ((onCaptured now id).after s) := by
  have hnotice (r : Reservation) : (do
      notifyConfirmation r
      return r : Action Hotel BookingError Reservation).Moves (Same Hotel.log) :=
    (Hotel.notifyConfirmation_moves (fun _ _ _ => rfl) r).bind fun _ => .pure _
  have hsame := Moves.after_bind (x := (Reservations.change now .confirm id).mapError
    (BookingError.stepFailed .confirmReservation)) hnotice s
  rw [after_mapError] at hsame
  have hconfirm : s.Announces [ReservationChange.confirm.topic]
      ((Reservations.change now .confirm id).after s) :=
    Reservations.modify_announces now s id _ fun _ => rfl
  rcases hconfirm with hlog | ⟨e, he, hlog⟩
  · exact .inl (hsame.trans hlog)
  · exact .inr ⟨e, he, hsame.trans hlog⟩

end

namespace Booking

/-- How many rounds an event on the topic can keep the system busy. -/
def roundsFrom (topic : String) : Nat :=
  if topic = ReservationEvent.createdTopic then 4
  else if topic = PaymentEvent.authorizedTopic then 3
  else if topic = Settlement.captured.topic ∨ topic = PaymentEvent.failedTopic then 2
  else 1

/-- How many events can come of an event on the topic, itself included. -/
def eventsFrom (topic : String) : Nat :=
  if topic = ReservationEvent.createdTopic then 5
  else if topic = PaymentEvent.authorizedTopic then 4
  else if topic = Settlement.captured.topic ∨ topic = PaymentEvent.failedTopic then 2
  else 1

theorem roundsFrom_pos (topic : String) : 0 < roundsFrom topic := by
  unfold roundsFrom
  split_ifs <;> omega

theorem roundsFrom_le (topic : String) : roundsFrom topic ≤ Hotel.stages := by
  unfold roundsFrom Hotel.stages
  split_ifs <;> omega

theorem eventsFrom_pos (topic : String) : 0 < eventsFrom topic := by
  unfold eventsFrom
  split_ifs <;> omega

theorem eventsFrom_le (topic : String) : eventsFrom topic ≤ 5 := by
  unfold eventsFrom
  split_ifs <;> omega

/-- How many events can come of all of them. -/
def eventsFromAll (es : List Envelope) : Nat := (es.map (eventsFrom ·.topic)).sum

theorem eventsFromAll_cons (e : Envelope) (es : List Envelope) :
    eventsFromAll (e :: es) = eventsFrom e.topic + eventsFromAll es := by
  simp [eventsFromAll]

theorem eventsFromAll_append (es es' : List Envelope) :
    eventsFromAll (es ++ es') = eventsFromAll es + eventsFromAll es' := by
  simp [eventsFromAll]

theorem eventsFromAll_le (es : List Envelope) : eventsFromAll es ≤ 5 * es.length := by
  induction es with
  | nil => exact Nat.le_refl _
  | cons e es ih =>
      have he := eventsFrom_le e.topic
      rw [eventsFromAll_cons, List.length_cons]
      omega

/-- From the first state to the second, envelopes were published that come to less than one on the
topic: they are of later stages, and fewer events can come of them. -/
def Sparks (topic : String) (s t : Hotel) : Prop :=
  ∃ es, t.log = s.log.appendAll es ∧ (∀ e ∈ es, roundsFrom e.topic < roundsFrom topic) ∧
    eventsFromAll es < eventsFrom topic

section
variable {topic : String} {s t : Hotel}

theorem Sparks.of_eq (h : t.log = s.log) : Sparks topic s t :=
  ⟨[], by rw [h, EventLog.appendAll_nil], by simp, eventsFrom_pos topic⟩

theorem Sparks.of_announces {topics : List String} (h : s.Announces topics t)
    (htopics : ∀ later ∈ topics, roundsFrom later < roundsFrom topic ∧
      eventsFrom later < eventsFrom topic) : Sparks topic s t := by
  rcases h with hlog | ⟨e, he, hlog⟩
  · exact .of_eq hlog
  · obtain ⟨hrounds, hevents⟩ := htopics e.topic he
    exact ⟨[e], hlog, by simpa using hrounds, by simpa [eventsFromAll] using hevents⟩

/-- Two operations in a row publish at most two envelopes. -/
theorem Sparks.of_announces_announces {u : Hotel} {first : List String} {last : String}
    (h : s.Announces first t) (h' : t.Announces [last] u)
    (htopics : ∀ later ∈ first, roundsFrom later < roundsFrom topic ∧
      eventsFrom later + eventsFrom last < eventsFrom topic)
    (hlast : roundsFrom last < roundsFrom topic ∧ eventsFrom last < eventsFrom topic) :
    Sparks topic s u := by
  rcases h' with hlog' | ⟨e', he', hlog'⟩
  · have hsame : s.Announces first u := h.imp hlog'.trans fun ⟨e, he, hlog⟩ => ⟨e, he, hlog'.trans hlog⟩
    refine .of_announces hsame fun later hlater => ?_
    obtain ⟨hrounds, hevents⟩ := htopics later hlater
    exact ⟨hrounds, by omega⟩
  · rcases h with hlog | ⟨e, he, hlog⟩
    · refine .of_announces (.inr ⟨e', he', by rw [hlog', hlog]⟩) ?_
      simpa using hlast
    · rw [List.mem_singleton] at he'
      obtain ⟨hrounds, hevents⟩ := htopics e.topic he
      refine ⟨[e, e'], ?_, ?_, ?_⟩
      · rw [hlog', hlog]
        simp [EventLog.append, EventLog.appendAll]
      · simpa [he'] using ⟨hrounds, hlast.1⟩
      · simpa [eventsFromAll, he'] using hevents

end

namespace Task

variable (now : Instant) (s : Hotel)

/-- If the capture fails, both the failure and the cancellation can be announced. -/
theorem onAuthorized_sparks (id : PaymentId) (reservationId : ReservationId) :
    Sparks PaymentEvent.authorizedTopic s ((onAuthorized now id reservationId).after s) := by
  have hcaptured := Payments.capture_announces now s id
  rw [onAuthorized_after]
  cases hcapture : Payments.capture now id s with
  | ok p t =>
      rw [after_of_ok hcapture] at hcaptured
      exact .of_announces hcaptured (by decide)
  | error err t =>
      rw [after_of_error hcapture] at hcaptured
      have hcancelled : t.Announces [ReservationEvent.cancelledTopic]
          ((Reservations.cancel now reservationId BookingStep.captureFailedReason).after t) :=
        Reservations.modify_announces now t reservationId _ fun _ => rfl
      exact .of_announces_announces hcaptured hcancelled (by decide) (by decide)

theorem perform_sparks (task : Task) : Sparks task.topic s ((task.perform now).after s) := by
  cases task with
  | authorize id total =>
      rw [perform, after_return, onCreated, after_mapError]
      exact .of_announces (Payments.authorize_announces now s _)
        (show ∀ later ∈ _, roundsFrom later < roundsFrom ReservationEvent.createdTopic ∧
          eventsFrom later < eventsFrom ReservationEvent.createdTopic by decide)
  | capture id reservationId =>
      rw [perform, after_return]
      exact onAuthorized_sparks now s id reservationId
  | confirm id =>
      rw [perform, after_return]
      exact .of_announces (onCaptured_announces now s id)
        (show ∀ later ∈ _, roundsFrom later < roundsFrom Settlement.captured.topic ∧
          eventsFrom later < eventsFrom Settlement.captured.topic by decide)
  | cancel id reason =>
      have hcancelled : s.Announces [ReservationEvent.cancelledTopic]
          ((Reservations.cancel now id reason).after s) :=
        Reservations.modify_announces now s id _ fun _ => rfl
      rw [perform, after_return, onFailed, after_mapError]
      exact .of_announces hcancelled
        (show ∀ later ∈ _, roundsFrom later < roundsFrom PaymentEvent.failedTopic ∧
          eventsFrom later < eventsFrom PaymentEvent.failedTopic by decide)

end Task
end Booking

namespace Hotel

open Booking (Task roundsFrom eventsFromAll)

variable (now : Instant)

theorem react_of_task {e : Envelope} {task : Task} (h : Task.of? e = some task) (s : Hotel) :
    s.react now e = (task.perform now).after s := by
  rcases Task.handle_cases (σ := Hotel) now e with ⟨task', htask, hhandle⟩ | ⟨hnone, -⟩
  · rw [h] at htask
    cases htask
    rw [← hhandle]
    rfl
  · rw [h] at hnone
    contradiction

theorem react_of_none {e : Envelope} (h : Task.of? e = none) (s : Hotel) : s.react now e = s := by
  rcases Task.handle_cases (σ := Hotel) now e with ⟨task, htask, -⟩ | ⟨-, hnothing⟩
  · rw [h] at htask
    contradiction
  · exact hnothing s

/-- What handling an envelope publishes comes to less than the envelope itself. -/
theorem react_sparks (s : Hotel) (e : Envelope) : Booking.Sparks e.topic s (s.react now e) := by
  change Booking.Sparks e.topic s ((Booking.handle now e).after s)
  rcases Task.handle_cases (σ := Hotel) now e with ⟨task, htask, hhandle⟩ | ⟨-, hnothing⟩
  · rw [hhandle, Task.topic_of_of? htask]
    exact task.perform_sparks now s
  · rw [hnothing]
    exact .of_eq rfl

theorem foldl_react_log (batch : List Envelope) (s : Hotel) :
    ∃ es, (batch.foldl (react now) s).log = s.log.appendAll es ∧
      (∀ e' ∈ es, ∃ e ∈ batch, roundsFrom e'.topic < roundsFrom e.topic) ∧
        eventsFromAll es + batch.length ≤ eventsFromAll batch := by
  induction batch generalizing s with
  | nil => exact ⟨[], (EventLog.appendAll_nil _).symm, by simp, Nat.le_refl _⟩
  | cons e batch ih =>
      obtain ⟨es, hlog, hrounds, hevents⟩ := react_sparks now s e
      obtain ⟨es', hlog', hrounds', hevents'⟩ := ih (s.react now e)
      refine ⟨es ++ es', ?_, ?_, ?_⟩
      · rw [List.foldl_cons, hlog', hlog, EventLog.appendAll_appendAll]
      · intro e' he'
        rcases List.mem_append.mp he' with hfirst | hrest
        · exact ⟨e, List.mem_cons_self .., hrounds e' hfirst⟩
        · obtain ⟨e'', he'', hlt⟩ := hrounds' e' hrest
          exact ⟨e'', List.mem_cons_of_mem e he'', hlt⟩
      · rw [Booking.eventsFromAll_append, Booking.eventsFromAll_cons, List.length_cons]
        omega

/-- Everything in the queue is handled, and what is published meanwhile is in the queue then. -/
theorem pumpRound_log (s : Hotel) :
    ∃ es, (s.pumpRound now).log = s.log.drain.appendAll es ∧
      (∀ e' ∈ es, ∃ e ∈ s.log.queue, roundsFrom e'.topic < roundsFrom e.topic) ∧
        eventsFromAll es + s.log.queue.length ≤ eventsFromAll s.log.queue :=
  foldl_react_log now s.log.queue _

/-- The queue is emptied, batch by batch: a batch is all that the queue holds, and each envelope of it is
handled, in order, before the next batch is taken. -/
inductive Drains : Hotel → List (List Envelope) → Hotel → Prop where
  | done {s : Hotel} : s.log.queue = [] → Drains s [] s
  | round {s t u : Hotel} {batches : List (List Envelope)} : s.log.queue ≠ [] →
      Handles now s.drained s.log.queue t → Drains t batches u → Drains s (s.log.queue :: batches) u

namespace Drains

variable {now} {s t t' : Hotel} {batches batches' : List (List Envelope)}

/-- The first batch is handled as the program does it. -/
theorem of_pumpRound (hqueue : s.log.queue ≠ []) (h : Drains now (s.pumpRound now) batches t) :
    Drains now s (s.log.queue :: batches) t :=
  .round hqueue (handles_foldl now s.log.queue s.drained) h

theorem queue_eq_nil (h : Drains now s batches t) : t.log.queue = [] := by
  induction h with
  | done hqueue => exact hqueue
  | round _ _ _ ih => exact ih

theorem unique (h : Drains now s batches t) (h' : Drains now s batches' t') :
    batches = batches' ∧ t = t' := by
  induction h generalizing batches' with
  | done hqueue =>
      cases h' with
      | done => exact ⟨rfl, rfl⟩
      | round hne _ _ => exact absurd hqueue hne
  | round hne hhandles _ ih =>
      cases h' with
      | done hqueue => exact absurd hqueue hne
      | round _ hhandles' hnext =>
          rw [hhandles'.eq_foldl, ← hhandles.eq_foldl] at hnext
          obtain ⟨rfl, rfl⟩ := ih hnext
          exact ⟨rfl, rfl⟩

/-- What is handled is what was in the queue, and then what is published meanwhile. -/
theorem flatten_eq (h : Drains now s batches t) : ∃ published,
    batches.flatten = s.log.queue ++ published ∧ t.log.history = s.log.history ++ published := by
  induction h with
  | done hqueue => exact ⟨[], by simp [hqueue], by simp⟩
  | @round s t u batches _ hhandles _ ih =>
      obtain ⟨published, hflatten, hhistory⟩ := ih
      obtain ⟨es, hlog, -⟩ := pumpRound_log now s
      have hround : t = s.pumpRound now := hhandles.eq_foldl
      rw [hround, hlog] at hflatten hhistory
      refine ⟨es ++ published, ?_, ?_⟩
      · simp [hflatten, EventLog.drain]
      · rw [hhistory]
        simp [EventLog.history, EventLog.drain]

/-- Batch by batch is the same as one after another: taking a batch out of the queue changes nothing else. -/
theorem handles (h : Drains now s batches t) : ∃ u, Handles now s batches.flatten u ∧ t = u.drained := by
  induction h with
  | @done s hqueue => exact ⟨s, .done, (drained_of_queue hqueue).symm⟩
  | @round s t u batches _ hhandles _ ih =>
      obtain ⟨v, hrest, rfl⟩ := ih
      obtain ⟨t', hbatch, ht⟩ := hhandles.related SameButQueue.alike (sameButQueue_drained s)
      obtain ⟨v', hrest', hv⟩ := hrest.related SameButQueue.alike ht
      exact ⟨v', hbatch.append hrest', hv.drained_eq⟩

end Drains

/-- So many rounds are enough. -/
theorem pumpRounds_drains (rounds : Nat) (s : Hotel)
    (hrounds : ∀ e ∈ s.log.queue, roundsFrom e.topic ≤ rounds) :
    ∃ batches, Drains now s batches (pumpRounds now rounds s).2 ∧
      (pumpRounds now rounds s).1 = batches.flatten.map (·.topic) ∧ batches.length ≤ rounds ∧
        batches.flatten.length ≤ eventsFromAll s.log.queue := by
  induction rounds generalizing s with
  | zero =>
      refine ⟨[], .done ?_, rfl, Nat.le_refl _, Nat.zero_le _⟩
      rw [List.eq_nil_iff_forall_not_mem]
      intro e he
      have hpos := Booking.roundsFrom_pos e.topic
      have hzero := hrounds e he
      omega
  | succ rounds ih =>
      rw [pumpRounds]
      split_ifs with hqueue
      · exact ⟨[], .done (List.isEmpty_iff.mp hqueue), rfl, Nat.zero_le _, Nat.zero_le _⟩
      · rw [List.isEmpty_iff] at hqueue
        obtain ⟨es, hlog, hstages, hevents⟩ := pumpRound_log now s
        have hnew : (s.pumpRound now).log.queue = es := by
          rw [hlog]
          rfl
        have hfewer : ∀ e' ∈ (s.pumpRound now).log.queue, roundsFrom e'.topic ≤ rounds := by
          intro e' he'
          obtain ⟨e, he, hlt⟩ := hstages e' (hnew ▸ he')
          have hle := hrounds e he
          omega
        obtain ⟨batches, hdrains, htopics, hlength, hcount⟩ := ih (s.pumpRound now) hfewer
        rw [hnew] at hcount
        refine ⟨s.log.queue :: batches, .of_pumpRound hqueue hdrains, ?_, Nat.succ_le_succ hlength, ?_⟩
        · simp [htopics, EventLog.topics]
        · rw [List.flatten_cons, List.length_append]
          omega

theorem exists_drains (s : Hotel) :
    ∃ batches, Drains now s batches (s.pump now).2 ∧ (s.pump now).1 = batches.flatten.map (·.topic) ∧
      batches.length ≤ stages ∧ batches.flatten.length ≤ eventsFromAll s.log.queue :=
  pumpRounds_drains now stages s fun e _ => Booking.roundsFrom_le e.topic

theorem pump_queue (s : Hotel) : (s.pump now).2.log.queue = [] := by
  obtain ⟨batches, hdrains, -⟩ := exists_drains now s
  exact hdrains.queue_eq_nil

/-- However the queue is seen to run empty, that is what the pump does. -/
theorem pump_of_drains {s t : Hotel} {batches : List (List Envelope)} (h : Drains now s batches t) :
    s.pump now = (batches.flatten.map (·.topic), t) := by
  obtain ⟨batches', hdrains, htopics, -⟩ := exists_drains now s
  obtain ⟨rfl, rfl⟩ := h.unique hdrains
  exact Prod.ext htopics rfl

theorem pump_of_queue {s : Hotel} (hqueue : s.log.queue ≠ []) :
    s.pump now =
      (s.log.topics ++ ((s.pumpRound now).pump now).1, ((s.pumpRound now).pump now).2) := by
  obtain ⟨batches, hdrains, htopics, -⟩ := exists_drains now (s.pumpRound now)
  rw [pump_of_drains now (.of_pumpRound hqueue hdrains), htopics]
  simp [EventLog.topics]

/-- Events that nothing comes of are the last ones. -/
theorem pump_of_idle {s : Hotel} (h : ∀ e ∈ s.log.queue, s.drained.react now e = s.drained) :
    s.pump now = (s.log.topics, s.drained) := by
  by_cases hqueue : s.log.queue = []
  · rw [pump_of_drains now (.done hqueue), drained_of_queue hqueue, EventLog.topics, hqueue]
    rfl
  · have hfold (es : List Envelope) (hes : es ⊆ s.log.queue) :
        es.foldl (react now) s.drained = s.drained := by
      induction es with
      | nil => rfl
      | cons e es ih =>
          rw [List.foldl_cons, h e (hes (List.mem_cons_self ..))]
          exact ih fun e' he' => hes (List.mem_cons_of_mem e he')
    have hround : s.pumpRound now = s.drained := hfold s.log.queue (List.Subset.refl _)
    have hdone : s.drained.pump now = ([], s.drained) := pump_of_drains now (.done rfl)
    rw [pump_of_queue now hqueue, hround, hdone, List.append_nil]

theorem pump_of_single {s : Hotel} {e : Envelope} (hqueue : s.log.queue = [e]) {t : Hotel}
    (hreact : s.drained.react now e = t) :
    s.pump now = (e.topic :: (t.pump now).1, (t.pump now).2) := by
  have hround : s.pumpRound now = t := by
    rw [pumpRound, hqueue]
    exact hreact
  rw [pump_of_queue now (by simp [hqueue]), hround, EventLog.topics, hqueue]
  rfl

/-- The pump comes to an end after at most four batches, whatever the queue holds and whatever fails, and
there is no other way to empty the queue. It handles what was in the queue, in order, then everything
that is published meanwhile, in the order of publication and each envelope once: at most five for each
that was there. It comes to the same as handling them one after another and emptying the queue at the end. -/
theorem pump_drains (s : Hotel) :
    ∃ batches published, Drains now s batches (s.pump now).2 ∧
      (∀ batches' t, Drains now s batches' t → batches' = batches ∧ t = (s.pump now).2) ∧
        batches.length ≤ 4 ∧ (s.pump now).1 = batches.flatten.map (·.topic) ∧
          batches.flatten = s.log.queue ++ published ∧
            batches.flatten.length ≤ 5 * s.log.queue.length ∧
              (∃ t, Handles now s (s.log.queue ++ published) t ∧ (s.pump now).2 = t.drained) ∧
                (s.pump now).2.log.history = s.log.history ++ published ∧
                  (s.pump now).2.log.queue = [] := by
  obtain ⟨batches, hdrains, htopics, hlength, hcount⟩ := exists_drains now s
  obtain ⟨published, hflatten, hhistory⟩ := hdrains.flatten_eq
  have hall := Nat.le_trans hcount (Booking.eventsFromAll_le s.log.queue)
  have hhandles := hdrains.handles
  rw [hflatten] at hhandles
  exact ⟨batches, published, hdrains, fun _ _ h => h.unique hdrains, hlength, htopics, hflatten, hall,
    hhandles, hhistory, hdrains.queue_eq_nil⟩

end Hotel
end HotelBooking
