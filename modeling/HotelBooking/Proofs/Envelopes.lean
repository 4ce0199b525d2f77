import HotelBooking.Proofs.Compensation
import HotelBooking.Proofs.Decoding

/-!
# Envelopes are understood

Every event that a reservation or a payment gives rise to comes back from its envelope whole, and handling
that envelope never fails for the envelope's sake. Of other envelopes, those with a topic that is not
subscribed to are ignored and the rest are refused; none of them changes anything
(`Booking.handle_understands`).
-/

namespace HotelBooking

open HotelBooking.Action

/-- What went wrong is not that the event was malformed or unsupported. -/
def BookingError.BeyondEnvelope (e : BookingError) : Prop :=
  ∀ topic, e ≠ .malformedEvent topic ∧ e ≠ .unsupportedEvent topic

/-- Whether an event of the topic is reacted to is a matter of what the event sets off. -/
theorem Booking.Task.ofReservationEvent?_eq_none_iff {e : ReservationEvent} :
    ofReservationEvent? e = none ↔ e.topic ∉ subscribedTopics := by
  cases e with
  | created => simp [ofReservationEvent?, ReservationEvent.topic, subscribedTopics]
  | changed c => cases c <;> exact iff_of_true rfl (by simp only [ReservationEvent.topic]; decide)
  | cancelled => exact iff_of_true rfl (by simp only [ReservationEvent.topic]; decide)

theorem Booking.Task.ofPaymentEvent?_eq_none_iff {e : PaymentEvent} :
    ofPaymentEvent? e = none ↔ e.topic ∉ subscribedTopics := by
  cases e with
  | authorized => simp [ofPaymentEvent?, PaymentEvent.topic, subscribedTopics]
  | settled s =>
      cases s with
      | captured => simp [ofPaymentEvent?, PaymentEvent.topic, subscribedTopics]
      | refunded => exact iff_of_true rfl (by simp only [PaymentEvent.topic]; decide)
  | failed => simp [ofPaymentEvent?, PaymentEvent.topic, subscribedTopics]

namespace DomainEvent

open Booking (Task subscribedTopics)

/-- What kind of thing the event has happened to. -/
def aggregateType : DomainEvent → String
  | reservation _ => "Reservation"
  | payment _ => "Payment"

/-- What the event has happened to. -/
def aggregateId : DomainEvent → String
  | reservation e => e.reservationId.text
  | payment e => e.paymentId.text

def toJson : DomainEvent → Json
  | reservation e => e.toJson
  | payment e => e.toJson

/-- The envelope of the event, field by field. -/
def draft (e : DomainEvent) : EnvelopeDraft where
  topic := some e.topic
  aggregateId := some e.aggregateId
  aggregateType := some e.aggregateType
  payload := some e.toJson

def toEnvelope (now : Instant) : DomainEvent → Envelope
  | reservation e => e.toEnvelope now
  | payment e => e.toEnvelope now

variable (now : Instant)

theorem complete_draft (e : DomainEvent) : e.draft.complete now = .ok (e.toEnvelope now) := by
  cases e <;> rfl

@[simp] theorem topic_toEnvelope (e : DomainEvent) : (e.toEnvelope now).topic = e.topic := by
  cases e <;> rfl

/-- The topic says how the payload is to be read. -/
theorem read?_toEnvelope (e : DomainEvent) :
    read? (e.toEnvelope now).topic (e.toEnvelope now).payload = some e := by
  cases e with
  | reservation e =>
      have hread : ReservationEvent.ofJson? (e.toEnvelope now).payload = some e := e.ofJson?_toJson
      change read? e.topic (e.toEnvelope now).payload = _
      rw [read?_of_mem_reservation e.topic_mem, hread, Option.map_some]
  | payment e =>
      have hread : PaymentEvent.ofJson? (e.toEnvelope now).payload = some e := e.ofJson?_toJson
      change read? e.topic (e.toEnvelope now).payload = _
      rw [read?_of_mem_payment e.topic_mem, hread, Option.map_some]

theorem of?_toEnvelope (e : DomainEvent) : Task.of? (e.toEnvelope now) = Task.ofEvent? e := by
  cases e with
  | reservation e => exact Task.of?_toEnvelope_reservation now e
  | payment e => exact Task.of?_toEnvelope_payment now e

theorem ofEvent?_eq_none_iff {e : DomainEvent} :
    Task.ofEvent? e = none ↔ e.topic ∉ subscribedTopics := by
  cases e with
  | reservation e => exact Task.ofReservationEvent?_eq_none_iff
  | payment e => exact Task.ofPaymentEvent?_eq_none_iff

end DomainEvent

namespace Booking

variable {σ : Type} [Backend σ] (now : Instant)

namespace Task

/-- An envelope asks for something only if its payload is the event that its topic is for. -/
theorem read?_of_of? {e : Envelope} {task : Task} (h : of? e = some task) :
    ∃ event, DomainEvent.read? e.topic e.payload = some event ∧ event.topic = e.topic := by
  unfold of? at h
  split_ifs at h with hcreated
  · obtain ⟨event, hread, htask⟩ := Option.bind_eq_some_iff.mp h
    refine ⟨.reservation event, ?_, ?_⟩
    · rw [DomainEvent.read?_of_mem_reservation (by rw [hcreated]; decide), hread, Option.map_some]
    · cases event <;> cases htask
      exact hcreated.symm
  · obtain ⟨event, hread, -⟩ := Option.bind_eq_some_iff.mp h
    obtain ⟨hread, hsame⟩ := Option.filter_eq_some_iff.mp hread
    have htopic : event.topic = e.topic := of_decide_eq_true hsame
    refine ⟨.payment event, ?_, htopic⟩
    rw [DomainEvent.read?_of_mem_payment (htopic ▸ event.topic_mem), hread, Option.map_some]

theorem handle_of_none {e : Envelope} (h : of? e = none) (s : σ) :
    handle now e s = (ofExcept (refusal e) : Action σ _ _) s := by
  rw [handle_eq, h]

/-- What goes wrong with a task is not the fault of the envelope that asks for it. -/
theorem perform_errorsIn (task : Task) :
    (task.perform now : Action σ _ _).ErrorsIn BookingError.BeyondEnvelope := by
  cases task with
  | authorize id total => exact (ErrorsIn.mapError fun e topic => ⟨nofun, nofun⟩).bind fun p => .pure _
  | capture id reservationId =>
      refine ErrorsIn.bind (ErrorsIn.attempt.bind fun answer => ?_) fun p => .pure _
      cases answer with
      | ok p => exact .pure p
      | error e => exact ErrorsIn.attempt.bind fun answer => .throw fun topic => ⟨nofun, nofun⟩
  | confirm id =>
      refine ErrorsIn.bind ((ErrorsIn.mapError fun e topic => ⟨nofun, nofun⟩).bind fun r => ?_) fun r => .pure _
      exact (ErrorsIn.attempt.bind fun answer => .pure _).bind fun _ => .pure r
  | cancel id reason => exact (ErrorsIn.mapError fun e topic => ⟨nofun, nofun⟩).bind fun r => .pure _

end Task

/-- No envelope of an event is refused. -/
theorem handle_toEnvelope_errorsIn (later : Instant) (event : DomainEvent) :
    (handle later (event.toEnvelope now) : Action σ _ _).ErrorsIn BookingError.BeyondEnvelope := by
  intro s err t h
  rw [Task.handle_eq, event.of?_toEnvelope] at h
  cases htask : Task.ofEvent? event with
  | some task =>
      rw [htask] at h
      exact task.perform_errorsIn later s err t h
  | none =>
      have hignored : Task.refusal (event.toEnvelope now) = .ok .ignored := by
        have hunheard := DomainEvent.ofEvent?_eq_none_iff.mp htask
        rw [Task.refusal, event.topic_toEnvelope, if_neg hunheard]
      rw [htask, hignored] at h
      contradiction

end Booking

/-- The events that a reservation gives rise to. -/
def Reservation.events (r : Reservation) : List DomainEvent :=
  [.ofCreated r, .ofChanged .confirm r, .ofChanged .activate r, .ofChanged .complete r,
    .ofCancelled r].map .reservation

/-- The events that a payment gives rise to. -/
def Payment.events (p : Payment) : List DomainEvent :=
  [.ofAuthorized p, .ofSettled .captured p, .ofSettled .refunded p, .ofFailed p].map .payment

/-- The envelope of the event can be filled in, says what the event is about, can be read back, and is
not refused by any system of the kind `σ`, whatever has happened to that system. -/
structure DomainEvent.Understood (σ : Type) [Backend σ] (now : Instant) (aggregateType aggregateId : String)
    (event : DomainEvent) : Prop where
  complete : event.draft.complete now = .ok (event.toEnvelope now)
  aggregateType_eq : (event.toEnvelope now).aggregateType = aggregateType
  aggregateId_eq : (event.toEnvelope now).aggregateId = aggregateId
  read : read? (event.toEnvelope now).topic (event.toEnvelope now).payload = some event
  accepted : ∀ (later : Instant) (s : σ) (topic : String),
    ((Booking.handle later (event.toEnvelope now)).outcome s).1 ≠ .error (.malformedEvent topic) ∧
      ((Booking.handle later (event.toEnvelope now)).outcome s).1 ≠ .error (.unsupportedEvent topic)

section
variable (σ : Type) [Backend σ] (now : Instant)

theorem DomainEvent.understood (event : DomainEvent) :
    event.Understood σ now event.aggregateType event.aggregateId where
  complete := event.complete_draft now
  aggregateType_eq := by cases event <;> rfl
  aggregateId_eq := by cases event <;> rfl
  read := event.read?_toEnvelope now
  accepted later s topic := by
    have hbeyond {err : BookingError}
        (h : ((Booking.handle later (event.toEnvelope now)).outcome s).1 = .error err) :
        err.BeyondEnvelope :=
      Booking.handle_toEnvelope_errorsIn now later event s err _ (eq_error_of_outcome h)
    exact ⟨fun h => (hbeyond h topic).1 rfl, fun h => (hbeyond h topic).2 rfl⟩

theorem Reservation.understood_of_mem_events (r : Reservation) {event : DomainEvent} (h : event ∈ r.events) :
    event.Understood σ now "Reservation" r.id.text := by
  obtain ⟨e, he, rfl⟩ := List.mem_map.mp h
  have hsubject : e.reservationId = r.id := by
    simp only [List.mem_cons, List.not_mem_nil, or_false] at he
    rcases he with rfl | rfl | rfl | rfl | rfl <;> rfl
  exact hsubject ▸ DomainEvent.understood σ now (.reservation e)

theorem Payment.understood_of_mem_events (p : Payment) {event : DomainEvent} (h : event ∈ p.events) :
    event.Understood σ now "Payment" p.id.text := by
  obtain ⟨e, he, rfl⟩ := List.mem_map.mp h
  have hsubject : e.paymentId = p.id := by
    simp only [List.mem_cons, List.not_mem_nil, or_false] at he
    rcases he with rfl | rfl | rfl | rfl <;> rfl
  exact hsubject ▸ DomainEvent.understood σ now (.payment e)

end

namespace Booking

variable (σ : Type) [Backend σ] (now : Instant)

/-- Whatever a reservation or a payment announces is understood. An envelope with a topic that is not
subscribed to is ignored, one whose payload cannot be read is malformed and one with the event of another
topic is unsupported; the system is then the same as before. -/
theorem handle_understands :
    (∀ r : Reservation, ∀ event ∈ r.events, event.Understood σ now "Reservation" r.id.text) ∧
      (∀ p : Payment, ∀ event ∈ p.events, event.Understood σ now "Payment" p.id.text) ∧
      ∀ (e : Envelope) (s : σ),
        (e.topic ∉ subscribedTopics → handle now e s = .ok .ignored s) ∧
          (e.topic ∈ subscribedTopics → DomainEvent.read? e.topic e.payload = none →
            handle now e s = .error (.malformedEvent e.topic) s) ∧
            ∀ event, e.topic ∈ subscribedTopics → DomainEvent.read? e.topic e.payload = some event →
              event.topic ≠ e.topic → handle now e s = .error (.unsupportedEvent e.topic) s := by
  refine ⟨fun r event h => r.understood_of_mem_events σ now h,
    fun p event h => p.understood_of_mem_events σ now h, fun e s => ⟨?_, ?_, ?_⟩⟩
  · intro hunheard
    have hnothing : Task.of? e = none := by
      refine Option.eq_none_iff_forall_ne_some.mpr fun task htask => hunheard ?_
      exact Task.topic_of_of? htask ▸ task.topic_mem
    rw [Task.handle_of_none now hnothing, Task.refusal, if_neg hunheard, ofExcept_ok]
  · intro hheard hread
    have hnothing : Task.of? e = none := by
      refine Option.eq_none_iff_forall_ne_some.mpr fun task htask => ?_
      obtain ⟨event, hevent, -⟩ := Task.read?_of_of? htask
      rw [hread] at hevent
      contradiction
    rw [Task.handle_of_none now hnothing, Task.refusal, if_pos hheard, hread, ofExcept_error]
  · intro event hheard hread hother
    have hnothing : Task.of? e = none := by
      refine Option.eq_none_iff_forall_ne_some.mpr fun task htask => ?_
      obtain ⟨event', hevent, hsame⟩ := Task.read?_of_of? htask
      rw [hread] at hevent
      cases hevent
      exact hother hsame
    rw [Task.handle_of_none now hnothing, Task.refusal, if_pos hheard, hread, ofExcept_error]

end Booking

namespace Sample

def confirmation : ReservationEvent := .changed .confirm ⟨"res-1"⟩ (day 1)

/-- The confirmation of a reservation under the topic of new ones. -/
def misrouted : Envelope := { confirmation.toEnvelope (day 1) with topic := ReservationEvent.createdTopic }

def garbled : Envelope := { misrouted with topic := PaymentEvent.failedTopic, payload := .list [.null] }

/-- The announcement of a payment that has failed is understood. A confirmation is not listened to, and
under the topic of new reservations it is not supported. -/
theorem envelopes_understood :
    let p := Payment.make (day 1) booking.payment
    let s := (Booking.complete (day 1) booking).after Hotel.empty
    (.payment (.ofFailed p) ∈ p.events ∧
        (DomainEvent.payment (.ofFailed p)).Understood Hotel (day 1) "Payment" "pay-1") ∧
      ((confirmation.toEnvelope (day 1)).topic ∉ Booking.subscribedTopics ∧
        Booking.handle (day 1) (confirmation.toEnvelope (day 1)) s = .ok .ignored s) ∧
      (garbled.topic ∈ Booking.subscribedTopics ∧ DomainEvent.read? garbled.topic garbled.payload = none ∧
        Booking.handle (day 1) garbled s = .error (.malformedEvent PaymentEvent.failedTopic) s) ∧
      misrouted.topic ∈ Booking.subscribedTopics ∧
        DomainEvent.read? misrouted.topic misrouted.payload = some (.reservation confirmation) ∧
        confirmation.topic ≠ misrouted.topic ∧
        Booking.handle (day 1) misrouted s = .error (.unsupportedEvent ReservationEvent.createdTopic) s := by
  intro p s
  have hevent : .payment (.ofFailed p) ∈ p.events := by simp [Payment.events]
  have hunheard : (confirmation.toEnvelope (day 1)).topic ∉ Booking.subscribedTopics := by decide
  have hgarbled : garbled.topic ∈ Booking.subscribedTopics := by decide
  have hmisrouted : misrouted.topic ∈ Booking.subscribedTopics := by decide
  have hread : DomainEvent.read? misrouted.topic misrouted.payload = some (.reservation confirmation) := by
    rw [DomainEvent.read?_of_mem_reservation (by decide)]
    exact congrArg (Option.map _) confirmation.ofJson?_toJson
  obtain ⟨-, hpayment, henvelope⟩ := Booking.handle_understands Hotel (day 1)
  exact ⟨⟨hevent, hpayment p _ hevent⟩, ⟨hunheard, (henvelope _ s).1 hunheard⟩,
    ⟨hgarbled, rfl, (henvelope _ s).2.1 hgarbled rfl⟩,
    hmisrouted, hread, by decide, (henvelope _ s).2.2 _ hmisrouted hread (by decide)⟩

end Sample
end HotelBooking
