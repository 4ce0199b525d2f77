import HotelBooking.Booking.Reaction
import HotelBooking.Proofs.Action
import HotelBooking.Proofs.TimeText

/-!
# Reading back what was written

Identifiers, money and events are read back from their JSON as they were written. So an envelope asks
for exactly what its event sets off (`Task.of?`). One that asks for nothing gets an answer that its topic
and its payload alone decide (`Task.refusal`).
-/

namespace HotelBooking

open Json (required)

@[simp] theorem Json.tagged?_tagged (name : String) (data : Json) :
    (Json.tagged name data).tagged? = some (name, data) := by
  simp [Json.tagged, Json.tagged?, Json.fields?, Json.alternative?, List.lookup_cons]

@[simp] theorem ReservationId.ofJson?_toJson (id : ReservationId) : ofJson? id.toJson = some id := rfl

@[simp] theorem GuestId.ofJson?_toJson (id : GuestId) : ofJson? id.toJson = some id := rfl

@[simp] theorem RoomId.ofJson?_toJson (id : RoomId) : ofJson? id.toJson = some id := rfl

@[simp] theorem PaymentId.ofJson?_toJson (id : PaymentId) : ofJson? id.toJson = some id := rfl

@[simp] theorem Money.ofJson?_toJson (m : Money) : ofJson? m.toJson = some m := by
  simp [toJson, ofJson?, Json.fields?, List.lookup_cons, required, Json.int64?, word?_toInt, Json.text?]

namespace ReservationEvent

theorem ofJson?_toJson (e : ReservationEvent) : ofJson? e.toJson = some e := by
  cases e with
  | created id guestId roomId stay total t =>
      simp [toJson, ofJson?, createdOfJson?, Json.fields?, List.lookup_cons, required]
  | changed c id t =>
      cases c <;>
        simp [toJson, ofJson?, changedOfJson?, Json.fields?, List.lookup_cons, required,
          ReservationChange.all, ReservationChange.eventName]
  | cancelled id reason t =>
      simp [toJson, ofJson?, cancelledOfJson?, Json.fields?, List.lookup_cons, required, Json.text?]

/-- The topics of reservation events. -/
def topics : List String := [createdTopic, cancelledTopic] ++ ReservationChange.all.map (·.topic)

theorem topic_mem (e : ReservationEvent) : e.topic ∈ topics := by
  cases e with
  | created => simp [topics, topic]
  | changed c => cases c <;> simp [topics, topic, ReservationChange.all]
  | cancelled => simp [topics, topic]

end ReservationEvent

namespace PaymentEvent

theorem ofJson?_toJson (e : PaymentEvent) : ofJson? e.toJson = some e := by
  cases e with
  | authorized id reservationId transactionId amount t =>
      simp [toJson, ofJson?, authorizedOfJson?, Json.fields?, List.lookup_cons, required, Json.text?]
  | settled s id reservationId amount t =>
      cases s <;>
        simp [toJson, ofJson?, settledOfJson?, Json.fields?, List.lookup_cons, required, Settlement.all,
          Settlement.eventName]
  | failed id reservationId code message t =>
      simp [toJson, ofJson?, failedOfJson?, Json.fields?, List.lookup_cons, required, Json.text?]

/-- The topics of payment events. -/
def topics : List String := [authorizedTopic, failedTopic] ++ Settlement.all.map (·.topic)

theorem topic_mem (e : PaymentEvent) : e.topic ∈ topics := by
  cases e with
  | authorized => simp [topics, topic]
  | settled s => cases s <;> simp [topics, topic, Settlement.all]
  | failed => simp [topics, topic]

/-- No event on payments has the topic of one on reservations. -/
theorem topic_ne (e : PaymentEvent) (e' : ReservationEvent) : e.topic ≠ e'.topic := by
  have hdisjoint : ∀ t ∈ topics, t ∉ ReservationEvent.topics := by decide
  intro h
  exact hdisjoint _ e.topic_mem (h ▸ e'.topic_mem)

theorem topic_ne_createdTopic (e : PaymentEvent) : e.topic ≠ ReservationEvent.createdTopic := by
  have hcreated : ReservationEvent.createdTopic ∉ topics := by decide
  intro h
  exact hcreated (h ▸ e.topic_mem)

end PaymentEvent

/-- What is announced: an event on a reservation or on a payment. -/
inductive DomainEvent where
  | reservation (e : ReservationEvent)
  | payment (e : PaymentEvent)
  deriving DecidableEq

namespace DomainEvent

def topic : DomainEvent → String
  | reservation e => e.topic
  | payment e => e.topic

/-- The payload as an event of the kind that the topic is for. -/
def read? (topic : String) (payload : Json) : Option DomainEvent :=
  if topic ∈ ReservationEvent.topics then (ReservationEvent.ofJson? payload).map reservation
  else if topic ∈ PaymentEvent.topics then (PaymentEvent.ofJson? payload).map payment
  else none

theorem read?_of_mem_reservation {t : String} (h : t ∈ ReservationEvent.topics) (payload : Json) :
    read? t payload = (ReservationEvent.ofJson? payload).map reservation :=
  if_pos h

theorem read?_of_mem_payment {t : String} (h : t ∈ PaymentEvent.topics) (payload : Json) :
    read? t payload = (PaymentEvent.ofJson? payload).map payment := by
  have hdisjoint : ∀ t ∈ PaymentEvent.topics, t ∉ ReservationEvent.topics := by decide
  rw [read?, if_neg (hdisjoint t h), if_pos h]

end DomainEvent

namespace Booking

/-- What an envelope can ask for. -/
inductive Task where
  | authorize (id : ReservationId) (total : Money)
  | capture (id : PaymentId) (reservationId : ReservationId)
  | confirm (id : ReservationId)
  | cancel (id : ReservationId) (reason : String)

namespace Task

/-- What a reservation event sets off. -/
def ofReservationEvent? : ReservationEvent → Option Task
  | .created id _ _ _ total _ => some (.authorize id total)
  | .changed .. | .cancelled .. => none

/-- What a payment event sets off. -/
def ofPaymentEvent? : PaymentEvent → Option Task
  | .authorized id reservationId _ _ _ => some (.capture id reservationId)
  | .settled .captured _ reservationId _ _ => some (.confirm reservationId)
  | .settled .refunded .. => none
  | .failed _ reservationId code message _ =>
    some (.cancel reservationId (failureReason code message))

/-- What an event sets off. -/
def ofEvent? : DomainEvent → Option Task
  | .reservation e => ofReservationEvent? e
  | .payment e => ofPaymentEvent? e

/-- What the envelope asks for, if its payload is the event that its topic is for. -/
def of? (e : Envelope) : Option Task :=
  if e.topic = ReservationEvent.createdTopic then
    (ReservationEvent.ofJson? e.payload).bind ofReservationEvent?
  else ((PaymentEvent.ofJson? e.payload).filter (·.topic = e.topic)).bind ofPaymentEvent?

/-- The topic of the envelopes that ask for the task. -/
def topic : Task → String
  | authorize .. => ReservationEvent.createdTopic
  | capture .. => PaymentEvent.authorizedTopic
  | confirm _ => Settlement.captured.topic
  | cancel .. => PaymentEvent.failedTopic

theorem topic_of_of? {e : Envelope} {task : Task} (h : of? e = some task) : e.topic = task.topic := by
  unfold of? at h
  split_ifs at h with hcreated
  · obtain ⟨event, -, htask⟩ := Option.bind_eq_some_iff.mp h
    cases event <;> cases htask
    exact hcreated
  · obtain ⟨event, hread, htask⟩ := Option.bind_eq_some_iff.mp h
    obtain ⟨-, hsame⟩ := Option.filter_eq_some_iff.mp hread
    rw [← of_decide_eq_true hsame]
    cases event with
    | authorized =>
        cases htask
        rfl
    | settled settlement =>
        cases settlement <;> cases htask
        rfl
    | failed =>
        cases htask
        rfl

theorem topic_mem (task : Task) : task.topic ∈ subscribedTopics := by
  cases task <;> simp [topic, subscribedTopics]

/-- The envelope of a reservation event asks for what the event sets off, and for nothing else. -/
theorem of?_toEnvelope_reservation (now : Instant) (e : ReservationEvent) :
    of? (e.toEnvelope now) = ofReservationEvent? e := by
  have hread : ReservationEvent.ofJson? (e.toEnvelope now).payload = some e := e.ofJson?_toJson
  unfold of?
  split_ifs with htopic
  · rw [hread, Option.bind_some]
  · have hnone : ofReservationEvent? e = none := by
      cases e with
      | created id guestId roomId stay total t => exact absurd rfl htopic
      | changed c id t => rfl
      | cancelled id reason t => rfl
    rw [hnone, Option.bind_eq_none_iff]
    intro e' he'
    obtain ⟨-, hsame⟩ := Option.filter_eq_some_iff.mp he'
    exact absurd (of_decide_eq_true hsame) (e'.topic_ne e)

theorem of?_toEnvelope_payment (now : Instant) (e : PaymentEvent) :
    of? (e.toEnvelope now) = ofPaymentEvent? e := by
  have hread : PaymentEvent.ofJson? (e.toEnvelope now).payload = some e := e.ofJson?_toJson
  have htopic : (e.toEnvelope now).topic ≠ ReservationEvent.createdTopic := e.topic_ne_createdTopic
  have hsame : decide (e.topic = (e.toEnvelope now).topic) = true := decide_eq_true rfl
  rw [of?, if_neg htopic, hread, Option.filter_some, if_pos hsame, Option.bind_some]

section
variable {now : Instant} {task : Task}

theorem of?_reservationEvent {e : ReservationEvent} (h : of? (e.toEnvelope now) = some task) :
    ofReservationEvent? e = some task :=
  of?_toEnvelope_reservation now e ▸ h

theorem of?_paymentEvent {e : PaymentEvent} (h : of? (e.toEnvelope now) = some task) :
    ofPaymentEvent? e = some task :=
  of?_toEnvelope_payment now e ▸ h

end

variable {σ : Type} [Backend σ] (now : Instant)

/-- Doing what an envelope asks for. -/
def perform : Task → Action σ BookingError Reaction
  | authorize id total => do return .paymentAuthorized (← onCreated now id total)
  | capture id reservationId => do return .paymentCaptured (← onAuthorized now id reservationId)
  | confirm id => do return .reservationConfirmed (← onCaptured now id)
  | cancel id reason => do return .reservationCancelled (← onFailed now id reason)

/-- The answer to an envelope that asks for nothing. -/
def refusal (e : Envelope) : Except BookingError Reaction :=
  if e.topic ∈ subscribedTopics then
    match DomainEvent.read? e.topic e.payload with
    | some _ => .error (.unsupportedEvent e.topic)
    | none => .error (.malformedEvent e.topic)
  else .ok .ignored

theorem refusal_of_reservation {e : Envelope} (h : e.topic ∈ subscribedTopics)
    (htopic : e.topic ∈ ReservationEvent.topics) :
    refusal e = match ReservationEvent.ofJson? e.payload with
      | some _ => .error (.unsupportedEvent e.topic)
      | none => .error (.malformedEvent e.topic) := by
  rw [refusal, if_pos h, DomainEvent.read?_of_mem_reservation htopic]
  cases ReservationEvent.ofJson? e.payload <;> rfl

theorem refusal_of_payment {e : Envelope} (h : e.topic ∈ subscribedTopics)
    (htopic : e.topic ∈ PaymentEvent.topics) :
    refusal e = match PaymentEvent.ofJson? e.payload with
      | some _ => .error (.unsupportedEvent e.topic)
      | none => .error (.malformedEvent e.topic) := by
  rw [refusal, if_pos h, DomainEvent.read?_of_mem_payment htopic]
  cases PaymentEvent.ofJson? e.payload <;> rfl

/-- Handling an envelope is doing what it asks for; one that asks for nothing is only answered. -/
theorem handle_eq (e : Envelope) :
    (handle now e : Action σ _ _) = match of? e with
      | some task => task.perform now
      | none => Action.ofExcept (refusal e) := by
  unfold handle of?
  split_ifs with hcreated hauthorized hcaptured hfailed
  · rw [refusal_of_reservation (by rw [hcreated]; decide) (by rw [hcreated]; decide)]
    cases ReservationEvent.ofJson? e.payload with
    | none => rfl
    | some event => cases event <;> rfl
  · rw [refusal_of_payment (by rw [hauthorized]; decide) (by rw [hauthorized]; decide), hauthorized]
    cases PaymentEvent.ofJson? e.payload with
    | none => rfl
    | some event =>
        cases event with
        | authorized id reservationId transactionId amount t => rfl
        | settled s id reservationId amount t => cases s <;> rfl
        | failed id reservationId code message t => rfl
  · rw [refusal_of_payment (by rw [hcaptured]; decide) (by rw [hcaptured]; decide), hcaptured]
    cases PaymentEvent.ofJson? e.payload with
    | none => rfl
    | some event =>
        cases event with
        | authorized id reservationId transactionId amount t => rfl
        | settled s id reservationId amount t => cases s <;> rfl
        | failed id reservationId code message t => rfl
  · rw [refusal_of_payment (by rw [hfailed]; decide) (by rw [hfailed]; decide), hfailed]
    cases PaymentEvent.ofJson? e.payload with
    | none => rfl
    | some event =>
        cases event with
        | authorized id reservationId transactionId amount t => rfl
        | settled s id reservationId amount t => cases s <;> rfl
        | failed id reservationId code message t => rfl
  · have hsubscribed : e.topic ∉ subscribedTopics := by
      simp [subscribedTopics, hcreated, hauthorized, hcaptured, hfailed]
    have hnothing : ((PaymentEvent.ofJson? e.payload).filter (·.topic = e.topic)).bind
        ofPaymentEvent? = none := by
      rw [Option.bind_eq_none_iff]
      intro event hevent
      obtain ⟨-, hsame⟩ := Option.filter_eq_some_iff.mp hevent
      have htopic : event.topic = e.topic := of_decide_eq_true hsame
      cases event with
      | authorized id reservationId transactionId amount t => exact absurd htopic.symm hauthorized
      | settled s id reservationId amount t =>
          cases s with
          | captured => exact absurd htopic.symm hcaptured
          | refunded => rfl
      | failed id reservationId code message t => exact absurd htopic.symm hfailed
    rw [hnothing, refusal, if_neg hsubscribed]
    rfl

/-- Handling an envelope is doing what it asks for; if it asks for nothing, nothing happens. -/
theorem handle_cases (e : Envelope) :
    (∃ task, of? e = some task ∧ (handle now e : Action σ _ _) = task.perform now) ∨
      of? e = none ∧ ∀ s : σ, (handle now e : Action σ _ _).after s = s := by
  have heq := handle_eq (σ := σ) now e
  cases htask : of? e with
  | some task =>
      rw [htask] at heq
      exact .inl ⟨task, rfl, heq⟩
  | none =>
      rw [htask] at heq
      refine .inr ⟨rfl, fun s => ?_⟩
      rw [heq]
      cases refusal e <;> rfl

end Task
end Booking
end HotelBooking
