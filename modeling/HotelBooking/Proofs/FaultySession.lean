import HotelBooking.Proofs.Retries
import HotelBooking.Proofs.Session

/-!
# Retries are bounded

A session with faults: requests to the services, one after the other, with outages, failing connections
and answers laid down for the gateway in between, and a clock that is set forwards or backwards. As long as
stored payments can be changed, a retry that asks the gateway is paid for with a try, and no try is ever
given back (`FaultySession.step_retries`), so the tries of a new payment bound the retries
(`FaultySession.retries_bounded`).
-/

namespace HotelBooking

open HotelBooking.Action

/-- A request to one of the services. -/
inductive Request where
  | complete (order : BookingOrder)
  | initiate (order : ReservationOrder)
  | cancelBooking (id : ReservationId) (reason : String)
  | onAuthorized (id : PaymentId) (reservationId : ReservationId)
  | onCaptured (id : ReservationId)
  | onFailed (id : ReservationId) (reason : String)
  | handle (e : Envelope)
  | createReservation (order : ReservationOrder)
  | changeReservation (c : ReservationChange) (id : ReservationId)
  | cancelReservation (id : ReservationId) (reason : String)
  | authorizePayment (order : PaymentOrder)
  | retryAuthorization (id : PaymentId)
  | capturePayment (id : PaymentId)
  | refundPayment (id : PaymentId)
  | getPayment (id : PaymentId)

namespace Request

variable {σ : Type} [Backend σ] (now : Instant)

/-- What is there after the request, whatever it is answered with. -/
def effect (s : σ) : Request → σ
  | complete order => (Booking.complete now order).after s
  | initiate order => (Booking.initiate now order).after s
  | cancelBooking id reason => (Booking.cancel now id reason).after s
  | onAuthorized id reservationId => (Booking.onAuthorized now id reservationId).after s
  | onCaptured id => (Booking.onCaptured now id).after s
  | onFailed id reason => (Booking.onFailed now id reason).after s
  | handle e => (Booking.handle now e).after s
  | createReservation order => (Reservations.create now order).after s
  | changeReservation c id => (Reservations.change now c id).after s
  | cancelReservation id reason => (Reservations.cancel now id reason).after s
  | authorizePayment order => (Payments.authorize now order).after s
  | retryAuthorization id => (Payments.retryAuthorization now id).after s
  | capturePayment id => (Payments.capture now id).after s
  | refundPayment id => (Payments.refund now id).after s
  | getPayment id => (Payments.get id).after s

theorem effect_moves {R : σ → σ → Prop} [IsPreorder σ R] (h : Booking.ServicesMove R) (s : σ)
    (r : Request) : R s (r.effect now s) := by
  cases r with
  | complete order => exact Booking.complete_moves now h order s
  | initiate order => exact Booking.initiate_moves now h order s
  | cancelBooking id reason => exact Booking.cancel_moves now h id reason s
  | onAuthorized id reservationId => exact Booking.onAuthorized_moves now h id reservationId s
  | onCaptured id => exact Booking.onCaptured_moves now h id s
  | onFailed id reason => exact Booking.onFailed_moves now h id reason s
  | handle e => exact Booking.handle_moves now h e s
  | createReservation order => exact h.createReservation now order s
  | changeReservation c id => exact h.changeReservation now c id s
  | cancelReservation id reason => exact h.cancelReservation now id reason s
  | authorizePayment order => exact h.authorize now order s
  | retryAuthorization id => exact h.retryAuthorization now id s
  | capturePayment id => exact h.capture now id s
  | refundPayment id => exact h.refund now id s
  | getPayment id => exact h.getPayment id s

end Request

/-- The gateway is asked for an authorization. -/
def GatewayRequest.isAuthorization : GatewayRequest → Bool
  | authorize _ => true
  | capture .. => false
  | refund .. => false

/-- A system with faults whose gateway is audited, and the time that its clock shows. -/
structure FaultySession where
  now : Instant
  system : Audited FaultyHotel

namespace FaultySession

/-- What can happen next. -/
inductive Event where
  | request (r : Request)
  | setClock (now : Instant)
  | setOutages (o : Outages)
  | setFault (c : Connection) (fault : Option Fault)
  | layDown (answer : ScriptedAnswer)

/-- Nothing has happened yet. -/
def start (now : Instant) : FaultySession := ⟨now, ⟨{}, []⟩⟩

/-- Something happens to the system that is none of its own doing. -/
def disturb (f : FaultyHotel → FaultyHotel) (x : FaultySession) : FaultySession :=
  { x with system := { x.system with system := f x.system.system } }

def step (x : FaultySession) : Event → FaultySession
  | .request r => { x with system := r.effect x.now x.system }
  | .setClock now => { x with now }
  | .setOutages o => x.disturb fun s => { s with hotel := s.hotel.withOutages o }
  | .setFault c fault => x.disturb (FaultyHotel.setFault c fault)
  | .layDown answer => x.disturb fun s => { s with script := s.script ++ [answer] }

namespace Event

/-- Stored payments can still be changed afterwards. -/
def AllowsChanges : Event → Prop
  | setOutages o => o.paymentChanges = false
  | _ => True

/-- The payment that is tried again. -/
def retried? : Event → Option PaymentId
  | request (.retryAuthorization id) => some id
  | _ => none

theorem retried?_eq_some_iff {e : Event} {id : PaymentId} :
    e.retried? = some id ↔ e = request (.retryAuthorization id) := by
  unfold retried?
  split
  · simp
  · simp_all

end Event

/-- What the gateway is asked while something happens. -/
def callsDuring (x : FaultySession) (e : Event) : List GatewayCall :=
  (x.step e).system.calls.drop x.system.calls.length

/-- How often the gateway is asked for an authorization because the payment is tried again. -/
def retries (id : PaymentId) : FaultySession → List Event → Nat
  | _, [] => 0
  | x, e :: events =>
    (if e.retried? = some id then (x.callsDuring e).countP (·.request.isAuthorization) else 0) +
      retries id (x.step e) events

theorem step_spends (x : FaultySession) {e : Event} (he : e.AllowsChanges)
    (hworks : x.system.payments.refusesUpdate = false) : x.system.Spends (x.step e).system := by
  cases e with
  | request r => exact r.effect_moves x.now Audited.services_spend x.system
  | setOutages o => exact ⟨he.trans hworks.symm, fun _ => Nat.le_refl _⟩
  | _ => exact ⟨rfl, fun _ => Nat.le_refl _⟩

theorem step_retries (x : FaultySession) {e : Event} (he : e.AllowsChanges)
    (hworks : x.system.payments.refusesUpdate = false) (id : PaymentId) :
    (if e.retried? = some id then (x.callsDuring e).countP (·.request.isAuthorization) else 0) +
      (x.step e).system.payments.triesLeft id.text ≤ x.system.payments.triesLeft id.text := by
  have hspends := (x.step_spends he hworks).triesLeft_le id.text
  split_ifs with hretried
  · obtain rfl := Event.retried?_eq_some_iff.mp hretried
    rcases Audited.retryAuthorization_after id x.now x.system with
      ⟨-, hcalls⟩ | ⟨-, ⟨call, hcalls⟩, htries⟩
    · have hnone : x.callsDuring (.request (.retryAuthorization id)) = [] := by
        rw [callsDuring, step, Request.effect, hcalls, List.drop_length]
      rw [hnone, List.countP_nil, Nat.zero_add]
      exact hspends
    · have hone : x.callsDuring (.request (.retryAuthorization id)) = [call] := by
        rw [callsDuring, step, Request.effect, hcalls, List.drop_left]
      rw [hone, ← htries hworks, Nat.add_comm]
      exact Nat.add_le_add_left List.countP_le_length _
  · rwa [Nat.zero_add]

theorem retries_le (x : FaultySession) {events : List Event} (hevents : ∀ e ∈ events, e.AllowsChanges)
    (hworks : x.system.payments.refusesUpdate = false) (id : PaymentId) :
    x.retries id events ≤ x.system.payments.triesLeft id.text := by
  induction events generalizing x with
  | nil => exact Nat.zero_le _
  | cons e events ih =>
      have he := hevents e (List.mem_cons_self ..)
      have hworks' : (x.step e).system.payments.refusesUpdate = false :=
        (x.step_spends he hworks).refusesUpdate.trans hworks
      have hrest := ih (x.step e) (fun e he => hevents e (List.mem_cons_of_mem _ he)) hworks'
      -- what is left after the step pays for the retries still to come
      have hstep := x.step_retries he hworks id
      rw [retries]
      omega

theorem start_triesLeft (now : Instant) (key : String) :
    (start now).system.payments.triesLeft key = Payment.maxFailures - 1 := by
  have hnone : (start now).system.payments.entries[key]? = none := Std.ExtTreeMap.getElem?_empty
  rw [Table.triesLeft, hnone]
  rfl

/-- However often a payment fails and is tried again, retries ask the gateway no more often than failures
are allowed for, but one. A retry is refused by the rules for payments exactly when the stored payment
cannot be tried again, and then nothing is touched. -/
theorem retries_bounded (now : Instant) {events : List Event} (hevents : ∀ e ∈ events, e.AllowsChanges)
    (id : PaymentId) :
    (start now).retries id events ≤ Payment.maxFailures - 1 ∧
      (∀ p : Payment, p.isRetryable = false ↔ ∃ e, p.checkRetryable = .error e) ∧
        ∀ (time : Instant) (a : Audited FaultyHotel),
          ((∃ e b, Payments.retryAuthorization time id a = .error (.payment e) b) ↔
              a.system.Answers .readPayment ∧
                ∃ p, a.system.hotel.payment? id = some p ∧ p.isRetryable = false) ∧
            ∀ e b, Payments.retryAuthorization time id a = .error (.payment e) b →
              a.Untouched b ∧
                ∃ p, a.system.hotel.payment? id = some p ∧ p.checkRetryable = .error e := by
  refine ⟨?_, fun p => p.isRetryable_eq_false_iff, fun time a => ⟨⟨?_, ?_⟩, fun e b hrefused => ?_⟩⟩
  · rw [← start_triesLeft now id.text]
    exact (start now).retries_le hevents rfl id
  · rintro ⟨e, b, hrefused⟩
    obtain ⟨hanswers, -, p, hp, hcheck⟩ := Audited.retryAuthorization_refused id time hrefused
    exact ⟨hanswers, p, hp, p.isRetryable_eq_false_iff.mpr ⟨e, hcheck⟩⟩
  · rintro ⟨hanswers, p, hp, hretryable⟩
    exact Audited.exists_retryAuthorization_refused id time hanswers hp hretryable
  · exact (Audited.retryAuthorization_refused id time hrefused).2

open Sample

/-- The first authorization is declined; after that captures fail. -/
def stubbornCard : List Event :=
  [.layDown (.authorize (.error (.declined "card blocked"))),
    .request (.authorizePayment booking.payment),
    .setOutages { capture := true, topics := {"payment.failed"} },
    .request (.retryAuthorization booking.paymentId),
    .request (.capturePayment booking.paymentId),
    .setClock (day 2),
    .request (.retryAuthorization booking.paymentId),
    .request (.capturePayment booking.paymentId),
    .request (.retryAuthorization booking.paymentId)]

set_option maxRecDepth 10000 in
theorem stubbornCard_retried :
    (∀ e ∈ stubbornCard, e.AllowsChanges) ∧
      (start (day 1)).retries booking.paymentId stubbornCard = Payment.maxFailures - 1 ∧
      (start (day 1)).retries booking.paymentId stubbornCard ≤ Payment.maxFailures - 1 := by
  have hevents : ∀ e ∈ stubbornCard, e.AllowsChanges := by
    simp [stubbornCard, Event.AllowsChanges]
  exact ⟨hevents, by decide +kernel, (retries_bounded (day 1) hevents booking.paymentId).1⟩

end FaultySession
end HotelBooking
