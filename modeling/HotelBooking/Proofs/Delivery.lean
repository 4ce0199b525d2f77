import HotelBooking.Proofs.Decoding
import HotelBooking.Proofs.Frame
import HotelBooking.Proofs.Payments
import HotelBooking.Proofs.Reservations
import HotelBooking.Proofs.Session

/-!
# Booking by events, however they are delivered

Events that the system has announced may be handed back to it late, repeatedly, in any order or not
at all. That is safe because an envelope never asks for more than is warranted by what is stored
(`Hotel.Warrants`), and nothing that warrants it ever goes away: reservations keep their totals, and
captured payments stay as they are (`Hotel.Keeps`). So a reservation is confirmed only after its
amount has been captured.
-/

namespace HotelBooking

open HotelBooking.Action

theorem Booking.paymentIdFor_injective {id other : ReservationId}
    (h : paymentIdFor id = paymentIdFor other) : id = other := by
  obtain ⟨a⟩ := id
  obtain ⟨b⟩ := other
  have htext : "pay-" ++ a = "pay-" ++ b := congrArg PaymentId.text h
  have hlist := congrArg String.toList htext
  rw [String.toList_append, String.toList_append] at hlist
  have hab : a = b := String.toList_inj.mp (List.append_cancel_left hlist)
  rw [hab]

theorem Booking.onAuthorized_after {σ : Type} [Backend σ] (now : Instant) (id : PaymentId)
    (reservationId : ReservationId) (s : σ) :
    (onAuthorized now id reservationId).after s = match Payments.capture now id s with
      | .ok _ t => t
      | .error _ t =>
        (Reservations.cancel now reservationId BookingStep.captureFailedReason).after t := by
  unfold onAuthorized after outcome
  simp only [bind_apply, attempt_apply]
  cases Payments.capture now id s with
  | ok p t => rfl
  | error e t =>
      simp only [bind_apply, attempt_apply]
      cases Reservations.cancel now reservationId BookingStep.captureFailedReason t <;> rfl

namespace Hotel

open Booking (Task paymentIdFor)

/-- What a task relies on: to authorize a payment, a reservation of that total; to capture one, that
it belongs to the reservation; to confirm a reservation, that its payment is captured. -/
def Warrants (s : Hotel) : Task → Prop
  | .authorize id total => ∃ r, s.reservation? id = some r ∧ r.total = total
  | .capture id reservationId => id = paymentIdFor reservationId
  | .confirm id => ∃ p, s.payment? (paymentIdFor id) = some p ∧ p.status = .captured
  | .cancel _ _ => True

/-- Nothing that was announced is lost, nor anything that a task can rely on. -/
structure Keeps (s t : Hotel) : Prop where
  envelope : s.log.history ⊆ t.log.history
  reservation : ∀ {id r}, s.reservation? id = some r →
    ∃ r', t.reservation? id = some r' ∧ r'.total = r.total
  payment : ∀ {id p}, s.payment? id = some p → p.status = .captured → t.payment? id = some p

/-- Every envelope asks for something warranted, reservations are stored under their own identifiers
and confirmed only once paid for, and each payment is for a reservation of that total. -/
structure Accounted (s : Hotel) : Prop where
  envelope : ∀ {e task}, e ∈ s.log.history → Task.of? e = some task → s.Warrants task
  reservation : ∀ {id r}, s.reservation? id = some r →
    r.id = id ∧ (r.status = .confirmed → s.Warrants (.confirm id))
  payment : ∀ {id p}, s.payment? id = some p →
    p.id = id ∧ id = paymentIdFor p.reservationId ∧ s.Warrants (.authorize p.reservationId p.amount)

variable {s₀ s t u : Hotel}

theorem Warrants.mono {task : Task} (h : s.Warrants task) (hk : s.Keeps t) : t.Warrants task := by
  cases task with
  | authorize id total =>
      obtain ⟨r, hr, htotal⟩ := h
      obtain ⟨r', hr', hsame⟩ := hk.reservation hr
      exact ⟨r', hr', hsame.trans htotal⟩
  | capture id reservationId => exact h
  | confirm id =>
      obtain ⟨p, hp, hcaptured⟩ := h
      exact ⟨p, hk.payment hp hcaptured, hcaptured⟩
  | cancel id reason => trivial

namespace Keeps

theorem of_eq (hr : t.reservations.entries = s.reservations.entries)
    (hp : t.payments.entries = s.payments.entries) (hlog : s.log.history ⊆ t.log.history) :
    s.Keeps t where
  envelope := hlog
  reservation := by
    intro id r h
    rw [reservation?, hr]
    exact ⟨r, h, rfl⟩
  payment := by
    intro id p h _
    rw [payment?, hp]
    exact h

theorem storeReservation (id : ReservationId) {r : Reservation}
    (htotal : ∀ old, s.reservation? id = some old → r.total = old.total) :
    s.Keeps (s.storeReservation id r) where
  envelope := List.Subset.refl _
  reservation := by
    intro other old h
    rw [reservation?_storeReservation]
    split_ifs with hid
    · subst hid
      exact ⟨r, rfl, htotal old h⟩
    · exact ⟨old, h, rfl⟩
  payment := by
    intro other p h _
    exact h

theorem storePayment (id : PaymentId) {p : Payment}
    (hopen : ∀ old, s.payment? id = some old → old.status ≠ .captured) :
    s.Keeps (s.storePayment id p) where
  envelope := List.Subset.refl _
  reservation := by
    intro other r h
    exact ⟨r, h, rfl⟩
  payment := by
    intro other old h hcaptured
    rw [payment?_storePayment]
    split_ifs with hid
    · subst hid
      exact absurd hcaptured (hopen old h)
    · exact h

theorem published (e : Envelope) : s.Keeps (s.published e) := by
  refine .of_eq rfl rfl ?_
  intro e' he'
  rcases List.mem_append.mp he' with htaken | hqueue
  · exact List.mem_append_left _ htaken
  · exact List.mem_append_right _ (List.mem_append_left _ hqueue)

theorem trans (h : s.Keeps t) (h' : t.Keeps u) : s.Keeps u where
  envelope := List.Subset.trans h.envelope h'.envelope
  reservation := by
    intro id r hr
    obtain ⟨r', hr', htotal⟩ := h.reservation hr
    obtain ⟨r'', hr'', htotal'⟩ := h'.reservation hr'
    exact ⟨r'', hr'', htotal'.trans htotal⟩
  payment := by
    intro id p hp hcaptured
    exact h'.payment (h.payment hp hcaptured) hcaptured

end Keeps

theorem Accounted.empty : Hotel.empty.Accounted where
  envelope := nofun
  reservation := by
    intro id r h
    simp [reservation?, Hotel.empty] at h
  payment := by
    intro id p h
    simp [payment?, Hotel.empty] at h

/-- From the first state to the second nothing is lost, and all that is new is accounted for. -/
structure Advances (s₀ s : Hotel) : Prop extends Accounted s where
  keeps : s₀.Keeps s

namespace Advances

/-- What is new has to be accounted for; for all the rest it is enough that nothing is lost. -/
theorem of_keeps (h : s₀.Advances s) (hk : s.Keeps t)
    (henvelope : ∀ e ∈ t.log.history, e ∈ s.log.history ∨
      ∀ task, Task.of? e = some task → t.Warrants task)
    (hreservation : ∀ id r, t.reservation? id = some r → s.reservation? id = some r ∨
      r.id = id ∧ (r.status = .confirmed → t.Warrants (.confirm id)))
    (hpayment : ∀ id p, t.payment? id = some p → s.payment? id = some p ∨
      p.id = id ∧ id = paymentIdFor p.reservationId ∧
        t.Warrants (.authorize p.reservationId p.amount)) : s₀.Advances t where
  envelope := by
    intro e task he htask
    rcases henvelope e he with hold | hnew
    · exact (h.envelope hold htask).mono hk
    · exact hnew task htask
  reservation := by
    intro id r hr
    rcases hreservation id r hr with hold | hnew
    · obtain ⟨hid, hpaid⟩ := h.reservation hold
      exact ⟨hid, fun hs => (hpaid hs).mono hk⟩
    · exact hnew
  payment := by
    intro id p hp
    rcases hpayment id p hp with hold | hnew
    · obtain ⟨hid, hfor, htotal⟩ := h.payment hold
      exact ⟨hid, hfor, htotal.mono hk⟩
    · exact hnew
  keeps := h.keeps.trans hk

protected theorem refl (h : s.Accounted) : s.Advances s :=
  ⟨h, .of_eq rfl rfl (List.Subset.refl _)⟩

theorem trans (h : s₀.Advances s) (h' : s.Advances t) : s₀.Advances t :=
  ⟨h'.toAccounted, h.keeps.trans h'.keeps⟩

theorem of_eq (h : s₀.Advances s) (hr : t.reservations.entries = s.reservations.entries)
    (hp : t.payments.entries = s.payments.entries) (hlog : t.log.history = s.log.history) :
    s₀.Advances t := by
  refine h.of_keeps (.of_eq hr hp fun e he => hlog.symm ▸ he) ?_ ?_ ?_
  · intro e he
    exact .inl (hlog ▸ he)
  · intro id r h
    rw [reservation?, hr] at h
    exact .inl h
  · intro id p h
    rw [payment?, hp] at h
    exact .inl h

theorem storeReservation (h : s₀.Advances s) {id : ReservationId} {r : Reservation} (hid : r.id = id)
    (htotal : ∀ old, s.reservation? id = some old → r.total = old.total)
    (hpaid : r.status = .confirmed → s.Warrants (.confirm id)) :
    s₀.Advances (s.storeReservation id r) := by
  have hk : s.Keeps (s.storeReservation id r) := .storeReservation id htotal
  refine h.of_keeps hk (fun e he => .inl he) ?_ (fun other p hp => .inl hp)
  intro other r' hr'
  rw [reservation?_storeReservation] at hr'
  split_ifs at hr' with hother
  · cases hr'
    subst hother
    exact .inr ⟨hid, fun hs => (hpaid hs).mono hk⟩
  · exact .inl hr'

theorem storePayment (h : s₀.Advances s) {id : PaymentId} {p : Payment} (hid : p.id = id)
    (hfor : id = paymentIdFor p.reservationId)
    (hopen : ∀ old, s.payment? id = some old → old.status ≠ .captured)
    (htotal : s.Warrants (.authorize p.reservationId p.amount)) :
    s₀.Advances (s.storePayment id p) := by
  have hk : s.Keeps (s.storePayment id p) := .storePayment id hopen
  refine h.of_keeps hk (fun e he => .inl he) (fun other r hr => .inl hr) ?_
  intro other p' hp'
  rw [payment?_storePayment] at hp'
  split_ifs at hp' with hother
  · cases hp'
    subst hother
    exact .inr ⟨hid, hfor, htotal.mono hk⟩
  · exact .inl hp'

theorem published (h : s₀.Advances s) {e : Envelope}
    (he : ∀ task, Task.of? e = some task → s.Warrants task) : s₀.Advances (s.published e) := by
  have hk : s.Keeps (s.published e) := .published e
  refine h.of_keeps hk ?_ (fun id r hr => .inl hr) (fun id p hp => .inl hp)
  intro e' he'
  have hmem : e' ∈ s.log.history ∨ e' = e := by
    simpa [EventLog.history, or_assoc] using he'
  rcases hmem with hold | rfl
  · exact .inl hold
  · exact .inr fun task htask => (he task htask).mono hk

theorem offered (h : s₀.Advances s) {e : Envelope}
    (he : ∀ task, Task.of? e = some task → s.Warrants task) : s₀.Advances (s.offered e) := by
  unfold Hotel.offered
  cases s.log.publishError? e.topic with
  | none => exact h.published he
  | some err => exact h

theorem create (h : s₀.Advances s) (now : Instant) (order : ReservationOrder) :
    s₀.Advances ((Reservations.create now order).after s) := by
  have hstored (hnew : s.reservation? order.reservationId = none) :
      s₀.Advances (s.storeReservation order.reservationId (.fresh now order)) := by
    refine h.storeReservation rfl ?_ nofun
    intro old hold
    rw [hnew] at hold
    contradiction
  cases hcreate : Reservations.create now order s with
  | ok r t =>
      obtain ⟨-, hmake, hfree, -, rfl⟩ := (Reservations.create_eq_ok_iff now s).mp hcreate
      obtain ⟨-, -, -, rfl⟩ := Reservation.make_eq_ok_iff.mp hmake
      rw [after_of_ok hcreate]
      refine (hstored (Table.createError?_eq_none_iff.mp hfree).2).published ?_
      intro task htask
      cases Task.of?_reservationEvent htask
      refine ⟨_, ?_, rfl⟩
      rw [reservation?_storeReservation]
      exact if_pos rfl
  | error e t =>
      rw [after_of_error hcreate]
      rcases Reservations.create_eq_error now s hcreate with ⟨-, rfl⟩ | ⟨err, -, -, -, hnew, rfl⟩
      · exact h
      · exact hstored hnew

/-- A change of a reservation must not make it dearer, nor confirm it before it is paid for. -/
theorem modify (h : s₀.Advances s) (now : Instant) {id : ReservationId}
    {f : Reservation → Except ReservationError Reservation} {event : Reservation → ReservationEvent}
    (hf : ∀ r r', f r = .ok r' → r.Becomes r')
    (hpaid : ∀ r r', f r = .ok r' → r'.status = .confirmed → s.Warrants (.confirm id))
    (hevent : ∀ r, Task.ofReservationEvent? (event r) = none) :
    s₀.Advances ((Reservations.modify now id f event).after s) := by
  unfold after outcome
  rw [Reservations.modify_apply]
  cases hr : s.reservation? id with
  | none => exact h
  | some r =>
      dsimp only
      cases hchange : f r with
      | error e => exact h
      | ok r' =>
          have hbecomes := hf r r' hchange
          have hstored : s₀.Advances (s.storeReservation id r') := by
            refine h.storeReservation (hbecomes.id.trans (h.reservation hr).1) ?_ (hpaid r r' hchange)
            intro old hold
            rw [hr] at hold
            cases hold
            exact hbecomes.total
          dsimp only
          cases s.reservations.updateError? id.text with
          | some e => exact h
          | none =>
              dsimp only
              cases s.log.publishError? (event r').topic with
              | some e => exact hstored
              | none =>
                  refine hstored.published ?_
                  intro task htask
                  have hnone := Task.of?_reservationEvent htask
                  rw [hevent] at hnone
                  contradiction

theorem cancel (h : s₀.Advances s) (now : Instant) (id : ReservationId) (reason : String) :
    s₀.Advances ((Reservations.cancel now id reason).after s) := by
  refine h.modify now (fun _ _ => Reservation.Becomes.of_cancel) ?_ fun _ => rfl
  intro r r' hcancel hstatus
  rw [(Reservation.cancel_eq_ok_iff.mp hcancel).2] at hstatus
  contradiction

theorem confirm (h : s₀.Advances s) (now : Instant) {id : ReservationId}
    (hw : s.Warrants (.confirm id)) : s₀.Advances ((Reservations.change now .confirm id).after s) :=
  h.modify now (fun _ _ => Reservation.Becomes.of_change) (fun _ _ _ _ => hw) fun _ => rfl

/-- A new payment has to be for a stored reservation of that total. -/
theorem authorize (h : s₀.Advances s) (now : Instant) {order : PaymentOrder}
    (hfor : order.paymentId = paymentIdFor order.reservationId)
    (hw : s.Warrants (.authorize order.reservationId order.amount)) :
    s₀.Advances ((Payments.authorize now order).after s) := by
  have hstored {t : Hotel} (ht : s₀.Advances t) (hk : s.Keeps t) (hpayments : t.payments = s.payments)
      (hnew : s.payments.createError? order.paymentId.text = none) {p : Payment}
      (hid : p.id = order.paymentId) (hreservation : p.reservationId = order.reservationId)
      (hamount : p.amount = order.amount) : s₀.Advances (t.storePayment order.paymentId p) := by
    refine ht.storePayment hid (hreservation ▸ hfor) ?_ ?_
    · intro old hold
      rw [payment?, hpayments, (Table.createError?_eq_none_iff.mp hnew).2] at hold
      contradiction
    · rw [hreservation, hamount]
      exact hw.mono hk
  unfold after outcome
  rw [Payments.authorize_apply]
  cases s.gateway.authorizeError? with
  | some e =>
      have hrejected : s₀.Advances (s.rejected .authorize) := h.of_eq rfl rfl rfl
      have hk : s.Keeps (s.rejected .authorize) := .of_eq rfl rfl (List.Subset.refl _)
      dsimp only
      cases hnew : s.payments.createError? order.paymentId.text with
      | some err => exact hrejected
      | none =>
          refine (hstored hrejected hk rfl hnew rfl rfl rfl).offered ?_
          intro task htask
          cases Task.of?_paymentEvent htask
          trivial
  | none =>
      have hopened : s₀.Advances (s.transactionOpened (.make now order)) := h.of_eq rfl rfl rfl
      have hk : s.Keeps (s.transactionOpened (.make now order)) := .of_eq rfl rfl (List.Subset.refl _)
      dsimp only [Hotel.save]
      cases hnew : s.payments.createError? order.paymentId.text with
      | some err => exact hopened
      | none =>
          have hauthorized := hstored hopened hk rfl hnew (p := (Payment.make now order).authorized now
            (Gateway.transactionId order.paymentId order.amount.amount)) rfl rfl rfl
          dsimp only
          cases (s.transactionOpened (.make now order)).log.publishError? _ with
          | some err => exact hauthorized
          | none =>
              refine hauthorized.published ?_
              intro task htask
              cases Task.of?_paymentEvent htask
              exact hfor

/-- An attempt is recorded with a payment that is not captured yet. -/
theorem storeRecord (h : s₀.Advances s) {id : PaymentId} {p : Payment} (hp : s.payment? id = some p)
    (hopen : p.status ≠ .captured) (a : PaymentAttempt) :
    s₀.Advances (s.storePayment id (p.record a)) := by
  obtain ⟨hid, hfor, htotal⟩ := h.payment hp
  refine h.storePayment hid hfor ?_ htotal
  intro old hold
  rw [hp] at hold
  cases hold
  exact hopen

theorem captureFailed (h : s₀.Advances s) (now : Instant) {id : PaymentId} {p : Payment}
    (hp : s.payment? id = some p) (e : GatewayError) : s₀.Advances (s.captureFailed now id e p) := by
  unfold Hotel.captureFailed
  cases hfail : p.fail now Payments.captureFailed e.message with
  | error err => exact h
  | ok q =>
      obtain ⟨hstatus, rfl⟩ := Payment.fail_eq_ok_iff.mp hfail
      have hopen : p.status ≠ .captured := by
        intro hcaptured
        rw [hcaptured] at hstatus
        contradiction
      have hevent {t : Hotel} (task : Task) (htask : Task.of? (PaymentEvent.toEnvelope now
          (.ofFailed (p.record (.failed now Payments.captureFailed e.message)))) = some task) :
          t.Warrants task := by
        cases Task.of?_paymentEvent htask
        trivial
      dsimp only
      cases s.payments.updateError? id.text with
      | none => exact (h.storeRecord hp hopen _).offered hevent
      | some err => exact h.offered hevent

/-- A payment announced as captured stays captured, so it warrants that its reservation is confirmed. -/
theorem capture (h : s₀.Advances s) (now : Instant) (id : PaymentId) :
    s₀.Advances ((Payments.capture now id).after s) := by
  unfold after outcome
  rw [Payments.capture_apply]
  cases hp : s.payment? id with
  | none => exact h
  | some p =>
      dsimp only
      cases s.gateway.captureError? (p.transactionId.getD "") p.amount with
      | some e =>
          have hrejected : s₀.Advances (s.rejected .capture) := h.of_eq rfl rfl rfl
          exact hrejected.captureFailed now hp e
      | none =>
          have hcalled : s₀.Advances s.amountCaptured := h.of_eq rfl rfl rfl
          dsimp only
          cases hcapture : p.capture now with
          | error e => exact hcalled
          | ok q =>
              obtain ⟨hstatus, rfl⟩ := Payment.capture_eq_ok_iff.mp hcapture
              have hstored := hcalled.storeRecord hp (by rw [hstatus]; nofun)
                (.succeeded now .captured)
              dsimp only [Hotel.save]
              cases s.payments.updateError? id.text with
              | some err => exact hcalled
              | none =>
                  dsimp only
                  cases s.amountCaptured.log.publishError? _ with
                  | some err => exact hstored
                  | none =>
                      refine hstored.published ?_
                      intro task htask
                      cases Task.of?_paymentEvent htask
                      have hfor : id = paymentIdFor p.reservationId := (h.payment hp).2.1
                      refine ⟨p.record (.succeeded now .captured), ?_, rfl⟩
                      rw [payment?_storePayment]
                      exact if_pos hfor

/-- If a capture fails, the reservation is cancelled. -/
theorem onAuthorized (h : s₀.Advances s) (now : Instant) (id : PaymentId)
    (reservationId : ReservationId) :
    s₀.Advances ((Booking.onAuthorized now id reservationId).after s) := by
  have hcaptured := h.capture now id
  rw [Booking.onAuthorized_after]
  cases hcapture : Payments.capture now id s with
  | ok p t =>
      rw [after_of_ok hcapture] at hcaptured
      exact hcaptured
  | error e t =>
      rw [after_of_error hcapture] at hcaptured
      exact hcaptured.cancel now reservationId _

theorem onCaptured (h : s₀.Advances s) (now : Instant) {id : ReservationId}
    (hw : s.Warrants (.confirm id)) : s₀.Advances ((Booking.onCaptured now id).after s) := by
  have hconfirmed : s₀.Advances (((Reservations.change now .confirm id).mapError
      (BookingError.stepFailed .confirmReservation)).after s) := by
    rw [after_mapError]
    exact h.confirm now hw
  refine Moves.after_bind (R := Preserved s₀.Advances) (fun r => ?_) s hconfirmed
  exact (notifyConfirmation_moves (fun _ _ _ h => h.of_eq rfl rfl rfl) r).bind fun _ => .pure _

theorem cancelBooking (h : s₀.Advances s) (now : Instant) (id : ReservationId) (reason : String) :
    s₀.Advances ((Booking.cancel now id reason).after s) := by
  have hcancelled : s₀.Advances (((Reservations.cancel now id reason).mapError
      BookingError.service).after s) := by
    rw [after_mapError]
    exact h.cancel now id reason
  refine Moves.after_bind (R := Preserved s₀.Advances) (fun r => ?_) s hcancelled
  exact (notifyCancellation_moves (fun _ _ _ h => h.of_eq rfl rfl rfl) r reason).bind fun _ => .pure _

/-- Doing what is warranted leaves everything accounted for. -/
theorem perform (h : s₀.Advances s) (now : Instant) {task : Task} (hw : s.Warrants task) :
    s₀.Advances ((task.perform now).after s) := by
  cases task with
  | authorize id total =>
      rw [Task.perform, after_return, Booking.onCreated, after_mapError]
      exact h.authorize now rfl hw
  | capture id reservationId =>
      rw [Task.perform, after_return]
      exact h.onAuthorized now id reservationId
  | confirm id =>
      rw [Task.perform, after_return]
      exact h.onCaptured now hw
  | cancel id reason =>
      rw [Task.perform, after_return, Booking.onFailed, after_mapError]
      exact h.cancel now id reason

theorem handle (h : s₀.Advances s) (now : Instant) {e : Envelope} (he : e ∈ s.log.history) :
    s₀.Advances ((Booking.handle now e).after s) := by
  rcases Task.handle_cases (σ := Hotel) now e with ⟨task, htask, hhandle⟩ | ⟨-, hnothing⟩
  · rw [hhandle]
    exact h.perform now (h.envelope he htask)
  · rw [hnothing]
    exact h

theorem foldl_react (now : Instant) (queue : List Envelope) (h : s₀.Advances s)
    (hqueue : queue ⊆ s.log.history) : s₀.Advances (queue.foldl (Hotel.react now) s) := by
  induction queue generalizing s with
  | nil => exact h
  | cons e queue ih =>
      have hstep : s.Advances (Hotel.react now s e) :=
        (Advances.refl h.toAccounted).handle now (hqueue (List.mem_cons_self ..))
      apply ih (h.trans hstep)
      intro e' he'
      exact hstep.keeps.envelope (hqueue (List.mem_cons_of_mem e he'))

theorem pumpRounds (now : Instant) (rounds : Nat) (h : s₀.Advances s) :
    s₀.Advances (Hotel.pumpRounds now rounds s).2 := by
  induction rounds generalizing s with
  | zero => exact h
  | succ rounds ih =>
      rw [Hotel.pumpRounds]
      split_ifs
      · exact h
      · apply ih
        have hdrained : s₀.Advances ({ s with log := s.log.drain } : Hotel) := by
          refine h.of_eq rfl rfl ?_
          simp [EventLog.history, EventLog.drain]
        apply hdrained.foldl_react
        intro e he
        simp [EventLog.history, EventLog.drain, he]

end Advances
end Hotel

namespace Session

/-- What is handed to the system is what it has announced before; apart from that, bookings are made
and cancelled, and the clock and the outages are as they like. -/
def Admits (x : Session) : Event → Prop
  | .call (.initiate _) => True
  | .call (.cancelBooking _ _) => True
  | .call (.handle e) => e ∈ x.hotel.log.history
  | .call .pump => True
  | .call _ => False
  | .setClock _ => True
  | .setOutages _ => True

/-- The sessions that a booking system driven by its own events goes through. -/
inductive Reachable : Session → Prop where
  | start (now : Instant) : Reachable (start now)
  | step {x : Session} {e : Event} : Reachable x → x.Admits e → Reachable (x.step e)

namespace Reachable

variable {x : Session}

theorem step_advances {s₀ : Hotel} (h : s₀.Advances x.hotel) {e : Event} (he : x.Admits e) :
    s₀.Advances (x.step e).hotel := by
  cases e with
  | setClock now => exact h
  | setOutages o => exact h.of_eq rfl rfl rfl
  | call c =>
      cases c with
      | initiate order =>
          have hinitiated := h.create x.now order
          rw [← after_mapError (BookingError.stepFailed .createReservation)] at hinitiated
          exact hinitiated
      | cancelBooking id reason => exact h.cancelBooking x.now id reason
      | handle e => exact h.handle x.now he
      | pump => exact h.pumpRounds x.now Hotel.stages
      | complete | onAuthorized | onCaptured | onFailed | createReservation | changeReservation
      | cancelReservation | getReservation | listByGuest | authorizePayment | retryAuthorization
      | capturePayment | refundPayment | getPayment => exact absurd he id

theorem accounted (h : x.Reachable) : x.hotel.Accounted := by
  induction h with
  | start now => exact Hotel.Accounted.empty
  | step _ he ih => exact (step_advances (.refl ih) he).toAccounted

/-- However events are delivered, every confirmed reservation is paid for: its payment is captured,
with the total of the reservation. -/
theorem confirmed_is_paid (h : x.Reachable) {r : Reservation} (hr : r ∈ x.hotel.reservations.values)
    (hstatus : r.status = .confirmed) :
    ∃ p, x.hotel.payment? (Booking.paymentIdFor r.id) = some p ∧ p.status = .captured ∧
      p.reservationId = r.id ∧ p.amount = r.total := by
  have haccounted := h.accounted
  obtain ⟨key, hkey⟩ := Table.mem_values_iff.mp hr
  have hstored : x.hotel.reservation? ⟨key⟩ = some r := hkey
  obtain ⟨hid, hpaid⟩ := haccounted.reservation hstored
  obtain ⟨p, hp, hcaptured⟩ := hpaid hstatus
  obtain ⟨-, hfor, r', hr', htotal⟩ := haccounted.payment hp
  have hreservation : p.reservationId = ⟨key⟩ := (Booking.paymentIdFor_injective hfor).symm
  rw [hreservation, hstored] at hr'
  cases hr'
  rw [hid]
  exact ⟨p, hp, hcaptured, hreservation, htotal.symm⟩

end Reachable
end Session

namespace Sample

/-- A reservation is made, and its events are handed back until none is left. -/
def pumped : Session :=
  (Session.start (day 1)).run [.call (.initiate (order "res-1" 3 5)), .call .pump]

theorem pumped_reachable : pumped.Reachable := by
  have hmade : ((Session.start (day 1)).step (.call (.initiate (order "res-1" 3 5)))).Reachable :=
    .step (.start (day 1)) trivial
  exact hmade.step (show Session.Admits _ (.call .pump) from trivial)

/-- The reservation that comes of it. -/
def pumpedReservation : Reservation :=
  { Reservation.fresh (day 1) (order "res-1" 3 5) with status := .confirmed }

set_option maxRecDepth 10000 in
theorem pumped_is_paid :
    pumpedReservation ∈ pumped.hotel.reservations.values ∧
      ∃ p, pumped.hotel.payment? ⟨"pay-res-1"⟩ = some p ∧ p.status = .captured ∧
        p.reservationId = ⟨"res-1"⟩ ∧ p.amount = .of 30000 "usd" := by
  have hr : pumpedReservation ∈ pumped.hotel.reservations.values := by decide +kernel
  exact ⟨hr, pumped_reachable.confirmed_is_paid hr rfl⟩

end Sample
end HotelBooking
