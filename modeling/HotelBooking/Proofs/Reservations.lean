import HotelBooking.Operation.Reservations
import HotelBooking.Proofs.Parts

/-!
# Operations on reservations

`create_apply` and `modify_apply` give the whole result of an operation on the system: its answer or
error, and what is stored and announced by then; `create_after` and `modify_after` give the latter
alone. Making a reservation is the only way to a new one, and every other operation replaces a stored
reservation by a later form of it (`Becomes`), which has the same room and stay.
-/

namespace HotelBooking

namespace ReservationStatus

/-- A reservation of this status can have that status at some later time. -/
def leadsTo : ReservationStatus → ReservationStatus → Bool
  | pending, _ => true
  | confirmed, t => t ≠ pending
  | active, t => t = active || t = completed
  | completed, t => t = completed
  | cancelled, t => t = cancelled

theorem leadsTo_refl (s : ReservationStatus) : s.leadsTo s = true := by
  cases s <;> rfl

theorem leadsTo_trans {s t u : ReservationStatus} (h : s.leadsTo t = true)
    (h' : t.leadsTo u = true) : s.leadsTo u = true := by
  cases s <;> cases t <;> cases u <;> first | rfl | contradiction

/-- No operation is allowed on the reservation any more. -/
def isFinal : ReservationStatus → Bool
  | completed | cancelled => true
  | pending | confirmed | active => false

end ReservationStatus

namespace Reservation

/-- The first form of a reservation that is ordered. -/
def fresh (now : Instant) (order : ReservationOrder) : Reservation where
  id := order.reservationId
  guestId := order.guestId
  roomId := order.roomId
  stay := order.stay
  status := .pending
  total := order.total
  cancellationReason := none
  guests := order.guests
  createdAt := now
  updatedAt := now

theorem make_eq_ok_iff {now : Instant} {order : ReservationOrder} {r : Reservation} :
    make now order = .ok r ↔
      Instant.nanosPerDay ≤ order.stay.duration ∧ now.day ≤ order.stay.checkIn.day ∧
        order.guests ≠ [] ∧ r = fresh now order := by
  rw [make]
  split_ifs with hd hp hg
  · simp only [false_iff]
    omega
  · simp only [false_iff]
    omega
  · simp [hg]
  · rw [Except.ok.injEq]
    constructor
    · rintro rfl
      exact ⟨by omega, by omega, hg, rfl⟩
    · rintro ⟨-, -, -, rfl⟩
      rfl

theorem change_eq_ok_iff {now : Instant} {c : ReservationChange} {r r' : Reservation} :
    r.change now c = .ok r' ↔
      r.status = c.source ∧ r' = { r with status := c.target, updatedAt := now } := by
  rw [change, ReservationStatus.allows]
  split_ifs with h
  · rw [decide_eq_true_eq] at h
    simp [h, eq_comm]
  · rw [decide_eq_true_eq] at h
    simp [h]

/-- The reservation as it is cancelled. -/
def cancelled (now : Instant) (reason : String) (r : Reservation) : Reservation :=
  { r with status := .cancelled, cancellationReason := some reason, updatedAt := now }

theorem isCancellable_of_isCancellableAt {now : Instant} {r : Reservation}
    (h : r.isCancellableAt now = true) : r.status.isCancellable = true := by
  rw [isCancellableAt, Bool.and_eq_true] at h
  exact h.1

theorem cancel_eq_ok_iff {now : Instant} {reason : String} {r r' : Reservation} :
    r.cancel now reason = .ok r' ↔
      r.isCancellableAt now = true ∧ r' = r.cancelled now reason := by
  rw [cancel]
  cases h : r.status with
  | pending | confirmed =>
      dsimp only
      split_ifs with hc
      · simp [hc, cancelled, eq_comm]
      · simp [hc]
  | active | completed | cancelled =>
      simp [isCancellableAt, h, ReservationStatus.isCancellable]

/-- The second reservation is a later form of the first: the same but for its status, which has
moved forward, and what goes with it. A final form is the last one. -/
structure Becomes (r r' : Reservation) : Prop where
  id : r'.id = r.id
  guestId : r'.guestId = r.guestId
  roomId : r'.roomId = r.roomId
  stay : r'.stay = r.stay
  total : r'.total = r.total
  guests : r'.guests = r.guests
  createdAt : r'.createdAt = r.createdAt
  status : r.status.leadsTo r'.status = true
  eq_of_isFinal : r.status.isFinal = true → r' = r

namespace Becomes

theorem refl (r : Reservation) : r.Becomes r :=
  ⟨rfl, rfl, rfl, rfl, rfl, rfl, rfl, r.status.leadsTo_refl, fun _ => rfl⟩

theorem trans {r s t : Reservation} (h : r.Becomes s) (h' : s.Becomes t) : r.Becomes t where
  id := h'.id.trans h.id
  guestId := h'.guestId.trans h.guestId
  roomId := h'.roomId.trans h.roomId
  stay := h'.stay.trans h.stay
  total := h'.total.trans h.total
  guests := h'.guests.trans h.guests
  createdAt := h'.createdAt.trans h.createdAt
  status := ReservationStatus.leadsTo_trans h.status h'.status
  eq_of_isFinal := by
    intro hf
    obtain rfl := h.eq_of_isFinal hf
    exact h'.eq_of_isFinal hf

theorem of_change {now : Instant} {c : ReservationChange} {r r' : Reservation}
    (h : r.change now c = .ok r') : r.Becomes r' := by
  obtain ⟨hs, rfl⟩ := change_eq_ok_iff.mp h
  refine ⟨rfl, rfl, rfl, rfl, rfl, rfl, rfl, ?_, ?_⟩
  · rw [hs]
    cases c <;> rfl
  · intro hf
    rw [hs] at hf
    cases c <;> contradiction

theorem of_cancel {now : Instant} {reason : String} {r r' : Reservation}
    (h : r.cancel now reason = .ok r') : r.Becomes r' := by
  obtain ⟨hc, rfl⟩ := cancel_eq_ok_iff.mp h
  have hs := isCancellable_of_isCancellableAt hc
  refine ⟨rfl, rfl, rfl, rfl, rfl, rfl, rfl, ?_, ?_⟩
  · cases h : r.status <;> first | rfl | (rw [h] at hs; contradiction)
  · intro hf
    cases h : r.status <;> rw [h] at hs hf <;> contradiction

/-- A cancelled reservation stays cancelled. -/
theorem holdsRoom {r r' : Reservation} (h : r.Becomes r') (hr : r'.holdsRoom = true) :
    r.holdsRoom = true := by
  rw [Reservation.holdsRoom, decide_eq_true_eq] at hr ⊢
  intro hs
  have := h.eq_of_isFinal (by rw [hs]; rfl)
  exact hr (this ▸ hs)

end Becomes
end Reservation

namespace Reservations

variable (now : Instant) (s : Hotel)

theorem announce_apply (e : ReservationEvent) :
    announce now e s = match s.log.publishError? e.topic with
      | none => .ok () (s.published (e.toEnvelope now))
      | some err => .error (.publish err) s := by
  rw [announce, Action.mapError_apply, Hotel.publish_apply, ReservationEvent.topic_toEnvelope]
  cases s.log.publishError? e.topic <;> rfl

theorem create_apply (order : ReservationOrder) :
    create now order s =
      if s.blocking order.roomId order.stay = [] then
        match Reservation.make now order with
        | .error e => .error (.reservation e) s
        | .ok r =>
          match s.reservations.createError? r.id.text with
          | some e => .error (.storage e) s
          | none =>
            match s.log.publishError? ReservationEvent.createdTopic with
            | some e => .error (.publish e) (s.storeReservation r.id r)
            | none =>
              .ok r ((s.storeReservation r.id r).published
                ((ReservationEvent.ofCreated r).toEnvelope now))
      else .error (.roomUnavailable order.roomId) s := by
  have hfree : (Backend.isRoomAvailable order.roomId order.stay : Action Hotel _ _) s =
      .ok (s.blocking order.roomId order.stay).isEmpty s := rfl
  simp only [create, Action.bind_apply, Action.mapError_apply, hfree, List.isEmpty_iff]
  split_ifs with hf
  · cases Reservation.make now order with
    | error e => rfl
    | ok r =>
      simp only [Except.mapError, Action.bind_apply, Action.ofExcept_ok, Action.mapError_apply,
        Hotel.createReservation_apply]
      cases s.reservations.createError? r.id.text with
      | some e => rfl
      | none =>
        have ht : (ReservationEvent.ofCreated r).topic = ReservationEvent.createdTopic := rfl
        simp only [announce_apply, ht, Hotel.storeReservation_log]
        cases s.log.publishError? ReservationEvent.createdTopic <;> rfl
  · rfl

theorem create_after (order : ReservationOrder) :
    (create now order).after s =
      if s.blocking order.roomId order.stay = [] then
        match Reservation.make now order with
        | .error _ => s
        | .ok r =>
          match s.reservations.createError? r.id.text with
          | some _ => s
          | none =>
            (s.storeReservation r.id r).offered ((ReservationEvent.ofCreated r).toEnvelope now)
      else s := by
  unfold Action.after Action.outcome
  rw [create_apply]
  split_ifs with hfree
  · cases Reservation.make now order with
    | error e => rfl
    | ok r =>
      dsimp only
      cases s.reservations.createError? r.id.text with
      | some e => rfl
      | none =>
        have htopic : ((ReservationEvent.ofCreated r).toEnvelope now).topic =
            ReservationEvent.createdTopic := ReservationEvent.topic_toEnvelope ..
        dsimp only
        rw [Hotel.offered, htopic, Hotel.storeReservation_log]
        cases s.log.publishError? ReservationEvent.createdTopic <;> rfl
  · rfl

theorem create_eq_ok_iff {order : ReservationOrder} {r : Reservation} {t : Hotel} :
    create now order s = .ok r t ↔
      s.blocking order.roomId order.stay = [] ∧ Reservation.make now order = .ok r ∧
        s.reservations.createError? r.id.text = none ∧
          s.log.publishError? ReservationEvent.createdTopic = none ∧
            t = (s.storeReservation r.id r).published
              ((ReservationEvent.ofCreated r).toEnvelope now) := by
  rw [create_apply]
  split_ifs with hfree
  · cases hmake : Reservation.make now order with
    | error e => simp
    | ok made =>
        dsimp only
        cases hnew : s.reservations.createError? made.id.text with
        | some e =>
            simp only [reduceCtorEq, false_iff]
            rintro ⟨-, h, hnone, -⟩
            cases h
            rw [hnew] at hnone
            contradiction
        | none =>
            cases hlog : s.log.publishError? ReservationEvent.createdTopic with
            | some e => simp
            | none =>
                constructor
                · intro h
                  cases h
                  exact ⟨hfree, rfl, hnew, rfl, rfl⟩
                · rintro ⟨-, h, -, -, rfl⟩
                  cases h
                  rfl
  · simp [hfree]

/-- A reservation that is not made changes nothing, unless it could be stored and only its announcement
was refused. -/
theorem create_eq_error {order : ReservationOrder} {e : OperationError} {t : Hotel}
    (h : create now order s = .error e t) :
    (∀ err, e ≠ .publish err) ∧ t = s ∨
      ∃ err, e = .publish err ∧ s.blocking order.roomId order.stay = [] ∧
        Instant.nanosPerDay ≤ order.stay.duration ∧ s.reservation? order.reservationId = none ∧
          t = s.storeReservation order.reservationId (.fresh now order) := by
  rw [create_apply] at h
  split_ifs at h with hfree
  · cases hmake : Reservation.make now order with
    | error err =>
        rw [hmake] at h
        cases h
        exact .inl ⟨nofun, rfl⟩
    | ok r =>
        obtain ⟨hstay, -, -, rfl⟩ := Reservation.make_eq_ok_iff.mp hmake
        rw [hmake] at h
        dsimp only at h
        cases hnew : s.reservations.createError? (Reservation.fresh now order).id.text with
        | some err =>
            rw [hnew] at h
            cases h
            exact .inl ⟨nofun, rfl⟩
        | none =>
            have hid := (Table.createError?_eq_none_iff.mp hnew).2
            rw [hnew] at h
            dsimp only at h
            cases hlog : s.log.publishError? ReservationEvent.createdTopic with
            | none =>
                rw [hlog] at h
                contradiction
            | some err =>
                rw [hlog] at h
                cases h
                exact .inr ⟨err, rfl, hfree, hstay, hid, rfl⟩
  · cases h
    exact .inl ⟨nofun, rfl⟩

theorem modify_apply (id : ReservationId) (f : Reservation → Except ReservationError Reservation)
    (event : Reservation → ReservationEvent) :
    modify now id f event s =
      match s.reservation? id with
      | none => .error (.storage (.notFound s.reservations.entity id.text)) s
      | some r =>
        match f r with
        | .error e => .error (.reservation e) s
        | .ok r' =>
          match s.reservations.updateError? id.text with
          | some e => .error (.storage e) s
          | none =>
            match s.log.publishError? (event r').topic with
            | some e => .error (.publish e) (s.storeReservation id r')
            | none => .ok r' ((s.storeReservation id r').published ((event r').toEnvelope now)) := by
  simp only [modify, get, Action.bind_apply, Action.mapError_apply, Hotel.readReservation_apply]
  cases s.reservation? id with
  | none => rfl
  | some r =>
    dsimp only
    cases f r with
    | error e => rfl
    | ok r' =>
      simp only [Except.mapError, Action.ofExcept_ok, Hotel.updateReservation_apply]
      cases s.reservations.updateError? id.text with
      | some e => rfl
      | none =>
        simp only [announce_apply, Hotel.storeReservation_log]
        cases s.log.publishError? (event r').topic <;> rfl

theorem modify_after (id : ReservationId) (f : Reservation → Except ReservationError Reservation)
    (event : Reservation → ReservationEvent) :
    (modify now id f event).after s =
      match s.reservation? id with
      | none => s
      | some r =>
        match f r, s.reservations.updateError? id.text with
        | .ok r', none => (s.storeReservation id r').offered ((event r').toEnvelope now)
        | _, _ => s := by
  unfold Action.after Action.outcome
  rw [modify_apply]
  cases s.reservation? id with
  | none => rfl
  | some r =>
    dsimp only
    cases f r with
    | error e => rfl
    | ok r' =>
      dsimp only
      cases s.reservations.updateError? id.text with
      | some e => rfl
      | none =>
        dsimp only
        rw [Hotel.offered, ReservationEvent.topic_toEnvelope, Hotel.storeReservation_log]
        cases s.log.publishError? (event r').topic <;> rfl

theorem modify_eq_ok_iff {id : ReservationId}
    {f : Reservation → Except ReservationError Reservation} {event : Reservation → ReservationEvent}
    {r r' : Reservation} {t : Hotel} (hr : s.reservation? id = some r) :
    modify now id f event s = .ok r' t ↔
      f r = .ok r' ∧ s.reservations.updateError? id.text = none ∧
        s.log.publishError? (event r').topic = none ∧
          t = (s.storeReservation id r').published ((event r').toEnvelope now) := by
  rw [modify_apply, hr]
  dsimp only
  cases hf : f r with
  | error e => simp
  | ok changed =>
      dsimp only
      cases hupdate : s.reservations.updateError? id.text with
      | some e => simp
      | none =>
          dsimp only
          constructor
          · intro h
            cases hlog : s.log.publishError? (event changed).topic with
            | some e => simp [hlog] at h
            | none =>
                rw [hlog] at h
                cases h
                exact ⟨rfl, rfl, hlog, rfl⟩
          · rintro ⟨h, -, hlog, rfl⟩
            cases h
            rw [hlog]

/-- A change that is allowed fails without effect if it cannot be stored, and with it if it cannot be
announced. -/
theorem modify_eq_error {id : ReservationId}
    {f : Reservation → Except ReservationError Reservation} {event : Reservation → ReservationEvent}
    {r r' : Reservation} {e : OperationError} {t : Hotel} (hr : s.reservation? id = some r)
    (hf : f r = .ok r') (h : modify now id f event s = .error e t) :
    (∃ err, e = .storage err ∧ t = s) ∨
      ∃ err, e = .publish err ∧ t = s.storeReservation id r' := by
  rw [modify_apply, hr] at h
  dsimp only at h
  rw [hf] at h
  dsimp only at h
  cases hupdate : s.reservations.updateError? id.text with
  | some err =>
      rw [hupdate] at h
      cases h
      exact .inl ⟨err, rfl, rfl⟩
  | none =>
      rw [hupdate] at h
      dsimp only at h
      cases hlog : s.log.publishError? (event r').topic with
      | some err =>
          rw [hlog] at h
          cases h
          exact .inr ⟨err, rfl, rfl⟩
      | none =>
          rw [hlog] at h
          contradiction

/-- A change is announced only once it has been stored. -/
theorem updateError?_of_modify {id : ReservationId}
    {f : Reservation → Except ReservationError Reservation} {event : Reservation → ReservationEvent}
    {err : PublishError} {t : Hotel} (h : modify now id f event s = .error (.publish err) t) :
    s.reservations.updateError? id.text = none := by
  rw [modify_apply] at h
  cases hr : s.reservation? id with
  | none =>
      rw [hr] at h
      cases h
  | some r =>
      rw [hr] at h
      dsimp only at h
      cases hf : f r with
      | error e =>
          rw [hf] at h
          cases h
      | ok r' =>
          rw [hf] at h
          dsimp only at h
          cases hupdate : s.reservations.updateError? id.text with
          | none => rfl
          | some e =>
              rw [hupdate] at h
              cases h

/-- Making a reservation stores it under a new identifier, in a room that is free, or stores
nothing. -/
theorem create_reservations (order : ReservationOrder) :
    ((create now order).after s).reservations = s.reservations ∨
      s.blocking order.roomId order.stay = [] ∧ s.reservation? order.reservationId = none ∧
        ((create now order).after s).reservations =
          s.reservations.insert order.reservationId.text (.fresh now order) := by
  rw [create_after]
  split_ifs with hfree
  · cases hm : Reservation.make now order with
    | error e => exact .inl rfl
    | ok r =>
      obtain ⟨-, -, -, rfl⟩ := Reservation.make_eq_ok_iff.mp hm
      dsimp only
      cases hc : s.reservations.createError? (Reservation.fresh now order).id.text with
      | some e => exact .inl rfl
      | none =>
        have hnew := (Table.createError?_eq_none_iff.mp hc).2
        exact .inr ⟨hfree, hnew, Hotel.offered_reservations ..⟩
  · exact .inl rfl

/-- Changing a reservation replaces it by a later form of it, or nothing. -/
theorem modify_reservations (id : ReservationId)
    {f : Reservation → Except ReservationError Reservation} (event : Reservation → ReservationEvent)
    (hf : ∀ r r', f r = .ok r' → r.Becomes r') :
    ((modify now id f event).after s).reservations = s.reservations ∨
      ∃ r r', s.reservation? id = some r ∧ r.Becomes r' ∧
        ((modify now id f event).after s).reservations = s.reservations.insert id.text r' := by
  rw [modify_after]
  cases hr : s.reservation? id with
  | none => exact .inl rfl
  | some r =>
    dsimp only
    cases hr' : f r with
    | error e => exact .inl rfl
    | ok r' =>
      cases s.reservations.updateError? id.text with
      | some e => exact .inl rfl
      | none => exact .inr ⟨r, r', rfl, hf r r' hr', Hotel.offered_reservations ..⟩

section
variable {s : Hotel} {id : ReservationId} {r : Reservation}

/-- A change reaches the reservation it is meant for, if it is allowed and can be stored. -/
theorem modify_reservation? (hr : s.reservation? id = some r) (other : ReservationId)
    (f : Reservation → Except ReservationError Reservation)
    (event : Reservation → ReservationEvent) :
    ((modify now other f event).after s).reservation? id =
      some (if other = id ∧ s.reservations.refusesUpdate = false then (f r).toOption.getD r
        else r) := by
  rw [modify_after]
  by_cases hid : other = id
  · subst hid
    rw [hr]
    dsimp only
    cases f r with
    | error e => simpa [Except.toOption] using hr
    | ok r' =>
        cases hworks : s.reservations.refusesUpdate with
        | true =>
            have hrefused : s.reservations.updateError? other.text = some s.reservations.refusal := by
              unfold Table.updateError?
              exact if_pos hworks
            rw [hrefused]
            simpa using hr
        | false =>
            have hupdate : s.reservations.updateError? other.text = none :=
              (Table.updateError?_eq_none_iff hr).mpr hworks
            rw [hupdate]
            dsimp only
            rw [Hotel.reservation?_of_eq (Hotel.offered_reservations ..)]
            simp [Hotel.reservation?_storeReservation, Except.toOption]
  · rw [if_neg fun h => hid h.1]
    cases s.reservation? other with
    | none => exact hr
    | some old =>
        dsimp only
        cases f old with
        | error e => exact hr
        | ok r' =>
            cases s.reservations.updateError? other.text with
            | some e => exact hr
            | none =>
                dsimp only
                rw [Hotel.reservation?_of_eq (Hotel.offered_reservations ..),
                  Hotel.reservation?_storeReservation, if_neg hid]
                exact hr

/-- What is left of a reservation when one is cancelled, it or another. -/
theorem cancel_reservation? (hr : s.reservation? id = some r) (other : ReservationId)
    (reason : String) :
    ((cancel now other reason).after s).reservation? id =
      some (if other = id ∧ s.reservations.refusesUpdate = false ∧ r.isCancellableAt now = true then
        r.cancelled now reason else r) := by
  unfold cancel
  rw [modify_reservation? now hr]
  cases hcancel : r.cancel now reason with
  | ok r' =>
      obtain ⟨hearly, rfl⟩ := Reservation.cancel_eq_ok_iff.mp hcancel
      simp [hearly, Except.toOption]
  | error e =>
      have hlate : r.isCancellableAt now ≠ true := by
        intro hearly
        have hok : r.cancel now reason = .ok _ := Reservation.cancel_eq_ok_iff.mpr ⟨hearly, rfl⟩
        rw [hcancel] at hok
        contradiction
      simp [hlate, Except.toOption]

end

end Reservations

namespace Sample

/-- Midnight after so many days. -/
def day (n : Nat) : Instant := (Instant.ofSecond? (n * Instant.secondsPerDay) 0).getD .epoch

/-- One room for one guest. -/
def order (id : String) (first last : Nat) : ReservationOrder where
  reservationId := ⟨id⟩
  guestId := ⟨"guest-1"⟩
  roomId := ⟨"room-101"⟩
  stay := ⟨day first, day last⟩
  total := .of 30000 "usd"
  guests := [⟨"Grace Hopper", "grace@example.com", "+1-555-0199"⟩]

end Sample
end HotelBooking
