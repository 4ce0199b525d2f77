import HotelBooking.Proofs.FaultyParts
import HotelBooking.Proofs.Relation

/-!
# What the answer of a reservation operation tells

A reservation is made or changed in one way: what is stored is looked at, the rules are applied, and the result
is stored and announced. If the request can be granted, only the announcement can still be refused
(`perform_of_grants`); if not, nothing has changed (`perform_of_not_grants`). So the answer tells what is stored
and announced (`reservation_answers`), also where the stored reservations cannot be reached.
-/

namespace HotelBooking

open HotelBooking.Action

/-- The stored reservation may be changed as `f` does it, which gives `r`. -/
def Hotel.Permits (id : ReservationId) (f : Reservation → Except ReservationError Reservation)
    (r : Reservation) (s : Hotel) : Prop :=
  ∃ old, s.reservation? id = some old ∧ f old = .ok r ∧ s.reservations.refusesUpdate = false

/-- Nothing has been stored when an operation on reservations fails like this: because of the rules or the
storage, or as it could not be found out whether a room is free, the stored reservations not being reached. -/
def OperationError.IsRefusal (reached : Prop) : OperationError → Prop
  | roomUnavailable _ | reservation _ | storage _ => True
  | availability _ => ¬ reached
  | publish _ | payment _ | gateway .. => False

namespace Reservations

variable {now : Instant} {s : Hotel} {r : Reservation} {id : ReservationId}
  {f : Reservation → Except ReservationError Reservation}

/-- Once a change is permitted, only its announcement can be refused. -/
theorem modify_of_permits (event : Reservation → ReservationEvent) (h : s.Permits id f r) :
    modify now id f event s =
      match s.log.publishError? (event r).topic with
      | none => .ok r ((s.storeReservation id r).published ((event r).toEnvelope now))
      | some e => .error (.publish e) (s.storeReservation id r) := by
  obtain ⟨old, hold, hf, hworks⟩ := h
  rw [modify_apply, hold]
  dsimp only
  rw [hf]
  dsimp only
  rw [(Table.updateError?_eq_none_iff hold).mpr hworks]
  cases s.log.publishError? (event r).topic <;> rfl

theorem modify_of_not_permits (event : Reservation → ReservationEvent) (h : ¬ ∃ r, s.Permits id f r) :
    ∃ e, e.IsRefusal True ∧ modify now id f event s = .error e s := by
  rw [modify_apply]
  cases hold : s.reservation? id with
  | none => exact ⟨.storage _, trivial, rfl⟩
  | some old =>
      dsimp only
      cases hf : f old with
      | error e => exact ⟨.reservation e, trivial, rfl⟩
      | ok r =>
          dsimp only
          cases hupdate : s.reservations.updateError? id.text with
          | some e => exact ⟨.storage e, trivial, rfl⟩
          | none => exact absurd ⟨r, old, hold, hf, (Table.updateError?_eq_none_iff hold).mp hupdate⟩ h

end Reservations

/-- A request to make a reservation or to change one. -/
inductive ReservationRequest where
  | create (order : ReservationOrder)
  | change (c : ReservationChange) (id : ReservationId)
  | cancel (id : ReservationId) (reason : String)

namespace ReservationRequest

def id : ReservationRequest → ReservationId
  | create order => order.reservationId
  | change _ id => id
  | cancel id _ => id

/-- The topic on which it is announced that the request was granted. -/
def topic : ReservationRequest → String
  | create _ => ReservationEvent.createdTopic
  | change c _ => c.topic
  | cancel .. => ReservationEvent.cancelledTopic

/-- What is announced then. -/
def event (r : Reservation) : ReservationRequest → ReservationEvent
  | create _ => .ofCreated r
  | change c _ => .ofChanged c r
  | cancel .. => .ofCancelled r

def perform {σ : Type} [Backend σ] (now : Instant) :
    ReservationRequest → Action σ OperationError Reservation
  | create order => Reservations.create now order
  | change c id => Reservations.change now c id
  | cancel id reason => Reservations.cancel now id reason

/-- The request is allowed and leads to `r`, which can be stored. -/
def Grants (now : Instant) (s : Hotel) (r : Reservation) : ReservationRequest → Prop
  | create order =>
    s.blocking order.roomId order.stay = [] ∧ Reservation.make now order = .ok r ∧
      s.reservations.refusesCreate = false ∧ s.reservation? order.reservationId = none
  | change c id => s.Permits id (Reservation.change now c) r
  | cancel id reason => s.Permits id (Reservation.cancel now reason) r

/-- What the answer tells, if `reached` says whether the stored reservations can be reached. -/
def Ends (now : Instant) (q : ReservationRequest) (reached : Prop) (s t : Hotel) :
    Except OperationError Reservation → Prop
  | .ok r =>
    (reached ∧ q.Grants now s r) ∧ s.log.publishError? q.topic = none ∧ t.reservation? q.id = some r ∧
      t = (s.storeReservation q.id r).published ((q.event r).toEnvelope now)
  | .error (.publish e) =>
    s.log.publishError? q.topic = some e ∧
      ∃ r, (reached ∧ q.Grants now s r) ∧ t.reservation? q.id = some r ∧ t = s.storeReservation q.id r
  | .error e => e.IsRefusal reached ∧ (¬ ∃ r, reached ∧ q.Grants now s r) ∧ t = s

/-- Everything that can be told from the answer about the system before and after. -/
structure Tells (now : Instant) (q : ReservationRequest) (reached : Prop) (s t : Hotel)
    (answer : Except OperationError Reservation) : Prop where
  ends : q.Ends now reached s t answer
  unannounced_iff : (∃ e, answer = .error (.publish e)) ↔
    (∃ r, reached ∧ q.Grants now s r) ∧ q.topic ∈ s.log.refused
  others : ∀ id, id ≠ q.id → t.reservation? id = s.reservation? id

section
variable {now : Instant} {q : ReservationRequest} {s : Hotel} {r : Reservation}

/-- Once a request is granted, only its announcement can be refused. -/
theorem perform_of_grants (h : q.Grants now s r) :
    q.perform now s =
      match s.log.publishError? q.topic with
      | none => .ok r ((s.storeReservation q.id r).published ((q.event r).toEnvelope now))
      | some e => .error (.publish e) (s.storeReservation q.id r) := by
  cases q with
  | create order =>
      obtain ⟨hfree, hmake, hworks, hnew⟩ := h
      obtain ⟨-, -, -, rfl⟩ := Reservation.make_eq_ok_iff.mp hmake
      have hcreate := Table.createError?_eq_none_iff.mpr ⟨hworks, hnew⟩
      dsimp only [perform]
      rw [Reservations.create_apply, if_pos hfree, hmake]
      dsimp only [Reservation.fresh, id, topic]
      rw [hcreate]
      cases s.log.publishError? ReservationEvent.createdTopic <;> rfl
  | change c id => exact Reservations.modify_of_permits _ h
  | cancel id reason => exact Reservations.modify_of_permits _ h

/-- A request that cannot be granted changes nothing. -/
theorem perform_of_not_grants (h : ¬ ∃ r, q.Grants now s r) :
    ∃ e, e.IsRefusal True ∧ q.perform now s = .error e s := by
  cases q with
  | create order =>
      dsimp only [perform]
      rw [Reservations.create_apply]
      split_ifs with hfree
      · cases hmake : Reservation.make now order with
        | error e => exact ⟨.reservation e, trivial, rfl⟩
        | ok r =>
            obtain ⟨-, -, -, rfl⟩ := Reservation.make_eq_ok_iff.mp hmake
            dsimp only
            cases hcreate : s.reservations.createError? (Reservation.fresh now order).id.text with
            | some e => exact ⟨.storage e, trivial, rfl⟩
            | none => exact absurd ⟨_, hfree, hmake, Table.createError?_eq_none_iff.mp hcreate⟩ h
      · exact ⟨.roomUnavailable order.roomId, trivial, rfl⟩
  | change c id => exact Reservations.modify_of_not_permits _ h
  | cancel id reason => exact Reservations.modify_of_not_permits _ h

theorem tells_of_refused {reached : Prop} {e : OperationError} (he : e.IsRefusal reached)
    (h : ¬ ∃ r, reached ∧ q.Grants now s r) : q.Tells now reached s s (.error e) where
  ends := by
    cases e with
    | publish err => exact he.elim
    | _ => exact ⟨he, h, rfl⟩
  unannounced_iff := by
    constructor
    · rintro ⟨err, herr⟩
      cases herr
      exact he.elim
    · rintro ⟨hgranted, -⟩
      exact absurd hgranted h
  others _ _ := rfl

theorem tells_of_grants (h : q.Grants now s r) :
    q.Tells now True s ((q.perform now).after s) ((q.perform now).outcome s).1 := by
  have hstored : (s.storeReservation q.id r).reservation? q.id = some r := by
    rw [Hotel.reservation?_storeReservation, if_pos rfl]
  have hothers {id} (hid : id ≠ q.id) :
      (s.storeReservation q.id r).reservation? id = s.reservation? id := by
    rw [Hotel.reservation?_storeReservation, if_neg hid.symm]
  unfold after outcome
  rw [perform_of_grants h]
  cases hlog : s.log.publishError? q.topic with
  | none =>
      refine ⟨⟨⟨trivial, h⟩, hlog, hstored, rfl⟩, ?_, fun id hid => hothers hid⟩
      simp [EventLog.publishError?_eq_none_iff.mp hlog]
  | some e =>
      refine ⟨⟨hlog, r, ⟨trivial, h⟩, hstored, rfl⟩, ?_, fun id hid => hothers hid⟩
      have hrefused : q.topic ∈ s.log.refused := by
        by_contra haccepted
        rw [EventLog.publishError?_eq_none_iff.mpr haccepted] at hlog
        contradiction
      simp only [Except.error.injEq, OperationError.publish.injEq, exists_eq', true_iff]
      exact ⟨⟨r, trivial, h⟩, hrefused⟩

/-- Where the stored reservations can be reached. -/
theorem hotel_tells (now : Instant) (q : ReservationRequest) (s : Hotel) :
    q.Tells now True s ((q.perform now).after s) ((q.perform now).outcome s).1 := by
  by_cases h : ∃ r, q.Grants now s r
  · obtain ⟨r, hr⟩ := h
    exact tells_of_grants hr
  · obtain ⟨e, he, hperform⟩ := perform_of_not_grants h
    unfold after outcome
    rw [hperform]
    exact tells_of_refused he fun ⟨r, _, hr⟩ => h ⟨r, hr⟩

end

end ReservationRequest

namespace FaultyHotel

variable {ε α : Type}

/-- The second system is the one behind the connections of the first. -/
def Fronts (s : FaultyHotel) (t : Hotel) : Prop := s.hotel = t

theorem onHotel_related (x : Action Hotel ε α) : Related Fronts (onHotel x) x := by
  rintro s _ rfl
  unfold onHotel zoom
  cases x s.hotel with
  | ok a t => exact .ok rfl
  | error e t => exact .error rfl

/-- A call fails at the connection, or it is answered as by the hotel behind it. -/
theorem through_onHotel_cases (c : Connection) (error : String → ε) (x : Action Hotel ε α)
    (s : FaultyHotel) :
    (¬ s.Answers c ∧ ∃ e, through c error (onHotel x) s = .error e s) ∨
      s.Answers c ∧ Agree Fronts (through c error (onHotel x) s) (x s.hotel) := by
  rcases through_cases c error (onHotel x) s with ⟨hdown, reason, hfails⟩ | ⟨hup, hpasses⟩
  · exact .inl ⟨hdown, error reason, hfails⟩
  · rw [hpasses]
    exact .inr ⟨hup, onHotel_related x _ _ (hotel_passed c s)⟩

variable (s : FaultyHotel)

theorem isRoomAvailable_cases (roomId : RoomId) (stay : Stay) :
    (¬ (s.Answers .availability ∧ s.Answers .readReservations) ∧
        ∃ e t, t.hotel = s.hotel ∧ isRoomAvailable roomId stay s = .error e t) ∨
      (s.Answers .availability ∧ s.Answers .readReservations) ∧
        Agree Fronts (isRoomAvailable roomId stay s) (Backend.isRoomAvailable roomId stay s.hotel) := by
  rcases through_cases .availability AvailabilityError.unavailable (do
      let rs ← readReservations.mapError .storage
      return (rs.filter (·.blocks roomId stay)).isEmpty) s with ⟨hdown, reason, hfails⟩ | ⟨hup, hpasses⟩
  · exact .inl ⟨fun h => hdown h.1, _, s, rfl, hfails⟩
  · -- The reservations are read once the first connection has let the call through.
    have hread := through_onHotel_cases .readReservations StorageError.unavailable
      (Backend.readReservations : Action Hotel _ _) (s.passed .availability)
    rw [answers_passed Connection.noConfusion, hotel_passed] at hread
    unfold isRoomAvailable
    rw [hpasses]
    rcases hread with ⟨hdown, e, hfails⟩ | ⟨hread, hagree⟩
    · have hfailed := bind_error (fun rs => pure (rs.filter (·.blocks roomId stay)).isEmpty)
        (mapError_error AvailabilityError.storage hfails)
      exact .inl ⟨fun h => hdown h.2, _, _, hotel_passed .., hfailed⟩
    · exact .inr ⟨⟨hup, hread⟩, (hagree.mapError _).bind fun _ _ _ => .pure _⟩

/-- The stored reservations that the request depends on can be reached. -/
def Connected : ReservationRequest → Prop
  | .create _ => s.Answers .availability ∧ s.Answers .readReservations
  | .change .. | .cancel .. => s.Answers .readReservation

/-- Reservations are stored and announced as by the hotel behind the connections. -/
theorem writesAlike (id : ReservationId) : Backend.ReservationWritesAlike Fronts id where
  create _ := onHotel_related _
  update _ := onHotel_related _
  publish _ := onHotel_related _

theorem modify_cases (now : Instant) (id : ReservationId)
    (f : Reservation → Except ReservationError Reservation) (event : Reservation → ReservationEvent) :
    (¬ s.Answers .readReservation ∧ ∃ e t, e.IsRefusal False ∧ t.hotel = s.hotel ∧
        Reservations.modify now id f event s = .error e t) ∨
      s.Answers .readReservation ∧
        Agree Fronts (Reservations.modify now id f event s) (Reservations.modify now id f event s.hotel) := by
  rcases through_onHotel_cases .readReservation StorageError.unavailable
      (Backend.readReservation id : Action Hotel _ _) s with ⟨hdown, e, hfails⟩ | ⟨hup, hread⟩
  · exact .inl ⟨hdown, .storage e, s, trivial, rfl, bind_error _ (mapError_error _ hfails)⟩
  · exact .inr ⟨hup, (writesAlike id).modify_agree now f event hread⟩

/-- A request fails because the stored reservations cannot be reached, or it is answered as by the hotel
behind the connections. -/
theorem perform_cases (now : Instant) (q : ReservationRequest) :
    (¬ s.Connected q ∧ ∃ e t, e.IsRefusal False ∧ t.hotel = s.hotel ∧ q.perform now s = .error e t) ∨
      s.Connected q ∧ Agree Fronts (q.perform now s) (q.perform now s.hotel) := by
  cases q with
  | create order =>
      rcases isRoomAvailable_cases s order.roomId order.stay with ⟨hdown, e, t, ht, hfails⟩ | ⟨hup, hroom⟩
      · exact .inl ⟨hdown, .availability e, t, id, ht, bind_error _ (mapError_error _ hfails)⟩
      · exact .inr ⟨hup, (writesAlike order.reservationId).make now rfl hroom⟩
  | change c id => exact modify_cases s now id _ _
  | cancel id reason => exact modify_cases s now id _ _

end FaultyHotel

/-- The answer of an operation on a reservation tells what is stored and announced, whatever the system was like,
and whether the stored reservations could be reached or not. -/
theorem Reservations.reservation_answers (now : Instant) (q : ReservationRequest) :
    (∀ s : Hotel, q.Tells now True s ((q.perform now).after s) ((q.perform now).outcome s).1) ∧
      ∀ s : FaultyHotel, q.Tells now (s.Connected q) s.hotel ((q.perform now).after s).hotel
        ((q.perform now).outcome s).1 := by
  refine ⟨ReservationRequest.hotel_tells now q, fun s => ?_⟩
  rcases s.perform_cases now q with ⟨hdown, e, t, he, ht, hfails⟩ | ⟨hup, hagree⟩
  · unfold after outcome
    rw [hfails, eq_false hdown]
    dsimp only
    rw [ht]
    exact ReservationRequest.tells_of_refused he fun ⟨r, hreached, _⟩ => hreached
  · rw [hagree.outcome_eq, hagree.after, eq_true hup]
    exact ReservationRequest.hotel_tells now q s.hotel

end HotelBooking
