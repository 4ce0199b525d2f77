import HotelBooking.FaultyHotel
import HotelBooking.Proofs.Audit

/-!
# The parts of a system with faults

In a system with faults whose gateway is audited, only the storage of payments changes the stored
payments; reading may fail, and the gateway may answer whatever has been laid down for it
(`Audited.payments_aside`).
-/

namespace HotelBooking

open HotelBooking.Action

namespace FaultyHotel

variable {ε α : Type}

/-- The connection does not fail at its next call. -/
def Answers (c : Connection) (s : FaultyHotel) : Prop := ∀ reason, s.fault c ≠ some ⟨0, reason⟩

/-- The system after a call has gone through. -/
def passed (c : Connection) (s : FaultyHotel) : FaultyHotel :=
  match s.fault c with
  | some ⟨skip + 1, reason⟩ => s.setFault c (some ⟨skip, reason⟩)
  | some ⟨0, _⟩ | none => s

@[simp] theorem hotel_passed (c : Connection) (s : FaultyHotel) : (s.passed c).hotel = s.hotel := by
  unfold passed
  split <;> rfl

@[simp] theorem script_passed (c : Connection) (s : FaultyHotel) : (s.passed c).script = s.script := by
  unfold passed
  split <;> rfl

/-- The other connections are left alone. -/
theorem answers_passed {c d : Connection} (hne : d ≠ c) (s : FaultyHotel) :
    (s.passed c).Answers d ↔ s.Answers d := by
  have hfault : (s.passed c).fault d = s.fault d := by
    unfold passed
    split
    · exact if_neg hne
    all_goals rfl
  unfold Answers
  rw [hfault]

/-- A call fails at the connection, or it goes through and only the fault may be different then. -/
theorem through_cases (c : Connection) (error : String → ε) (x : Action FaultyHotel ε α)
    (s : FaultyHotel) :
    (¬ s.Answers c ∧ ∃ reason, through c error x s = .error (error reason) s) ∨
      s.Answers c ∧ through c error x s = x (s.passed c) := by
  unfold through Answers passed
  cases hfault : s.fault c with
  | none => exact .inr ⟨nofun, rfl⟩
  | some fault =>
      obtain ⟨skip, reason⟩ := fault
      cases skip with
      | zero => exact .inl ⟨fun h => h reason rfl, reason, rfl⟩
      | succ skip => exact .inr ⟨nofun, rfl⟩

/-- The hotels of the two systems are related. -/
def OnHotels (R : Hotel → Hotel → Prop) (s t : FaultyHotel) : Prop := R s.hotel t.hotel

variable {R : Hotel → Hotel → Prop}

theorem onHotel_moves {x : Action Hotel ε α} (h : x.Moves R) : (onHotel x).Moves (OnHotels R) := by
  intro s
  unfold OnHotels onHotel
  rw [zoom_after]
  exact h s.hotel

section
variable [Std.Refl R]

theorem through_moves (c : Connection) (error : String → ε) {x : Action FaultyHotel ε α}
    (h : x.Moves (OnHotels R)) : (through c error x).Moves (OnHotels R) := by
  intro s
  rcases through_cases c error x s with ⟨-, reason, hfails⟩ | ⟨-, hpasses⟩
  · rw [after_of_error hfails]
    exact Std.Refl.refl s.hotel
  · have hmoves := h (s.passed c)
    rw [OnHotels, hotel_passed] at hmoves
    rw [OnHotels, after_congr hpasses]
    exact hmoves

/-- What is answered as laid down leaves the hotel alone. -/
theorem scripted_moves {x : Action FaultyHotel ε α} {y : Action Hotel ε α} (hy : y.Moves R)
    (h : ∀ s, (∃ answer script, x s = Action.ofExcept answer { s with script }) ∨ x s = onHotel y s) :
    x.Moves (OnHotels R) := by
  intro s
  rcases h s with ⟨answer, script, hscripted⟩ | hasked
  · cases answer with
    | ok a =>
        rw [after_of_ok (hscripted.trans (ofExcept_ok a _))]
        exact Std.Refl.refl s.hotel
    | error e =>
        rw [after_of_error (hscripted.trans (ofExcept_error e _))]
        exact Std.Refl.refl s.hotel
  · rw [after_congr hasked]
    exact onHotel_moves hy s

theorem authorize_moves {p : Payment} (h : (Backend.authorize p : Action Hotel _ _).Moves R) :
    (authorize p).Moves (OnHotels R) := by
  refine scripted_moves h fun s => ?_
  unfold authorize
  split
  · exact .inl ⟨_, _, rfl⟩
  · exact .inr rfl

theorem capture_moves {id : String} {amount : Money}
    (h : (Backend.capture id amount : Action Hotel _ _).Moves R) :
    (capture id amount).Moves (OnHotels R) := by
  refine scripted_moves h fun s => ?_
  unfold capture
  split
  · exact .inl ⟨_, _, rfl⟩
  · exact .inr rfl

theorem refund_moves {id : String} {amount : Money}
    (h : (Backend.refund id amount : Action Hotel _ _).Moves R) :
    (refund id amount).Moves (OnHotels R) := by
  refine scripted_moves h fun s => ?_
  unfold refund
  split
  · exact .inl ⟨_, _, rfl⟩
  · exact .inr rfl

theorem readReservations_moves : readReservations.Moves (OnHotels R) :=
  through_moves _ _ (onHotel_moves fun s => Std.Refl.refl s)

end

theorem isRoomAvailable_moves [IsPreorder Hotel R] (roomId : RoomId) (stay : Stay) :
    (isRoomAvailable roomId stay).Moves (OnHotels R) := by
  have hpreorder : IsPreorder FaultyHotel (OnHotels R) :=
    { refl := fun s => Std.Refl.refl s.hotel
      trans := fun s t u => IsTrans.trans s.hotel t.hotel u.hotel }
  refine through_moves _ _ ?_
  exact (readReservations_moves.mapError _).bind fun _ => .pure _

end FaultyHotel

/-- Whatever the operations on payments use, but for storing them, leaves `f` alone, and counting never
fails. -/
structure Backend.PaymentsAside {σ τ : Type} [Backend σ] (f : σ → τ) : Prop where
  read : ∀ id, (readPayment id : Action σ _ _).Moves (Same f)
  authorize : ∀ p, (authorize p : Action σ _ _).Moves (Same f)
  capture : ∀ id amount, (capture id amount : Action σ _ _).Moves (Same f)
  refund : ∀ id amount, (refund id amount : Action σ _ _).Moves (Same f)
  publish : ∀ e, (publish e : Action σ _ _).Moves (Same f)
  count : ∀ {ε : Type} m s, ∃ t, (count m : Action σ ε Unit) s = .ok () t ∧ f t = f s

namespace Audited

variable {ε α : Type}

/-- The hotels of the two systems are related. -/
def OnHotels (R : Hotel → Hotel → Prop) (a b : Audited FaultyHotel) : Prop :=
  FaultyHotel.OnHotels R a.system b.system

/-- The table of the payments. -/
def payments (a : Audited FaultyHotel) : Table Payment := a.system.hotel.payments

section
variable {R : Hotel → Hotel → Prop}

theorem lift_onHotels {x : Action FaultyHotel ε α} (h : x.Moves (FaultyHotel.OnHotels R)) :
    (lift x).Moves (OnHotels R) := by
  intro a
  unfold OnHotels lift
  rw [zoom_after]
  exact h a.system

theorem record_onHotels (request : GatewayRequest) {x : Action FaultyHotel ε α}
    (h : x.Moves (FaultyHotel.OnHotels R)) : (record request x).Moves (OnHotels R) := by
  intro a
  have hsystem : ((record request x).after a).system = x.after a.system := by
    unfold after outcome record
    cases x a.system <;> rfl
  unfold OnHotels
  rw [hsystem]
  exact h a.system

end

theorem onGateway_keeps_payments (x : Action Gateway ε α) :
    (Hotel.onGateway x).Moves (Same Hotel.payments) := by
  intro s
  unfold Hotel.onGateway
  rw [zoom_after]
  rfl

theorem onNotifier_keeps_payments (x : Action Notifier ε α) :
    (Hotel.onNotifier x).Moves (Same Hotel.payments) := by
  intro s
  rw [Hotel.onNotifier_after]
  rfl

theorem payments_aside : Backend.PaymentsAside payments where
  read _ := lift_onHotels (R := Same Hotel.payments)
    (FaultyHotel.through_moves _ _ (FaultyHotel.onHotel_moves (Hotel.readPayment_moves _)))
  authorize _ := record_onHotels _ (FaultyHotel.authorize_moves (onGateway_keeps_payments _))
  capture _ _ := record_onHotels _ (FaultyHotel.capture_moves (onGateway_keeps_payments _))
  refund _ _ := record_onHotels _ (FaultyHotel.refund_moves (onGateway_keeps_payments _))
  publish _ := lift_onHotels (FaultyHotel.onHotel_moves (Hotel.reservations_keep_payments.publish _))
  count _ _ := ⟨_, rfl, rfl⟩

theorem reservations_keep_stored : Backend.ReservationsMove (Same payments) where
  read _ := lift_onHotels (R := Same Hotel.payments)
    (FaultyHotel.through_moves _ _ (FaultyHotel.onHotel_moves (Hotel.readReservation_moves _)))
  readAll := lift_onHotels (R := Same Hotel.payments) FaultyHotel.readReservations_moves
  create _ _ :=
    lift_onHotels (FaultyHotel.onHotel_moves (Hotel.reservations_keep_payments.create _ _))
  update _ _ :=
    lift_onHotels (FaultyHotel.onHotel_moves (Hotel.reservations_keep_payments.update _ _))
  isRoomAvailable _ _ := lift_onHotels (R := Same Hotel.payments) (FaultyHotel.isRoomAvailable_moves _ _)
  publish := payments_aside.publish

theorem createPayment_after (id : PaymentId) (p : Payment) (a : Audited FaultyHotel) :
    ((Backend.createPayment id p).after a).payments = (Table.create id.text p).after a.payments := by
  simp only [Backend.createPayment, lift, FaultyHotel.onHotel, Hotel.onPayments, zoom_after, payments]

theorem updatePayment_after (id : PaymentId) (p : Payment) (a : Audited FaultyHotel) :
    ((Backend.updatePayment id p).after a).payments = (Table.update id.text p).after a.payments := by
  simp only [Backend.updatePayment, lift, FaultyHotel.onHotel, Hotel.onPayments, zoom_after, payments]

/-- Only the faults that are still to come may be different. -/
structure Untouched (a b : Audited FaultyHotel) : Prop where
  hotel : b.system.hotel = a.system.hotel
  script : b.system.script = a.system.script
  calls : b.calls = a.calls

/-- The stored payment is read, unless the connection fails. -/
theorem readPayment_cases (id : PaymentId) (a : Audited FaultyHotel) :
    (¬ a.system.Answers .readPayment ∧ ∃ e, Backend.readPayment id a = .error e a) ∨
      a.system.Answers .readPayment ∧ ∃ b, a.Untouched b ∧
        ((∃ p, a.system.hotel.payment? id = some p ∧ Backend.readPayment id a = .ok p b) ∨
          a.system.hotel.payment? id = none ∧ ∃ e, Backend.readPayment id a = .error e b) := by
  have hread : (Backend.readPayment id : Action (Audited FaultyHotel) _ _) = lift
      (FaultyHotel.through .readPayment .unavailable (FaultyHotel.onHotel (Backend.readPayment id))) := rfl
  rw [hread]
  rcases FaultyHotel.through_cases .readPayment StorageError.unavailable
      (FaultyHotel.onHotel (Backend.readPayment id)) a.system with
    ⟨hfails, reason, hthrough⟩ | ⟨hanswers, hthrough⟩
  · refine .inl ⟨hfails, .unavailable reason, ?_⟩
    simp only [lift, zoom, hthrough]
  · have hhotel := FaultyHotel.hotel_passed .readPayment a.system
    refine .inr ⟨hanswers, ⟨a.system.passed .readPayment, a.calls⟩,
      ⟨hhotel, FaultyHotel.script_passed .readPayment a.system, rfl⟩, ?_⟩
    simp only [lift, zoom, hthrough]
    simp only [FaultyHotel.onHotel, zoom, Hotel.readPayment_apply, hhotel]
    cases a.system.hotel.payment? id with
    | some p => exact .inl ⟨p, rfl, by rw [← hhotel]⟩
    | none => exact .inr ⟨rfl, .notFound a.system.hotel.payments.entity id.text, by rw [← hhotel]⟩

end Audited
end HotelBooking
