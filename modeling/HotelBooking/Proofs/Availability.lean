import HotelBooking.Proofs.ReservationLife
import HotelBooking.Proofs.RoomExclusion
import Mathlib.Data.List.Chain

/-!
# When a room is free

A room is free for a stay if at no instant of the stay another guest has it (`Hotel.Occupied`). The reservations in
the way are those that conflict with a reservation for the stay, whichever of the two is asked
(`Hotel.availability_agrees`). Stays are half-open: where one ends when the next one starts, no instant is shared.
A stay without instants could overlap another one all the same, so it matters that no such stay is ever reserved.
-/

namespace HotelBooking

namespace Stay

variable {s t : Stay}

/-- Two stays, neither of them empty, overlap if they share an instant: the later check-in is one. -/
theorem overlaps_iff (hs : s.checkIn < s.checkOut) (ht : t.checkIn < t.checkOut) :
    s.overlaps t = true ↔ ∃ x, s.Covers x ∧ t.Covers x := by
  simp only [overlaps, Bool.and_eq_true, decide_eq_true_eq]
  constructor
  · rintro ⟨hst, hts⟩
    by_cases hfirst : s.checkIn < t.checkIn
    · exact ⟨t.checkIn, ⟨Instant.le_of_lt hfirst, hts⟩, Instant.le_refl _, ht⟩
    · exact ⟨s.checkIn, ⟨Instant.le_refl _, hs⟩, Instant.not_lt.mp hfirst, hst⟩
  · rintro ⟨x, ⟨hsx, hxs⟩, htx, hxt⟩
    exact ⟨Instant.lt_of_le_of_lt hsx hxt, Instant.lt_of_le_of_lt htx hxs⟩

/-- Whoever leaves before the other comes is not in the way. -/
theorem overlaps_eq_false_of_le (h : s.checkOut ≤ t.checkIn) : s.overlaps t = false := by
  have hlate : ¬ t.checkIn < s.checkOut := Instant.not_lt.mpr h
  simp [overlaps, hlate]

end Stay

namespace Table

variable {α : Type}

/-- The list holds, once for each key, the stored values of which `p` is true. -/
def ListsOnce (t : Table α) (p : α → Prop) (values : List α) : Prop :=
  ∃ keys : List String, keys.Nodup ∧
    (∀ key, key ∈ keys ↔ ∃ value, t.entries[key]? = some value ∧ p value) ∧
      values.map some = keys.map fun key => t.entries[key]?

theorem listsOnce_filter (t : Table α) (p : α → Bool) :
    t.ListsOnce (fun value => p value = true) (t.values.filter p) := by
  let kept := t.entries.toList.filter fun entry => p entry.2
  have hmem {key : String} {value : α} :
      (key, value) ∈ kept ↔ t.entries[key]? = some value ∧ p value = true := by
    rw [List.mem_filter, Std.ExtTreeMap.mem_toList_iff_getElem?_eq_some]
  have hvalues : t.values.filter p = kept.map Prod.snd := by
    rw [values_eq_map_toList, List.filter_map]
    rfl
  refine ⟨kept.map Prod.fst, ?_, ?_, ?_⟩
  · have hkeys : (kept.map Prod.fst).Sublist t.entries.keys := by
      rw [← Std.ExtTreeMap.map_fst_toList_eq_keys]
      exact List.filter_sublist.map Prod.fst
    exact hkeys.nodup Std.ExtTreeMap.nodup_keys
  · intro key
    rw [List.mem_map]
    constructor
    · rintro ⟨⟨key, value⟩, hentry, rfl⟩
      exact ⟨value, hmem.mp hentry⟩
    · rintro ⟨value, hvalue⟩
      exact ⟨(key, value), hmem.mpr hvalue, rfl⟩
  · rw [hvalues, List.map_map, List.map_map]
    refine List.map_congr_left ?_
    rintro ⟨key, value⟩ hentry
    exact (hmem.mp hentry).1.symm

end Table

namespace Reservation

theorem conflicts_comm (r t : Reservation) : r.conflicts t = t.conflicts r :=
  Bool.eq_iff_iff.mpr ⟨conflicts_symm, conflicts_symm⟩

/-- Both ways to ask whether two reservations conflict come to the same. -/
theorem blocks_eq_conflicts {c : Reservation} (hc : c.holdsRoom = true) :
    Reservation.blocks c.roomId c.stay = c.conflicts := by
  funext r
  rw [blocks, conflicts, hc, Bool.and_true, Stay.overlaps_comm r.stay c.stay]
  congr 2
  exact decide_eq_decide.mpr eq_comm

theorem Lived.checkIn_lt_checkOut {r : Reservation} (h : r.Lived) : r.stay.checkIn < r.stay.checkOut :=
  Stay.checkIn_lt_checkOut h.stay

/-- Stays of which each starts when the one before has ended do not conflict, however many they are. -/
theorem pairwise_conflicts_eq_false {rs : List Reservation} (hlived : ∀ r ∈ rs, r.Lived)
    (h : rs.IsChain fun r t => r.stay.checkOut ≤ t.stay.checkIn) :
    rs.Pairwise fun r t => r.conflicts t = false := by
  -- Each of the stays ends after it has started, so those in between only put the others further apart.
  let Precedes (r t : Reservation) : Prop :=
    r.stay.checkOut ≤ t.stay.checkIn ∧ t.stay.checkIn < t.stay.checkOut
  have htrans : ∀ {r t u}, Precedes r t → Precedes t u → Precedes r u := by
    rintro r t u ⟨hrt, ht⟩ ⟨htu, hu⟩
    have hout : r.stay.checkOut ≤ t.stay.checkOut := Instant.le_of_lt (Instant.lt_of_le_of_lt hrt ht)
    exact ⟨Instant.le_trans hout htu, hu⟩
  have : Trans Precedes Precedes Precedes := ⟨htrans⟩
  have hchain : rs.IsChain Precedes :=
    h.imp_of_mem_imp fun r t _ ht hrt => ⟨hrt, (hlived t ht).checkIn_lt_checkOut⟩
  refine hchain.pairwise.imp ?_
  rintro r t ⟨hrt, -⟩
  rw [conflicts, Stay.overlaps_eq_false_of_le hrt, Bool.and_false]

end Reservation

namespace Hotel

/-- A guest has the room at `t`. -/
def Occupied (s : Hotel) (roomId : RoomId) (t : Instant) : Prop :=
  ∃ r ∈ s.reservations.values, r.roomId = roomId ∧ r.holdsRoom = true ∧ r.stay.Covers t

theorem blocking_eq_nil_iff_not_occupied {s : Hotel} (h : ∀ r ∈ s.reservations.values, r.Lived)
    (roomId : RoomId) {stay : Stay} (hstay : stay.checkIn < stay.checkOut) :
    s.blocking roomId stay = [] ↔ ¬ ∃ t, stay.Covers t ∧ s.Occupied roomId t := by
  have hblocks {r : Reservation} (hr : r ∈ s.reservations.values) : r.blocks roomId stay = true ↔
      r.roomId = roomId ∧ r.holdsRoom = true ∧ ∃ t, r.stay.Covers t ∧ stay.Covers t := by
    rw [← Stay.overlaps_iff (h r hr).checkIn_lt_checkOut hstay]
    simp only [Reservation.blocks, Bool.and_eq_true, decide_eq_true_eq, and_assoc]
  rw [blocking, List.filter_eq_nil_iff]
  constructor
  · rintro hfree ⟨t, hcovers, r, hr, hroom, hholds, hcovered⟩
    exact hfree r hr ((hblocks hr).mpr ⟨hroom, hholds, t, hcovered, hcovers⟩)
  · intro hfree r hr hb
    obtain ⟨hroom, hholds, t, hcovered, hcovers⟩ := (hblocks hr).mp hb
    exact hfree ⟨t, hcovers, r, hr, hroom, hholds, hcovered⟩

/-- A room is available for a stay if nobody has it at any instant of the stay, and the reservations that are found
in the way of one are those that conflict with it, each of them once. So stays that follow each other never
conflict. -/
theorem availability_agrees (s : Hotel) (h : ∀ r ∈ s.reservations.values, r.Lived) :
    (∀ roomId stay, stay.checkIn < stay.checkOut →
      ∃ free, (Backend.isRoomAvailable roomId stay : Action Hotel _ _) s = .ok free s ∧
        (free = true ↔ ¬ ∃ t, stay.Covers t ∧ s.Occupied roomId t)) ∧
      (∀ c : Reservation, c.holdsRoom = true →
        s.reservations.ListsOnce (fun r => c.conflicts r = true) (s.blocking c.roomId c.stay)) ∧
      (∀ c r : Reservation, c.conflicts r = r.conflicts c) ∧
      ∀ rs : List Reservation, (∀ r ∈ rs, r.Lived) →
        rs.IsChain (fun r t => r.stay.checkOut ≤ t.stay.checkIn) →
          rs.Pairwise fun r t => r.conflicts t = false := by
  refine ⟨?_, ?_, Reservation.conflicts_comm, fun rs => Reservation.pairwise_conflicts_eq_false⟩
  · intro roomId stay hstay
    refine ⟨_, rfl, ?_⟩
    rw [List.isEmpty_iff]
    exact blocking_eq_nil_iff_not_occupied h roomId hstay
  · intro c hc
    rw [blocking, Reservation.blocks_eq_conflicts hc]
    exact s.reservations.listsOnce_filter c.conflicts

open Sample

/-- A reservation of the room, after it was asked all this. -/
def booked (id : String) (first last : Nat) (calls : List (Instant × ReservationCall)) : Reservation :=
  (Reservation.fresh (day 1) (order id first last)).afterCalls calls

/-- Two guests follow each other in the room, and a third one, who wanted to come in between, has cancelled. -/
def betweenGuests : List Reservation :=
  [booked "res-1" 3 5 [(day 1, .change .confirm), (day 3, .change .activate)],
    booked "res-2" 5 7 [(day 1, .change .confirm)],
    booked "res-3" 4 6 [(day 1, .cancel "full")]]

def turnoverDay : Hotel where
  reservations := { entity := "Reservation", entries := .ofList (betweenGuests.map fun r => (r.id.text, r)) }

theorem turnoverDay_lived : ∀ r ∈ turnoverDay.reservations.values, r.Lived := by
  have hvalues : turnoverDay.reservations.values = betweenGuests := by decide +kernel
  have hbooked (id : String) (first last : Nat) (calls : List (Instant × ReservationCall))
      (h : Reservation.make (day 1) (order id first last) = .ok (.fresh (day 1) (order id first last))) :
      (booked id first last calls).Lived := ⟨_, _, _, _, h, rfl⟩
  rw [hvalues]
  simp only [betweenGuests, List.forall_mem_cons]
  exact ⟨hbooked _ _ _ _ (by decide +kernel), hbooked _ _ _ _ (by decide +kernel),
    hbooked _ _ _ _ (by decide +kernel), by simp⟩

/-- The room is taken from the third day to the seventh. The guest of the first days is in the way of nobody else. -/
theorem turnoverDay_availability_agrees :
    (∀ r ∈ turnoverDay.reservations.values, r.Lived) ∧
      (¬ ∃ t, (Stay.mk (day 7) (day 9)).Covers t ∧ turnoverDay.Occupied ⟨"room-101"⟩ t) ∧
      (∃ t, (Stay.mk (day 4) (day 6)).Covers t ∧ turnoverDay.Occupied ⟨"room-101"⟩ t) ∧
      turnoverDay.reservations.ListsOnce
        (fun r => (Reservation.fresh (day 1) (order "res-4" 3 5)).conflicts r = true)
        (betweenGuests.take 1) := by
  obtain ⟨havailable, hblocking, -⟩ := availability_agrees turnoverDay turnoverDay_lived
  have hlist : turnoverDay.blocking ⟨"room-101"⟩ ⟨day 3, day 5⟩ = betweenGuests.take 1 := by
    decide +kernel
  refine ⟨turnoverDay_lived, ?_, ?_, ?_⟩
  · obtain ⟨free, hfree, hiff⟩ := havailable ⟨"room-101"⟩ ⟨day 7, day 9⟩ (by decide)
    cases hfree
    exact hiff.mp (by decide +kernel)
  · obtain ⟨free, hfree, hiff⟩ := havailable ⟨"room-101"⟩ ⟨day 4, day 6⟩ (by decide)
    cases hfree
    exact Classical.not_not.mp fun hnone => absurd (hiff.mpr hnone) (by decide +kernel)
  · rw [← hlist]
    exact hblocking (Reservation.fresh (day 1) (order "res-4" 3 5)) rfl

end Hotel
end HotelBooking
