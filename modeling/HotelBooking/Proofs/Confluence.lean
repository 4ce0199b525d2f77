import HotelBooking.Proofs.Course

/-!
# Bookings side by side

Bookings of orders that keep apart do not notice each other, however their steps are interleaved: together they
come to what each of them comes to alone (`Hotel.Together`). So it makes no difference whether they are all begun
before any event is handled, or each is brought to its end before the next one is begun
(`Hotel.bookings_confluent`).
-/

namespace HotelBooking

open HotelBooking.Action

open Booking (Task Course)

namespace ReservationOrder

/-- The orders are for different reservations, and for different rooms or different times. -/
structure Apart (order other : ReservationOrder) : Prop where
  reservationId_ne : order.reservationId ≠ other.reservationId
  room_or_stay : order.roomId ≠ other.roomId ∨ order.stay.overlaps other.stay = false

variable {order other : ReservationOrder}

theorem Apart.symm (h : order.Apart other) : other.Apart order :=
  ⟨h.reservationId_ne.symm, h.room_or_stay.imp Ne.symm (Stay.overlaps_comm other.stay order.stay).trans⟩

theorem Apart.not_blocks (h : order.Apart other) {r : Reservation} (hroom : r.roomId = other.roomId)
    (hstay : r.stay = other.stay) : ¬ r.blocks order.roomId order.stay = true := by
  intro hblocks
  simp only [Reservation.blocks, Bool.and_eq_true, decide_eq_true_eq, hroom, hstay] at hblocks
  obtain ⟨⟨hsame, -⟩, hover⟩ := hblocks
  rw [Stay.overlaps_comm] at hover
  rcases h.room_or_stay with hrooms | hstays
  · exact hrooms hsame.symm
  · rw [hstays] at hover
    cases hover

end ReservationOrder

/-- Any member can be brought to the front. -/
theorem exists_perm_cons {α : Type} {a : α} {l : List α} (ha : a ∈ l) : ∃ rest, l.Perm (a :: rest) := by
  obtain ⟨before, after, rfl⟩ := List.append_of_mem ha
  exact ⟨before ++ after, List.perm_middle⟩

namespace Booking.Course

variable {now : Instant} {s : Hotel} {courses courses' : List (Course now s)}

/-- The bookings do not get in each other's way. -/
def AllApart (courses : List (Course now s)) : Prop :=
  courses.Pairwise fun c d => c.order.Apart d.order

theorem AllApart.of_perm (h : AllApart courses) (hperm : courses.Perm courses') : AllApart courses' :=
  (hperm.pairwise_iff fun hcd => ReservationOrder.Apart.symm hcd).mp h

/-- What the other bookings change leaves the booking of `order` alone. -/
theorem spares_of_apart {order : ReservationOrder} (h : ∀ c ∈ courses, order.Apart c.order) :
    ∀ d ∈ courses.flatMap Course.changes, d.Spares order := by
  intro d hd
  obtain ⟨c, hc, hd⟩ := List.mem_flatMap.mp hd
  exact (c.isFor d hd).spares (h c hc).reservationId_ne.symm

end Booking.Course

namespace Hotel

open Booking.Course (AllApart spares_of_apart)

variable {now : Instant} {s t t' : Hotel} {courses courses' : List (Course now s)} {pending : List Task}
  {order : ReservationOrder}

/-- It does not matter in which order the bookings are listed. -/
theorem changedAll_flatMap_of_perm (h : courses.Perm courses') (hapart : AllApart courses) (t : Hotel) :
    t.changedAll (courses.flatMap Course.changes) = t.changedAll (courses'.flatMap Course.changes) := by
  induction h generalizing t with
  | nil => rfl
  | cons c _ ih =>
      rw [List.flatMap_cons, List.flatMap_cons, changedAll_append, changedAll_append,
        ih (List.pairwise_cons.mp hapart).2]
  | swap c d cs =>
      have hne := ((List.pairwise_cons.mp hapart).1 c (List.mem_cons_self ..)).reservationId_ne
      have hspares : ∀ x ∈ d.changes, x.Spares c.order := fun x hx => (d.isFor x hx).spares hne
      simp only [List.flatMap_cons, changedAll_append, changedAll_comm hspares c.isFor]
  | trans h _ ih ih' => rw [ih hapart, ih' (hapart.of_perm h)]

/-- The bookings listed have come as far as each has come alone. What they are to do next has been taken out of
the queue, or is in it still. -/
structure Interleaves (now : Instant) (s : Hotel) (courses : List (Course now s)) (pending : List Task)
    (t : Hotel) : Prop where
  apart : AllApart courses
  bare_eq : t.bare = s.bare.changedAll (courses.flatMap Course.changes)
  tasks : (pending ++ t.tasks).Perm (courses.flatMap (·.hotel.tasks))

namespace Interleaves

theorem of_perm (h : Interleaves now s courses pending t) (hperm : courses.Perm courses') :
    Interleaves now s courses' pending t where
  apart := h.apart.of_perm hperm
  bare_eq := h.bare_eq.trans (changedAll_flatMap_of_perm hperm h.apart _)
  tasks := h.tasks.trans (hperm.flatMap_right _)

theorem exists_front (h : Interleaves now s courses pending t) {c : Course now s} (hc : c ∈ courses) :
    ∃ rest, courses.Perm (c :: rest) ∧ Interleaves now s (c :: rest) pending t := by
  obtain ⟨rest, hperm⟩ := exists_perm_cons hc
  exact ⟨rest, hperm, h.of_perm hperm⟩

/-- One booking sees the others as changes that leave it alone. -/
theorem beside {c : Course now s} (h : Interleaves now s (c :: courses) pending t) :
    Beside c.order (courses.flatMap Course.changes) t.log.queue s c.hotel.drained t where
  altered := ⟨c.changes, c.isFor, c.bare_eq⟩
  beside := by
    rw [h.bare_eq, List.flatMap_cons, changedAll_append, ← c.bare_eq]
    rfl
  queue := (List.append_nil _).symm

theorem reservation?_eq (h : Interleaves now s courses pending t) {c : Course now s} (hc : c ∈ courses) :
    t.reservation? c.order.reservationId = c.hotel.reservation? c.order.reservationId := by
  obtain ⟨rest, -, h⟩ := h.exists_front hc
  exact (h.beside.sameFor (spares_of_apart (List.pairwise_cons.mp h.apart).1)).reservations.entry

/-- All that is new among the reservations is what was ordered. -/
theorem entry (h : Interleaves now s courses pending t) (key : String) :
    t.reservations.entries[key]? = s.reservations.entries[key]? ∨
      s.reservations.entries[key]? = none ∧ ∃ c ∈ courses, ∃ r, t.reservations.entries[key]? = some r ∧
        r.roomId = c.order.roomId ∧ r.stay = c.order.stay := by
  -- The key is that of one of the bookings, which is brought to the front, or none of them changes it.
  by_cases hkey : ∃ c ∈ courses, c.order.reservationId.text = key
  · obtain ⟨c, hc, rfl⟩ := hkey
    have hread := h.reservation?_eq hc
    rcases c.stored with ⟨hsame, -⟩ | ⟨hnew, r, hr, hordered⟩
    · exact .inl (hread.trans hsame)
    · exact .inr ⟨hnew, c, hc, r, hread.trans hr, hordered⟩
  · have hbare := congrArg (fun u : Hotel => u.reservations.entries[key]?) h.bare_eq
    refine .inl (hbare.trans (changedAll_entry ?_ s.bare))
    rintro d hd id r rfl hid
    obtain ⟨c, hc, hd⟩ := List.mem_flatMap.mp hd
    exact hkey ⟨c, hc, (congrArg ReservationId.text (c.isFor _ hd)).symm.trans hid⟩

/-- To an order that keeps apart from the others, the room is as free as it was before them. -/
theorem blocking_iff (h : Interleaves now s courses pending t)
    (hapart : ∀ c ∈ courses, order.Apart c.order) :
    t.blocking order.roomId order.stay = [] ↔ s.blocking order.roomId order.stay = [] := by
  rw [blocking_eq_nil_iff, blocking_eq_nil_iff]
  constructor
  · intro hfree key r hr
    rcases h.entry key with hsame | ⟨hnew, -⟩
    · exact hfree key r (hsame.trans hr)
    · rw [hnew] at hr
      cases hr
  · intro hfree key r hr
    rcases h.entry key with hsame | ⟨-, c, hc, r', hr', hroom, hstay⟩
    · exact hfree key r (hsame.symm.trans hr)
    · cases hr.symm.trans hr'
      exact (hapart c hc).not_blocks hroom hstay

/-- One more booking is begun, and is answered as if it were the only one. -/
theorem initiate (h : Interleaves now s courses [] t) (hqueue : s.log.queue = [])
    (hapart : ∀ c ∈ courses, order.Apart c.order) :
    ((Booking.initiate now order).outcome t).1 = ((Booking.initiate now order).outcome s).1 ∧
      ∃ c : Course now s, c.order = order ∧
        Interleaves now s (c :: courses) [] ((Booking.initiate now order).after t) := by
  have hbegin : Beside order (courses.flatMap Course.changes) t.log.queue s s t :=
    .begin h.bare_eq (by rw [hqueue, List.append_nil])
  have hagree := Booking.initiate_agree now (spares_of_apart hapart) hbegin (h.blocking_iff hapart)
  obtain ⟨c, rfl, hhotel⟩ := Course.exists_begun now order hqueue
  have hafter := hagree.after
  rw [← hhotel] at hafter
  refine ⟨hagree.outcome_eq.symm, c, rfl, List.pairwise_cons.mpr ⟨hapart, h.apart⟩, ?_, ?_⟩
  · rw [hafter.beside, c.bare_eq, List.flatMap_cons, changedAll_append]
  · rw [List.nil_append, Hotel.tasks, hafter.queue, List.filterMap_append, List.flatMap_cons]
    exact List.perm_append_comm.trans (h.tasks.append_left c.hotel.tasks)

/-- One of the bookings comes a step further. -/
theorem perform {task : Task} (h : Interleaves now s courses (task :: pending) t) :
    ∃ courses' : List (Course now s), (courses'.map Course.order).Perm (courses.map Course.order) ∧
      Interleaves now s courses' pending ((task.perform now).after t) := by
  have hmem : task ∈ courses.flatMap (·.hotel.tasks) :=
    h.tasks.mem_iff.mp (List.mem_append_left _ (List.mem_cons_self ..))
  obtain ⟨c, hc, htask⟩ := List.mem_flatMap.mp hmem
  obtain ⟨rest, hperm, h⟩ := h.exists_front hc
  obtain ⟨hnext, hawaits⟩ := c.next_of_mem htask
  obtain ⟨d, horder, hhotel⟩ := c.exists_next htask
  obtain ⟨hapart, hrest⟩ := List.pairwise_cons.mp h.apart
  have hafter := (Task.perform_agree now (spares_of_apart hapart) h.beside hawaits).after
  have hleft : (pending ++ t.tasks).Perm (rest.flatMap (·.hotel.tasks)) := by
    have htasks := h.tasks
    rw [List.flatMap_cons, hnext] at htasks
    exact htasks.cons_inv
  rw [← hhotel] at hafter
  refine ⟨d :: rest, ?_, List.pairwise_cons.mpr ⟨horder ▸ hapart, hrest⟩, ?_, ?_⟩
  · rw [List.map_cons, horder]
    exact (hperm.map Course.order).symm
  · rw [hafter.beside, d.bare_eq, List.flatMap_cons, changedAll_append]
  · rw [Hotel.tasks, hafter.queue, List.filterMap_append, ← List.append_assoc, List.flatMap_cons]
    exact List.perm_append_comm.trans (hleft.append_left d.hotel.tasks)

theorem tasks_eq_nil (h : Interleaves now s courses [] t) (hqueue : t.log.queue = []) :
    ∀ c ∈ courses, c.hotel.tasks = [] := by
  have htasks := h.tasks
  rw [Hotel.tasks, hqueue] at htasks
  exact List.flatMap_eq_nil_iff.mp htasks.symm.eq_nil

end Interleaves

/-- Bookings that have come to their ends have changed what each of them changes alone. -/
theorem changedAll_flatMap_congr (hapart : AllApart courses) (hapart' : AllApart courses')
    (hdone : ∀ c ∈ courses, c.hotel.tasks = []) (hdone' : ∀ c ∈ courses', c.hotel.tasks = [])
    (horders : (courses.map Course.order).Perm (courses'.map Course.order)) :
    s.bare.changedAll (courses.flatMap Course.changes) =
      s.bare.changedAll (courses'.flatMap Course.changes) := by
  induction courses generalizing courses' with
  | nil => rw [List.map_eq_nil_iff.mp horders.symm.eq_nil]
  | cons c courses ih =>
      have hmem : c.order ∈ courses'.map Course.order := horders.mem_iff.mp (List.mem_cons_self ..)
      obtain ⟨d, hd, horder⟩ := List.mem_map.mp hmem
      obtain ⟨rest, hfront⟩ := exists_perm_cons hd
      obtain ⟨hc, hcourses⟩ := List.pairwise_cons.mp hapart
      obtain ⟨hd', hrest⟩ := List.pairwise_cons.mp (hapart'.of_perm hfront)
      rw [horder] at hd'
      -- What the two have changed may be written down in different ways, but comes to the same.
      have hsame : s.bare.changedAll c.changes = s.bare.changedAll d.changes := by
        rw [← d.bare_eq, ← c.bare_eq, d.bare_of_tasks_eq_nil (hdone' d hd),
          c.bare_of_tasks_eq_nil (hdone c (List.mem_cons_self ..)), horder]
      have hothers : s.bare.changedAll (courses.flatMap Course.changes) =
          s.bare.changedAll (rest.flatMap Course.changes) := by
        refine ih hcourses hrest (fun e he => hdone e (List.mem_cons_of_mem c he))
          (fun e he => hdone' e (hfront.mem_iff.mpr (List.mem_cons_of_mem d he))) ?_
        have hall := horders.trans (hfront.map Course.order)
        rw [List.map_cons, List.map_cons, horder] at hall
        exact hall.cons_inv
      calc s.bare.changedAll ((c :: courses).flatMap Course.changes)
          = (s.bare.changedAll c.changes).changedAll (courses.flatMap Course.changes) :=
            changedAll_append ..
        _ = (s.bare.changedAll (courses.flatMap Course.changes)).changedAll c.changes :=
            (changedAll_comm (spares_of_apart hc) c.isFor _).symm
        _ = (s.bare.changedAll (rest.flatMap Course.changes)).changedAll c.changes := by rw [hothers]
        _ = (s.bare.changedAll c.changes).changedAll (rest.flatMap Course.changes) :=
            changedAll_comm (spares_of_apart hd') c.isFor _
        _ = (s.bare.changedAll d.changes).changedAll (rest.flatMap Course.changes) := by rw [hsame]
        _ = s.bare.changedAll ((d :: rest).flatMap Course.changes) := (changedAll_append ..).symm
        _ = s.bare.changedAll (courses'.flatMap Course.changes) :=
            (changedAll_flatMap_of_perm hfront hapart' _).symm

/-- The bookings of the orders were begun in `s`, and have come some way together. -/
def Together (now : Instant) (s : Hotel) (orders : List ReservationOrder) (pending : List Task) (t : Hotel) :
    Prop :=
  ∃ courses : List (Course now s), (courses.map Course.order).Perm orders ∧
    Interleaves now s courses pending t

namespace Together

variable {orders orders' : List ReservationOrder}

theorem start (now : Instant) (hqueue : s.log.queue = []) : Together now s [] [] s := by
  refine ⟨[], .refl _, .nil, rfl, ?_⟩
  rw [Hotel.tasks, hqueue]
  exact .refl _

theorem perform {task : Task} (h : Together now s orders (task :: pending) t) :
    Together now s orders pending ((task.perform now).after t) := by
  obtain ⟨courses, horders, h⟩ := h
  obtain ⟨courses', horders', h'⟩ := h.perform
  exact ⟨courses', horders'.trans horders, h'⟩

theorem performAll (h : Together now s orders pending t) :
    Together now s orders [] (pending.foldl (fun u task => (task.perform now).after u) t) := by
  induction pending generalizing t with
  | nil => exact h
  | cons task pending ih => exact ih h.perform

theorem round (h : Together now s orders [] t) : Together now s orders [] (t.pumpRound now) := by
  obtain ⟨courses, horders, h⟩ := h
  have hdrained : Together now s orders t.tasks t.drained := by
    refine ⟨courses, horders, h.apart, h.bare_eq, ?_⟩
    change (t.tasks ++ []).Perm _
    rw [List.append_nil]
    exact h.tasks
  rw [pumpRound_eq_foldl]
  exact hdrained.performAll

theorem drains {batches : List (List Envelope)} (h : Together now s orders [] t)
    (hdrains : Drains now t batches t') : Together now s orders [] t' := by
  induction hdrains with
  | done _ => exact h
  | @round s t u batches _ hhandles _ ih =>
      have hround : t = s.pumpRound now := hhandles.eq_foldl
      exact ih (hround ▸ h.round)

/-- However far they had come, they come to their ends. -/
theorem pump (h : Together now s orders [] t) : Together now s orders [] (t.pump now).2 := by
  obtain ⟨batches, hdrains, -⟩ := exists_drains now t
  exact h.drains hdrains

/-- There is only one end for them to come to. -/
theorem bare_unique (h : Together now s orders [] t) (h' : Together now s orders' [] t')
    (hperm : orders.Perm orders') (hqueue : t.log.queue = []) (hqueue' : t'.log.queue = []) :
    t.bare = t'.bare := by
  obtain ⟨courses, horders, h⟩ := h
  obtain ⟨courses', horders', h'⟩ := h'
  rw [h.bare_eq, h'.bare_eq]
  exact changedAll_flatMap_congr h.apart h'.apart (h.tasks_eq_nil hqueue) (h'.tasks_eq_nil hqueue')
    ((horders.trans hperm).trans horders'.symm)

theorem initiate (h : Together now s orders [] t) (hqueue : s.log.queue = [])
    (hapart : ∀ other ∈ orders, order.Apart other) :
    ((Booking.initiate now order).outcome t).1 = ((Booking.initiate now order).outcome s).1 ∧
      Together now s (order :: orders) [] ((Booking.initiate now order).after t) := by
  obtain ⟨courses, horders, h⟩ := h
  have hcourses : ∀ c ∈ courses, order.Apart c.order := fun c hc =>
    hapart c.order (horders.mem_iff.mp (List.mem_map_of_mem hc))
  obtain ⟨hanswer, c, rfl, h'⟩ := h.initiate hqueue hcourses
  exact ⟨hanswer, c :: courses, horders.cons c.order, h'⟩

end Together

/-- Begins the bookings, one after the other, and does what `settle` says after each. Every answer is given with
its order. -/
def initiateAll (now : Instant) (settle : Hotel → Hotel) : List ReservationOrder → Hotel →
    List (ReservationOrder × Except BookingError Reservation) × Hotel
  | [], s => ([], s)
  | order :: orders, s =>
    let (answer, t) := (Booking.initiate now order).outcome s
    let (answers, u) := initiateAll now settle orders (settle t)
    ((order, answer) :: answers, u)

/-- All bookings are begun before any event is handled. -/
def bookTogether (now : Instant) (orders : List ReservationOrder) (s : Hotel) :
    List (ReservationOrder × Except BookingError Reservation) × Hotel :=
  let (answers, t) := initiateAll now id orders s
  (answers, (t.pump now).2)

/-- Each booking is brought to its end before the next one is begun. -/
def bookInTurn (now : Instant) (orders : List ReservationOrder) (s : Hotel) :
    List (ReservationOrder × Except BookingError Reservation) × Hotel :=
  initiateAll now (fun t => (t.pump now).2) orders s

section
variable (settle : Hotel → Hotel) {orders begun : List ReservationOrder}

/-- Everybody is answered as if there were nobody else. -/
theorem initiateAll_together (hqueue : s.log.queue = [])
    (hsettle : ∀ {begun t}, Together now s begun [] t → Together now s begun [] (settle t))
    (h : Together now s begun [] t) (hapart : orders.Pairwise ReservationOrder.Apart)
    (hnew : ∀ order ∈ orders, ∀ other ∈ begun, order.Apart other) :
    (initiateAll now settle orders t).1 =
        orders.map (fun order => (order, ((Booking.initiate now order).outcome s).1)) ∧
      ∃ all, all.Perm (orders ++ begun) ∧ Together now s all [] (initiateAll now settle orders t).2 := by
  induction orders generalizing begun t with
  | nil => exact ⟨rfl, begun, .refl _, h⟩
  | cons order orders ih =>
      obtain ⟨horder, horders⟩ := List.pairwise_cons.mp hapart
      obtain ⟨hfirst, hothers⟩ := List.forall_mem_cons.mp hnew
      obtain ⟨hanswer, hbegun⟩ := h.initiate hqueue hfirst
      have hnew' : ∀ o ∈ orders, ∀ other ∈ order :: begun, o.Apart other := fun o ho =>
        List.forall_mem_cons.mpr ⟨(horder o ho).symm, hothers o ho⟩
      obtain ⟨hanswers, all, hperm, hall⟩ := ih (hsettle hbegun) horders hnew'
      refine ⟨?_, all, hperm.trans List.perm_middle, hall⟩
      rw [List.map_cons, ← hanswer, ← hanswers]
      rfl

theorem initiateAll_queue (hsettle : ∀ t, (settle t).log.queue = []) (hqueue : s.log.queue = []) :
    (initiateAll now settle orders s).2.log.queue = [] := by
  induction orders generalizing s with
  | nil => exact hqueue
  | cons order orders ih => exact ih (hsettle _)

end

/-- Bookings of orders that keep apart can be begun in any order, and all together or one after the other: each is
answered the same, and in the end the same is stored, the gateway has the same on record, and no event
is left. -/
theorem bookings_confluent (now : Instant) {s : Hotel} (hqueue : s.log.queue = [])
    {orders orders' : List ReservationOrder} (hperm : orders.Perm orders')
    (hapart : orders.Pairwise ReservationOrder.Apart) :
    (bookTogether now orders s).1.Perm (bookInTurn now orders' s).1 ∧
      (bookTogether now orders s).2.reservations = (bookInTurn now orders' s).2.reservations ∧
        (bookTogether now orders s).2.payments = (bookInTurn now orders' s).2.payments ∧
          (bookTogether now orders s).2.gateway = (bookInTurn now orders' s).2.gateway ∧
            (bookTogether now orders s).2.log.queue = [] ∧ (bookInTurn now orders' s).2.log.queue = [] := by
  have hapart' := (hperm.pairwise_iff fun h => ReservationOrder.Apart.symm h).mp hapart
  have hstart := Together.start now hqueue
  obtain ⟨hanswers, all, hall, hbegun⟩ :=
    initiateAll_together id hqueue (fun h => h) hstart hapart (by simp)
  obtain ⟨hanswers', all', hall', hended'⟩ :=
    initiateAll_together (fun t => (t.pump now).2) hqueue Together.pump hstart hapart' (by simp)
  rw [List.append_nil] at hall hall'
  have hended := hbegun.pump
  have hempty' : (bookInTurn now orders' s).2.log.queue = [] := initiateAll_queue _ (pump_queue now) hqueue
  have hempty : (bookTogether now orders s).2.log.queue = [] := pump_queue now _
  have hbare : (bookTogether now orders s).2.bare = (bookInTurn now orders' s).2.bare :=
    hended.bare_unique hended' ((hall.trans hperm).trans hall'.symm) hempty hempty'
  refine ⟨?_, congrArg (·.reservations) hbare, congrArg (·.payments) hbare, congrArg (·.gateway) hbare,
    hempty, hempty'⟩
  rw [bookTogether, bookInTurn, hanswers, hanswers']
  exact hperm.map _

/-- One guest leaves the room on the day when the other one comes. -/
def turnover : List ReservationOrder := [Sample.order "res-1" 3 5, Sample.order "res-2" 5 7]

theorem turnover_confluent :
    turnover.Pairwise ReservationOrder.Apart ∧
      (bookTogether (Sample.day 1) turnover .empty).1.Perm
          (bookInTurn (Sample.day 1) turnover.reverse .empty).1 ∧
        (bookTogether (Sample.day 1) turnover .empty).2.reservations =
            (bookInTurn (Sample.day 1) turnover.reverse .empty).2.reservations ∧
          (bookTogether (Sample.day 1) turnover .empty).2.payments =
              (bookInTurn (Sample.day 1) turnover.reverse .empty).2.payments ∧
            (bookTogether (Sample.day 1) turnover .empty).2.gateway =
                (bookInTurn (Sample.day 1) turnover.reverse .empty).2.gateway ∧
              (bookTogether (Sample.day 1) turnover .empty).2.log.queue = [] ∧
                (bookInTurn (Sample.day 1) turnover.reverse .empty).2.log.queue = [] := by
  have hstays : (Sample.order "res-1" 3 5).Apart (Sample.order "res-2" 5 7) :=
    ⟨by decide, .inr (by decide)⟩
  have hapart : turnover.Pairwise ReservationOrder.Apart := List.pairwise_pair.mpr hstays
  exact ⟨hapart, bookings_confluent (Sample.day 1) rfl (List.reverse_perm turnover).symm hapart⟩

end Hotel
end HotelBooking
