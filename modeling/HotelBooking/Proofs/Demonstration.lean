import HotelBooking.Demo
import HotelBooking.Proofs.FirstStep
import HotelBooking.Proofs.Growth
import HotelBooking.Proofs.ReservationAnswers

/-!
# What the demonstration refuses

The configuration is checked when it is loaded, and the demonstration does not check it again. It only needs a price
and a stay, and refuses a configuration that has none. Any other invalid configuration has a negative price for a
night, or not a positive number of nights. Without nights no reservation is made. With a negative price it is, if the
room is free (`Demo.run_of_invalid`): the guest is paid for staying (`Demo.negativeRate_is_booked`).
-/

namespace HotelBooking

open HotelBooking.Action

namespace Config

variable {now : Instant} {c : Config}

theorem validate_eq_ok (hrate : 0 ≤ c.nightlyRate) (hnights : 0 < c.nights) {total : Money} {stay : Stay}
    (htotal : c.total = .ok total) (hstay : c.stay now = .ok stay) : c.validate now = .ok () := by
  have hrate' : ¬ c.nightlyRate < 0 := Int64.not_lt.mpr hrate
  unfold validate requirePositive
  rw [if_neg hrate', if_pos hnights, htotal, hstay]
  rfl

theorem total_eq_ok_iff {total : Money} : c.total = .ok total ↔
    ∃ amount, word? (c.nightlyRate.toInt * c.nights.toInt) = some amount ∧ total = .of amount c.currency := by
  unfold Config.total
  cases word? (c.nightlyRate.toInt * c.nights.toInt) with
  | none => simp
  | some amount => simp [eq_comm]

theorem stay_eq_ok_iff {stay : Stay} : c.stay now = .ok stay ↔
    now.addDays? c.checkInDays.toInt = some stay.checkIn ∧
      stay.checkIn.addDays? c.nights.toInt = some stay.checkOut := by
  unfold Config.stay
  cases hfirst : now.addDays? c.checkInDays.toInt with
  | none => simp
  | some checkIn =>
      dsimp only
      cases hlast : checkIn.addDays? c.nights.toInt with
      | none =>
          simp only [reduceCtorEq, Option.some.injEq, false_iff, not_and]
          rintro rfl
          simp [hlast]
      | some checkOut =>
          cases stay
          simp only [Except.ok.injEq, Stay.mk.injEq, Option.some.injEq]
          constructor
          · rintro ⟨rfl, rfl⟩
            exact ⟨rfl, hlast⟩
          · rintro ⟨rfl, h⟩
            rw [hlast] at h
            exact ⟨rfl, Option.some.inj h⟩

/-- A negative price for a night is one for the whole stay. -/
theorem total_neg {total : Money} (h : c.total = .ok total) (hrate : c.nightlyRate < 0) (hnights : 0 < c.nights) :
    total.amount < 0 := by
  obtain ⟨amount, hamount, rfl⟩ := total_eq_ok_iff.mp h
  have htimes := word?_eq_some_iff.mp hamount
  have hneg := Int.mul_neg_of_neg_of_pos (Int64.lt_iff_toInt_lt.mp hrate) (Int64.lt_iff_toInt_lt.mp hnights)
  rw [← htimes] at hneg
  exact Int64.lt_iff_toInt_lt.mpr hneg

/-- A stay of a day or more has nights. -/
theorem nights_pos {stay : Stay} (h : c.stay now = .ok stay) (hlong : Instant.nanosPerDay ≤ stay.duration) :
    0 < c.nights := by
  obtain ⟨-, hlast⟩ := stay_eq_ok_iff.mp h
  by_contra hnights
  have hnone : c.nights.toInt ≤ 0 := Int64.le_iff_toInt_le.mp (Int64.not_lt.mp hnights)
  exact Instant.not_lt.mpr (Instant.le_of_addDays? hnone hlast) (Stay.checkIn_lt_checkOut hlong)

end Config

namespace Hotel

/-- Nothing has been booked: what is stored, announced, sent, on record and called is the same. -/
structure NothingBooked (s t : Hotel) : Prop where
  reservations : t.reservations = s.reservations
  payments : t.payments = s.payments
  log : t.log = s.log
  notifier : t.notifier = s.notifier
  transactions : t.gateway.transactions = s.gateway.transactions
  calls : ∀ op, t.gateway.calls op = s.gateway.calls op

/-- What is only counted, and what the gateway is told to fail, is not part of a booking. -/
theorem NothingBooked.of_untouched {s t : Hotel} {failure : Option GatewayOperation}
    (h : (s.withGateway (Demo.applyFailure failure s.gateway)).Untouched t) : s.NothingBooked t := by
  have hparts : t.uncounted = (s.withGateway (Demo.applyFailure failure s.gateway)).uncounted := h
  have hgateway : t.gateway = Demo.applyFailure failure s.gateway := congrArg gateway hparts
  exact {
    reservations := (congrArg Hotel.reservations hparts :)
    payments := (congrArg Hotel.payments hparts :)
    log := (congrArg Hotel.log hparts :)
    notifier := (congrArg Hotel.notifier hparts :)
    transactions := by
      rw [hgateway]
      rfl
    calls := by
      intro op
      rw [hgateway]
      cases op <;> rfl }

end Hotel

namespace Demo

variable {now : Instant} {c : Config} {mode : BookingMode} {order : ReservationOrder} {s : Hotel} {r : Reservation}

theorem order_eq_ok_iff : Demo.order now c = .ok order ↔
    ∃ stay total, c.stay now = .ok stay ∧ c.total = .ok total ∧
      order = ⟨reservationId, ⟨"guest-demo"⟩, roomId, stay, total, [guest]⟩ := by
  unfold Demo.order
  cases hstay : c.stay now with
  | error e => simp [bind, Except.bind]
  | ok stay =>
      cases htotal : c.total with
      | error e => simp [bind, Except.bind]
      | ok total => simp [bind, Except.bind, pure, Except.pure, eq_comm]

/-- The booking in one go. -/
def whole (order : ReservationOrder) : BookingOrder := ⟨order, Booking.paymentIdFor order.reservationId, "card"⟩

theorem book_orchestrated (now : Instant) (order : ReservationOrder) (s : Hotel) :
    book now .orchestrated order s = match Booking.complete now (whole order) s with
      | .ok _ t => ((none, t.log.topics), t)
      | .error e t => ((some e, t.log.topics), t) := rfl

theorem book_eventDriven (now : Instant) (order : ReservationOrder) (s : Hotel) :
    book now .eventDriven order s = match Booking.initiate now order s with
      | .ok _ t => ((none, (t.pump now).1), (t.pump now).2)
      | .error e t => ((some e, []), t) := rfl

/-- The system when the reservation is asked for. The booking in one go has been counted by then. -/
def asked (mode : BookingMode) (s : Hotel) : Hotel :=
  match mode with
  | .orchestrated => s.counted .executions
  | .eventDriven => s

theorem grants_asked_iff (mode : BookingMode) : (ReservationRequest.create order).Grants now (asked mode s) r ↔
    (ReservationRequest.create order).Grants now s r := by
  cases mode <;> exact Iff.rfl

/-- If no reservation can be made, the first step fails and leaves everything as it was. -/
theorem book_of_not_grants (mode : BookingMode) (h : ¬ ∃ r, (ReservationRequest.create order).Grants now s r) :
    ∃ e topics t, book now mode order s = ((some (.stepFailed .createReservation e), topics), t) ∧
      s.Untouched t := by
  have hasked : ¬ ∃ r, (ReservationRequest.create order).Grants now (asked mode s) r := by
    simpa only [grants_asked_iff] using h
  obtain ⟨e, -, hcreate⟩ := ReservationRequest.perform_of_not_grants hasked
  have hfails := mapError_error (BookingError.stepFailed .createReservation) hcreate
  cases mode with
  | orchestrated =>
      have hrun : Booking.run now (whole order) (s.counted .executions) =
          .error (.stepFailed .createReservation e) (s.counted .executions) := bind_error _ hfails
      rw [book_orchestrated, Booking.complete_apply, hrun]
      exact ⟨e, _, _, rfl, rfl⟩
  | eventDriven =>
      have hinitiate : Booking.initiate now order s = .error (.stepFailed .createReservation e) s := hfails
      rw [book_eventDriven, hinitiate]
      exact ⟨e, [], s, rfl, .refl s⟩

theorem reservation?_create_after (h : (ReservationRequest.create order).Grants now s r) :
    ((Reservations.create now order).after s).reservation? order.reservationId = some r := by
  have hstored : (s.storeReservation order.reservationId r).reservation? order.reservationId = some r := by
    rw [Hotel.reservation?_storeReservation, if_pos rfl]
  have hcreate : Reservations.create now order s = _ := ReservationRequest.perform_of_grants h
  -- It is stored also when it cannot be announced.
  cases hlog : s.log.publishError? (ReservationRequest.create order).topic with
  | none =>
      rw [hlog] at hcreate
      rw [after_of_ok hcreate]
      exact hstored
  | some e =>
      rw [hlog] at hcreate
      rw [after_of_error hcreate]
      exact hstored

/-- However the booking goes on from the reservation, what was stored by then stays stored. -/
theorem create_grows_book (now : Instant) (mode : BookingMode) (order : ReservationOrder) (s : Hotel) :
    ((Reservations.create now order).after (asked mode s)).Grows (book now mode order s).2 := by
  cases mode with
  | orchestrated =>
      have hbook : (book now .orchestrated order s).2 = (Booking.complete now (whole order)).after s := by
        rw [book_orchestrated, after, outcome]
        cases Booking.complete now (whole order) s <;> rfl
      obtain ⟨m, hafter⟩ := @Booking.complete_after now (whole order) s
      have hrun := Booking.run_after_create now Hotel.services_grow (whole order) (s.counted .executions)
      rw [hbook, hafter]
      exact hrun.trans (.of_entries_eq rfl rfl)
  | eventDriven =>
      have hinitiate : (Booking.initiate now order).after s = (Reservations.create now order).after s :=
        after_mapError _ _ s
      rw [asked, ← hinitiate, book_eventDriven]
      cases hfirst : Booking.initiate now order s with
      | ok r t =>
          rw [after_of_ok hfirst]
          exact Hotel.pumpRounds_moves Hotel.services_grow (fun _ => .of_entries_eq rfl rfl) now Hotel.stages t
      | error e t =>
          rw [after_of_error hfirst]
          exact Std.Refl.refl t

/-- A reservation that is made is still stored in the end. -/
theorem reservation?_book (mode : BookingMode) (h : (ReservationRequest.create order).Grants now s r) :
    ∃ r', (book now mode order s).2.reservation? order.reservationId = some r' ∧ r.Becomes r' :=
  (create_grows_book now mode order s).reservation (reservation?_create_after ((grants_asked_iff mode).mpr h))

/-- What the demonstration comes to for an invalid configuration that has a price and a stay all the same. -/
structure RunsInvalid (now : Instant) (c : Config) (order : ReservationOrder) (s : Hotel) (report : Report)
    (t : Hotel) : Prop where
  refused : (¬ ∃ r, (ReservationRequest.create order).Grants now s r) →
    (∃ e, report.error = some (.stepFailed .createReservation e)) ∧ s.NothingBooked t
  booked : ∀ r, (ReservationRequest.create order).Grants now s r →
    (c.nightlyRate < 0 ∧ 0 < c.nights) ∧ ∃ r', t.reservation? reservationId = some r' ∧
      report.reservation = some r' ∧ r'.total = order.total ∧ r'.total.amount < 0

/-- The operation of the gateway that is configured to fail fails. -/
def prepared (c : Config) (s : Hotel) : Hotel := s.withGateway (applyFailure c.gatewayFailure s.gateway)

theorem run_of_order (h : Demo.order now c = .ok order) (s : Hotel) :
    let booked := book now c.mode order (prepared c s)
    run now c s = .ok
      { error := booked.1.1
        reservation := booked.2.reservation? order.reservationId
        payment := booked.2.payment? (Booking.paymentIdFor order.reservationId)
        topics := booked.1.2 }
      booked.2 := by
  unfold run
  rw [h]
  rfl

/-- An invalid configuration is refused if the price or the stay is not representable, and then nothing changes. If
both are, nothing is booked as long as no reservation can be made, and else a reservation for a negative amount. -/
theorem run_of_invalid {e : ConfigError} (h : c.validate now = .error e) (s : Hotel) :
    (∀ e', Demo.order now c = .error e' → run now c s = .error e' s) ∧
      ∀ order, Demo.order now c = .ok order → ¬ (0 ≤ c.nightlyRate ∧ 0 < c.nights) ∧
        ∃ report t, run now c s = .ok report t ∧ RunsInvalid now c order s report t := by
  constructor
  · intro e' horder
    unfold run
    rw [horder]
  · intro order horder
    obtain ⟨stay, total, hstay, htotal, horder_eq⟩ := order_eq_ok_iff.mp horder
    have hinvalid : ¬ (0 ≤ c.nightlyRate ∧ 0 < c.nights) := by
      rintro ⟨hrate, hnights⟩
      rw [Config.validate_eq_ok hrate hnights htotal hstay] at h
      contradiction
    refine ⟨hinvalid, _, _, run_of_order horder s, ?_, ?_⟩
    · intro hrefused
      obtain ⟨e, topics, t, hbook, huntouched⟩ := book_of_not_grants (s := prepared c s) c.mode hrefused
      rw [hbook]
      exact ⟨⟨e, rfl⟩, .of_untouched huntouched⟩
    · intro r hgrants
      obtain ⟨r', hr', hbecomes⟩ := reservation?_book (s := prepared c s) c.mode hgrants
      obtain ⟨-, hmake, -, -⟩ := hgrants
      obtain ⟨hlong, -, -, rfl⟩ := Reservation.make_eq_ok_iff.mp hmake
      subst horder_eq
      have hnights : 0 < c.nights := Config.nights_pos hstay hlong
      have hrate : c.nightlyRate < 0 := Int64.not_le.mp fun hrate => hinvalid ⟨hrate, hnights⟩
      refine ⟨⟨hrate, hnights⟩, r', hr', hr', hbecomes.total, ?_⟩
      rw [hbecomes.total]
      exact Config.total_neg htotal hrate hnights

/-- The guest is paid a dollar for each of two nights. -/
def negativeRate : Config := { nightlyRate := -100 }

open Sample

/-- What is booked a day after the start. -/
def negativeOrder : ReservationOrder :=
  ⟨reservationId, ⟨"guest-demo"⟩, roomId, ⟨day 8, day 10⟩, .of (-200) "USD", [guest]⟩

set_option maxRecDepth 10000 in
theorem negativeRate_runs :
    negativeRate.validate (day 1) = .error ⟨Config.rateVariable, "-100"⟩ ∧
      Demo.order (day 1) negativeRate = .ok negativeOrder ∧
        ∃ report t, run (day 1) negativeRate Hotel.empty = .ok report t ∧
          ∃ r, t.reservation? reservationId = some r ∧ r.total = .of (-200) "USD" := by
  have hinvalid : negativeRate.validate (day 1) = .error ⟨Config.rateVariable, "-100"⟩ := by
    decide +kernel
  have horder : Demo.order (day 1) negativeRate = .ok negativeOrder := by decide +kernel
  have hgrants : (ReservationRequest.create negativeOrder).Grants (day 1) Hotel.empty
      (.fresh (day 1) negativeOrder) :=
    ⟨by decide +kernel, by decide +kernel, rfl, by decide +kernel⟩
  obtain ⟨-, report, t, hrun, hruns⟩ := (run_of_invalid hinvalid Hotel.empty).2 negativeOrder horder
  obtain ⟨-, r, hr, -, htotal, -⟩ := hruns.booked _ hgrants
  exact ⟨hinvalid, horder, report, t, hrun, r, hr, htotal⟩

set_option maxRecDepth 10000 in
/-- The whole booking goes through, and the negative amount is captured. -/
theorem negativeRate_is_booked :
    negativeRate.validate (day 1) = .error ⟨Config.rateVariable, "-100"⟩ ∧
      ∃ report t, run (day 1) negativeRate Hotel.empty = .ok report t ∧ report.succeeded = true ∧
        report.payment.map (fun p => (p.status, p.amount)) = some (.captured, .of (-200) "USD") := by
  have hreport : ((run (day 1) negativeRate).outcome Hotel.empty).1.toOption.map
      (fun report => (report.succeeded, report.payment.map fun p => (p.status, p.amount))) =
        some (true, some (.captured, .of (-200) "USD")) := by
    decide +kernel
  refine ⟨by decide +kernel, ?_⟩
  unfold outcome at hreport
  cases hrun : run (day 1) negativeRate Hotel.empty with
  | error e t =>
      rw [hrun] at hreport
      contradiction
  | ok report t =>
      rw [hrun] at hreport
      obtain ⟨hsucceeded, hpayment⟩ := Prod.mk.inj (Option.some.inj hreport)
      exact ⟨report, t, rfl, hsucceeded, hpayment⟩

end Demo
end HotelBooking
