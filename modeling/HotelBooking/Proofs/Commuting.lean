import HotelBooking.Proofs.Completion
import HotelBooking.Proofs.Confluence
import HotelBooking.Proofs.Footprint

/-!
# Bookings in either order

A booking in one go reads and changes nothing but what is under its own keys, and the room that it is for.
So another booking before it makes no difference to what it is answered, nor to what it adds, unless the
two want the same room for the same time (`Booking.complete_agree`). Both orders of two such bookings come
to the same in the end; only the order of what was announced and of the notices shows which one was first
(`Booking.complete_comm`).
-/

namespace HotelBooking

open HotelBooking.Action

/-- The orders are for different reservations and payments, and for different rooms or different times. -/
structure BookingOrder.Apart (order other : BookingOrder) : Prop where
  reservation : order.reservation.Apart other.reservation
  paymentId_ne : order.paymentId ≠ other.paymentId

namespace BookingOrder.Apart

variable {order other : BookingOrder} (h : order.Apart other)
include h

theorem symm : other.Apart order := ⟨h.reservation.symm, h.paymentId_ne.symm⟩

theorem transactionId_ne : order.transactionId ≠ other.transactionId :=
  fun hsame => h.paymentId_ne (Gateway.eq_of_transactionId hsame)

end BookingOrder.Apart

namespace Booking

/-- Both systems look the same to the booking of `order`, but for the rooms that are free. -/
structure SeesAlike (order : BookingOrder) (s t : Hotel) : Prop where
  reservations :
    Table.SameAt order.reservation.reservationId.text s.reservations t.reservations
  payments : Table.SameAt order.paymentId.text s.payments t.payments
  transaction : t.gateway.transactions[order.transactionId]? =
    s.gateway.transactions[order.transactionId]?
  outages : t.outages = s.outages

/-- Two bookings of `order` have led from `s` to `s'` and from `t` to `t'`. What they see is the same still,
and the same has been added on both sides. -/
structure Alongside (order : BookingOrder) (s t s' t' : Hotel) : Prop extends SeesAlike order s' t' where
  queue : ∃ es, s'.log.queue = s.log.queue ++ es ∧ t'.log.queue = t.log.queue ++ es
  sent : ∃ ns, s'.notifier.sent = s.notifier.sent ++ ns ∧ t'.notifier.sent = t.notifier.sent ++ ns
  attempts : t'.notifier.attempts + s.notifier.attempts = s'.notifier.attempts + t.notifier.attempts
  calls : ∀ op, t'.gateway.calls op + s.gateway.calls op = s'.gateway.calls op + t.gateway.calls op
  counts : ∀ m, t'.metrics.count m + s.metrics.count m = s'.metrics.count m + t.metrics.count m

namespace Alongside

variable {order : BookingOrder} {s t s' t' : Hotel}

theorem start (h : SeesAlike order s t) : Alongside order s t s t where
  toSeesAlike := h
  queue := ⟨[], by simp, by simp⟩
  sent := ⟨[], by simp, by simp⟩
  attempts := Nat.add_comm ..
  calls _ := Nat.add_comm ..
  counts _ := Nat.add_comm ..

variable (h : Alongside order s t s' t')
include h

theorem storeReservation (r : Reservation) : Alongside order s t
    (s'.storeReservation order.reservation.reservationId r)
    (t'.storeReservation order.reservation.reservationId r) :=
  { h with reservations := h.reservations.insertBoth r }

theorem storePayment (p : Payment) : Alongside order s t (s'.storePayment order.paymentId p)
    (t'.storePayment order.paymentId p) :=
  { h with payments := h.payments.insertBoth p }

theorem published (e : Envelope) : Alongside order s t (s'.published e) (t'.published e) := by
  obtain ⟨es, hs, ht⟩ := h.queue
  exact { h with queue := ⟨es ++ [e], by simp [hs], by simp [ht]⟩ }

theorem counted (m : Metric) : Alongside order s t (s'.counted m) (t'.counted m) := by
  have hcounts (n : Metric) : (t'.counted m).metrics.count n + s.metrics.count n =
      (s'.counted m).metrics.count n + t.metrics.count n := by
    have hn := h.counts n
    simp only [Hotel.counted_metrics, Metrics.increment]
    split_ifs <;> omega
  exact { h with counts := hcounts }

/-- Both gateways may change in the same way, in what the booking sees of them and in their calls. -/
theorem withGateway {g g' : Gateway}
    (htransaction : g'.transactions[order.transactionId]? = g.transactions[order.transactionId]?)
    (hs : (s'.withGateway g).outages = s'.outages) (ht : (t'.withGateway g').outages = t'.outages)
    (hcalls : ∀ op, g'.calls op + s'.gateway.calls op = g.calls op + t'.gateway.calls op) :
    Alongside order s t (s'.withGateway g) (t'.withGateway g') := by
  have hadded (op : GatewayOperation) :
      g'.calls op + s.gateway.calls op = g.calls op + t.gateway.calls op := by
    have hop := h.calls op
    have hop' := hcalls op
    omega
  exact {
    reservations := h.reservations
    payments := h.payments
    transaction := htransaction
    outages := ht.trans (h.outages.trans hs.symm)
    queue := h.queue
    sent := h.sent
    attempts := h.attempts
    calls := hadded
    counts := h.counts }

theorem called (op : GatewayOperation) : Alongside order s t
    (s'.withGateway (s'.gateway.called op)) (t'.withGateway (t'.gateway.called op)) := by
  have houtages (u : Hotel) : (u.withGateway (u.gateway.called op)).outages = u.outages := by
    cases op <;> rfl
  refine h.withGateway ?_ (houtages s') (houtages t') fun other => ?_
  · rw [Gateway.transactions_called, Gateway.transactions_called, h.transaction]
  · rw [Gateway.calls_called, Gateway.calls_called]
    omega

theorem opened (amount : Money) : Alongside order s t
    (s'.withGateway (s'.gateway.opened order.transactionId amount))
    (t'.withGateway (t'.gateway.opened order.transactionId amount)) := by
  refine h.withGateway ?_ rfl rfl fun op => ?_
  · simp [Gateway.opened]
  · cases op <;> exact Nat.add_comm ..

theorem closed : Alongside order s t (s'.withGateway (s'.gateway.closed order.transactionId))
    (t'.withGateway (t'.gateway.closed order.transactionId)) := by
  refine h.withGateway ?_ rfl rfl fun op => ?_
  · simp [Gateway.closed]
  · cases op <;> exact Nat.add_comm ..

/-- The guest is told in both or in neither. -/
theorem confirmationSent (r : Reservation) :
    Alongside order s t (s'.confirmationSent r) (t'.confirmationSent r) := by
  have hdown : t'.notifier.isDown = s'.notifier.isDown := congrArg Outages.notices h.outages
  have hnotifier (u : Hotel) : (u.confirmationSent r).notifier = _ := Notifier.send_after _ u.notifier
  have houtages (u : Hotel) : (u.confirmationSent r).outages = u.outages := by
    rw [Hotel.outages, hnotifier]
    rfl
  have hsent : ∃ ns, (s'.confirmationSent r).notifier.sent = s.notifier.sent ++ ns ∧
      (t'.confirmationSent r).notifier.sent = t.notifier.sent ++ ns := by
    obtain ⟨ns, hs, ht⟩ := h.sent
    rw [hnotifier, hnotifier, hs, ht, hdown, List.append_assoc, List.append_assoc]
    exact ⟨_, rfl, rfl⟩
  refine { h with outages := ?_, sent := hsent, attempts := ?_ }
  · rw [houtages, houtages, h.outages]
  · have hattempts := h.attempts
    simp only [hnotifier]
    omega

end Alongside

variable {order : BookingOrder} {s t : Hotel}

theorem Alongside.mirrors : Hotel.Mirrors (Alongside order s t) order.reservation.reservationId
    order.paymentId order.transactionId where
  reservations h := h.reservations
  payments h := h.payments
  failsAuthorize h := congrArg Outages.authorize h.outages
  failsCapture h := congrArg Outages.capture h.outages
  transaction h := h.transaction
  refused h := congrArg Outages.topics h.outages
  storeReservation h := h.storeReservation
  storePayment h := h.storePayment
  called h := h.called
  opened h := h.opened
  published h := h.published
  counted h := h.counted

theorem Alongside.refund_related (amount : Money) :
    Related (Alongside order s t) (Backend.refund order.transactionId amount)
      (Backend.refund order.transactionId amount) := by
  intro u v h
  have hfails : v.gateway.failsRefund = u.gateway.failsRefund := congrArg Outages.refund h.outages
  have herror : v.gateway.refundError? order.transactionId =
      u.gateway.refundError? order.transactionId := by
    simp only [Gateway.refundError?, hfails, h.transaction]
  rw [Hotel.refund_apply, Hotel.refund_apply, herror]
  cases u.gateway.refundError? order.transactionId with
  | none => exact .ok (h.called .refund).closed
  | some e => exact .error (h.called .refund)

theorem Alongside.notifyConfirmation_related (r : Reservation) :
    Related (Alongside order s t) (notifyConfirmation r) (notifyConfirmation r) := by
  intro u v h
  rw [notifyConfirmation_apply, notifyConfirmation_apply]
  exact .ok (h.confirmationSent r)

/-! ### A booking beside another -/

section
variable (now : Instant) {s' t' : Hotel}
  (hfree : t'.blocking order.reservation.roomId order.reservation.stay = [] ↔
    s'.blocking order.reservation.roomId order.reservation.stay = [])

include hfree in
/-- Whichever step is reached in both, it is answered the same. -/
theorem Alongside.perform_agree {step : BookingStep} {u v : Hotel} (hu : Reaches now order s' step u)
    (hv : Reaches now order t' step v) (h : Alongside order s t u v) :
    Agree (Alongside order s t) (perform now order step u) (perform now order step v) := by
  have hmirrors : Hotel.Mirrors (Alongside order s t) _ _ _ := Alongside.mirrors
  have hreservation := hmirrors.reservationAlike
  have hpayment := hmirrors.paymentAlike
  unfold perform
  cases step with
  | createReservation =>
      have hroom : Agree (Alongside order s t)
          (Backend.isRoomAvailable order.reservation.roomId order.reservation.stay u)
          (Backend.isRoomAvailable order.reservation.roomId order.reservation.stay v) := by
        refine Hotel.isRoomAvailable_agree h ?_
        rw [hu.eq_before, hv.eq_before]
        exact hfree
      exact (hreservation.make now rfl hroom).bind fun _ _ _ => .pure _
  | authorizePayment =>
      have hauthorize : Related (Alongside order s t) (Payments.authorize now order.payment)
          (Payments.authorize now order.payment) :=
        hpayment.authorize now rfl (hmirrors.authorize_related (by rfl))
      exact (hauthorize.bind fun _ => .pure _) u v h
  | capturePayment =>
      have hread : u.payment? order.paymentId = some (order.authorizedPayment now) := by
        rw [hu.eq_before, before_capture_payment?]
      have hcapture : Agree (Alongside order s t) (Payments.capture now order.paymentId u)
          (Payments.capture now order.paymentId v) := by
        refine hpayment.capture now h fun p w hp => ?_
        rw [Hotel.readPayment_apply, hread] at hp
        cases hp
        exact hmirrors.capture_related _
      exact hcapture.bind fun _ _ _ => .pure _
  | confirmReservation => exact ((hreservation.modify now _ _).bind fun _ => .pure _) u v h

theorem Alongside.compensate_agree {α : Type} {step : BookingStep} {e : OperationError} {u v : Hotel}
    (hu : FailsAt now order s' step e u) (h : Alongside order s t u v) :
    Agree (Alongside order s t)
      ((compensate now step e order.reservation.reservationId (capturedBy order step) :
        Action Hotel _ α) u)
      ((compensate now step e order.reservation.reservationId (capturedBy order step) :
        Action Hotel _ α) v) := by
  have hmirrors : Hotel.Mirrors (Alongside order s t) _ _ _ := Alongside.mirrors
  refine Booking.compensate_agree hmirrors.paymentAlike.count now step e h (fun id hid => ?_)
    fun _ => hmirrors.reservationAlike.modify now _ _
  -- Only a payment that the booking has captured is refunded.
  have hstep : step = .confirmReservation ∧ id = order.paymentId := by
    cases step <;> cases hid
    exact ⟨rfl, rfl⟩
  obtain ⟨rfl, rfl⟩ := hstep
  obtain ⟨hread, -, -⟩ := hu.captured
  refine hmirrors.paymentAlike.refund now h fun p w hp => ?_
  rw [Hotel.readPayment_apply, hread] at hp
  cases hp
  exact Alongside.refund_related _

theorem Alongside.finish_related :
    Related (Alongside order s t) (finish order : Action Hotel _ _) (finish order) := by
  have hmirrors : Hotel.Mirrors (Alongside order s t) _ _ _ := Alongside.mirrors
  unfold finish
  refine ((hmirrors.reservationAlike.read.mapError _).mapError _).bind fun r => ?_
  exact (Alongside.notifyConfirmation_related r).bind fun _ => .pure r

include hfree in
theorem Alongside.run_agree (h : Alongside order s t s' t') :
    Agree (Alongside order s t) (run now order s') (run now order t') := by
  have hperform {step : BookingStep} {u v : Hotel} (hu : Reaches now order s' step u)
      (hv : Reaches now order t' step v) (huv : Alongside order s t u v) :=
    Alongside.perform_agree now hfree hu hv huv
  -- The first system says how far the booking gets; the second is led through the same steps.
  rcases run_cases now order s' with ⟨u, w, hreaches, hlast, hrun⟩ | ⟨step, e, u, hfails, hrun⟩
  · obtain ⟨v, hv, huv⟩ := hreaches.transfer hperform h
    obtain ⟨x, hx, hwx⟩ := (hperform hreaches hv huv).of_ok hlast
    rw [hrun, hv.run_eq hx]
    exact Alongside.finish_related w x hwx
  · obtain ⟨v, hv, huv⟩ := hfails.transfer hperform h
    rw [hrun, hv.run_eq]
    exact Alongside.compensate_agree now hfails huv

end

/-- A booking is answered the same by two systems that look the same to it and in which its room is as free,
and it adds the same to both. -/
theorem complete_agree (now : Instant) (h : SeesAlike order s t)
    (hfree : t.blocking order.reservation.roomId order.reservation.stay = [] ↔
      s.blocking order.reservation.roomId order.reservation.stay = []) :
    Agree (Alongside order s t) (complete now order s) (complete now order t) := by
  have hrun : Agree (Alongside order s t) (run now order (s.counted .executions))
      (run now order (t.counted .executions)) :=
    Alongside.run_agree now hfree ((Alongside.start h).counted _)
  rw [complete_apply, complete_apply]
  cases hs : run now order (s.counted .executions) with
  | ok r u =>
      obtain ⟨v, hv, huv⟩ := hrun.of_ok hs
      rw [hv]
      exact .ok ((huv.counted _).counted _)
  | error e u =>
      obtain ⟨v, hv, huv⟩ := hrun.of_error hs
      rw [hv]
      exact .error ((huv.counted _).counted _)

/-! ### Two bookings -/

/-- From the first system to the second, a booking of `order` has touched nothing but what is its own, and
nothing that no booking touches. -/
structure Passes (now : Instant) (order : BookingOrder) (s t : Hotel) : Prop
    extends Within now order s t where
  outages : t.outages = s.outages
  reservationEntity : t.reservations.entity = s.reservations.entity
  paymentEntity : t.payments.entity = s.payments.entity
  taken : t.log.taken = s.log.taken

theorem complete_passes (now : Instant) (order : BookingOrder) (s : Hotel) :
    Passes now order s ((complete now order).after s) := by
  have hfixed : ServicesMove (Same fun s : Hotel =>
      (s.reservations.entity, s.payments.entity, s.log.taken)) :=
    Hotel.servicesMove_of (fun _ _ _ => rfl) (fun _ _ _ => rfl) (fun _ _ _ _ _ => rfl)
      (fun _ _ => rfl) (fun _ _ => rfl) fun _ _ _ => rfl
  have hsame := complete_moves now hfixed order s
  simp only [Same, Prod.mk.injEq] at hsame
  obtain ⟨hreservations, hpayments, htaken⟩ := hsame
  exact {
    toWithin := complete_within now order s
    outages := complete_moves now Hotel.services_keep_outages order s
    reservationEntity := hreservations
    paymentEntity := hpayments
    taken := htaken }

namespace Passes

variable {now : Instant} {other : BookingOrder} (h : Passes now other s t) (hapart : order.Apart other)
include h hapart

/-- A booking that keeps apart sees no difference. -/
theorem seesAlike : SeesAlike order s t where
  reservations := ⟨h.reservationEntity, congrArg Outages.newReservations h.outages,
    congrArg Outages.reservationChanges h.outages,
    h.reservation?_eq hapart.reservation.reservationId_ne⟩
  payments := ⟨h.paymentEntity, congrArg Outages.newPayments h.outages,
    congrArg Outages.paymentChanges h.outages, h.payment?_eq hapart.paymentId_ne⟩
  transaction := h.transaction _ hapart.transactionId_ne
  outages := h.outages

/-- Nor does it find its room taken, or freed. -/
theorem blocking_iff : t.blocking order.reservation.roomId order.reservation.stay = [] ↔
    s.blocking order.reservation.roomId order.reservation.stay = [] := by
  rw [Hotel.blocking_eq_nil_iff, Hotel.blocking_eq_nil_iff]
  constructor
  · intro hfree key r hr
    rcases h.reservation ⟨key⟩ with hsame | ⟨-, hnew, -⟩
    · exact hfree key r (hsame.trans hr)
    · cases hnew.symm.trans hr
  · intro hfree key r hr
    rcases h.reservation ⟨key⟩ with hsame | ⟨-, -, r', hr', hbecomes⟩
    · exact hfree key r (hsame.symm.trans hr)
    · cases hr.symm.trans hr'
      exact hapart.reservation.not_blocks hbecomes.roomId hbecomes.stay

end Passes

/-- A booking comes to the same whether another that keeps apart is made before it or not. -/
theorem complete_beside (now : Instant) {other : BookingOrder} (hapart : order.Apart other) (s : Hotel) :
    Agree (Alongside order s ((complete now other).after s)) (complete now order s)
      (complete now order ((complete now other).after s)) :=
  have hother := complete_passes now other s
  complete_agree now (hother.seesAlike hapart) (hother.blocking_iff hapart)

/-- If each of two bookings changes nothing but what is under its own key, and that in the same way first or
second, then it makes no difference which of them is first. -/
theorem lookup_comm {κ α : Type} (look : Hotel → κ → Option α) {a b : κ} (hne : a ≠ b)
    {s sa sb sab sba : Hotel} (ha : ∀ k, k ≠ a → look sa k = look s k)
    (hb : ∀ k, k ≠ b → look sb k = look s k) (hab : ∀ k, k ≠ b → look sab k = look sa k)
    (hba : ∀ k, k ≠ a → look sba k = look sb k) (howna : look sba a = look sa a)
    (hownb : look sab b = look sb b) (k : κ) : look sab k = look sba k := by
  by_cases hka : k = a
  · subst hka
    rw [hab k hne, howna]
  · by_cases hkb : k = b
    · subst hkb
      rw [hba k hne.symm, hownb]
    · rw [hab k hkb, ha k hka, hba k hka, hb k hkb]

end Booking

theorem Table.ext_of_lookup {α : Type} {t u : Table α} (hentity : t.entity = u.entity)
    (hcreate : t.refusesCreate = u.refusesCreate) (hupdate : t.refusesUpdate = u.refusesUpdate)
    (hentries : ∀ key : String, t.entries[key]? = u.entries[key]?) : t = u := by
  obtain ⟨entity, entries, refusesCreate, refusesUpdate⟩ := t
  cases hentity
  cases hcreate
  cases hupdate
  have hmap : entries = u.entries := Std.ExtTreeMap.ext_getElem? fun key => hentries key
  rw [hmap]

theorem Gateway.ext_of_lookup {g g' : Gateway}
    (htransactions : ∀ id : String, g.transactions[id]? = g'.transactions[id]?)
    (hauthorize : g.failsAuthorize = g'.failsAuthorize) (hcapture : g.failsCapture = g'.failsCapture)
    (hrefund : g.failsRefund = g'.failsRefund) (hcalls : ∀ op, g.calls op = g'.calls op) : g = g' := by
  have hmap : g.transactions = g'.transactions :=
    Std.ExtTreeMap.ext_getElem? fun id => htransactions id
  have hauthorizeCalls : g.authorizeCalls = g'.authorizeCalls := hcalls .authorize
  have hcaptureCalls : g.captureCalls = g'.captureCalls := hcalls .capture
  have hrefundCalls : g.refundCalls = g'.refundCalls := hcalls .refund
  cases g
  cases g'
  simp_all only

namespace Hotel

/-- The systems hold the same, and the same is out in both. The same was announced in both and the same
notices were sent, if perhaps in another order. -/
structure SameUpToOrder (s t : Hotel) : Prop where
  reservations : s.reservations = t.reservations
  payments : s.payments = t.payments
  gateway : s.gateway = t.gateway
  metrics : s.metrics = t.metrics
  outages : s.outages = t.outages
  taken : s.log.taken = t.log.taken
  queue : s.log.queue.Perm t.log.queue
  attempts : s.notifier.attempts = t.notifier.attempts
  sent : s.notifier.sent.Perm t.notifier.sent

open Booking (Passes Alongside lookup_comm)

/-- Two bookings that keep apart, in either order. -/
theorem SameUpToOrder.of_bookings {now : Instant} {a b : BookingOrder} (h : a.Apart b)
    {s sa sb sab sba : Hotel} (hsa : Passes now a s sa) (hsb : Passes now b s sb)
    (hsab : Passes now b sa sab) (hsba : Passes now a sb sba) (ha : Alongside a s sb sa sba)
    (hb : Alongside b s sa sb sab) : sab.SameUpToOrder sba := by
  have houtages : sab.outages = sba.outages := by
    rw [hsab.outages, hsa.outages, hsba.outages, hsb.outages]
  have hreservation := lookup_comm (fun s id => s.reservation? id) h.reservation.reservationId_ne
    (fun _ => hsa.reservation?_eq) (fun _ => hsb.reservation?_eq) (fun _ => hsab.reservation?_eq)
    (fun _ => hsba.reservation?_eq) ha.reservations.entry hb.reservations.entry
  have hpayment := lookup_comm (fun s id => s.payment? id) h.paymentId_ne
    (fun _ => hsa.payment?_eq) (fun _ => hsb.payment?_eq) (fun _ => hsab.payment?_eq)
    (fun _ => hsba.payment?_eq) ha.payments.entry hb.payments.entry
  have htransaction := lookup_comm (fun s (id : String) => s.gateway.transactions[id]?)
    h.transactionId_ne hsa.transaction hsb.transaction hsab.transaction hsba.transaction
    ha.transaction hb.transaction
  have hcalls (op : GatewayOperation) : sab.gateway.calls op = sba.gateway.calls op := by
    have hcallsa := ha.calls op
    have hcallsb := hb.calls op
    omega
  have hcounts (m : Metric) : sab.metrics.count m = sba.metrics.count m := by
    have hcountsa := ha.counts m
    have hcountsb := hb.counts m
    omega
  obtain ⟨es, hes, hes'⟩ := ha.queue
  obtain ⟨fs, hfs, hfs'⟩ := hb.queue
  obtain ⟨ns, hns, hns'⟩ := ha.sent
  obtain ⟨ms, hms, hms'⟩ := hb.sent
  constructor
  case reservations =>
    refine Table.ext_of_lookup ?_ (congrArg Outages.newReservations houtages)
      (congrArg Outages.reservationChanges houtages) fun key => hreservation ⟨key⟩
    rw [hsab.reservationEntity, hsa.reservationEntity, hsba.reservationEntity, hsb.reservationEntity]
  case payments =>
    refine Table.ext_of_lookup ?_ (congrArg Outages.newPayments houtages)
      (congrArg Outages.paymentChanges houtages) fun key => hpayment ⟨key⟩
    rw [hsab.paymentEntity, hsa.paymentEntity, hsba.paymentEntity, hsb.paymentEntity]
  case gateway =>
    exact Gateway.ext_of_lookup htransaction (congrArg Outages.authorize houtages)
      (congrArg Outages.capture houtages) (congrArg Outages.refund houtages) hcalls
  case metrics => exact congrArg Metrics.mk (funext hcounts)
  case outages => exact houtages
  case taken => rw [hsab.taken, hsa.taken, hsba.taken, hsb.taken]
  case queue =>
    -- Each booking announces the same first or second: `es` by `a` and `fs` by `b`.
    rw [hfs', hes, hes', hfs, List.append_assoc, List.append_assoc]
    exact List.perm_append_comm.append_left _
  case attempts =>
    have hattemptsa := ha.attempts
    have hattemptsb := hb.attempts
    omega
  case sent =>
    rw [hms', hns, hns', hms, List.append_assoc, List.append_assoc]
    exact List.perm_append_comm.append_left _

end Hotel

namespace Booking

/-- Bookings that keep apart commute: each is answered the same whichever of them is first, and in the end
the systems hold the same. What was announced and the notices that were sent are the same up to order. -/
theorem complete_comm (now : Instant) {a b : BookingOrder} (h : a.Apart b) (s : Hotel) :
    ((complete now a).outcome s).1 = ((complete now a).outcome ((complete now b).after s)).1 ∧
      ((complete now b).outcome ((complete now a).after s)).1 = ((complete now b).outcome s).1 ∧
        ((complete now b).after ((complete now a).after s)).SameUpToOrder
          ((complete now a).after ((complete now b).after s)) := by
  have ha := complete_beside now h s
  have hb := complete_beside now h.symm s
  have hboth := Hotel.SameUpToOrder.of_bookings h (complete_passes now a s) (complete_passes now b s)
    (complete_passes now b _) (complete_passes now a _) ha.after hb.after
  exact ⟨ha.outcome_eq, hb.outcome_eq.symm, hboth⟩

open Sample

/-- The room is booked from the day on when `Sample.booking` ends. -/
def nextBooking : BookingOrder := ⟨order "res-2" 5 7, ⟨"pay-2"⟩, "card"⟩

/-- Both bookings fail, and are undone in part. -/
theorem halfBroken_comm :
    booking.Apart nextBooking ∧
      ((complete (day 1) booking).outcome halfBroken).1 =
          ((complete (day 1) booking).outcome ((complete (day 1) nextBooking).after halfBroken)).1 ∧
        ((complete (day 1) nextBooking).outcome ((complete (day 1) booking).after halfBroken)).1 =
            ((complete (day 1) nextBooking).outcome halfBroken).1 ∧
          ((complete (day 1) nextBooking).after ((complete (day 1) booking).after halfBroken)).SameUpToOrder
            ((complete (day 1) booking).after ((complete (day 1) nextBooking).after halfBroken)) := by
  have hapart : booking.Apart nextBooking := ⟨⟨by decide, .inr (by decide)⟩, by decide⟩
  exact ⟨hapart, complete_comm (day 1) hapart halfBroken⟩

end Booking
end HotelBooking
