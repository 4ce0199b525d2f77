import HotelBooking.Proofs.Pump
import HotelBooking.Proofs.Relation
import HotelBooking.Proofs.Steps
import HotelBooking.Proofs.TimeText

/-!
# Bookings that do not meet

A booking by events works on one reservation, one payment and one transaction, whose keys all come from the
identifier of its order. What is done for one order therefore answers the same, and changes the same, whatever
has been done for another in between (`Booking.Task.perform_agree`), and nothing outside its keys is changed.
-/

namespace HotelBooking

open HotelBooking.Action

/-! ### Keys -/

/-- What stands before the last separator. -/
theorem eq_of_append_separator {α : Type} {c : α} {xs ys ds es : List α} (hd : c ∉ ds) (he : c ∉ es)
    (h : xs ++ c :: ds = ys ++ c :: es) : xs = ys := by
  rcases List.append_eq_append_iff.mp h with ⟨as, rfl, has⟩ | ⟨bs, rfl, hbs⟩
  · cases as with
    | nil => exact (List.append_nil xs).symm
    | cons a as =>
        obtain ⟨-, rfl⟩ := List.cons_eq_cons.mp has
        exact absurd (List.mem_append_right as (List.mem_cons_self ..)) hd
  · cases bs with
    | nil => exact List.append_nil ys
    | cons b bs =>
        obtain ⟨-, rfl⟩ := List.cons_eq_cons.mp hbs
        exact absurd (List.mem_append_right bs (List.mem_cons_self ..)) he

theorem Text.underscore_not_mem_signedDigits (n : Int) : '_' ∉ signedDigits n := by
  have hdigits : '_' ∉ digits n.natAbs := fun h => absurd (isDigit_of_mem_digits h) (by decide)
  unfold signedDigits
  split_ifs
  · simpa using hdigits
  · exact hdigits

/-- Transactions of different payments are different, even if an identifier looks like the end of a
transaction. -/
theorem Gateway.eq_of_transactionId {id other : PaymentId} {amount amount' : Int64}
    (h : transactionId id amount = transactionId other amount') : id = other := by
  have htext : "txn_".toList ++ id.text.toList ++ '_' :: Text.signedDigits amount.toInt =
      "txn_".toList ++ other.text.toList ++ '_' :: Text.signedDigits amount'.toInt := by
    simpa [transactionId] using congrArg String.toList h
  have hfront := eq_of_append_separator (Text.underscore_not_mem_signedDigits _)
    (Text.underscore_not_mem_signedDigits _) htext
  exact PaymentId.ext (String.toList_inj.mp (List.append_cancel_left hfront))

namespace ReservationOrder

/-- The payment of a booking by events. -/
def paymentId (order : ReservationOrder) : PaymentId := Booking.paymentIdFor order.reservationId

/-- The transaction of that payment. -/
def transactionId (order : ReservationOrder) : String :=
  Gateway.transactionId order.paymentId order.total.amount

variable {order other : ReservationOrder} (h : order.reservationId ≠ other.reservationId)
include h

theorem paymentId_ne : order.paymentId ≠ other.paymentId :=
  fun hsame => h (Booking.paymentIdFor_injective hsame)

theorem transactionId_ne : order.transactionId ≠ other.transactionId :=
  fun hsame => paymentId_ne h (Gateway.eq_of_transactionId hsame)

end ReservationOrder

/-! ### Changes -/

/-- One change of what is stored or of what the gateway has on record. -/
inductive Change where
  | reservation (id : ReservationId) (r : Reservation)
  | payment (id : PaymentId) (p : Payment)
  | called (op : GatewayOperation)
  | opened (id : String) (amount : Money)

namespace Change

/-- The change concerns the booking of `order`. -/
def IsFor (order : ReservationOrder) : Change → Prop
  | reservation id _ => id = order.reservationId
  | payment id _ => id = order.paymentId
  | called _ => True
  | opened id _ => id = order.transactionId

/-- The change leaves the booking of `order` alone. -/
def Spares (order : ReservationOrder) : Change → Prop
  | reservation id _ => id ≠ order.reservationId
  | payment id _ => id ≠ order.paymentId
  | called _ => True
  | opened id _ => id ≠ order.transactionId

theorem IsFor.spares {order other : ReservationOrder} (hne : order.reservationId ≠ other.reservationId)
    {c : Change} (h : c.IsFor order) : c.Spares other := by
  cases c with
  | reservation id r =>
      cases h
      exact hne
  | payment id p =>
      cases h
      exact ReservationOrder.paymentId_ne hne
  | called op => trivial
  | opened id amount =>
      cases h
      exact ReservationOrder.transactionId_ne hne

end Change

/-- Values under different keys can be put in either order. -/
theorem insert_comm_of_ne {α : Type} {key other : String} (hne : key ≠ other) (value value' : α)
    (m : Std.ExtTreeMap String α) :
    (m.insert key value).insert other value' = (m.insert other value').insert key value := by
  apply Std.ExtTreeMap.ext_getElem?
  intro k
  simp only [Std.ExtTreeMap.getElem?_insert]
  split_ifs with hother hkey
  · exact absurd ((Std.LawfulEqCmp.eq_of_compare hkey).trans
      (Std.LawfulEqCmp.eq_of_compare hother).symm) hne
  all_goals rfl

theorem Table.insert_comm {α : Type} {key other : String} (hne : key ≠ other) (value value' : α)
    (t : Table α) :
    (t.insert key value).insert other value' = (t.insert other value').insert key value := by
  simp only [insert, insert_comm_of_ne hne]

namespace Gateway

variable (op : GatewayOperation) (id : String) (amount : Money) (g : Gateway)

theorem called_comm (other : GatewayOperation) :
    (g.called op).called other = (g.called other).called op := by
  cases op <;> cases other <;> rfl

theorem called_opened : (g.called op).opened id amount = (g.opened id amount).called op := by
  cases op <;> rfl

theorem opened_comm {id other : String} (hne : id ≠ other) (amount' : Money) :
    (g.opened id amount).opened other amount' = (g.opened other amount').opened id amount := by
  simp only [opened, insert_comm_of_ne hne]

end Gateway

namespace Hotel

def changed (s : Hotel) : Change → Hotel
  | .reservation id r => s.storeReservation id r
  | .payment id p => s.storePayment id p
  | .called op => s.withGateway (s.gateway.called op)
  | .opened id amount => s.withGateway (s.gateway.opened id amount)

def changedAll (cs : List Change) (s : Hotel) : Hotel := cs.foldl changed s

theorem changedAll_append (cs ds : List Change) (s : Hotel) :
    s.changedAll (cs ++ ds) = (s.changedAll cs).changedAll ds := List.foldl_append

section
variable {order : ReservationOrder} {c d : Change}

/-- A change for one booking and a change that leaves it alone can be made in either order. -/
theorem changed_comm (hc : c.Spares order) (hd : d.IsFor order) (s : Hotel) :
    (s.changed c).changed d = (s.changed d).changed c := by
  cases c <;> cases d <;> try rfl
  case reservation.reservation id r id' r' =>
    have hne : id.text ≠ id'.text := fun hsame => hc ((ReservationId.ext hsame).trans hd)
    simp only [changed, storeReservation, Table.insert_comm hne]
  case payment.payment id p id' p' =>
    have hne : id.text ≠ id'.text := fun hsame => hc ((PaymentId.ext hsame).trans hd)
    simp only [changed, storePayment, Table.insert_comm hne]
  case called.called op op' => simp only [changed, withGateway, Gateway.called_comm]
  case called.opened op id amount => simp only [changed, withGateway, Gateway.called_opened]
  case opened.called id amount op => simp only [changed, withGateway, Gateway.called_opened]
  case opened.opened id amount id' amount' =>
    have hne : id ≠ id' := fun hsame => hc (hsame.trans hd)
    simp only [changed, withGateway, Gateway.opened_comm _ _ hne]

variable {cs ds : List Change}

theorem changedAll_changed (hcs : ∀ c ∈ cs, c.Spares order) (hd : d.IsFor order) (s : Hotel) :
    (s.changedAll cs).changed d = (s.changed d).changedAll cs := by
  induction cs generalizing s with
  | nil => rfl
  | cons c cs ih =>
      obtain ⟨hc, hcs⟩ := List.forall_mem_cons.mp hcs
      calc ((s.changed c).changedAll cs).changed d = ((s.changed c).changed d).changedAll cs := ih hcs _
        _ = ((s.changed d).changed c).changedAll cs := by rw [changed_comm hc hd]

theorem changedAll_comm (hcs : ∀ c ∈ cs, c.Spares order) (hds : ∀ d ∈ ds, d.IsFor order) (s : Hotel) :
    (s.changedAll cs).changedAll ds = (s.changedAll ds).changedAll cs := by
  induction ds generalizing s with
  | nil => rfl
  | cons d ds ih =>
      obtain ⟨hd, hds⟩ := List.forall_mem_cons.mp hds
      calc ((s.changedAll cs).changed d).changedAll ds
          = ((s.changed d).changedAll cs).changedAll ds := by rw [changedAll_changed hcs hd]
        _ = ((s.changed d).changedAll ds).changedAll cs := ih hds _

end

/-- Nothing happens under a key that no change is about. -/
theorem changedAll_entry {cs : List Change} {key : String}
    (hcs : ∀ c ∈ cs, ∀ id r, c = .reservation id r → id.text ≠ key) (s : Hotel) :
    (s.changedAll cs).reservations.entries[key]? = s.reservations.entries[key]? := by
  induction cs generalizing s with
  | nil => rfl
  | cons c cs ih =>
      obtain ⟨hc, hcs⟩ := List.forall_mem_cons.mp hcs
      refine (ih hcs (s.changed c)).trans ?_
      cases c with
      | reservation id r => exact (Table.getElem?_insert ..).trans (if_neg (hc id r rfl))
      | payment id p => rfl
      | called op => rfl
      | opened id amount => rfl

/-- The system without what no booking looks at: what was announced, the notices and the counts. -/
def bare (s : Hotel) : Hotel :=
  { s with log := { refused := s.log.refused }, notifier := {}, metrics := {} }

theorem changed_bare (s : Hotel) (c : Change) : (s.changed c).bare = s.bare.changed c := by
  cases c <;> rfl

theorem changed_log (s : Hotel) (c : Change) : (s.changed c).log = s.log := by
  cases c <;> rfl

end Hotel

/-! ### What a booking sees -/

/-- The tables answer the same about the key. -/
structure Table.SameAt {α : Type} (key : String) (t u : Table α) : Prop where
  entity : u.entity = t.entity
  refusesCreate : u.refusesCreate = t.refusesCreate
  refusesUpdate : u.refusesUpdate = t.refusesUpdate
  entry : u.entries[key]? = t.entries[key]?

namespace Table.SameAt

variable {α : Type} {key : String} {t u v : Table α}

protected theorem refl (key : String) (t : Table α) : SameAt key t t := ⟨rfl, rfl, rfl, rfl⟩

theorem trans (h : SameAt key t u) (h' : SameAt key u v) : SameAt key t v :=
  ⟨h'.entity.trans h.entity, h'.refusesCreate.trans h.refusesCreate,
    h'.refusesUpdate.trans h.refusesUpdate, h'.entry.trans h.entry⟩

theorem insert {other : String} (hne : other ≠ key) (value : α) (t : Table α) :
    SameAt key t (t.insert other value) :=
  ⟨rfl, rfl, rfl, by rw [getElem?_insert, if_neg hne]⟩

theorem insertBoth (h : SameAt key t u) (value : α) :
    SameAt key (t.insert key value) (u.insert key value) :=
  ⟨h.entity, h.refusesCreate, h.refusesUpdate, by simp [getElem?_insert]⟩

theorem createError?_eq (h : SameAt key t u) : u.createError? key = t.createError? key := by
  simp only [createError?, refusal, h.entity, h.refusesCreate, h.entry]

theorem updateError?_eq (h : SameAt key t u) : u.updateError? key = t.updateError? key := by
  simp only [updateError?, refusal, h.entity, h.refusesUpdate, h.entry]

end Table.SameAt

namespace Hotel

/-- Related systems look the same to a booking with these keys, and they stay related when it does to both
of them what a booking does. -/
structure Mirrors (R : Hotel → Hotel → Prop) (reservationId : ReservationId) (paymentId : PaymentId)
    (transactionId : String) : Prop where
  reservations : ∀ {s t}, R s t → Table.SameAt reservationId.text s.reservations t.reservations
  payments : ∀ {s t}, R s t → Table.SameAt paymentId.text s.payments t.payments
  failsAuthorize : ∀ {s t}, R s t → t.gateway.failsAuthorize = s.gateway.failsAuthorize
  failsCapture : ∀ {s t}, R s t → t.gateway.failsCapture = s.gateway.failsCapture
  transaction : ∀ {s t}, R s t →
    t.gateway.transactions[transactionId]? = s.gateway.transactions[transactionId]?
  refused : ∀ {s t}, R s t → t.log.refused = s.log.refused
  storeReservation : ∀ {s t}, R s t → ∀ r,
    R (s.storeReservation reservationId r) (t.storeReservation reservationId r)
  storePayment : ∀ {s t}, R s t → ∀ p, R (s.storePayment paymentId p) (t.storePayment paymentId p)
  called : ∀ {s t}, R s t → ∀ op,
    R (s.withGateway (s.gateway.called op)) (t.withGateway (t.gateway.called op))
  opened : ∀ {s t}, R s t → ∀ amount, R (s.withGateway (s.gateway.opened transactionId amount))
    (t.withGateway (t.gateway.opened transactionId amount))
  published : ∀ {s t}, R s t → ∀ e, R (s.published e) (t.published e)
  counted : ∀ {s t}, R s t → ∀ m, R (s.counted m) (t.counted m)

namespace Mirrors

variable {R : Hotel → Hotel → Prop} {reservationId : ReservationId} {paymentId : PaymentId}
  {transactionId : String} (h : Mirrors R reservationId paymentId transactionId)
include h

theorem publish_related (e : Envelope) :
    Related R (Backend.publish e : Action Hotel _ _) (Backend.publish e) := by
  intro s t hst
  have herror : t.log.publishError? e.topic = s.log.publishError? e.topic := by
    simp only [EventLog.publishError?, h.refused hst]
  rw [publish_apply, publish_apply, herror]
  cases s.log.publishError? e.topic with
  | none => exact .ok (h.published hst e)
  | some err => exact .error hst

/-- What is used for the reservation answers the same in both. -/
theorem reservationAlike : Backend.ReservationAlike R reservationId where
  read s t hst := by
    have hsame := h.reservations hst
    have hread : t.reservation? reservationId = s.reservation? reservationId := hsame.entry
    rw [readReservation_apply, readReservation_apply, hread, hsame.entity]
    cases s.reservation? reservationId with
    | none => exact .error hst
    | some r => exact .ok hst
  create r s t hst := by
    rw [createReservation_apply, createReservation_apply, (h.reservations hst).createError?_eq]
    cases s.reservations.createError? reservationId.text with
    | none => exact .ok (h.storeReservation hst r)
    | some e => exact .error hst
  update r s t hst := by
    rw [updateReservation_apply, updateReservation_apply, (h.reservations hst).updateError?_eq]
    cases s.reservations.updateError? reservationId.text with
    | none => exact .ok (h.storeReservation hst r)
    | some e => exact .error hst
  publish := h.publish_related

/-- What is used for the payment answers the same in both. -/
theorem paymentAlike : Backend.PaymentAlike R paymentId where
  read s t hst := by
    have hsame := h.payments hst
    have hread : t.payment? paymentId = s.payment? paymentId := hsame.entry
    rw [readPayment_apply, readPayment_apply, hread, hsame.entity]
    cases s.payment? paymentId with
    | none => exact .error hst
    | some p => exact .ok hst
  create p s t hst := by
    rw [createPayment_apply, createPayment_apply, (h.payments hst).createError?_eq]
    cases s.payments.createError? paymentId.text with
    | none => exact .ok (h.storePayment hst p)
    | some e => exact .error hst
  update p s t hst := by
    rw [updatePayment_apply, updatePayment_apply, (h.payments hst).updateError?_eq]
    cases s.payments.updateError? paymentId.text with
    | none => exact .ok (h.storePayment hst p)
    | some e => exact .error hst
  publish := h.publish_related
  count m s t hst := .ok (h.counted hst m)

theorem authorize_related {p : Payment}
    (hid : Gateway.transactionId p.id p.amount.amount = transactionId) :
    Related R (Backend.authorize p) (Backend.authorize p) := by
  intro s t hst
  have herror : t.gateway.authorizeError? = s.gateway.authorizeError? := by
    simp only [Gateway.authorizeError?, h.failsAuthorize hst]
  have hcalled := h.called hst .authorize
  rw [authorize_apply, authorize_apply, herror, hid]
  cases s.gateway.authorizeError? with
  | none => exact .ok (h.opened hcalled p.amount)
  | some e => exact .error hcalled

theorem capture_related (amount : Money) :
    Related R (Backend.capture transactionId amount) (Backend.capture transactionId amount) := by
  intro s t hst
  have herror : t.gateway.captureError? transactionId amount =
      s.gateway.captureError? transactionId amount := by
    simp only [Gateway.captureError?, h.failsCapture hst, h.transaction hst]
  have hcalled := h.called hst .capture
  rw [capture_apply, capture_apply, herror]
  cases s.gateway.captureError? transactionId amount with
  | none => exact .ok hcalled
  | some e => exact .error hcalled

end Mirrors

/-- A room is free in both systems or in neither. -/
theorem isRoomAvailable_agree {R : Hotel → Hotel → Prop} {s t : Hotel} {roomId : RoomId} {stay : Stay}
    (hst : R s t) (hfree : t.blocking roomId stay = [] ↔ s.blocking roomId stay = []) :
    Agree R ((Backend.isRoomAvailable roomId stay : Action Hotel _ _) s)
      (Backend.isRoomAvailable roomId stay t) := by
  have hempty : (s.blocking roomId stay).isEmpty = (t.blocking roomId stay).isEmpty := by
    rw [Bool.eq_iff_iff, List.isEmpty_iff, List.isEmpty_iff, hfree]
  change Agree _ (.ok (s.blocking roomId stay).isEmpty s) (.ok (t.blocking roomId stay).isEmpty t)
  rw [hempty]
  exact .ok hst

/-- Both systems look the same to the booking of `order`. -/
structure SameFor (order : ReservationOrder) (s t : Hotel) : Prop where
  reservations : Table.SameAt order.reservationId.text s.reservations t.reservations
  payments : Table.SameAt order.paymentId.text s.payments t.payments
  failsAuthorize : t.gateway.failsAuthorize = s.gateway.failsAuthorize
  failsCapture : t.gateway.failsCapture = s.gateway.failsCapture
  transaction : t.gateway.transactions[order.transactionId]? =
    s.gateway.transactions[order.transactionId]?
  refused : t.log.refused = s.log.refused

namespace SameFor

variable {order : ReservationOrder} {s t u : Hotel}

protected theorem refl (order : ReservationOrder) (s : Hotel) : SameFor order s s :=
  ⟨.refl .., .refl .., rfl, rfl, rfl, rfl⟩

theorem trans (h : SameFor order s t) (h' : SameFor order t u) : SameFor order s u :=
  ⟨h.reservations.trans h'.reservations, h.payments.trans h'.payments,
    h'.failsAuthorize.trans h.failsAuthorize, h'.failsCapture.trans h.failsCapture,
    h'.transaction.trans h.transaction, h'.refused.trans h.refused⟩

theorem of_bare (h : SameFor order s.bare t.bare) : SameFor order s t :=
  ⟨h.reservations, h.payments, h.failsAuthorize, h.failsCapture, h.transaction, h.refused⟩

theorem changed {c : Change} (hc : c.Spares order) (s : Hotel) : SameFor order s (s.changed c) := by
  cases c with
  | reservation id r =>
      have hne : id.text ≠ order.reservationId.text := fun hsame => hc (ReservationId.ext hsame)
      exact ⟨.insert hne .., .refl .., rfl, rfl, rfl, rfl⟩
  | payment id p =>
      have hne : id.text ≠ order.paymentId.text := fun hsame => hc (PaymentId.ext hsame)
      exact ⟨.refl .., .insert hne .., rfl, rfl, rfl, rfl⟩
  | called op => exact ⟨.refl .., .refl .., by simp [Hotel.changed], by simp [Hotel.changed],
      by simp [Hotel.changed], rfl⟩
  | opened id amount =>
      refine ⟨.refl .., .refl .., rfl, rfl, ?_, rfl⟩
      have hne : ¬ id = order.transactionId := hc
      simp [Hotel.changed, Std.ExtTreeMap.getElem?_insert, hne]

theorem changedAll {cs : List Change} (hcs : ∀ c ∈ cs, c.Spares order) (s : Hotel) :
    SameFor order s (s.changedAll cs) := by
  induction cs generalizing s with
  | nil => exact .refl order s
  | cons c cs ih =>
      obtain ⟨hc, hcs⟩ := List.forall_mem_cons.mp hcs
      exact (SameFor.changed hc s).trans (ih hcs _)

end SameFor

/-- Two systems in the course of a booking of `order`. The first has come from `start` by changes for this
booking only, and the second differs from it by the changes `cs`, and by having `es` in front of the queue. -/
structure Beside (order : ReservationOrder) (cs : List Change) (es : List Envelope) (start s t : Hotel) :
    Prop where
  altered : ∃ ds, (∀ d ∈ ds, d.IsFor order) ∧ s.bare = start.bare.changedAll ds
  beside : t.bare = s.bare.changedAll cs
  queue : t.log.queue = es ++ s.log.queue

namespace Beside

variable {order : ReservationOrder} {cs : List Change} {es : List Envelope} {start s t : Hotel}

theorem begin (hbeside : t.bare = s.bare.changedAll cs) (hqueue : t.log.queue = es ++ s.log.queue) :
    Beside order cs es s s t :=
  ⟨⟨[], by simp, rfl⟩, hbeside, hqueue⟩

theorem published (h : Beside order cs es start s t) (e : Envelope) :
    Beside order cs es start (s.published e) (t.published e) :=
  ⟨h.altered, h.beside, by simp [h.queue]⟩

theorem counted (h : Beside order cs es start s t) (m : Metric) :
    Beside order cs es start (s.counted m) (t.counted m) :=
  ⟨h.altered, h.beside, h.queue⟩

theorem notified (h : Beside order cs es start s t) (m n : Notifier) :
    Beside order cs es start { s with notifier := m } { t with notifier := n } :=
  ⟨h.altered, h.beside, h.queue⟩

variable (hcs : ∀ c ∈ cs, c.Spares order)
include hcs

theorem sameFor (h : Beside order cs es start s t) : SameFor order s t := by
  refine .of_bare ?_
  rw [h.beside]
  exact .changedAll hcs _

theorem changed (h : Beside order cs es start s t) {d : Change} (hd : d.IsFor order) :
    Beside order cs es start (s.changed d) (t.changed d) where
  altered := by
    obtain ⟨ds, hds, hs⟩ := h.altered
    refine ⟨ds ++ [d], by simpa [or_imp, forall_and] using ⟨hds, hd⟩, ?_⟩
    rw [changed_bare, hs, changedAll_append]
    rfl
  beside := by rw [changed_bare, changed_bare, h.beside, changedAll_changed hcs hd]
  queue := by rw [changed_log, changed_log, h.queue]

theorem mirrors :
    Mirrors (Beside order cs es start) order.reservationId order.paymentId order.transactionId where
  reservations h := (h.sameFor hcs).reservations
  payments h := (h.sameFor hcs).payments
  failsAuthorize h := (h.sameFor hcs).failsAuthorize
  failsCapture h := (h.sameFor hcs).failsCapture
  transaction h := (h.sameFor hcs).transaction
  refused h := (h.sameFor hcs).refused
  storeReservation h r := h.changed hcs (d := .reservation order.reservationId r) rfl
  storePayment h p := h.changed hcs (d := .payment order.paymentId p) rfl
  called h op := h.changed hcs (d := .called op) trivial
  opened h amount := h.changed hcs (d := .opened order.transactionId amount) rfl
  published h := h.published
  counted h := h.counted

omit hcs in
theorem notifyConfirmation_related (r : Reservation) :
    Related (Beside order cs es start) (Booking.notifyConfirmation r) (Booking.notifyConfirmation r) := by
  intro s t h
  rw [Booking.notifyConfirmation_apply, Booking.notifyConfirmation_apply]
  exact .ok (h.notified _ _)

end Beside

/-- The task belongs to the booking of `order`, and can be reached in its course. -/
def Awaits (order : ReservationOrder) (s : Hotel) : Booking.Task → Prop
  | .authorize id total => id = order.reservationId ∧ total = order.total
  | .capture id reservationId => id = order.paymentId ∧ reservationId = order.reservationId ∧
    ∃ p, s.payment? order.paymentId = some p ∧ p.reservationId = order.reservationId ∧
      p.transactionId = some order.transactionId
  | .confirm id => id = order.reservationId
  | .cancel id _ => id = order.reservationId

end Hotel

namespace Booking

open Hotel (Beside Awaits isRoomAvailable_agree)

variable (now : Instant) {order : ReservationOrder} {cs : List Change} {es : List Envelope}
  {start s t : Hotel}

/-- What a booking begins with is answered the same beside changes that leave it alone, unless these take
its room or give it back. -/
theorem initiate_agree (hcs : ∀ c ∈ cs, c.Spares order) (h : Beside order cs es start s t)
    (hfree : t.blocking order.roomId order.stay = [] ↔ s.blocking order.roomId order.stay = []) :
    Agree (Beside order cs es start) (initiate now order s) (initiate now order t) := by
  have hroom := isRoomAvailable_agree h hfree
  exact ((Beside.mirrors hcs).reservationAlike.make now rfl hroom).mapError _

theorem onAuthorized_agree (hcs : ∀ c ∈ cs, c.Spares order) (h : Beside order cs es start s t)
    {p : Payment} (hp : s.payment? order.paymentId = some p)
    (htransaction : p.transactionId = some order.transactionId) :
    Agree (Beside order cs es start) (onAuthorized now order.paymentId order.reservationId s)
      (onAuthorized now order.paymentId order.reservationId t) := by
  have hcapture : Agree (Beside order cs es start) (Payments.capture now order.paymentId s)
      (Payments.capture now order.paymentId t) := by
    refine (Beside.mirrors hcs).paymentAlike.capture now h fun q u hq => ?_
    rw [Hotel.readPayment_apply, hp] at hq
    cases hq
    rw [htransaction]
    exact (Beside.mirrors hcs).capture_related p.amount
  refine hcapture.attempt.bind fun answer _ _ => ?_
  cases answer with
  | ok q => exact .pure q
  | error e =>
      exact ((Beside.mirrors hcs).reservationAlike.modify now _ _).attempt.bind fun _ => .throw _

/-- So is every later step of the booking. -/
theorem Task.perform_agree (hcs : ∀ c ∈ cs, c.Spares order) (h : Beside order cs es start s t)
    {task : Task} (htask : s.Awaits order task) :
    Agree (Beside order cs es start) (task.perform now s) (task.perform now t) := by
  have mirrors : Hotel.Mirrors (Beside order cs es start) _ _ _ := Beside.mirrors hcs
  cases task with
  | authorize id total =>
      obtain ⟨rfl, rfl⟩ := htask
      have hauthorize : Related (Beside order cs es start) (onCreated now order.reservationId order.total)
          (onCreated now order.reservationId order.total) :=
        (mirrors.paymentAlike.authorize now rfl (mirrors.authorize_related (by rfl))).mapError _
      exact (hauthorize.bind fun _ => .pure _) s t h
  | capture id reservationId =>
      obtain ⟨rfl, rfl, p, hp, -, htransaction⟩ := htask
      exact (onAuthorized_agree now hcs h hp htransaction).bind fun _ _ _ => .pure _
  | confirm id =>
      cases htask
      have hconfirm : Related (Beside order cs es start) (onCaptured now order.reservationId)
          (onCaptured now order.reservationId) := by
        refine ((mirrors.reservationAlike.modify now _ _).mapError _).bind fun r => ?_
        exact (Beside.notifyConfirmation_related r).bind fun _ => .pure r
      exact (hconfirm.bind fun _ => .pure _) s t h
  | cancel id reason =>
      cases htask
      have hcancel : Related (Beside order cs es start) (onFailed now order.reservationId reason)
          (onFailed now order.reservationId reason) :=
        (mirrors.reservationAlike.modify now _ _).mapError _
      exact (hcancel.bind fun _ => .pure _) s t h

end Booking
end HotelBooking
