import HotelBooking.Hotel
import HotelBooking.Proofs.Action
import Mathlib.Tactic.Simps.Basic
import Mathlib.Tactic.SplitIfs

/-!
# The parts of the system

Each part either refuses an operation, for a reason that its state alone decides (`createError?` and
the like), or changes in one way. The operations of the whole system are then read off as equations:
what follows never opens a part again.
-/

namespace HotelBooking

attribute [ext] ReservationId PaymentId

namespace Table

variable {α : Type}

/-- The table with the value under the key, whatever was there before. -/
@[simps entity refusesCreate refusesUpdate]
def insert (key : String) (value : α) (t : Table α) : Table α :=
  { t with entries := t.entries.insert key value }

theorem getElem?_insert (key other : String) (value : α) (t : Table α) :
    (t.insert key value).entries[other]? =
      if key = other then some value else t.entries[other]? := by
  simp [insert, Std.ExtTreeMap.getElem?_insert]

theorem values_eq_map_toList (t : Table α) : t.values = t.entries.toList.map Prod.snd := by
  unfold values
  obtain ⟨⟨q⟩⟩ := t.entries
  induction q using Quotient.ind with
  | _ m =>
    change m.inner.values = (Std.DTreeMap.Internal.Impl.Const.toList m.inner).map Prod.snd
    rw [Std.DTreeMap.Internal.Impl.values_eq_map_snd,
      Std.DTreeMap.Internal.Impl.Const.toList_eq_toListModel_map]
    simp

theorem mem_values_iff {t : Table α} {value : α} :
    value ∈ t.values ↔ ∃ key : String, t.entries[key]? = some value := by
  simp [values_eq_map_toList]

/-- Why a new value under the key is refused. -/
def createError? (key : String) (t : Table α) : Option StorageError :=
  if t.refusesCreate then some t.refusal
  else if t.entries[key]?.isSome then some (.alreadyExists t.entity key)
  else none

/-- Why another value under the key is refused. -/
def updateError? (key : String) (t : Table α) : Option StorageError :=
  if t.refusesUpdate then some t.refusal
  else if t.entries[key]?.isSome then none
  else some (.notFound t.entity key)

theorem create_apply (key : String) (value : α) (t : Table α) :
    create key value t = match t.createError? key with
      | none => .ok () (t.insert key value)
      | some e => .error e t := by
  simp only [create, createError?, Std.ExtTreeMap.contains_eq_isSome_getElem?]
  split_ifs <;> rfl

theorem update_apply (key : String) (value : α) (t : Table α) :
    update key value t = match t.updateError? key with
      | none => .ok () (t.insert key value)
      | some e => .error e t := by
  simp only [update, updateError?, Std.ExtTreeMap.contains_eq_isSome_getElem?]
  split_ifs <;> rfl

theorem createError?_eq_none_iff {key : String} {t : Table α} :
    t.createError? key = none ↔ t.refusesCreate = false ∧ t.entries[key]? = none := by
  rw [createError?]
  split_ifs with h h'
  · simp [h]
  · rw [Option.isSome_iff_ne_none] at h'
    simp [h']
  · simpa [h] using h'

theorem updateError?_eq_none_iff {key : String} {t : Table α} {value : α}
    (h : t.entries[key]? = some value) : t.updateError? key = none ↔ t.refusesUpdate = false := by
  simp [updateError?, h]

theorem refusesUpdate_of_updateError? {key : String} {t : Table α} {value : α} {e : StorageError}
    (h : t.entries[key]? = some value) (he : t.updateError? key = some e) : t.refusesUpdate = true := by
  rw [← Bool.not_eq_false, ← updateError?_eq_none_iff h, he]
  nofun

end Table

@[simp] theorem ReservationEvent.topic_toEnvelope (now : Instant) (e : ReservationEvent) :
    (e.toEnvelope now).topic = e.topic := rfl

@[simp] theorem PaymentEvent.topic_toEnvelope (now : Instant) (e : PaymentEvent) :
    (e.toEnvelope now).topic = e.topic := rfl

namespace EventLog

@[simps] def append (e : Envelope) (l : EventLog) : EventLog := { l with queue := l.queue ++ [e] }

/-- Why an envelope on the topic is refused. -/
def publishError? (topic : String) (l : EventLog) : Option PublishError :=
  if l.refused.contains topic then some (.refused topic) else none

theorem publishError?_eq_none_iff {topic : String} {l : EventLog} :
    l.publishError? topic = none ↔ topic ∉ l.refused := by
  rw [publishError?, ← Std.ExtTreeSet.contains_iff_mem]
  split_ifs with h
  · simp [h]
  · simp [h]

theorem publish_apply (e : Envelope) (l : EventLog) :
    publish e l = match l.publishError? e.topic with
      | none => .ok () (l.append e)
      | some err => .error err l := by
  simp only [publish, publishError?]
  split_ifs <;> rfl

end EventLog

namespace Gateway

/-- The gateway after a call, which counts also if it is rejected. -/
def called (op : GatewayOperation) (g : Gateway) : Gateway :=
  match op with
  | .authorize => { g with authorizeCalls := g.authorizeCalls + 1 }
  | .capture => { g with captureCalls := g.captureCalls + 1 }
  | .refund => { g with refundCalls := g.refundCalls + 1 }

/-- How often the operation was called. -/
def calls (op : GatewayOperation) (g : Gateway) : Nat :=
  match op with
  | .authorize => g.authorizeCalls
  | .capture => g.captureCalls
  | .refund => g.refundCalls

theorem calls_called (op other : GatewayOperation) (g : Gateway) :
    (g.called op).calls other = g.calls other + if op = other then 1 else 0 := by
  cases op <;> cases other <;> rfl

@[simps] def opened (id : String) (amount : Money) (g : Gateway) : Gateway :=
  { g with transactions := g.transactions.insert id amount }

@[simps] def closed (id : String) (g : Gateway) : Gateway :=
  { g with transactions := g.transactions.erase id }

section
variable (op : GatewayOperation) (g : Gateway)

@[simp] theorem transactions_called : (g.called op).transactions = g.transactions := by
  cases op <;> rfl

@[simp] theorem failsAuthorize_called : (g.called op).failsAuthorize = g.failsAuthorize := by
  cases op <;> rfl

@[simp] theorem failsCapture_called : (g.called op).failsCapture = g.failsCapture := by
  cases op <;> rfl

@[simp] theorem failsRefund_called : (g.called op).failsRefund = g.failsRefund := by
  cases op <;> rfl

end

/-- Why no payment is authorized. -/
def authorizeError? (g : Gateway) : Option GatewayError :=
  if g.failsAuthorize then some (.declined "insufficient funds") else none

theorem authorizeError?_eq_none_iff {g : Gateway} :
    g.authorizeError? = none ↔ g.failsAuthorize = false := by
  simp [authorizeError?]

/-- Why the amount is not captured from the transaction. -/
def captureError? (id : String) (amount : Money) (g : Gateway) : Option GatewayError :=
  if g.failsCapture then some (.unavailable "capture timed out")
  else
    match g.transactions[id]? with
    | none => some (.transactionNotFound id)
    | some authorized =>
      if authorized = amount then none else some (.amountMismatch authorized amount)

/-- Why the transaction is not refunded. -/
def refundError? (id : String) (g : Gateway) : Option GatewayError :=
  if g.failsRefund then some (.unavailable "refund rejected")
  else if g.transactions[id]?.isSome then none
  else some (.transactionNotFound id)

theorem authorize_apply (p : Payment) (g : Gateway) :
    authorize p g = match g.authorizeError? with
      | none =>
        .ok (transactionId p.id p.amount.amount)
          ((g.called .authorize).opened (transactionId p.id p.amount.amount) p.amount)
      | some e => .error e (g.called .authorize) := by
  simp only [authorize, authorizeError?]
  split_ifs <;> rfl

theorem capture_apply (id : String) (amount : Money) (g : Gateway) :
    capture id amount g = match g.captureError? id amount with
      | none => .ok () (g.called .capture)
      | some e => .error e (g.called .capture) := by
  simp only [capture, captureError?]
  split_ifs
  · rfl
  · cases g.transactions[id]? with
    | none => rfl
    | some authorized =>
      dsimp only
      split_ifs <;> rfl

theorem refund_apply (id : String) (amount : Money) (g : Gateway) :
    refund id amount g = match g.refundError? id with
      | none => .ok () ((g.called .refund).closed id)
      | some e => .error e (g.called .refund) := by
  simp only [refund, refundError?, Std.ExtTreeMap.contains_eq_isSome_getElem?]
  split_ifs <;> rfl

theorem captureError?_eq_none_iff {id : String} {amount : Money} {g : Gateway} :
    g.captureError? id amount = none ↔ g.failsCapture = false ∧ g.transactions[id]? = some amount := by
  rw [captureError?]
  split_ifs with h
  · simp [h]
  · cases g.transactions[id]? with
    | none => simp
    | some authorized => simp [h]

theorem refundError?_eq_none_iff {id : String} {g : Gateway} :
    g.refundError? id = none ↔ g.failsRefund = false ∧ g.transactions[id]?.isSome := by
  rw [refundError?]
  split_ifs with h h'
  · simp [h]
  · simp [h, h']
  · simp [h']

end Gateway

/-- What reaches the guest when a notice is tried. -/
def Notifier.delivered (notice : Except NoticeError Notice) (isDown : Bool) : List Notice :=
  if isDown then [] else notice.toOption.toList

/-- A notice that is tried counts, whether it can be sent or not. -/
theorem Notifier.send_after (notice : Except NoticeError Notice) (n : Notifier) :
    (send notice).after n = ⟨n.sent ++ delivered notice n.isDown, n.attempts + 1, n.isDown⟩ := by
  unfold Action.after Action.outcome send delivered
  dsimp only
  split_ifs
  · simp
  · cases notice with
    | ok notice => rfl
    | error e => simp [Except.toOption]

/-- What is out of order: each part that is set makes its operations fail. -/
structure Outages where
  newReservations : Bool := false
  reservationChanges : Bool := false
  newPayments : Bool := false
  paymentChanges : Bool := false
  authorize : Bool := false
  capture : Bool := false
  refund : Bool := false
  topics : Std.ExtTreeSet String := ∅
  notices : Bool := false

namespace Hotel

@[simps] def outages (s : Hotel) : Outages where
  newReservations := s.reservations.refusesCreate
  reservationChanges := s.reservations.refusesUpdate
  newPayments := s.payments.refusesCreate
  paymentChanges := s.payments.refusesUpdate
  authorize := s.gateway.failsAuthorize
  capture := s.gateway.failsCapture
  refund := s.gateway.failsRefund
  topics := s.log.refused
  notices := s.notifier.isDown

def reservation? (id : ReservationId) (s : Hotel) : Option Reservation :=
  s.reservations.entries[id.text]?

def payment? (id : PaymentId) (s : Hotel) : Option Payment := s.payments.entries[id.text]?

@[simps] def storeReservation (id : ReservationId) (r : Reservation) (s : Hotel) : Hotel :=
  { s with reservations := s.reservations.insert id.text r }

@[simps] def storePayment (id : PaymentId) (p : Payment) (s : Hotel) : Hotel :=
  { s with payments := s.payments.insert id.text p }

@[simps] def withGateway (g : Gateway) (s : Hotel) : Hotel := { s with gateway := g }

@[simps] def published (e : Envelope) (s : Hotel) : Hotel := { s with log := s.log.append e }

/-- The envelope is published unless its topic is refused. -/
def offered (e : Envelope) (s : Hotel) : Hotel :=
  match s.log.publishError? e.topic with
  | none => s.published e
  | some _ => s

@[simps] def counted (m : Metric) (s : Hotel) : Hotel := { s with metrics := s.metrics.increment m }

theorem offered_reservations (e : Envelope) (s : Hotel) :
    (s.offered e).reservations = s.reservations := by
  unfold offered
  cases s.log.publishError? e.topic <;> rfl

theorem reservation?_storeReservation (id other : ReservationId) (r : Reservation) (s : Hotel) :
    (s.storeReservation id r).reservation? other =
      if id = other then some r else s.reservation? other := by
  cases id
  cases other
  simp [reservation?, Table.getElem?_insert]

theorem payment?_storePayment (id other : PaymentId) (p : Payment) (s : Hotel) :
    (s.storePayment id p).payment? other = if id = other then some p else s.payment? other := by
  cases id
  cases other
  simp [payment?, Table.getElem?_insert]

theorem reservation?_of_eq {s t : Hotel} (h : t.reservations = s.reservations) (id : ReservationId) :
    t.reservation? id = s.reservation? id := by
  rw [reservation?, reservation?, h]

theorem blocking_eq_nil_iff {roomId : RoomId} {stay : Stay} {s : Hotel} : s.blocking roomId stay = [] ↔
    ∀ (key : String) r, s.reservations.entries[key]? = some r → ¬ r.blocks roomId stay = true := by
  simp only [blocking, List.filter_eq_nil_iff, Table.mem_values_iff]
  exact ⟨fun h key r hr => h r ⟨key, hr⟩, fun h r ⟨key, hr⟩ => h key r hr⟩

section
variable (id : ReservationId) (s : Hotel)

@[simp] theorem reservation?_storePayment (i : PaymentId) (p : Payment) :
    (s.storePayment i p).reservation? id = s.reservation? id := rfl

@[simp] theorem reservation?_withGateway (g : Gateway) :
    (s.withGateway g).reservation? id = s.reservation? id := rfl

@[simp] theorem reservation?_published (e : Envelope) :
    (s.published e).reservation? id = s.reservation? id := rfl

@[simp] theorem reservation?_counted (m : Metric) :
    (s.counted m).reservation? id = s.reservation? id := rfl

end

section
variable (id : PaymentId) (s : Hotel)

@[simp] theorem payment?_storeReservation (i : ReservationId) (r : Reservation) :
    (s.storeReservation i r).payment? id = s.payment? id := rfl

@[simp] theorem payment?_withGateway (g : Gateway) :
    (s.withGateway g).payment? id = s.payment? id := rfl

@[simp] theorem payment?_published (e : Envelope) :
    (s.published e).payment? id = s.payment? id := rfl

@[simp] theorem payment?_counted (m : Metric) :
    (s.counted m).payment? id = s.payment? id := rfl

end

section
variable (s : Hotel)

theorem readReservation_apply (id : ReservationId) :
    Backend.readReservation id s = match s.reservation? id with
      | some r => .ok r s
      | none => .error (.notFound s.reservations.entity id.text) s := by
  simp only [Backend.readReservation, onReservations, Action.zoom, Table.read, reservation?]
  cases s.reservations.entries[id.text]? <;> rfl

theorem createReservation_apply (id : ReservationId) (r : Reservation) :
    Backend.createReservation id r s = match s.reservations.createError? id.text with
      | none => .ok () (s.storeReservation id r)
      | some e => .error e s := by
  simp only [Backend.createReservation, onReservations, Action.zoom, Table.create_apply]
  cases s.reservations.createError? id.text <;> rfl

theorem updateReservation_apply (id : ReservationId) (r : Reservation) :
    Backend.updateReservation id r s = match s.reservations.updateError? id.text with
      | none => .ok () (s.storeReservation id r)
      | some e => .error e s := by
  simp only [Backend.updateReservation, onReservations, Action.zoom, Table.update_apply]
  cases s.reservations.updateError? id.text <;> rfl

theorem readPayment_apply (id : PaymentId) :
    Backend.readPayment id s = match s.payment? id with
      | some p => .ok p s
      | none => .error (.notFound s.payments.entity id.text) s := by
  simp only [Backend.readPayment, onPayments, Action.zoom, Table.read, payment?]
  cases s.payments.entries[id.text]? <;> rfl

theorem createPayment_apply (id : PaymentId) (p : Payment) :
    Backend.createPayment id p s = match s.payments.createError? id.text with
      | none => .ok () (s.storePayment id p)
      | some e => .error e s := by
  simp only [Backend.createPayment, onPayments, Action.zoom, Table.create_apply]
  cases s.payments.createError? id.text <;> rfl

/-- A payment that names its own key. -/
theorem createPayment_own_apply {id : PaymentId} {p : Payment} (hid : p.id = id) :
    Backend.createPayment p.id p s = match s.payments.createError? id.text with
      | none => .ok () (s.storePayment id p)
      | some e => .error e s := by
  subst hid
  exact createPayment_apply s p.id p

theorem updatePayment_apply (id : PaymentId) (p : Payment) :
    Backend.updatePayment id p s = match s.payments.updateError? id.text with
      | none => .ok () (s.storePayment id p)
      | some e => .error e s := by
  simp only [Backend.updatePayment, onPayments, Action.zoom, Table.update_apply]
  cases s.payments.updateError? id.text <;> rfl

theorem authorize_apply (p : Payment) :
    Backend.authorize p s = match s.gateway.authorizeError? with
      | none =>
        .ok (Gateway.transactionId p.id p.amount.amount)
          (s.withGateway ((s.gateway.called .authorize).opened
            (Gateway.transactionId p.id p.amount.amount) p.amount))
      | some e => .error e (s.withGateway (s.gateway.called .authorize)) := by
  simp only [Backend.authorize, onGateway, Action.zoom, Gateway.authorize_apply]
  cases s.gateway.authorizeError? <;> rfl

theorem capture_apply (id : String) (amount : Money) :
    Backend.capture id amount s = match s.gateway.captureError? id amount with
      | none => .ok () (s.withGateway (s.gateway.called .capture))
      | some e => .error e (s.withGateway (s.gateway.called .capture)) := by
  simp only [Backend.capture, onGateway, Action.zoom, Gateway.capture_apply]
  cases s.gateway.captureError? id amount <;> rfl

theorem refund_apply (id : String) (amount : Money) :
    Backend.refund id amount s = match s.gateway.refundError? id with
      | none => .ok () (s.withGateway ((s.gateway.called .refund).closed id))
      | some e => .error e (s.withGateway (s.gateway.called .refund)) := by
  simp only [Backend.refund, onGateway, Action.zoom, Gateway.refund_apply]
  cases s.gateway.refundError? id <;> rfl

theorem publish_apply (e : Envelope) :
    Backend.publish e s = match s.log.publishError? e.topic with
      | none => .ok () (s.published e)
      | some err => .error err s := by
  simp only [Backend.publish, onLog, Action.zoom, EventLog.publish_apply]
  cases s.log.publishError? e.topic <;> rfl

theorem onNotifier_after {ε α : Type} (x : Action Notifier ε α) :
    (onNotifier x).after s = { s with notifier := x.after s.notifier } :=
  Action.zoom_after _ _ x s

theorem count_apply {ε : Type} (m : Metric) :
    (Backend.count m : Action Hotel ε Unit) s = .ok () (s.counted m) := rfl

end

end Hotel
end HotelBooking
