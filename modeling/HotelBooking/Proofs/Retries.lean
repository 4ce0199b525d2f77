import HotelBooking.Proofs.FaultyParts

/-!
# What a retry costs

A payment has a number of tries left (`Payment.triesLeft`). Whatever is done to a stored payment, none
is given back: a failed capture makes an authorized payment one that can be authorized again, but counts
as a failure. Asking the gateway again for an authorization takes one away, whatever it answers
(`Audited.retryAuthorization_spends`), and a retry that is refused touches nothing
(`Audited.retryAuthorization_refused`).
-/

namespace HotelBooking

open HotelBooking.Action

theorem PaymentStatus.canFail_of_canAuthorize {s : PaymentStatus} (h : s.canAuthorize = true) :
    s.canFail = true := by
  revert h
  cases s <;> decide

namespace Payment

/-- The tries left after a change of status: one less than the failures still allowed for. -/
def triesAfter (p : Payment) : Nat := maxFailures - 1 - p.failureCount

/-- How often authorization can be tried again. A payment that is authorized first has to fail. -/
def triesLeft (p : Payment) : Nat :=
  if p.status.canAuthorize then maxFailures - p.failureCount else p.triesAfter

theorem triesAfter_le (p : Payment) : p.triesAfter ≤ p.triesLeft := by
  unfold triesLeft triesAfter
  split_ifs <;> omega

theorem isRetryable_iff {p : Payment} :
    p.isRetryable = true ↔ p.status.canAuthorize = true ∧ p.failureCount < maxFailures := by
  simp [isRetryable]

theorem triesLeft_of_isRetryable {p : Payment} (h : p.isRetryable = true) :
    p.triesLeft = p.triesAfter + 1 := by
  obtain ⟨hstatus, hfailures⟩ := isRetryable_iff.mp h
  rw [triesLeft, if_pos hstatus, triesAfter]
  omega

theorem checkRetryable_eq_ok_iff {p : Payment} : p.checkRetryable = .ok () ↔ p.isRetryable = true := by
  rw [isRetryable_iff, checkRetryable]
  split_ifs <;> simp_all

theorem isRetryable_eq_false_iff (p : Payment) :
    p.isRetryable = false ↔ ∃ e, p.checkRetryable = .error e := by
  rw [← Bool.not_eq_true, ← checkRetryable_eq_ok_iff]
  cases p.checkRetryable with
  | ok u => simp
  | error e => simp

theorem failureCount_record (p : Payment) (a : PaymentAttempt) :
    (p.record a).failureCount = p.failureCount + if a.isFailure then 1 else 0 := by
  simp [failureCount, record, List.countP_append, List.countP_cons]

theorem triesLeft_record_succeeded {s : PaymentStatus} (hs : s.canAuthorize = false) (now : Instant)
    (p : Payment) : (p.record (.succeeded now s)).triesLeft = p.triesAfter := by
  have hfailure : (PaymentAttempt.succeeded now s).isFailure = false := by
    cases s <;> first | rfl | contradiction
  rw [triesLeft, record, if_neg (by simp [PaymentAttempt.succeeded, hs]), triesAfter, ← record,
    failureCount_record, hfailure]
  rfl

theorem triesLeft_record_failed (now : Instant) (code message : String) (p : Payment) :
    (p.record (.failed now code message)).triesLeft = p.triesAfter := by
  have hfailure : (PaymentAttempt.failed now code message).isFailure = true := rfl
  have hstatus : (p.record (.failed now code message)).status.canAuthorize = true := rfl
  rw [triesLeft, if_pos hstatus, failureCount_record, hfailure, if_pos rfl, triesAfter]
  omega

theorem triesLeft_authorized (now : Instant) (transactionId : String) (p : Payment) :
    (p.authorized now transactionId).triesLeft = p.triesAfter :=
  triesLeft_record_succeeded rfl now p

end Payment

namespace Payments

variable {σ τ : Type} [Backend σ] {f : σ → τ} {S : τ → τ → Prop} (h : Backend.PaymentsAside f)
  (now : Instant)
include h

theorem count_bind {ε α : Type} (m : Metric) {k : Unit → Action σ ε α}
    (hk : (k ()).Moves (InvImage S f)) : (Backend.count m >>= k).Moves (InvImage S f) := by
  intro s
  obtain ⟨t, hcount, ht⟩ := h.count (ε := ε) m s
  exact after_bind_same hcount ht hk

theorem announce_keeps {α : Type} (e : PaymentEvent) (a : α) :
    (do announce now e; return a : Action σ OperationError α).Moves (Same f) :=
  ((h.publish _).mapError _).bind fun _ => .pure a

theorem announceFailure_keeps (p : Payment) : (announceFailure now p : Action σ _ _).Moves (Same f) :=
  ((h.publish _).attempt).bind fun _ => .pure _

/-- A payment that can be authorized is stored in its next form, whatever the gateway answers. -/
theorem authorizeWith_stores {p : Payment} (hp : p.status.canAuthorize = true)
    {store : Payment → Action σ StorageError Unit}
    (hstore : ∀ q, q.triesLeft = p.triesAfter → (store q).Moves (InvImage S f)) :
    (authorizeWith now store p).Moves (InvImage S f) := by
  unfold authorizeWith
  -- `S` need not be reflexive: on either way the rules allow the change, so something is stored
  refine Moves.attempt_bind (h.authorize p) fun answer => ?_
  cases answer with
  | ok transactionId =>
      have hnext := p.triesLeft_authorized now transactionId
      dsimp only
      rw [Payment.authorize_eq_ok_iff.mpr ⟨hp, rfl⟩]
      exact Moves.bind_same ((hstore _ hnext).mapError _) fun _ => announce_keeps h now _ _
  | error e =>
      have hnext := p.triesLeft_record_failed now authorizationFailed e.message
      refine count_bind h _ ?_
      rw [Payment.fail_eq_ok_iff.mpr ⟨PaymentStatus.canFail_of_canAuthorize hp, rfl⟩]
      refine Moves.bind_same ((hstore _ hnext).mapError _) fun _ => ?_
      exact (announceFailure_keeps h now _).bind fun _ => .throw _

omit now in
theorem count_errorsIn {P : OperationError → Prop} (m : Metric) :
    (Backend.count m : Action σ OperationError Unit).ErrorsIn P := by
  intro s e t herror
  obtain ⟨u, hcount, -⟩ := h.count (ε := OperationError) m s
  rw [hcount] at herror
  contradiction

/-- The rules for payments do not get in the way of a payment that can be authorized. -/
theorem authorizeWith_errorsIn {p : Payment} (hp : p.status.canAuthorize = true)
    (store : Payment → Action σ StorageError Unit) :
    (authorizeWith now store p).ErrorsIn fun e => ∀ reason, e ≠ .payment reason := by
  unfold authorizeWith
  refine ErrorsIn.attempt.bind fun answer => ?_
  cases answer with
  | ok transactionId =>
      dsimp only
      rw [Payment.authorize_eq_ok_iff.mpr ⟨hp, rfl⟩]
      refine (ErrorsIn.mapError (x := store _) fun _ => nofun).bind fun _ => ?_
      exact (ErrorsIn.mapError fun _ => nofun).bind fun _ => .pure _
  | error e =>
      refine (count_errorsIn h _).bind fun _ => ?_
      rw [Payment.fail_eq_ok_iff.mpr ⟨PaymentStatus.canFail_of_canAuthorize hp, rfl⟩]
      refine (ErrorsIn.mapError (x := store _) fun _ => nofun).bind fun _ => ?_
      exact (ErrorsIn.attempt.bind fun _ => .pure _).bind fun _ => .throw nofun

section
variable [Std.Refl S] {id : PaymentId} {p : Payment}
  (hstore : ∀ q, q.triesLeft = p.triesAfter →
    (Backend.updatePayment id q : Action σ _ _).Moves (InvImage S f))
include hstore

/-- The gateway has agreed to settle the payment, which may then turn out to be impossible. -/
theorem settle_stores {result : Except PaymentError Payment}
    (hresult : ∀ q, result = .ok q → q.triesLeft = p.triesAfter) (event : Payment → PaymentEvent) :
    (do
      let q ← Action.ofExcept (result.mapError OperationError.payment)
      (Backend.updatePayment id q).mapError .storage
      announce now (event q)
      return q : Action σ OperationError Payment).Moves (InvImage S f) := by
  cases result with
  | ok q =>
      refine Moves.bind_same ((hstore q (hresult q rfl)).mapError _) fun _ => ?_
      exact announce_keeps h now _ q
  | error e => exact fun s => Std.Refl.refl (f s)

theorem recordCaptureFailure_stores (e : GatewayError) :
    (recordCaptureFailure now id e p : Action σ _ _).Moves (InvImage S f) := by
  unfold recordCaptureFailure
  cases hresult : p.fail now captureFailed e.message with
  | ok q =>
      obtain ⟨-, rfl⟩ := Payment.fail_eq_ok_iff.mp hresult
      have hnext := p.triesLeft_record_failed now captureFailed e.message
      exact Moves.bind_same ((hstore _ hnext).attempt) fun _ => announceFailure_keeps h now _
  | error e => exact fun s => Std.Refl.refl (f s)

/-- What a capture does once the payment has been read. -/
theorem capture_stores {s t : σ} (hread : Backend.readPayment id s = .ok p t) :
    S (f t) (f ((capture now id).after s)) := by
  have hget : (get id : Action σ _ _) s = .ok p t := mapError_eq_ok_iff.mpr hread
  unfold capture
  rw [after_bind_ok _ hget]
  refine Moves.attempt_bind (h.capture _ _) (fun answer => ?_) t
  cases answer with
  | ok _ =>
      refine settle_stores h now hstore (fun q hq => ?_) _
      rw [(Payment.capture_eq_ok_iff.mp hq).2]
      exact Payment.triesLeft_record_succeeded rfl now p
  | error e =>
      refine count_bind h _ ?_
      exact Moves.bind_same (recordCaptureFailure_stores h now hstore e) fun _ => .throw _

/-- What a refund does once the payment has been read. -/
theorem refund_stores {s t : σ} (hread : Backend.readPayment id s = .ok p t) :
    S (f t) (f ((refund now id).after s)) := by
  have hget : (get id : Action σ _ _) s = .ok p t := mapError_eq_ok_iff.mpr hread
  unfold refund
  rw [after_bind_ok _ hget]
  refine Moves.attempt_bind (h.refund _ _) (fun answer => ?_) t
  cases answer with
  | ok _ =>
      refine settle_stores h now hstore (fun q hq => ?_) _
      rw [(Payment.refund_eq_ok_iff.mp hq).2]
      exact Payment.triesLeft_record_succeeded rfl now p
  | error e => exact count_bind h _ fun s => Std.Refl.refl (f s)

end
end Payments

namespace Table

/-- How often the payment under the key can be authorized again; a new one will have been asked for
once. -/
def triesLeft (key : String) (t : Table Payment) : Nat :=
  (t.entries[key]?.map Payment.triesLeft).getD (Payment.maxFailures - 1)

theorem triesLeft_of_eq_some {key : String} {t : Table Payment} {p : Payment}
    (h : t.entries[key]? = some p) : t.triesLeft key = p.triesLeft := by
  rw [triesLeft, h]
  rfl

theorem triesLeft_insert (key other : String) (p : Payment) (t : Table Payment) :
    (t.insert key p).triesLeft other = if key = other then p.triesLeft else t.triesLeft other := by
  rw [triesLeft, getElem?_insert]
  split_ifs <;> rfl

/-- No payment has more tries left than before, and changes are refused as before. -/
structure Spends (t u : Table Payment) : Prop where
  refusesUpdate : u.refusesUpdate = t.refusesUpdate
  triesLeft_le : ∀ key, u.triesLeft key ≤ t.triesLeft key

namespace Spends

instance : IsPreorder (Table Payment) Spends where
  refl _ := ⟨rfl, fun _ => Nat.le_refl _⟩
  trans _ _ _ h h' :=
    ⟨h'.refusesUpdate.trans h.refusesUpdate,
      fun key => Nat.le_trans (h'.triesLeft_le key) (h.triesLeft_le key)⟩

variable {key : String} {p q : Payment} {t : Table Payment}

theorem insert (h : q.triesLeft ≤ t.triesLeft key) : Spends t (t.insert key q) where
  refusesUpdate := rfl
  triesLeft_le other := by
    rw [triesLeft_insert]
    split_ifs with hkey
    · exact hkey ▸ h
    · exact Nat.le_refl _

theorem create (h : q.triesLeft ≤ Payment.maxFailures - 1) :
    Spends t ((Table.create key q).after t) := by
  cases herror : t.createError? key with
  | some e =>
      rw [after_of_error (show Table.create key q t = .error e t by rw [create_apply, herror])]
      exact Std.Refl.refl t
  | none =>
      rw [after_of_ok (show Table.create key q t = .ok () _ by rw [create_apply, herror])]
      refine insert ?_
      rw [triesLeft, (createError?_eq_none_iff.mp herror).2]
      exact h

theorem update (hp : t.entries[key]? = some p) (h : q.triesLeft ≤ p.triesLeft) :
    Spends t ((Table.update key q).after t) := by
  cases herror : t.updateError? key with
  | some e =>
      rw [after_of_error (show Table.update key q t = .error e t by rw [update_apply, herror])]
      exact Std.Refl.refl t
  | none =>
      rw [after_of_ok (show Table.update key q t = .ok () _ by rw [update_apply, herror])]
      exact insert (by rwa [triesLeft_of_eq_some hp])

end Spends

theorem triesLeft_update {key : String} {p q : Payment} {t : Table Payment}
    (hp : t.entries[key]? = some p) (hworks : t.refusesUpdate = false) :
    ((update key q).after t).triesLeft key = q.triesLeft := by
  have hnone := (updateError?_eq_none_iff hp).mpr hworks
  rw [after_of_ok (show update key q t = .ok () _ by rw [update_apply, hnone]), triesLeft_insert,
    if_pos rfl]

end Table

namespace Audited

/-- The payments that are stored have no more tries left than before. -/
def Spends (a b : Audited FaultyHotel) : Prop := a.payments.Spends b.payments

instance : IsPreorder (Audited FaultyHotel) Spends where
  refl a := Std.Refl.refl a.payments
  trans a b c := IsTrans.trans a.payments b.payments c.payments

theorem spends_of_eq {a b : Audited FaultyHotel} (h : Same payments a b) : a.Spends b := by
  rw [Spends, h]
  exact Std.Refl.refl a.payments

theorem Untouched.payments {a b : Audited FaultyHotel} (h : a.Untouched b) : Same payments a b :=
  congrArg Hotel.payments h.hotel

/-- The relation holds for the payments if the one under the key is the one that was read. -/
def Stored (id : PaymentId) (p : Payment) (S : Table Payment → Table Payment → Prop)
    (t u : Table Payment) : Prop :=
  t.entries[id.text]? = some p → S t u

instance (id : PaymentId) (p : Payment) (S : Table Payment → Table Payment → Prop) [Std.Refl S] :
    Std.Refl (Stored id p S) where
  refl t _ := Std.Refl.refl t

variable {id : PaymentId} {p q : Payment}

theorem updatePayment_spends (hq : q.triesLeft = p.triesAfter) :
    (Backend.updatePayment id q).Moves (InvImage (Stored id p Table.Spends) payments) := by
  intro a hp
  rw [updatePayment_after]
  exact Table.Spends.update hp (hq ▸ p.triesAfter_le)

variable (now : Instant) (id)

theorem authorize_spends (order : PaymentOrder) : (Payments.authorize now order).Moves Spends := by
  refine Payments.authorizeWith_stores (S := Table.Spends) payments_aside now (p := .make now order) rfl
    fun q hq a => ?_
  rw [InvImage, createPayment_after]
  exact Table.Spends.create (Nat.le_of_eq hq)

/-- An operation that reads the payment first, and gives back nothing if that works. -/
theorem get_bind_spends {k : Payment → Action (Audited FaultyHotel) OperationError Payment}
    (hk : ∀ {a b : Audited FaultyHotel} {p : Payment}, Backend.readPayment id a = .ok p b →
      Stored id p Table.Spends b.payments ((Payments.get id >>= k).after a).payments) :
    (Payments.get id >>= k).Moves Spends := by
  have hfailed {a b : Audited FaultyHotel} {e : StorageError} (hread : Backend.readPayment id a = .error e b) :
      (Payments.get id >>= k).after a = b := by
    refine after_of_error (e := .storage e) (bind_error k ?_)
    rw [Payments.get, mapError_apply, hread]
  intro a
  rcases readPayment_cases id a with ⟨-, e, hread⟩ | ⟨-, b, hb, ⟨p, hp, hread⟩ | ⟨-, e, hread⟩⟩
  · rw [hfailed hread]
    exact Std.Refl.refl a
  · have hstored := hk hread
    rw [hb.payments] at hstored
    exact hstored hp
  · rw [hfailed hread]
    exact spends_of_eq hb.payments

theorem capture_spends : (Payments.capture now id).Moves Spends :=
  get_bind_spends id fun hread =>
    Payments.capture_stores payments_aside now (fun _ hq => updatePayment_spends hq) hread

theorem refund_spends : (Payments.refund now id).Moves Spends :=
  get_bind_spends id fun hread =>
    Payments.refund_stores payments_aside now (fun _ hq => updatePayment_spends hq) hread

/-- A retry cannot read the payment, or is refused, or asks the gateway. -/
theorem retryAuthorization_cases (a : Audited FaultyHotel) :
    ∃ b, a.Untouched b ∧
      ((∃ e, Payments.retryAuthorization now id a = .error (.storage e) b ∧
          (a.system.Answers .readPayment → a.system.hotel.payment? id = none)) ∨
        a.system.Answers .readPayment ∧ ∃ p, a.system.hotel.payment? id = some p ∧
          ((∃ e, p.checkRetryable = .error e ∧
              Payments.retryAuthorization now id a = .error (.payment e) b) ∨
            p.isRetryable = true ∧ Payments.retryAuthorization now id a =
              Payments.authorizeWith now (Backend.updatePayment id) p b)) := by
  have hfailed {b : Audited FaultyHotel} {e : StorageError} (hread : Backend.readPayment id a = .error e b) :
      Payments.retryAuthorization now id a = .error (.storage e) b := by
    refine bind_error _ ?_
    rw [Payments.get, mapError_apply, hread]
  rcases readPayment_cases id a with
    ⟨hdown, e, hread⟩ | ⟨hanswers, b, hb, ⟨p, hp, hread⟩ | ⟨hnone, e, hread⟩⟩
  · exact ⟨a, ⟨rfl, rfl, rfl⟩, .inl ⟨e, hfailed hread, fun h => (hdown h).elim⟩⟩
  · refine ⟨b, hb, .inr ⟨hanswers, p, hp, ?_⟩⟩
    have hget : (Payments.get id : Action (Audited FaultyHotel) _ _) a = .ok p b :=
      mapError_eq_ok_iff.mpr hread
    cases hcheck : p.checkRetryable with
    | error e =>
        refine .inl ⟨e, rfl, ?_⟩
        rw [Payments.retryAuthorization, bind_ok _ hget, hcheck]
        rfl
    | ok _ =>
        refine .inr ⟨Payment.checkRetryable_eq_ok_iff.mp hcheck, ?_⟩
        rw [Payments.retryAuthorization, bind_ok _ hget, hcheck]
        rfl
  · exact ⟨b, hb, .inl ⟨e, hfailed hread, fun _ => hnone⟩⟩

/-- A retry that asks the gateway takes away a try. -/
theorem retryAuthorization_stores {p : Payment} (hp : p.isRetryable = true) :
    (Payments.authorizeWith now (Backend.updatePayment id) p).Moves (InvImage (Stored id p fun t u =>
      t.Spends u ∧ (t.refusesUpdate = false → u.triesLeft id.text = p.triesAfter)) payments) := by
  refine Payments.authorizeWith_stores payments_aside now (Payment.isRetryable_iff.mp hp).1
    fun q hq a hstored => ?_
  refine ⟨updatePayment_spends hq a hstored, fun hworks => ?_⟩
  rw [updatePayment_after, Table.triesLeft_update hstored hworks, hq]

/-- A retry that goes through to the gateway asks it once, and another one is left less. -/
theorem retryAuthorization_after (a : Audited FaultyHotel) :
    let b := (Payments.retryAuthorization now id).after a
    (a.payments.Spends b.payments ∧ b.calls = a.calls) ∨
      a.payments.Spends b.payments ∧ (∃ call, b.calls = a.calls ++ [call]) ∧
        (a.payments.refusesUpdate = false →
          b.payments.triesLeft id.text + 1 = a.payments.triesLeft id.text) := by
  dsimp only
  obtain ⟨b, hb, ⟨e, hfails, -⟩ | ⟨-, p, hp, ⟨e, -, hrefused⟩ | ⟨hretryable, htried⟩⟩⟩ :=
    retryAuthorization_cases id now a
  · rw [after_of_error hfails]
    exact .inl ⟨spends_of_eq hb.payments, hb.calls⟩
  · rw [after_of_error hrefused]
    exact .inl ⟨spends_of_eq hb.payments, hb.calls⟩
  · have hstores := retryAuthorization_stores id now hretryable b
    rw [InvImage, hb.payments] at hstores
    obtain ⟨hspends, hnext⟩ := hstores hp
    have hcalls := Payments.authorizeWith_calls now (paymentRecords_keep_calls.update id) p b
    rw [hb.calls] at hcalls
    rw [after_congr htried]
    refine .inr ⟨hspends, ⟨_, hcalls⟩, fun hworks => ?_⟩
    have hbefore : a.payments.triesLeft id.text = p.triesLeft := Table.triesLeft_of_eq_some hp
    rw [hnext hworks, hbefore, Payment.triesLeft_of_isRetryable hretryable]

theorem retryAuthorization_spends : (Payments.retryAuthorization now id).Moves Spends := by
  intro a
  obtain ⟨hspends, -⟩ | ⟨hspends, -⟩ := retryAuthorization_after id now a
  · exact hspends
  · exact hspends

theorem moves_spends {ε α : Type} {x : Action (Audited FaultyHotel) ε α} (h : x.Moves (Same payments)) :
    x.Moves Spends :=
  h.mono fun _ _ => spends_of_eq

theorem onNotifier_spends {ε α : Type} (x : Action Notifier ε α) :
    (lift (FaultyHotel.onHotel (Hotel.onNotifier x))).Moves Spends :=
  moves_spends (lift_onHotels (R := Same Hotel.payments)
    (FaultyHotel.onHotel_moves (onNotifier_keeps_payments x)))

theorem services_spend : Booking.ServicesMove Spends where
  getReservation _ := moves_spends (Reservations.get_moves reservations_keep_stored _)
  listByGuest _ := moves_spends (Reservations.listByGuest_moves reservations_keep_stored _)
  createReservation now _ := moves_spends (Reservations.create_moves now reservations_keep_stored _)
  changeReservation now _ _ :=
    moves_spends (Reservations.modify_moves now reservations_keep_stored _ _ _)
  cancelReservation now _ _ :=
    moves_spends (Reservations.modify_moves now reservations_keep_stored _ _ _)
  getPayment _ := moves_spends ((payments_aside.read _).mapError _)
  authorize := authorize_spends
  retryAuthorization now id := retryAuthorization_spends id now
  capture now id := capture_spends id now
  refund now id := refund_spends id now
  sendConfirmation _ := onNotifier_spends _
  sendCancellation _ _ := onNotifier_spends _
  count _ _ := spends_of_eq rfl

/-- A retry that is refused leaves the payments, the gateway and the log alone. -/
theorem retryAuthorization_refused {a b : Audited FaultyHotel} {e : PaymentError}
    (h : Payments.retryAuthorization now id a = .error (.payment e) b) :
    a.system.Answers .readPayment ∧ a.Untouched b ∧
      ∃ p, a.system.hotel.payment? id = some p ∧ p.checkRetryable = .error e := by
  obtain ⟨c, hc, ⟨e', hfails, -⟩ | ⟨hanswers, p, hp, ⟨e', hcheck, hrefused⟩ | ⟨hretryable, htried⟩⟩⟩ :=
    retryAuthorization_cases id now a
  · rw [hfails] at h
    cases h
  · rw [hrefused] at h
    cases h
    exact ⟨hanswers, hc, p, hp, hcheck⟩
  · rw [htried] at h
    have hstatus := (Payment.isRetryable_iff.mp hretryable).1
    exact (Payments.authorizeWith_errorsIn payments_aside now hstatus _ c _ b h e rfl).elim

theorem exists_retryAuthorization_refused {a : Audited FaultyHotel} {p : Payment}
    (hanswers : a.system.Answers .readPayment) (hp : a.system.hotel.payment? id = some p)
    (hretryable : p.isRetryable = false) :
    ∃ e b, Payments.retryAuthorization now id a = .error (.payment e) b := by
  obtain ⟨b, -, ⟨e, -, hnone⟩ | ⟨-, q, hq, ⟨e, -, hrefused⟩ | ⟨hretryable', -⟩⟩⟩ :=
    retryAuthorization_cases id now a
  · rw [hnone hanswers] at hp
    contradiction
  · exact ⟨e, b, hrefused⟩
  · rw [hp] at hq
    cases hq
    rw [hretryable] at hretryable'
    contradiction

end Audited
end HotelBooking
