import HotelBooking.Proofs.Payments
import Mathlib.Computability.Language

/-!
# The life of a payment

A payment can be called at any time, and refuses what its status does not allow. Whatever the calls are, its
attempts are those of the calls that it accepted, and their statuses form a word of `histories`: tries that
failed, and then as much of an authorization, a capture and a refund as there has been since (`Payment.lives`).
Each of these words is the history of some payment (`Payment.mem_histories_iff`).
-/

open scoped Computability

namespace HotelBooking

/-- What is asked of a payment. -/
inductive PaymentCall where
  | authorize (transactionId : String)
  | capture
  | refund
  | fail (code message : String)

namespace PaymentCall

def perform (now : Instant) (p : Payment) : PaymentCall → Except PaymentError Payment
  | authorize transactionId => p.authorize now transactionId
  | capture => p.capture now
  | refund => p.refund now
  | fail code message => p.fail now code message

def isAllowed (s : PaymentStatus) : PaymentCall → Bool
  | authorize _ => s.canAuthorize
  | capture => s.canCapture
  | refund => s.canRefund
  | fail .. => s.canFail

/-- The attempt that is recorded of the call. -/
def attempt (now : Instant) : PaymentCall → PaymentAttempt
  | authorize _ => .succeeded now .authorized
  | capture => .succeeded now .captured
  | refund => .succeeded now .refunded
  | fail code message => .failed now code message

theorem status_attempt_ne_pending (now : Instant) (c : PaymentCall) : (c.attempt now).status ≠ .pending := by
  cases c <;> nofun

/-- The transaction that the call names. -/
def transactionId? : PaymentCall → Option String
  | authorize transactionId => some transactionId
  | capture | refund | fail .. => none

/-- The payment once it has accepted the call. -/
def accept (now : Instant) (p : Payment) (c : PaymentCall) : Payment :=
  { p.record (c.attempt now) with transactionId := c.transactionId?.or p.transactionId }

theorem perform_eq_ok_iff {now : Instant} {p q : Payment} {c : PaymentCall} :
    c.perform now p = .ok q ↔ c.isAllowed p.status = true ∧ q = c.accept now p := by
  cases c with
  | authorize transactionId => exact Payment.authorize_eq_ok_iff
  | capture =>
      refine Payment.capture_eq_ok_iff.trans ?_
      simp [isAllowed, PaymentStatus.canCapture, accept, attempt, transactionId?, Payment.record]
  | refund =>
      refine Payment.refund_eq_ok_iff.trans ?_
      simp [isAllowed, PaymentStatus.canRefund, accept, attempt, transactionId?, Payment.record]
  | fail code message => exact Payment.fail_eq_ok_iff

end PaymentCall

namespace PaymentStatus

/-- A try that failed, before the gateway had authorized the payment or after it. -/
def failedTry : Language PaymentStatus := {[failed]} + {[authorized, failed]}

/-- The way to a refund, as far as it has been gone. -/
def progress : Language PaymentStatus := {w | w <+: [authorized, captured, refunded]}

/-- What the statuses of a payment can have been. -/
def histories : Language PaymentStatus := failedTry∗ * progress

/-- The statuses since the last failure, up to this one. -/
def sinceFailure : PaymentStatus → List PaymentStatus
  | pending | failed => []
  | authorized => [authorized]
  | captured => [authorized, captured]
  | refunded => [authorized, captured, refunded]

theorem sinceFailure_mem_progress (s : PaymentStatus) : s.sinceFailure ∈ progress := by
  cases s <;> exact List.prefix_iff_eq_take.mpr rfl

theorem append_mem_failedTry_kstar {v w : List PaymentStatus} (hv : v ∈ failedTry∗) (hw : w ∈ failedTry∗) :
    v ++ w ∈ failedTry∗ :=
  Set.mem_of_mem_of_subset (Language.append_mem_mul hv hw) (kstar_mul_kstar failedTry).le

/-- Tries that failed came no further than to the authorization. -/
theorem not_mem_of_mem_failedTry_kstar {v : List PaymentStatus} (hv : v ∈ failedTry∗) {s : PaymentStatus}
    (hfailed : s ≠ failed) (hauthorized : s ≠ authorized) : s ∉ v := by
  intro hs
  obtain ⟨tries, rfl, htries⟩ := Language.mem_kstar.mp hv
  obtain ⟨w, hw, hsw⟩ := List.mem_flatten.mp hs
  rcases htries w hw with rfl | rfl
  · exact hfailed (List.mem_singleton.mp hsw)
  · rcases List.mem_pair.mp hsw with hsw | hsw
    · exact hauthorized hsw
    · exact hfailed hsw

section
variable {w : List PaymentStatus} (h : w ∈ histories)
include h

/-- What is no part of a try that failed comes at most once. -/
theorem count_le_one {s : PaymentStatus} (hfailed : s ≠ failed) (hauthorized : s ≠ authorized) :
    w.count s ≤ 1 := by
  obtain ⟨v, hv, u, hu, rfl⟩ := Language.mem_mul.mp h
  have hprogress : u.count s ≤ [authorized, captured, refunded].count s := hu.sublist.count_le s
  rw [List.count_append, List.count_eq_zero_of_not_mem (not_mem_of_mem_failedTry_kstar hv hfailed hauthorized),
    Nat.zero_add]
  refine hprogress.trans ?_
  cases s <;> decide

/-- Nothing follows a refund. -/
theorem refunded_not_mem_dropLast : refunded ∉ w.dropLast := by
  obtain ⟨v, hv, u, hu, rfl⟩ := Language.mem_mul.mp h
  have hnone : refunded ∉ v := not_mem_of_mem_failedTry_kstar hv nofun nofun
  intro hmem
  rw [List.dropLast_append] at hmem
  split_ifs at hmem with hempty
  · exact hnone (List.mem_of_mem_dropLast hmem)
  · have hshort : u.dropLast.length ≤ 2 := by
      have hlength : u.length ≤ 3 := hu.length_le
      rw [List.length_dropLast]
      omega
    have hbefore : u.dropLast <+: [authorized, captured] :=
      List.prefix_of_prefix_length_le ((List.dropLast_prefix u).trans hu) ⟨[refunded], rfl⟩ hshort
    rcases List.mem_append.mp hmem with hmem | hmem
    · exact hnone hmem
    · exact absurd (hbefore.subset hmem) (by decide)

end

/-- An accepted call either goes on, or makes what there has been since the last failure a try that failed. -/
theorem sinceFailure_call {s : PaymentStatus} {c : PaymentCall} (h : c.isAllowed s = true) (now : Instant) :
    ∃ v ∈ failedTry∗, s.sinceFailure ++ [(c.attempt now).status] =
      v ++ (c.attempt now).status.sinceFailure := by
  have hnone := Language.nil_mem_kstar failedTry
  have htry {w} (hw : w ∈ failedTry) : w ∈ failedTry∗ := Set.mem_of_mem_of_subset hw (le_kstar (a := failedTry))
  cases c with
  | authorize transactionId => cases s <;> first | contradiction | exact ⟨[], hnone, rfl⟩
  | capture => cases s <;> first | contradiction | exact ⟨[], hnone, rfl⟩
  | refund => cases s <;> first | contradiction | exact ⟨[], hnone, rfl⟩
  | fail code message =>
      cases s with
      | pending | failed => exact ⟨[failed], htry (.inl rfl), rfl⟩
      | authorized => exact ⟨[authorized, failed], htry (.inr rfl), rfl⟩
      | captured | refunded => contradiction

end PaymentStatus

namespace Payment

/-- The payment after a call. If it is refused, nothing changes. -/
def afterCall (p : Payment) (call : Instant × PaymentCall) : Payment :=
  match call.2.perform call.1 p with
  | .ok q => q
  | .error _ => p

def afterCalls (p : Payment) (calls : List (Instant × PaymentCall)) : Payment := calls.foldl afterCall p

/-- Those of the calls that the payment accepts. -/
def accepted (p : Payment) : List (Instant × PaymentCall) → List (Instant × PaymentCall)
  | [] => []
  | call :: calls =>
    match call.2.perform call.1 p with
    | .ok q => call :: q.accepted calls
    | .error _ => p.accepted calls

def statuses (p : Payment) : List PaymentStatus := p.attempts.map (·.status)

theorem statuses_accept (t : Instant) (p : Payment) (c : PaymentCall) :
    (c.accept t p).statuses = p.statuses ++ [(c.attempt t).status] :=
  List.map_append

/-- What is known of a payment that was made and then accepted these calls. -/
structure Traced (now : Instant) (order : PaymentOrder) (accepted : List (Instant × PaymentCall))
    (p : Payment) : Prop where
  order : p.order = order
  createdAt : p.createdAt = now
  attempts : p.attempts = accepted.map fun call => call.2.attempt call.1
  status : p.status = p.statuses.getLast?.getD .pending
  failedTries : ∃ v ∈ PaymentStatus.failedTry∗, p.statuses = v ++ p.status.sinceFailure
  transactionId : p.transactionId = (accepted.filterMap fun call => call.2.transactionId?).getLast?
  isSome_of_sinceFailure : p.status.sinceFailure ≠ [] → p.transactionId.isSome = true

namespace Traced

variable {now t : Instant} {order : PaymentOrder} {calls : List (Instant × PaymentCall)} {p q : Payment}
  {c : PaymentCall}

theorem make (now : Instant) (order : PaymentOrder) : Traced now order [] (.make now order) where
  order := rfl
  createdAt := rfl
  attempts := rfl
  status := rfl
  failedTries := ⟨[], Language.nil_mem_kstar _, rfl⟩
  transactionId := rfl
  isSome_of_sinceFailure h := absurd rfl h

theorem accept (h : Traced now order calls p) (hc : c.isAllowed p.status = true) :
    Traced now order (calls ++ [(t, c)]) (c.accept t p) where
  order := h.order
  createdAt := h.createdAt
  attempts := by
    rw [List.map_append, ← h.attempts]
    rfl
  status := by
    rw [statuses_accept, List.getLast?_concat]
    rfl
  failedTries := by
    obtain ⟨v, hv, hstatuses⟩ := h.failedTries
    -- What there has been since the last failure goes on, or it has become a try that failed.
    obtain ⟨w, hw, hcall⟩ := PaymentStatus.sinceFailure_call hc t
    refine ⟨v ++ w, PaymentStatus.append_mem_failedTry_kstar hv hw, ?_⟩
    rw [statuses_accept, hstatuses, List.append_assoc, hcall, List.append_assoc]
    rfl
  transactionId := by
    have hlast : (c.accept t p).transactionId = c.transactionId?.or p.transactionId := rfl
    rw [hlast, h.transactionId, List.filterMap_append, List.getLast?_append]
    cases hnamed : c.transactionId? <;> simp [hnamed]
  isSome_of_sinceFailure := by
    intro hsince
    cases c with
    | authorize transactionId => rfl
    | capture =>
        have hstatus : p.status = .authorized := of_decide_eq_true hc
        refine h.isSome_of_sinceFailure ?_
        rw [hstatus]
        nofun
    | refund =>
        have hstatus : p.status = .captured := of_decide_eq_true hc
        refine h.isSome_of_sinceFailure ?_
        rw [hstatus]
        nofun
    | fail code message => exact absurd rfl hsince

/-- However the life of the payment goes on, it stays traced. -/
theorem afterCalls (h : Traced now order calls p) (later : List (Instant × PaymentCall)) :
    Traced now order (calls ++ p.accepted later) (p.afterCalls later) := by
  induction later generalizing calls p with
  | nil => simpa [accepted, Payment.afterCalls] using h
  | cons call later ih =>
      unfold accepted
      have hnext : p.afterCalls (call :: later) = (p.afterCall call).afterCalls later := rfl
      rw [hnext, afterCall]
      -- A refused call leaves everything as it is, so it takes no step.
      cases hperform : call.2.perform call.1 p with
      | error e => exact ih h
      | ok q =>
          obtain ⟨hallowed, rfl⟩ := PaymentCall.perform_eq_ok_iff.mp hperform
          have htraced := ih (h.accept (t := call.1) hallowed)
          rwa [List.append_assoc] at htraced

theorem exists_call (h : Traced now order calls p) {a : PaymentAttempt} (ha : a ∈ p.attempts) :
    ∃ t c, a = PaymentCall.attempt t c := by
  rw [h.attempts] at ha
  obtain ⟨⟨t, c⟩, -, rfl⟩ := List.mem_map.mp ha
  exact ⟨t, c, rfl⟩

theorem mem_histories (h : Traced now order calls p) : p.statuses ∈ PaymentStatus.histories := by
  obtain ⟨v, hv, hstatuses⟩ := h.failedTries
  rw [hstatuses]
  exact Language.append_mem_mul hv p.status.sinceFailure_mem_progress

end Traced

/-- The payment takes a call: a refused one changes nothing, and an accepted one adds its attempt. -/
def Takes (t : Instant) (c : PaymentCall) (p : Payment) : Prop :=
  match c.perform t p with
  | .error _ => p.afterCall (t, c) = p
  | .ok q => p.afterCall (t, c) = q ∧ q.attempts = p.attempts ++ [c.attempt t]

theorem takes (t : Instant) (c : PaymentCall) (p : Payment) : p.Takes t c := by
  unfold Takes afterCall
  cases hperform : c.perform t p with
  | error e => rfl
  | ok q =>
      obtain ⟨-, rfl⟩ := PaymentCall.perform_eq_ok_iff.mp hperform
      exact ⟨rfl, rfl⟩

/-- What can be said of a payment that was made and then accepted these calls. -/
structure Life (now : Instant) (order : PaymentOrder) (accepted : List (Instant × PaymentCall))
    (p : Payment) : Prop extends Traced now order accepted p where
  pending_iff : p.status = .pending ↔ p.attempts = []
  history : p.statuses ∈ PaymentStatus.histories
  captured_once : p.statuses.count .captured ≤ 1
  refunded_once : p.statuses.count .refunded ≤ 1
  refunded_last : .refunded ∉ p.statuses.dropLast
  failures : ∀ a ∈ p.attempts,
    (a.status = .failed ↔ a.errorCode.isSome) ∧ (a.status = .failed ↔ a.errorMessage.isSome)
  transactionId_eq_none_iff : p.transactionId = none ↔ ∀ t id, (t, .authorize id) ∉ accepted
  transactionId_isSome : p.status = .captured ∨ p.status = .refunded → p.transactionId.isSome = true

theorem life_of_traced {now : Instant} {order : PaymentOrder} {calls : List (Instant × PaymentCall)}
    {p : Payment} (h : Traced now order calls p) : Life now order calls p where
  toTraced := h
  pending_iff := by
    rcases List.eq_nil_or_concat p.attempts with hnone | ⟨earlier, a, hsome⟩
    · simp [h.status, Payment.statuses, hnone]
    · have hstatus : p.status = a.status := by
        rw [h.status, Payment.statuses, hsome, List.concat_eq_append, List.map_append]
        simp
      obtain ⟨t, c, rfl⟩ := h.exists_call (a := a) (by simp [hsome])
      simp [hstatus, hsome, c.status_attempt_ne_pending t]
  history := h.mem_histories
  captured_once := PaymentStatus.count_le_one h.mem_histories nofun nofun
  refunded_once := PaymentStatus.count_le_one h.mem_histories nofun nofun
  refunded_last := PaymentStatus.refunded_not_mem_dropLast h.mem_histories
  failures := by
    intro a ha
    obtain ⟨t, c, rfl⟩ := h.exists_call ha
    cases c <;> simp [PaymentCall.attempt, PaymentAttempt.succeeded, PaymentAttempt.failed]
  transactionId_eq_none_iff := by
    rw [h.transactionId, List.getLast?_eq_none_iff, List.filterMap_eq_nil_iff]
    constructor
    · intro hnone t id hmem
      exact absurd (hnone _ hmem) nofun
    · rintro hnone ⟨t, c⟩ hmem
      cases c with
      | authorize id => exact absurd hmem (hnone t id)
      | capture | refund | fail => rfl
  transactionId_isSome := by
    rintro (hstatus | hstatus)
    · exact h.isSome_of_sinceFailure (hstatus ▸ nofun)
    · exact h.isSome_of_sinceFailure (hstatus ▸ nofun)

/-- The life of a payment, whatever it is called for and at whatever times. -/
theorem lives (now : Instant) (order : PaymentOrder) (calls : List (Instant × PaymentCall)) :
    Life now order ((make now order).accepted calls) ((make now order).afterCalls calls) ∧
      ∀ t c, ((make now order).afterCalls calls).Takes t c :=
  ⟨life_of_traced ((Traced.make now order).afterCalls calls), fun t c => takes t c _⟩

/-- Some calls lead from the first payment through these statuses to the second. -/
def LeadsTo (p : Payment) (w : List PaymentStatus) (q : Payment) : Prop :=
  (∃ calls, q = p.afterCalls calls) ∧ q.statuses = p.statuses ++ w

namespace LeadsTo

theorem refl (p : Payment) : p.LeadsTo [] p := ⟨⟨[], rfl⟩, (List.append_nil _).symm⟩

theorem trans {p q r : Payment} {v w : List PaymentStatus} (h : p.LeadsTo v q) (h' : q.LeadsTo w r) :
    p.LeadsTo (v ++ w) r := by
  obtain ⟨⟨calls, rfl⟩, hv⟩ := h
  obtain ⟨⟨later, rfl⟩, hw⟩ := h'
  refine ⟨⟨calls ++ later, List.foldl_append.symm⟩, ?_⟩
  rw [hw, hv, List.append_assoc]

variable (now : Instant) {p : Payment}
include now

theorem of_call {c : PaymentCall} (h : c.isAllowed p.status = true) :
    p.LeadsTo [(c.attempt now).status] (c.accept now p) := by
  have hcall : p.afterCall (now, c) = c.accept now p := by
    unfold afterCall
    rw [PaymentCall.perform_eq_ok_iff.mpr ⟨h, rfl⟩]
  exact ⟨⟨[(now, c)], hcall.symm⟩, statuses_accept now p c⟩

/-- A payment that can be authorized can fail once more, and be authorized again after that. -/
theorem of_mem_failedTry (h : p.status.canAuthorize = true) {w : List PaymentStatus}
    (hw : w ∈ PaymentStatus.failedTry) : ∃ q, p.LeadsTo w q ∧ q.status.canAuthorize = true := by
  rcases hw with rfl | rfl
  · have hfail : (PaymentCall.fail "" "").isAllowed p.status = true := by
      revert h
      cases p.status <;> decide
    exact ⟨_, of_call now hfail, rfl⟩
  · have hauthorize : (PaymentCall.authorize "").isAllowed p.status = true := h
    have hfail : (PaymentCall.fail "" "").isAllowed ((PaymentCall.authorize "").accept now p).status = true :=
      rfl
    exact ⟨_, (of_call now hauthorize).trans (of_call now hfail), rfl⟩

theorem of_mem_failedTry_kstar (h : p.status.canAuthorize = true) {v : List PaymentStatus}
    (hv : v ∈ PaymentStatus.failedTry∗) : ∃ q, p.LeadsTo v q ∧ q.status.canAuthorize = true := by
  obtain ⟨tries, rfl, htries⟩ := Language.mem_kstar.mp hv
  clear hv
  -- One try after the other; each leaves a payment that can be authorized again.
  induction tries generalizing p with
  | nil => exact ⟨p, refl p, h⟩
  | cons w tries ih =>
      obtain ⟨q, hq, hcan⟩ := of_mem_failedTry now h (htries w List.mem_cons_self)
      obtain ⟨r, hr, hcan'⟩ := ih hcan fun v hv => htries v (List.mem_cons_of_mem w hv)
      exact ⟨r, hq.trans hr, hcan'⟩

theorem of_mem_progress (h : p.status.canAuthorize = true) {u : List PaymentStatus}
    (hu : u ∈ PaymentStatus.progress) : ∃ q, p.LeadsTo u q := by
  have hauthorized : p.LeadsTo [.authorized] _ := of_call now (c := .authorize "") h
  have hcaptured : p.LeadsTo [.authorized, .captured] _ := hauthorized.trans (of_call now (c := .capture) rfl)
  have hrefunded : p.LeadsTo [.authorized, .captured, .refunded] _ :=
    hcaptured.trans (of_call now (c := .refund) rfl)
  have hprefix : u <+: [.authorized, .captured, .refunded] := hu
  simp only [List.prefix_cons_iff, List.prefix_nil] at hprefix
  rcases hprefix with rfl | ⟨_, rfl, rfl | ⟨_, rfl, rfl | ⟨_, rfl, rfl⟩⟩⟩
  · exact ⟨p, refl p⟩
  · exact ⟨_, hauthorized⟩
  · exact ⟨_, hcaptured⟩
  · exact ⟨_, hrefunded⟩

end LeadsTo

/-- There are no other histories: each of them is that of some payment. -/
theorem mem_histories_iff (now : Instant) (order : PaymentOrder) (w : List PaymentStatus) :
    w ∈ PaymentStatus.histories ↔ ∃ calls, ((make now order).afterCalls calls).statuses = w := by
  constructor
  · intro hw
    obtain ⟨v, hv, u, hu, rfl⟩ := Language.mem_mul.mp hw
    obtain ⟨p, hp, hcan⟩ := LeadsTo.of_mem_failedTry_kstar now (p := make now order) rfl hv
    obtain ⟨q, hq⟩ := LeadsTo.of_mem_progress now hcan hu
    obtain ⟨⟨calls, rfl⟩, hstatuses⟩ := hp.trans hq
    exact ⟨calls, hstatuses⟩
  · rintro ⟨calls, rfl⟩
    exact ((Traced.make now order).afterCalls calls).mem_histories

end Payment
end HotelBooking
