import HotelBooking.Proofs.Audit
import HotelBooking.Proofs.Independence

/-!
# The gateway as a ledger

A gateway names its transactions by texts. However it is used, that comes to a ledger with an entry for each payment
and amount (`Gateway.run_ledger`): the names of two transactions are the same only if payment and amount are, and
what is on record under a name is what was authorized last under it and not refunded since (`OnRecord`). For that no
call may touch an entry but its own. A refused call touches none, and is counted all the same.
-/

namespace HotelBooking

open HotelBooking.Action

namespace Gateway

/-- A transaction tells both its payment and its amount, whatever characters the identifier is made of. -/
theorem transactionId_eq_iff {id other : PaymentId} {amount amount' : Int64} :
    transactionId id amount = transactionId other amount' ↔ id = other ∧ amount = amount' := by
  constructor
  · intro h
    obtain rfl := eq_of_transactionId h
    have hdigits : Text.signedDigits amount.toInt = Text.signedDigits amount'.toInt := by
      simpa [transactionId] using congrArg String.toList h
    exact ⟨rfl, Int64.toInt_inj.mp (Text.signedDigits_injective hdigits)⟩
  · rintro ⟨rfl, rfl⟩
    rfl

end Gateway

namespace GatewayRequest

def operation : GatewayRequest → GatewayOperation
  | authorize _ => .authorize
  | capture .. => .capture
  | refund .. => .refund

/-- The transaction that is asked for. -/
def transactionId : GatewayRequest → String
  | authorize p => Gateway.transactionId p.id p.amount.amount
  | capture id _ => id
  | refund id _ => id

def perform : GatewayRequest → Action Gateway GatewayError String
  | authorize p => Gateway.authorize p
  | capture id amount => do
    Gateway.capture id amount
    return id
  | refund id amount => do
    Gateway.refund id amount
    return id

/-- Why the request is refused. -/
def error? (g : Gateway) : GatewayRequest → Option GatewayError
  | authorize _ => g.authorizeError?
  | capture id amount => g.captureError? id amount
  | refund id _ => g.refundError? id

/-- What the gateway has on record once the request is accepted. -/
def settle (g : Gateway) : GatewayRequest → Gateway
  | authorize p => g.opened (Gateway.transactionId p.id p.amount.amount) p.amount
  | capture .. => g
  | refund id _ => g.closed id

/-- A request is accepted for the transaction that it asks for, or refused and only counted. -/
theorem perform_apply (request : GatewayRequest) (g : Gateway) :
    request.perform g = match request.error? g with
      | none => .ok request.transactionId (request.settle (g.called request.operation))
      | some e => .error e (g.called request.operation) := by
  cases request with
  | authorize p => exact Gateway.authorize_apply p g
  | capture id amount =>
      simp only [perform, error?, bind_apply, Gateway.capture_apply]
      cases g.captureError? id amount <;> rfl
  | refund id amount =>
      simp only [perform, error?, bind_apply, Gateway.refund_apply]
      cases g.refundError? id <;> rfl

@[simp] theorem calls_settle (request : GatewayRequest) (g : Gateway) (op : GatewayOperation) :
    (request.settle g).calls op = g.calls op := by
  cases request <;> cases op <;> rfl

end GatewayRequest

/-- What can happen to a gateway. -/
inductive GatewayEvent where
  | call (request : GatewayRequest)
  | setFailure (op : GatewayOperation) (fails : Bool)

namespace GatewayEvent

def request? : GatewayEvent → Option GatewayRequest
  | call request => some request
  | setFailure .. => none

/-- What the operation is told by the event. -/
def setting? (op : GatewayOperation) : GatewayEvent → Option Bool
  | call _ => none
  | setFailure op' fails => if op' = op then some fails else none

end GatewayEvent

namespace GatewayCall

variable {id : PaymentId} {amount : Int64}

/-- The call has authorized the money for the payment. -/
def Opens (id : PaymentId) (amount : Int64) (m : Money) (c : GatewayCall) : Prop :=
  ∃ p : Payment, c = ⟨.authorize p, true⟩ ∧ p.id = id ∧ p.amount = m ∧ m.amount = amount

/-- The call has refunded what was authorized. -/
def Closes (id : PaymentId) (amount : Int64) (c : GatewayCall) : Prop :=
  ∃ m, c = ⟨.refund (Gateway.transactionId id amount) m, true⟩

/-- The call has changed the entry of the payment and the amount. -/
def Touches (id : PaymentId) (amount : Int64) (c : GatewayCall) : Prop :=
  (∃ m, c.Opens id amount m) ∨ c.Closes id amount

/-- An accepted call touches at most the entry of its own transaction, and a capture or a refused call none. -/
theorem Touches.accepted {c : GatewayCall} (h : c.Touches id amount) :
    c.accepted = true ∧ c.request.operation ≠ .capture ∧
      c.request.transactionId = Gateway.transactionId id amount := by
  rcases h with ⟨m, p, rfl, rfl, rfl, rfl⟩ | ⟨m, rfl⟩
  · exact ⟨rfl, nofun, rfl⟩
  · exact ⟨rfl, nofun, rfl⟩

end GatewayCall

/-- After these calls, `m` is what was authorized last for the payment and the amount, and that was not refunded
since. -/
def OnRecord (id : PaymentId) (amount : Int64) (m : Money) (calls : List GatewayCall) : Prop :=
  ∃ before c later, calls = before ++ c :: later ∧ c.Opens id amount m ∧
    ∀ c' ∈ later, ¬ c'.Touches id amount

theorem onRecord_concat_iff {id : PaymentId} {amount : Int64} {m : Money} {calls : List GatewayCall}
    {c : GatewayCall} : OnRecord id amount m (calls ++ [c]) ↔
      c.Opens id amount m ∨ OnRecord id amount m calls ∧ ¬ c.Touches id amount := by
  constructor
  · rintro ⟨before, opening, later, heq, hopens, hlater⟩
    rcases List.eq_nil_or_concat later with rfl | ⟨later, last, rfl⟩
    · obtain ⟨-, hlast⟩ := List.append_inj' heq rfl
      cases hlast
      exact .inl hopens
    · rw [List.concat_eq_append, ← List.cons_append, ← List.append_assoc] at heq
      obtain ⟨rfl, hlast⟩ := List.append_inj' heq rfl
      cases hlast
      simp only [List.concat_eq_append, List.mem_append, List.mem_singleton] at hlater
      exact .inr ⟨⟨before, opening, later, rfl, hopens, fun c' hc' => hlater c' (.inl hc')⟩,
        hlater c (.inr rfl)⟩
  · rintro (hopens | ⟨⟨before, opening, later, rfl, hopens, hlater⟩, huntouched⟩)
    · exact ⟨calls, c, [], rfl, hopens, by simp⟩
    · refine ⟨before, opening, later ++ [c], by simp, hopens, ?_⟩
      intro c' hc'
      rcases List.mem_append.mp hc' with hc' | hc'
      · exact hlater c' hc'
      · rwa [List.mem_singleton.mp hc']

/-- The key is that of a payment and an amount for which `m` is on record. -/
def OnRecordAt (key : String) (m : Money) (calls : List GatewayCall) : Prop :=
  ∃ id amount, key = Gateway.transactionId id amount ∧ OnRecord id amount m calls

section
variable {key : String} {m : Money} {calls : List GatewayCall} {c : GatewayCall}

theorem onRecordAt_transactionId_iff {id : PaymentId} {amount : Int64} :
    OnRecordAt (Gateway.transactionId id amount) m calls ↔ OnRecord id amount m calls := by
  constructor
  · rintro ⟨id', amount', hkey, h⟩
    obtain ⟨rfl, rfl⟩ := Gateway.transactionId_eq_iff.mp hkey
    exact h
  · intro h
    exact ⟨id, amount, rfl, h⟩

theorem onRecordAt_concat_of_untouched
    (h : ∀ id amount, key = Gateway.transactionId id amount → ¬ c.Touches id amount) :
    OnRecordAt key m (calls ++ [c]) ↔ OnRecordAt key m calls := by
  constructor
  · rintro ⟨id, amount, hkey, hrecord⟩
    rcases onRecord_concat_iff.mp hrecord with hopens | ⟨hrecord, -⟩
    · exact absurd (.inl ⟨m, hopens⟩) (h id amount hkey)
    · exact ⟨id, amount, hkey, hrecord⟩
  · rintro ⟨id, amount, hkey, hrecord⟩
    exact ⟨id, amount, hkey, onRecord_concat_iff.mpr (.inr ⟨hrecord, h id amount hkey⟩)⟩

end

namespace Gateway

/-- The gateway has on record what its calls have left there. -/
def Keeps (calls : List GatewayCall) (g : Gateway) : Prop :=
  ∀ key m, g.transactions[key]? = some m ↔ OnRecordAt key m calls

namespace Keeps

variable {calls : List GatewayCall} {g : Gateway}

theorem start : Keeps [] {} := by
  intro key m
  constructor
  · intro h
    cases h.symm.trans (Std.ExtTreeMap.getElem?_empty ..)
  · rintro ⟨id, amount, -, before, c, later, hcalls, -⟩
    simp at hcalls

theorem of_transactions_eq {g' : Gateway} (h : g.Keeps calls) (heq : g'.transactions = g.transactions) :
    g'.Keeps calls := by
  unfold Keeps
  rwa [heq]

theorem refused (h : g.Keeps calls) (request : GatewayRequest) :
    g.Keeps (calls ++ [⟨request, false⟩]) := by
  intro key m
  rw [h key m, onRecordAt_concat_of_untouched]
  intro id amount _ htouches
  cases htouches.accepted.1

/-- An accepted call changes the entry of its own transaction and no other. -/
theorem settle (h : g.Keeps calls) (request : GatewayRequest) :
    (request.settle g).Keeps (calls ++ [⟨request, true⟩]) := by
  intro key m
  have hother (hkey : request.transactionId ≠ key) :
      OnRecordAt key m (calls ++ [⟨request, true⟩]) ↔ OnRecordAt key m calls :=
    onRecordAt_concat_of_untouched fun id amount hid htouches =>
      hkey (htouches.accepted.2.2.trans hid.symm)
  cases request with
  | capture id amount =>
      rw [onRecordAt_concat_of_untouched fun _ _ _ htouches => htouches.accepted.2.1 rfl]
      exact h key m
  | authorize p =>
      rw [GatewayRequest.settle, opened_transactions, Std.ExtTreeMap.getElem?_insert]
      by_cases hkey : transactionId p.id p.amount.amount = key
      · subst hkey
        rw [if_pos Std.ReflCmp.compare_self, onRecordAt_transactionId_iff, onRecord_concat_iff]
        constructor
        · intro hm
          exact .inl ⟨p, rfl, rfl, Option.some.inj hm, by cases hm; rfl⟩
        · rintro (⟨q, hcall, -, rfl, -⟩ | ⟨-, huntouched⟩)
          · cases hcall
            rfl
          · exact absurd (.inl ⟨p.amount, p, rfl, rfl, rfl, rfl⟩) huntouched
      · rw [if_neg (by simpa using hkey), hother hkey]
        exact h key m
  | refund id amount =>
      rw [GatewayRequest.settle, closed_transactions, Std.ExtTreeMap.getElem?_erase]
      by_cases hkey : id = key
      · subst hkey
        rw [if_pos Std.ReflCmp.compare_self]
        constructor
        · nofun
        · rintro ⟨payment, authorized, rfl, hrecord⟩
          rcases onRecord_concat_iff.mp hrecord with ⟨q, hcall, -⟩ | ⟨-, huntouched⟩
          · cases hcall
          · exact absurd (.inr ⟨amount, rfl⟩) huntouched
      · rw [if_neg (by simpa using hkey), hother hkey]
        exact h key m

end Keeps

/-- What happens, with the calls kept. -/
def step (a : Audited Gateway) : GatewayEvent → Audited Gateway
  | .call request => (Audited.record request request.perform).after a
  | .setFailure op fails => { a with system := a.system.setFailure op fails }

/-- What has happened since the gateway was new. -/
def run (events : List GatewayEvent) : Audited Gateway := events.foldl step ⟨{}, []⟩

theorem step_call (a : Audited Gateway) (request : GatewayRequest) :
    step a (.call request) = match request.error? a.system with
      | none => ⟨request.settle (a.system.called request.operation), a.calls ++ [⟨request, true⟩]⟩
      | some _ => ⟨a.system.called request.operation, a.calls ++ [⟨request, false⟩]⟩ := by
  simp only [step, after, outcome, Audited.record, GatewayRequest.perform_apply]
  cases request.error? a.system <;> rfl

/-- The operation is told to fail. -/
def fails (op : GatewayOperation) (g : Gateway) : Bool :=
  match op with
  | .authorize => g.failsAuthorize
  | .capture => g.failsCapture
  | .refund => g.failsRefund

/-- What the operation was told last. -/
def toldLast (op : GatewayOperation) (events : List GatewayEvent) : Bool :=
  (events.reverse.findSome? (GatewayEvent.setting? op)).getD false

/-- What is known of a gateway after these events. -/
structure Traced (events : List GatewayEvent) (a : Audited Gateway) : Prop where
  keeps : a.system.Keeps a.calls
  requests : a.calls.map GatewayCall.request = events.filterMap GatewayEvent.request?
  calls : ∀ op, a.system.calls op = a.calls.countP fun c => c.request.operation = op
  fails : ∀ op, a.system.fails op = toldLast op events

namespace Traced

variable {events : List GatewayEvent} {a : Audited Gateway}

theorem start : Traced [] ⟨{}, []⟩ where
  keeps := .start
  requests := rfl
  calls op := by cases op <;> rfl
  fails op := by cases op <;> rfl

/-- A call, accepted or not, is counted, and leaves what the operations were told as it is. -/
theorem call (h : Traced events a) (request : GatewayRequest) {accepted : Bool} {g : Gateway}
    (hkeeps : g.Keeps (a.calls ++ [⟨request, accepted⟩]))
    (hcalls : ∀ op, g.calls op = a.system.calls op + if request.operation = op then 1 else 0)
    (hfails : ∀ op, g.fails op = a.system.fails op) :
    Traced (events ++ [.call request]) ⟨g, a.calls ++ [⟨request, accepted⟩]⟩ where
  keeps := hkeeps
  requests := by
    rw [List.map_append, List.filterMap_append, h.requests]
    rfl
  calls op := by
    rw [hcalls, h.calls, List.countP_append, List.countP_singleton]
    simp
  fails op := by
    rw [hfails, h.fails, toldLast, toldLast, List.reverse_append]
    rfl

theorem step (h : Traced events a) (e : GatewayEvent) : Traced (events ++ [e]) (step a e) := by
  cases e with
  | call request =>
      have hcalled : (a.system.called request.operation).Keeps a.calls :=
        h.keeps.of_transactions_eq (transactions_called _ _)
      rw [step_call]
      cases request.error? a.system with
      | none =>
          refine h.call request (hcalled.settle request) (fun op => ?_) fun op => ?_
          · rw [GatewayRequest.calls_settle, calls_called]
          · cases request <;> cases op <;> rfl
      | some e =>
          refine h.call request (hcalled.refused request) (fun op => calls_called ..) fun op => ?_
          cases request <;> cases op <;> rfl
  | setFailure op fails =>
      refine ⟨h.keeps.of_transactions_eq (by cases op <;> rfl), ?_, fun other => ?_, fun other => ?_⟩
      · rw [List.filterMap_append]
        exact h.requests.trans (List.append_nil _).symm
      · refine Eq.trans ?_ (h.calls other)
        cases op <;> cases other <;> rfl
      · have hfails : (a.system.setFailure op fails).fails other =
            if op = other then fails else a.system.fails other := by
          cases op <;> cases other <;> rfl
        refine hfails.trans ?_
        rw [toldLast, List.reverse_append, List.reverse_singleton, List.singleton_append, List.findSome?_cons,
          GatewayEvent.setting?]
        by_cases hop : op = other
        · rw [if_pos hop, if_pos hop]
          rfl
        · rw [if_neg hop, if_neg hop]
          exact h.fails other

/-- However things go on, the gateway stays traced. -/
theorem run (h : Traced events a) (later : List GatewayEvent) :
    Traced (events ++ later) (later.foldl Gateway.step a) := by
  induction later generalizing events a with
  | nil => simpa using h
  | cons e later ih =>
      have hrest := ih (h.step e)
      rwa [List.append_assoc] at hrest

end Traced

/-- A gateway to which all this has happened is a ledger of its calls. -/
structure IsLedger (events : List GatewayEvent) (a : Audited Gateway) : Prop where
  requests : a.calls.map GatewayCall.request = events.filterMap GatewayEvent.request?
  /-- Nothing is on record but what was authorized. -/
  entry : ∀ key m, a.system.transactions[key]? = some m ↔ OnRecordAt key m a.calls
  authorize : ∀ p, (∃ g, Gateway.authorize p a.system = .ok (transactionId p.id p.amount.amount) g) ↔
    toldLast .authorize events = false
  capture : ∀ id amount m, (∃ g, Gateway.capture (transactionId id amount) m a.system = .ok () g) ↔
    toldLast .capture events = false ∧ OnRecord id amount m a.calls
  refund : ∀ id amount m, (∃ g, Gateway.refund (transactionId id amount) m a.system = .ok () g) ↔
    toldLast .refund events = false ∧ ∃ authorized, OnRecord id amount authorized a.calls
  /-- What is refunded is the one entry of a payment and an amount. -/
  closes : ∀ key m g, Gateway.refund key m a.system = .ok () g → ∃ id amount, key = transactionId id amount ∧
    ∀ other amount', g.transactions[transactionId other amount']? =
      if other = id ∧ amount' = amount then none else a.system.transactions[transactionId other amount']?
  refused : ∀ (request : GatewayRequest) e g, request.perform a.system = .error e g →
    g = a.system.called request.operation
  calls : ∀ op, a.system.calls op =
    (events.filterMap GatewayEvent.request?).countP fun request => request.operation = op

namespace Traced

variable {events : List GatewayEvent} {a : Audited Gateway}

theorem isLedger (h : Traced events a) : IsLedger events a where
  requests := h.requests
  entry := h.keeps
  authorize p := by
    rw [← h.fails .authorize, authorize_apply]
    refine Iff.trans ?_ authorizeError?_eq_none_iff
    cases a.system.authorizeError? <;> simp
  capture id amount m := by
    rw [← h.fails .capture, ← onRecordAt_transactionId_iff, ← h.keeps, capture_apply]
    refine Iff.trans ?_ captureError?_eq_none_iff
    cases a.system.captureError? (transactionId id amount) m <;> simp
  refund id amount m := by
    simp only [← onRecordAt_transactionId_iff, ← h.keeps _ _, ← Option.isSome_iff_exists]
    rw [← h.fails .refund, refund_apply]
    refine Iff.trans ?_ refundError?_eq_none_iff
    cases a.system.refundError? (transactionId id amount) <;> simp
  closes key m g hrefund := by
    rw [refund_apply] at hrefund
    cases herror : a.system.refundError? key with
    | some e =>
        rw [herror] at hrefund
        cases hrefund
    | none =>
        rw [herror] at hrefund
        cases hrefund
        obtain ⟨-, hopen⟩ := refundError?_eq_none_iff.mp herror
        obtain ⟨authorized, hopen⟩ := Option.isSome_iff_exists.mp hopen
        obtain ⟨id, amount, rfl, -⟩ := (h.keeps key authorized).mp hopen
        refine ⟨id, amount, rfl, fun other amount' => ?_⟩
        rw [closed_transactions, Std.ExtTreeMap.getElem?_erase, transactions_called]
        refine if_congr ?_ rfl rfl
        rw [Std.LawfulEqCmp.compare_eq_iff_eq, transactionId_eq_iff, eq_comm, @eq_comm _ amount]
  refused request e g hrefused := by
    rw [GatewayRequest.perform_apply] at hrefused
    cases herror : request.error? a.system with
    | none =>
        rw [herror] at hrefused
        cases hrefused
    | some e =>
        rw [herror] at hrefused
        cases hrefused
        rfl
  calls op := by
    rw [h.calls, ← h.requests, List.countP_map]
    rfl

end Traced

/-- Two authorizations are for the same transaction only if payment and amount are the same, and so a gateway, new
at first and used in any way, is a ledger with an entry for each payment and amount. -/
theorem run_ledger (events : List GatewayEvent) :
    (∀ (p q : Payment) (g s g' s' : Gateway) (key key' : String),
      authorize p g = .ok key g' → authorize q s = .ok key' s' →
        (key = key' ↔ p.id = q.id ∧ p.amount.amount = q.amount.amount)) ∧
      IsLedger events (run events) := by
  refine ⟨?_, (Traced.start.run events).isLedger⟩
  intro p q g s g' s' key key' hp hq
  have hname {p : Payment} {g g' : Gateway} {key : String} (h : authorize p g = .ok key g') :
      key = transactionId p.id p.amount.amount := by
    rw [authorize_apply] at h
    cases herror : g.authorizeError? <;> rw [herror] at h <;> cases h
    rfl
  rw [hname hp, hname hq, transactionId_eq_iff]

end Gateway
end HotelBooking
