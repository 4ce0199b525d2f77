import HotelBooking.Proofs.Availability
import HotelBooking.Storage.Handle

/-!
# A shared table is a map

Whoever uses a table, through whichever copy of its handle, works on one map from keys to values. The map is told by
the calls alone: under a key is what was stored there last, unless it was deleted or the table was cleared later
(`Table.lastEntry`). A request either changes the table as it says (`TableRequest.settle`) or is refused, for a reason
that the calls before it decide, and then changes nothing. Other tables in the same memory have cells of their own
(`Handle.shared_table_is_map`).
-/

namespace HotelBooking

open HotelBooking.Action

namespace Table

variable {α : Type}

/-- The table without the entry under the key. -/
def erase (key : String) (t : Table α) : Table α := { t with entries := t.entries.erase key }

def refuses (w : TableWrite) (t : Table α) : Bool :=
  match w with
  | .create => t.refusesCreate
  | .update => t.refusesUpdate

/-- Why there is nothing to read or delete under the key. -/
def missing? (key : String) (t : Table α) : Option StorageError :=
  if t.entries[key]?.isSome then none else some (.notFound t.entity key)

theorem read_apply (key : String) (t : Table α) :
    read key t = match t.entries[key]? with
      | some value => .ok value t
      | none => .error (.notFound t.entity key) t := rfl

theorem delete_apply (key : String) (t : Table α) :
    delete key t = match t.missing? key with
      | none => .ok () (t.erase key)
      | some e => .error e t := by
  simp only [delete, missing?, Std.ExtTreeMap.contains_eq_isSome_getElem?]
  split_ifs <;> rfl

theorem isSome_of_updateError?_eq_none {key : String} {t : Table α} (h : t.updateError? key = none) :
    t.entries[key]?.isSome := by
  unfold updateError? at h
  split_ifs at h with _ hold
  exact hold

theorem missing?_eq_none_iff {key : String} {t : Table α} :
    t.missing? key = none ↔ t.entries[key]?.isSome := by
  simp [missing?]

theorem size_insert (key : String) (value : α) (t : Table α) :
    (t.insert key value).size = if t.entries[key]?.isSome then t.size else t.size + 1 := by
  rw [size, insert, Std.ExtTreeMap.size_insert, Std.ExtTreeMap.contains_eq_isSome_getElem?]
  rfl

theorem size_erase_add_one {key : String} {t : Table α} (h : t.entries[key]?.isSome) :
    (t.erase key).size + 1 = t.size := by
  have hpos : t.entries.size ≠ 0 := by
    intro hzero
    rw [Std.ExtTreeMap.eq_empty_iff_size_eq_zero.mpr hzero, Std.ExtTreeMap.getElem?_empty] at h
    cases h
  rw [size, size, erase, Std.ExtTreeMap.size_erase, Std.ExtTreeMap.contains_eq_isSome_getElem?, if_pos h]
  omega

theorem refuses_setRefusal (w other : TableWrite) (refusal : Bool) (t : Table α) :
    (t.setRefusal w refusal).refuses other = if w = other then refusal else t.refuses other := by
  cases w <;> cases other <;> rfl

end Table

/-- What can be asked of a table. -/
inductive TableRequest (α : Type) where
  | create (key : String) (value : α)
  | read (key : String)
  | update (key : String) (value : α)
  | delete (key : String)
  | clear
  | setRefusal (w : TableWrite) (refusal : Bool)

namespace TableRequest

variable {α : Type}

def perform : TableRequest α → Action (Table α) StorageError Unit
  | create key value => Table.create key value
  | read key => do
    let _ ← Table.read key
  | update key value => Table.update key value
  | delete key => Table.delete key
  | clear => modify Table.clear
  | setRefusal w refusal => modify (Table.setRefusal w refusal)

/-- Why the request is refused. -/
def error? (t : Table α) : TableRequest α → Option StorageError
  | create key _ => t.createError? key
  | read key => t.missing? key
  | update key _ => t.updateError? key
  | delete key => t.missing? key
  | clear => none
  | setRefusal .. => none

/-- The table once the request is accepted. -/
def settle (t : Table α) : TableRequest α → Table α
  | create key value => t.insert key value
  | read _ => t
  | update key value => t.insert key value
  | delete key => t.erase key
  | clear => t.clear
  | setRefusal w refusal => t.setRefusal w refusal

/-- A request is accepted, or the table stays as it is. -/
theorem perform_apply (request : TableRequest α) (t : Table α) :
    request.perform t = match request.error? t with
      | none => .ok () (request.settle t)
      | some e => .error e t := by
  cases request with
  | create key value => exact Table.create_apply key value t
  | update key value => exact Table.update_apply key value t
  | delete key => exact Table.delete_apply key t
  | clear => rfl
  | setRefusal w refusal => rfl
  | read key =>
      simp only [perform, error?, settle, bind_apply, Table.read_apply, Table.missing?]
      cases t.entries[key]? <;> rfl

@[simp] theorem entity_settle (request : TableRequest α) (t : Table α) :
    (request.settle t).entity = t.entity := by
  cases request with
  | setRefusal w refusal => cases w <;> rfl
  | _ => rfl

/-- What the request makes of the entry under the key, if it is about that entry. -/
def entry? (key : String) : TableRequest α → Option (Option α)
  | create other value => if other = key then some (some value) else none
  | read _ => none
  | update other value => if other = key then some (some value) else none
  | delete other => if other = key then some none else none
  | clear => some none
  | setRefusal .. => none

theorem getElem?_settle (request : TableRequest α) (t : Table α) (key : String) :
    (request.settle t).entries[key]? = (request.entry? key).getD t.entries[key]? := by
  cases request with
  | create other value =>
      rw [settle, Table.getElem?_insert, entry?]
      split_ifs <;> rfl
  | update other value =>
      rw [settle, Table.getElem?_insert, entry?]
      split_ifs <;> rfl
  | delete other =>
      rw [settle, Table.erase, Std.ExtTreeMap.getElem?_erase, entry?]
      simp only [Std.LawfulEqCmp.compare_eq_iff_eq]
      split_ifs <;> rfl
  | clear => exact Std.ExtTreeMap.getElem?_empty
  | read other => rfl
  | setRefusal w refusal => cases w <;> rfl

/-- What the operation is told by the request. -/
def refusal? (w : TableWrite) : TableRequest α → Option Bool
  | setRefusal other refusal => if other = w then some refusal else none
  | _ => none

theorem refuses_settle (request : TableRequest α) (t : Table α) (w : TableWrite) :
    (request.settle t).refuses w = (request.refusal? w).getD (t.refuses w) := by
  cases request with
  | setRefusal other refusal =>
      rw [settle, Table.refuses_setRefusal, refusal?]
      split_ifs <;> rfl
  | _ => cases w <;> rfl

def isCreate : TableRequest α → Bool
  | create .. => true
  | _ => false

def isDelete : TableRequest α → Bool
  | delete _ => true
  | _ => false

def isClear : TableRequest α → Bool
  | clear => true
  | _ => false

/-- An accepted request changes the number of entries only by creating, deleting or clearing. -/
theorem size_settle {request : TableRequest α} {t : Table α} (h : request.error? t = none)
    (hclear : request.isClear = false) :
    (request.settle t).size + request.isDelete.toNat = t.size + request.isCreate.toNat := by
  cases request with
  | create key value =>
      have hnew : t.entries[key]? = none := (Table.createError?_eq_none_iff.mp h).2
      rw [settle, Table.size_insert, hnew]
      rfl
  | update key value =>
      have hold : t.entries[key]?.isSome := Table.isSome_of_updateError?_eq_none h
      rw [settle, Table.size_insert, if_pos hold]
      rfl
  | delete key => exact Table.size_erase_add_one (Table.missing?_eq_none_iff.mp h)
  | clear => cases hclear
  | read key => rfl
  | setRefusal w refusal => cases w <;> rfl

theorem settle_of_isClear {request : TableRequest α} (h : request.isClear = true) (t : Table α) :
    request.settle t = t.clear := by
  cases request with
  | clear => rfl
  | _ => cases h

section
variable {request : TableRequest α} {t : Table α} {e : StorageError}

/-- Clearing is never refused. -/
theorem isClear_of_error? (h : request.error? t = some e) : request.isClear = false := by
  cases request with
  | clear => cases h
  | _ => rfl

/-- To be told to refuse is never refused. -/
theorem refusal?_of_error? (h : request.error? t = some e) (w : TableWrite) : request.refusal? w = none := by
  cases request with
  | setRefusal other refusal => cases h
  | _ => rfl

end

end TableRequest

/-- A request, and whether it was accepted. -/
structure TableCall (α : Type) where
  request : TableRequest α
  accepted : Bool

/-- What the call has made of the entry under the key, if it has touched that entry. -/
def TableCall.entry? {α : Type} (key : String) (c : TableCall α) : Option (Option α) :=
  if c.accepted then c.request.entry? key else none

namespace Table

variable {α : Type} {calls : List (TableCall α)} {t : Table α}

/-- What the calls have left under the key. -/
def lastEntry (key : String) (calls : List (TableCall α)) : Option α :=
  (calls.reverse.findSome? (TableCall.entry? key)).join

/-- What the operation was told last. -/
def lastRefusal (w : TableWrite) (calls : List (TableCall α)) : Bool :=
  (calls.reverse.findSome? fun c => c.request.refusal? w).getD false

/-- The calls since the table was cleared last, the latest first. -/
def sinceClear (calls : List (TableCall α)) : List (TableCall α) :=
  calls.reverse.takeWhile fun c => !c.request.isClear

/-- How many requests of the kind were accepted. -/
def countAccepted (kind : TableRequest α → Bool) (calls : List (TableCall α)) : Nat :=
  calls.countP fun c => c.accepted && kind c.request

theorem lastEntry_concat (key : String) (calls : List (TableCall α)) (c : TableCall α) :
    lastEntry key (calls ++ [c]) = (c.entry? key).getD (lastEntry key calls) := by
  rw [lastEntry, List.reverse_concat, List.findSome?_cons]
  cases c.entry? key <;> rfl

theorem lastRefusal_concat (w : TableWrite) (calls : List (TableCall α)) (c : TableCall α) :
    lastRefusal w (calls ++ [c]) = (c.request.refusal? w).getD (lastRefusal w calls) := by
  rw [lastRefusal, List.reverse_concat, List.findSome?_cons]
  cases c.request.refusal? w <;> rfl

theorem sinceClear_concat (calls : List (TableCall α)) (c : TableCall α) :
    sinceClear (calls ++ [c]) = if c.request.isClear then [] else c :: sinceClear calls := by
  rw [sinceClear, List.reverse_concat, List.takeWhile_cons]
  cases c.request.isClear <;> rfl

theorem countAccepted_cons (kind : TableRequest α → Bool) (c : TableCall α) (calls : List (TableCall α)) :
    countAccepted kind (c :: calls) = countAccepted kind calls + (c.accepted && kind c.request).toNat := by
  rw [countAccepted, List.countP_cons]
  cases c.accepted && kind c.request <;> rfl

/-- What is known of a table after these calls. -/
structure Traced (calls : List (TableCall α)) (t : Table α) : Prop where
  entry : ∀ key : String, t.entries[key]? = lastEntry key calls
  refuses : ∀ w, t.refuses w = lastRefusal w calls
  size : t.size + countAccepted TableRequest.isDelete (sinceClear calls) =
    countAccepted TableRequest.isCreate (sinceClear calls)

namespace Traced

theorem start (entity : String) : Traced (α := α) [] { entity } where
  entry _ := Std.ExtTreeMap.getElem?_empty
  refuses w := by cases w <;> rfl
  size := rfl

/-- A request that is refused leaves the table as the calls before it did. -/
theorem refused (h : Traced calls t) {request : TableRequest α} {e : StorageError}
    (herror : request.error? t = some e) : Traced (calls ++ [⟨request, false⟩]) t := by
  refine ⟨fun key => ?_, fun w => ?_, ?_⟩
  · rw [lastEntry_concat, h.entry]
    rfl
  · rw [lastRefusal_concat, TableRequest.refusal?_of_error? herror, h.refuses]
    rfl
  · rw [sinceClear_concat, TableRequest.isClear_of_error? herror]
    exact h.size

theorem settle (h : Traced calls t) {request : TableRequest α} (hok : request.error? t = none) :
    Traced (calls ++ [⟨request, true⟩]) (request.settle t) := by
  refine ⟨fun key => ?_, fun w => ?_, ?_⟩
  · rw [lastEntry_concat, TableRequest.getElem?_settle, h.entry]
    rfl
  · rw [lastRefusal_concat, TableRequest.refuses_settle, h.refuses]
  · rw [sinceClear_concat]
    cases hclear : request.isClear with
    | true =>
        rw [TableRequest.settle_of_isClear hclear]
        rfl
    | false =>
        have hsize := TableRequest.size_settle hok hclear
        have hbefore := h.size
        simp only [Bool.false_eq_true, if_false, countAccepted_cons, Bool.true_and]
        omega

end Traced
end Table

namespace Handle

variable {α β ε : Type}

/-- The handle itself, or one that was copied from it, directly or through other copies. -/
inductive Copies (h : Handle) : Handle → Prop
  | self : Copies h h
  | copy {g : Handle} (hg : Copies h g) : Copies h g.copy

theorem copy_eq (h : Handle) : h.copy = h := rfl

/-- All copies of a handle name the same cells. -/
theorem Copies.eq {h g : Handle} (hg : h.Copies g) : g = h := by
  induction hg with
  | self => rfl
  | copy _ ih => rw [copy_eq, ih]

/-- The handle or a copy of it. -/
structure Copy (h : Handle) where
  handle : Handle
  copies : h.Copies handle

/-- The handles name no cell in common. -/
structure Apart (h g : Handle) : Prop where
  entries : h.entries ≠ g.entries
  create_create : h.refusesCreate ≠ g.refusesCreate
  create_update : h.refusesCreate ≠ g.refusesUpdate
  update_create : h.refusesUpdate ≠ g.refusesCreate
  update_update : h.refusesUpdate ≠ g.refusesUpdate

/-- The cells of the handle have been given out. -/
structure Within (m : Memory α) (h : Handle) : Prop where
  entries : h.entries < m.next
  refusesCreate : h.refusesCreate < m.next
  refusesUpdate : h.refusesUpdate < m.next

section
variable {h g : Handle}

theorem table_keep {t : Table α} (hentity : t.entity = h.entity) (m : Memory α) :
    h.table (h.keep t m) = t := by
  obtain ⟨entity, entries, refusesCreate, refusesUpdate⟩ := t
  simp only [table, keep, ↓reduceIte, h.separate.symm]
  cases hentity
  rfl

theorem Apart.table_keep (hg : h.Apart g) (t : Table α) (m : Memory α) :
    h.table (g.keep t m) = h.table m := by
  simp only [table, keep, hg.entries, hg.create_create, hg.create_update, hg.update_create,
    hg.update_update, if_false]

theorem keep_table (h : Handle) (m : Memory α) : h.keep (h.table m) m = m := by
  obtain ⟨entries, refusals, next⟩ := m
  simp only [table, keep, Memory.mk.injEq, and_true]
  constructor
  · funext cell
    split_ifs with hcell
    · rw [hcell]
    · rfl
  · funext cell
    split_ifs with hcreate hupdate
    · rw [hcreate]
    · rw [hupdate]
    · rfl

/-- A new table takes no cell of one that exists. -/
theorem Within.new_apart {m : Memory α} (hh : h.Within m) (entity : String) : h.Apart (new entity m).1 := by
  obtain ⟨hentries, hcreate, hupdate⟩ := hh
  constructor <;> simp only [new] <;> omega

theorem Within.table_new {m : Memory α} (hh : h.Within m) (entity : String) :
    h.table (new entity m).2 = h.table m :=
  (hh.new_apart entity).table_keep _ _

theorem Within.of_next_le {m m' : Memory α} (hh : h.Within m) (hnext : m.next ≤ m'.next) : h.Within m' where
  entries := hh.entries.trans_le hnext
  refusesCreate := hh.refusesCreate.trans_le hnext
  refusesUpdate := hh.refusesUpdate.trans_le hnext

theorem new_within (entity : String) (m : Memory α) : (new entity m).1.Within (new entity m).2 := by
  constructor <;> simp only [new, keep] <;> omega

end

theorem on_apply (h : Handle) (x : Action (Table α) ε β) (m : Memory α) :
    h.on x m = match x (h.table m) with
      | .ok a t => .ok a (h.keep t m)
      | .error e t => .error e (h.keep t m) := by
  unfold on zoom
  cases x (h.table m) <;> rfl

theorem on_after (h : Handle) (x : Action (Table α) ε β) (m : Memory α) :
    (h.on x).after m = h.keep (x.after (h.table m)) m := zoom_after ..

/-- A request is accepted, or nothing in the memory changes. -/
theorem on_perform_apply (h : Handle) (request : TableRequest α) (m : Memory α) :
    h.on request.perform m = match request.error? (h.table m) with
      | none => .ok () (h.keep (request.settle (h.table m)) m)
      | some e => .error e m := by
  rw [on_apply, TableRequest.perform_apply]
  cases request.error? (h.table m) with
  | none => rfl
  | some e => exact congrArg (EStateM.Result.error e) (h.keep_table m)

theorem on_perform_answer (h : Handle) (request : TableRequest α) (m : Memory α) :
    ((h.on request.perform).outcome m).1 = match request.error? (h.table m) with
      | none => .ok ()
      | some e => .error e := by
  rw [outcome, on_perform_apply]
  cases request.error? (h.table m) <;> rfl

theorem on_read_apply (h : Handle) (key : String) (m : Memory α) :
    h.on (Table.read key) m = match (h.table m).entries[key]? with
      | some value => .ok value m
      | none => .error (.notFound h.entity key) m := by
  rw [on_apply, Table.read_apply]
  cases (h.table m).entries[key]? with
  | some value => exact congrArg (EStateM.Result.ok value) (h.keep_table m)
  | none => exact congrArg (EStateM.Result.error _) (h.keep_table m)

/-- What can happen in the memory while the handle is in use. -/
inductive Event (h : Handle) (α : Type) where
  | call (g : h.Copy) (request : TableRequest α)
  | make (entity : String)
  | elsewhere (g : Handle) (apart : h.Apart g) (request : TableRequest α)

/-- What is asked of the table of the handle. -/
def Event.request? {h : Handle} : h.Event α → Option (TableRequest α)
  | call _ request => some request
  | make _ => none
  | elsewhere .. => none

/-- A memory, and the calls on one of its tables. -/
structure Recorded (α : Type) where
  memory : Memory α
  calls : List (TableCall α)

def step {h : Handle} (r : Recorded α) : h.Event α → Recorded α
  | .call g request =>
    let x := g.handle.on request.perform
    ⟨x.after r.memory, r.calls ++ [⟨request, (x.outcome r.memory).1.isOk⟩]⟩
  | .make entity => { r with memory := (new entity r.memory).2 }
  | .elsewhere g _ request => { r with memory := (g.on request.perform).after r.memory }

/-- What has happened since the memory was `m`. -/
def run {h : Handle} (m : Memory α) (events : List (h.Event α)) : Recorded α := events.foldl step ⟨m, []⟩

/-- To whoever has the handle, the table is the map that the calls have made. -/
structure IsMap (entity : String) (calls : List (TableCall α)) (m : Memory α) (h : Handle) : Prop where
  read : ∀ key, h.on (Table.read key) m =
    match Table.lastEntry key calls with
    | some value => .ok value m
    | none => .error (.notFound entity key) m
  /-- A refusal is noticed first. What is stored is never replaced by something new. -/
  create : ∀ key value, ((h.on (Table.create key value)).outcome m).1 =
    if Table.lastRefusal .create calls then .error (.unavailable s!"{entity} storage unavailable")
    else if (Table.lastEntry key calls).isSome then .error (.alreadyExists entity key)
    else .ok ()
  update : ∀ key value, ((h.on (Table.update key value)).outcome m).1 =
    if Table.lastRefusal .update calls then .error (.unavailable s!"{entity} storage unavailable")
    else if (Table.lastEntry key calls).isSome then .ok ()
    else .error (.notFound entity key)
  delete : ∀ key, ((h.on (Table.delete key)).outcome m).1 =
    if (Table.lastEntry key calls).isSome then .ok () else .error (.notFound entity key)
  /-- What fails changes nothing. -/
  refused : ∀ (request : TableRequest α) e m', h.on request.perform m = .error e m' → m' = m
  /-- Each entry is listed once. -/
  values : ∃ keys : List String, keys.Nodup ∧ (∀ key, key ∈ keys ↔ (Table.lastEntry key calls).isSome) ∧
    (h.table m).values.map some = keys.map fun key => Table.lastEntry key calls
  size : (h.table m).size + Table.countAccepted TableRequest.isDelete (Table.sinceClear calls) =
    Table.countAccepted TableRequest.isCreate (Table.sinceClear calls)

/-- The cells of the handle are given out, and its table is what the recorded calls have made of it. -/
structure Follows (h : Handle) (r : Recorded α) : Prop where
  within : h.Within r.memory
  traced : Table.Traced r.calls (h.table r.memory)

namespace Follows

variable {h : Handle} {r : Recorded α}

theorem call (hr : h.Follows r) (g : h.Copy) (request : TableRequest α) :
    h.Follows (step r (.call g request)) := by
  refine ⟨hr.within.of_next_le ?_, ?_⟩
  · rw [step, on_after]
    exact Nat.le_refl _
  · unfold step after outcome
    dsimp only
    rw [g.copies.eq, on_perform_apply]
    cases herror : request.error? (h.table r.memory) with
    | none =>
        rw [table_keep (request.entity_settle _)]
        exact hr.traced.settle herror
    | some e => exact hr.traced.refused herror

/-- What is done to other tables does not reach the cells of this one. -/
theorem step (hr : h.Follows r) (e : h.Event α) : h.Follows (step r e) := by
  cases e with
  | call g request => exact hr.call g request
  | make entity =>
      refine ⟨hr.within.of_next_le (Nat.le_add_right ..), ?_⟩
      rw [Handle.step, hr.within.table_new]
      exact hr.traced
  | elsewhere g apart request =>
      refine ⟨hr.within.of_next_le ?_, ?_⟩
      · rw [Handle.step, on_after]
        exact Nat.le_refl _
      · rw [Handle.step, on_after, apart.table_keep]
        exact hr.traced

theorem foldl_step (hr : h.Follows r) (events : List (h.Event α)) : h.Follows (events.foldl Handle.step r) := by
  induction events generalizing r with
  | nil => exact hr
  | cons e events ih => exact ih (hr.step e)

/-- The calls decide what the table answers next. -/
theorem isMap (hr : h.Follows r) : h.IsMap h.entity r.calls r.memory where
  read key := by
    rw [on_read_apply, hr.traced.entry]
  create key value := by
    refine (h.on_perform_answer (.create key value) r.memory).trans ?_
    rw [TableRequest.error?, Table.createError?, hr.traced.entry, ← hr.traced.refuses, Table.refuses]
    split_ifs <;> rfl
  update key value := by
    refine (h.on_perform_answer (.update key value) r.memory).trans ?_
    rw [TableRequest.error?, Table.updateError?, hr.traced.entry, ← hr.traced.refuses, Table.refuses]
    split_ifs <;> rfl
  delete key := by
    refine (h.on_perform_answer (.delete key) r.memory).trans ?_
    rw [TableRequest.error?, Table.missing?, hr.traced.entry]
    split_ifs <;> rfl
  refused request e m' hrefused := by
    rw [on_perform_apply] at hrefused
    cases herror : request.error? (h.table r.memory) with
    | none =>
        rw [herror] at hrefused
        cases hrefused
    | some e' =>
        rw [herror] at hrefused
        cases hrefused
        rfl
  values := by
    obtain ⟨keys, hnodup, hmem, hvalues⟩ := (h.table r.memory).listsOnce_filter fun _ => true
    refine ⟨keys, hnodup, fun key => ?_, ?_⟩
    · rw [hmem, hr.traced.entry, Option.isSome_iff_exists]
      simp
    · simpa only [List.filter_true, hr.traced.entry] using hvalues
  size := hr.traced.size

end Follows

theorem new_follows (entity : String) (m : Memory α) : (new entity m).1.Follows ⟨(new entity m).2, []⟩ := by
  refine ⟨new_within entity m, ?_⟩
  have htable : (new entity m).1.table (new entity m).2 = { entity } := table_keep rfl _
  rw [htable]
  exact .start entity

/-- No request is lost on the way. -/
theorem foldl_step_requests {h : Handle} (r : Recorded α) (events : List (h.Event α)) :
    (events.foldl step r).calls.map TableCall.request =
      r.calls.map TableCall.request ++ events.filterMap Event.request? := by
  induction events generalizing r with
  | nil => exact (List.append_nil _).symm
  | cons e events ih =>
      rw [List.foldl_cons, ih]
      cases e with
      | call g request =>
          rw [step, List.map_append, List.append_assoc]
          rfl
      | make entity => rfl
      | elsewhere g apart request => rfl

/-- A new table is a map from then on, for all who have its handle or a copy: every entry is what the calls through
any of them have left there, a call that fails leaves everything as it was, and whatever is done to other tables does
not matter. Every table that is made later is such another one. -/
theorem shared_table_is_map (entity : String) (m : Memory α) (events : List ((new entity m).1.Event α)) :
    let r := run (new entity m).2 events
    r.calls.map TableCall.request = events.filterMap Event.request? ∧
      (∀ g : (new entity m).1.Copy, g.handle.IsMap entity r.calls r.memory) ∧
      ∀ other : String, (new entity m).1.Apart (new other r.memory).1 := by
  have hr : (new entity m).1.Follows (run (new entity m).2 events) := (new_follows entity m).foldl_step events
  refine ⟨foldl_step_requests _ events, fun g => ?_, hr.within.new_apart⟩
  rw [g.copies.eq]
  exact hr.isMap

/-- What is created through a handle is taken for a copy of it, and gone when the copy has cleared the table. -/
example :
    let h := (new "Counter" ({} : Memory Nat)).1
    let own : h.Copy := ⟨h, .self⟩
    let other : h.Copy := ⟨h.copy.copy, .copy (.copy .self)⟩
    (run (new "Counter" {}).2 [.call own (.create "a" 1), .call other (.create "a" 2), .call other .clear,
      .call own (.read "a")]).calls.map TableCall.accepted = [true, false, true, false] := by
  decide +kernel

end Handle
end HotelBooking
