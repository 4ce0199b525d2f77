import HotelBooking.Action
import Std.Data.ExtTreeMap

/-!
# Tables

A table keeps values under keys. It can be told to refuse new values or changed ones; that is
noticed before it is looked whether the key is taken. A failed operation changes nothing.
-/

namespace HotelBooking

inductive StorageError where
  | notFound (entity key : String)
  | alreadyExists (entity key : String)
  | unavailable (reason : String)
  deriving Repr, DecidableEq

def StorageError.message : StorageError → String
  | notFound entity key => s!"{entity} not found: {key}"
  | alreadyExists entity key => s!"{entity} already exists: {key}"
  | unavailable reason => s!"Storage error: {reason}"

/-- Values of the kind called `entity`. -/
structure Table (α : Type) where
  entity : String
  entries : Std.ExtTreeMap String α := ∅
  refusesCreate : Bool := false
  refusesUpdate : Bool := false

/-- The operations that a table can be told to refuse. -/
inductive TableWrite where
  | create
  | update
  deriving Repr, DecidableEq

namespace Table

variable {α : Type}

/-- The answer when the table refuses. -/
def refusal (t : Table α) : StorageError := .unavailable s!"{t.entity} storage unavailable"

def create (key : String) (value : α) : Action (Table α) StorageError Unit := fun t =>
  if t.refusesCreate then .error t.refusal t
  else if t.entries.contains key then .error (.alreadyExists t.entity key) t
  else .ok () { t with entries := t.entries.insert key value }

def read (key : String) : Action (Table α) StorageError α := fun t =>
  match t.entries[key]? with
  | some value => .ok value t
  | none => .error (.notFound t.entity key) t

def update (key : String) (value : α) : Action (Table α) StorageError Unit := fun t =>
  if t.refusesUpdate then .error t.refusal t
  else if t.entries.contains key then .ok () { t with entries := t.entries.insert key value }
  else .error (.notFound t.entity key) t

def delete (key : String) : Action (Table α) StorageError Unit := fun t =>
  if t.entries.contains key then .ok () { t with entries := t.entries.erase key }
  else .error (.notFound t.entity key) t

/-- The values in the order of their keys. -/
def values (t : Table α) : List α := t.entries.values

def size (t : Table α) : Nat := t.entries.size

def clear (t : Table α) : Table α := { t with entries := ∅ }

def setRefusal (w : TableWrite) (refuses : Bool) (t : Table α) : Table α :=
  match w with
  | .create => { t with refusesCreate := refuses }
  | .update => { t with refusesUpdate := refuses }

end Table
end HotelBooking
