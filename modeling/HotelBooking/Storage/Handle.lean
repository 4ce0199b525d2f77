import HotelBooking.Storage.Table

/-!
# Handles on tables

Several parts of a system can use one table, each through a handle of its own. A handle names the
cells of a memory in which the table is kept, one for the entries and one for each refusal. A copy
of it names the same cells.
-/

namespace HotelBooking

/-- The cells in which tables are kept. Those from `next` on are free. -/
structure Memory (α : Type) where
  entries : Nat → Std.ExtTreeMap String α := fun _ => ∅
  refusals : Nat → Bool := fun _ => false
  next : Nat := 0

/-- The cells of one table. -/
structure Handle where
  entity : String
  entries : Nat
  refusesCreate : Nat
  refusesUpdate : Nat
  separate : refusesCreate ≠ refusesUpdate

namespace Handle

variable {α β ε : Type}

/-- The table that is kept in the cells. -/
def table (h : Handle) (m : Memory α) : Table α where
  entity := h.entity
  entries := m.entries h.entries
  refusesCreate := m.refusals h.refusesCreate
  refusesUpdate := m.refusals h.refusesUpdate

/-- The memory with the table in the cells. -/
def keep (h : Handle) (t : Table α) (m : Memory α) : Memory α :=
  { m with
    entries := fun cell => if cell = h.entries then t.entries else m.entries cell
    refusals := fun cell =>
      if cell = h.refusesCreate then t.refusesCreate
      else if cell = h.refusesUpdate then t.refusesUpdate
      else m.refusals cell }

/-- A handle on a new table, which is empty and refuses nothing. -/
def new (entity : String) (m : Memory α) : Handle × Memory α :=
  let h : Handle := ⟨entity, m.next, m.next + 1, m.next + 2, by omega⟩
  (h, h.keep { entity } { m with next := m.next + 3 })

/-- Another handle on the same table. -/
def copy (h : Handle) : Handle where
  entity := h.entity
  entries := h.entries
  refusesCreate := h.refusesCreate
  refusesUpdate := h.refusesUpdate
  separate := h.separate

/-- Runs an operation on the table. -/
def on (h : Handle) (x : Action (Table α) ε β) : Action (Memory α) ε β := x.zoom h.table h.keep

end Handle
end HotelBooking
