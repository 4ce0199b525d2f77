import HotelBooking.Json.Basic
import HotelBooking.Word

/-!
# Reading structured data out of JSON

A structure is written as a record of its fields, in any order and with others beside them, or as a
list of exactly its fields in their order. An alternative without data is written as its name, or as
a record of that one name to null. An alternative with data has its name under `type` and its data
under `data`.
-/

namespace HotelBooking.Json

/-- The values of the named fields, `none` for each that is absent. -/
def fields? (names : List String) : Json → Option (List (Option Json))
  | record members => some (names.map (members.lookup ·))
  | list items => if items.length = names.length then some (items.map some) else none
  | _ => none

variable {α : Type}

/-- A field that has to be there. -/
def required (read : Json → Option α) : Option Json → Option α
  | some j => read j
  | none => none

/-- A field that may be absent or null. -/
def optional (read : Json → Option α) : Option Json → Option (Option α)
  | none => some none
  | some null => some none
  | some j => (read j).map some

def text? : Json → Option String
  | text s => some s
  | _ => none

/-- A whole number of 64 bits with sign. -/
def int64? : Json → Option Int64
  | int n => word? n
  | _ => none

def list? (read : Json → Option α) : Json → Option (List α)
  | list items => items.mapM read
  | _ => none

/-- The name of an alternative without data. -/
def alternative? : Json → Option String
  | text s => some s
  | record [(name, null)] => some name
  | _ => none

/-- The name and the data of an alternative with data. -/
def tagged? (j : Json) : Option (String × Json) :=
  match j.fields? ["type", "data"] with
  | some [some name, some data] => name.alternative?.map (·, data)
  | _ => none

def tagged (name : String) (data : Json) : Json :=
  record [("type", text name), ("data", data)]

end HotelBooking.Json
