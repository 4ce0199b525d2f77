import HotelBooking.Decimal

/-!
# JSON values

Whole numbers between `-2 ^ 63` and `2 ^ 64` are kept apart from all other numbers, which are decimals.
A record keeps its members in order, each name once.
-/

namespace HotelBooking

inductive Json where
  | null
  | bool (b : Bool)
  | int (n : Int)
  | real (d : Decimal)
  | text (s : String)
  | list (items : List Json)
  | record (members : List (String × Json))
  deriving Repr, BEq, Inhabited

namespace Json

/-- Writes a member, replacing the one of the same name if there is one. -/
def setMember (name : String) (value : Json) : List (String × Json) → List (String × Json)
  | [] => [(name, value)]
  | (n, v) :: ms => if n = name then (n, value) :: ms else (n, v) :: setMember name value ms

/-- The member of a record; nothing for any other value. -/
def member? (name : String) : Json → Option Json
  | record members => members.lookup name
  | _ => none

/-- A text, or null where there is none. -/
def optText : Option String → Json
  | some s => text s
  | none => null

end Json
end HotelBooking
