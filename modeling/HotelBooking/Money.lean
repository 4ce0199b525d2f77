import HotelBooking.Json.Fields
import HotelBooking.Text.Digits
import HotelBooking.Text.Upper

/-!
# Money

An amount of hundredths of a currency, written as `100.50 USD`. The currency code is in upper case.
-/

namespace HotelBooking

structure Money where
  amount : Int64
  currency : String
  upper_currency : Text.upper currency = currency
  deriving DecidableEq

namespace Money

/-- An amount of the currency whose code is `code` in upper case. -/
def of (amount : Int64) (code : String) : Money :=
  ⟨amount, Text.upper code, Text.upper_upper code⟩

/-- The amount without its last two digits; its sign is that of the amount. -/
def majorUnits (m : Money) : Int := m.amount.toInt.tdiv 100

/-- The last two digits of the amount. -/
def minorUnits (m : Money) : Nat := m.amount.toInt.natAbs % 100

def toText (m : Money) : String :=
  String.ofList ((if m.amount < 0 then ['-'] else []) ++ Text.digits m.majorUnits.natAbs ++
    '.' :: Text.padded 2 m.minorUnits ++ ' ' :: m.currency.toList)

def toJson (m : Money) : Json :=
  .record [("amount", .int m.amount.toInt), ("currency", .text m.currency)]

def ofJson? (j : Json) : Option Money :=
  match j.fields? ["amount", "currency"] with
  | some [amount, currency] => do
    return of (← Json.required Json.int64? amount) (← Json.required Json.text? currency)
  | _ => none

theorem ext_iff {m n : Money} : m = n ↔ m.amount = n.amount ∧ m.currency = n.currency := by
  cases m
  cases n
  simp

@[simp] theorem amount_of (a : Int64) (c : String) : (of a c).amount = a := rfl

/-- Writing the currency of money in upper case once more changes nothing. -/
@[simp] theorem of_amount_currency (m : Money) : of m.amount m.currency = m :=
  ext_iff.2 ⟨rfl, m.upper_currency⟩

end Money
end HotelBooking
