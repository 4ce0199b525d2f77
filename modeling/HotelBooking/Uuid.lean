import HotelBooking.Json.Reader
import HotelBooking.Json.Writer

/-!
# Universally unique identifiers

128 bits, written as 32 hexadecimal digits in five groups joined by hyphens. They are also read
without hyphens, in braces, and behind `urn:uuid:` in any case.
-/

namespace HotelBooking

/-- The hexadecimal digits, the most significant first. -/
structure Uuid where
  digits : List (Fin 16)
  length_digits : digits.length = 32
  deriving Repr, DecidableEq

namespace Uuid

def ofNat (n : Nat) : Uuid :=
  ⟨(List.range 32).map fun i => Fin.ofNat 16 (n >>> (4 * (31 - i))), by simp⟩

/-- The identifier with 122 bits of `n`, marked as a random one: version 4, variant 1. -/
def random (n : Nat) : Uuid :=
  let ds := (ofNat n).digits
  ⟨(ds.set 12 4).set 16 ((ds.getD 16 0) % 4 + 8), by simp [ds, (ofNat n).length_digits]⟩

/-- The lengths of the groups of digits. -/
def groupLengths : List Nat := [8, 4, 4, 4, 12]

/-- Cuts a row into pieces of the given lengths. -/
def splitGroups {α : Type} : List Nat → List α → List (List α)
  | [], _ => []
  | n :: ns, xs => xs.take n :: splitGroups ns (xs.drop n)

def toText (u : Uuid) : String :=
  String.ofList (['-'].intercalate (splitGroups groupLengths (u.digits.map fun d => Json.hexDigit d.val)))

def ofDigits? (cs : List Char) : Option Uuid := do
  let ds ← cs.mapM fun c => (Json.hexValue c).map (Fin.ofNat 16)
  if h : ds.length = 32 then return ⟨ds, h⟩ else none

/-- Reads the five groups with a hyphen behind each but the last. -/
def ofHyphenated? (cs : List Char) : Option Uuid :=
  match splitGroups [8, 1, 4, 1, 4, 1, 4, 1, 12] cs with
  | [a, ['-'], b, ['-'], c, ['-'], d, ['-'], e] =>
    if cs.length = 36 then ofDigits? (a ++ b ++ c ++ d ++ e) else none
  | _ => none

/-- What may stand before the groups. -/
def urnStart : List Char := ['u', 'r', 'n', ':', 'u', 'u', 'i', 'd', ':']

def ofText? (s : String) : Option Uuid :=
  match s.toList with
  | '\x7b' :: cs => if cs.getLast? = some '\x7d' then ofHyphenated? cs.dropLast else none
  | cs =>
    if (cs.take 9).map Char.toLower = urnStart then ofHyphenated? (cs.drop 9)
    else if cs.length = 32 then ofDigits? cs
    else ofHyphenated? cs

end Uuid
end HotelBooking
