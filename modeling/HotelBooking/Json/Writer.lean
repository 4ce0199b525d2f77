import HotelBooking.Json.Basic
import HotelBooking.Text.Digits

/-!
# Writing JSON

The written form has no white space. A text is quoted with the quote, the backslash and the control
characters escaped, and every other character as it is. A number that is not whole is written as
its significand and exponent.
-/

namespace HotelBooking.Json

def hexDigit (n : Nat) : Char := Nat.digitChar n

/-- The written form of one character of a text. -/
def escapeChar (c : Char) : List Char :=
  if c = '"' then ['\\', '"']
  else if c = '\\' then ['\\', '\\']
  else if c = '\n' then ['\\', 'n']
  else if c = '\r' then ['\\', 'r']
  else if c = '\t' then ['\\', 't']
  else if c = '\x08' then ['\\', 'b']
  else if c = '\x0c' then ['\\', 'f']
  else if c.toNat < 0x20 then ['\\', 'u', '0', '0', hexDigit (c.toNat / 16), hexDigit (c.toNat % 16)]
  else [c]

def quote (s : String) : List Char := '"' :: s.toList.flatMap escapeChar ++ ['"']

def writeDecimal (d : Decimal) : List Char :=
  let digits := Text.digits d.significand ++ 'e' :: Text.signedDigits d.exponent
  if d.negative then '-' :: digits else digits

mutual

def write : Json → List Char
  | null => "null".toList
  | bool true => "true".toList
  | bool false => "false".toList
  | int n => Text.signedDigits n
  | real d => writeDecimal d
  | text s => quote s
  | list items => '[' :: writeItems items ++ [']']
  | record members => '\x7b' :: writeMembers members ++ ['\x7d']

def writeItems : List Json → List Char
  | [] => []
  | [j] => write j
  | j :: js => write j ++ ',' :: writeItems js

def writeMembers : List (String × Json) → List Char
  | [] => []
  | [(n, j)] => quote n ++ ':' :: write j
  | (n, j) :: ms => quote n ++ ':' :: write j ++ ',' :: writeMembers ms

end

theorem write_int (n : Int) : (int n).write = Text.signedDigits n := rfl

theorem write_real (d : Decimal) : (real d).write = writeDecimal d := rfl

theorem write_text (s : String) : (text s).write = quote s := rfl

theorem write_list (items : List Json) : (list items).write = '[' :: writeItems items ++ [']'] := rfl

theorem write_record (members : List (String × Json)) :
    (record members).write = '\x7b' :: writeMembers members ++ ['\x7d'] := rfl

theorem writeItems_singleton (j : Json) : writeItems [j] = j.write := rfl

theorem writeItems_cons (j j' : Json) (js : List Json) :
    writeItems (j :: j' :: js) = j.write ++ ',' :: writeItems (j' :: js) := rfl

theorem writeMembers_singleton (m : String × Json) :
    writeMembers [m] = quote m.1 ++ ':' :: m.2.write := rfl

theorem writeMembers_cons (m m' : String × Json) (ms : List (String × Json)) :
    writeMembers (m :: m' :: ms) =
      quote m.1 ++ ':' :: m.2.write ++ ',' :: writeMembers (m' :: ms) := rfl

/-- The written form of a value. -/
def render (j : Json) : String := String.ofList j.write

end HotelBooking.Json
