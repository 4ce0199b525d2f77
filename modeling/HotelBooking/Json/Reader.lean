import HotelBooking.Json.Basic
import HotelBooking.Text.Digits

/-!
# Reading JSON

`parse` reads one value and white space around it, and refuses everything else. A character beyond
the basic plane may be written as an escaped surrogate pair; a surrogate alone is refused. Of two
members of one name the later one counts. A whole number that does not fit the range of `Json.int`,
and the written form `-0`, are read as decimals. Decimals are read to double precision, and those too
large for it are refused.
-/

namespace HotelBooking.Json

def isSpace (c : Char) : Bool := c = ' ' || c = '\t' || c = '\n' || c = '\r'

def skipSpace (cs : List Char) : List Char := cs.dropWhile isSpace

def hexValue (c : Char) : Option Nat :=
  if c.isDigit then some (c.toNat - 48)
  else if 'a' ≤ c ∧ c ≤ 'f' then some (c.toNat - 87)
  else if 'A' ≤ c ∧ c ≤ 'F' then some (c.toNat - 55)
  else none

def hexValue4 (a b c d : Char) : Option Nat := do
  return (((← hexValue a) * 16 + (← hexValue b)) * 16 + (← hexValue c)) * 16 + (← hexValue d)

/-- The character a pair of surrogates stands for. -/
def joinSurrogates (high low : Nat) : Char :=
  Char.ofNat (0x10000 + (high - 0xD800) * 0x400 + (low - 0xDC00))

def unescape : Char → Option Char
  | '"' => some '"'
  | '\\' => some '\\'
  | '/' => some '/'
  | 'b' => some '\x08'
  | 'f' => some '\x0c'
  | 'n' => some '\n'
  | 'r' => some '\r'
  | 't' => some '\t'
  | _ => none

/-- The characters of a text up to its closing quote, and what follows the quote. -/
def readText : List Char → Option (List Char × List Char)
  | [] => none
  | '"' :: rest => some ([], rest)
  | '\\' :: 'u' :: a :: b :: c :: d :: rest =>
    match hexValue4 a b c d with
    | none => none
    | some high =>
      if 0xD800 ≤ high ∧ high < 0xDC00 then
        match rest with
        | '\\' :: 'u' :: a' :: b' :: c' :: d' :: rest' =>
          match hexValue4 a' b' c' d' with
          | none => none
          | some low =>
            if 0xDC00 ≤ low ∧ low < 0xE000 then
              (readText rest').map fun (cs, r) => (joinSurrogates high low :: cs, r)
            else none
        | _ => none
      else if 0xDC00 ≤ high ∧ high < 0xE000 then none
      else (readText rest).map fun (cs, r) => (Char.ofNat high :: cs, r)
  | '\\' :: c :: rest =>
    match unescape c with
    | some c' => (readText rest).map fun (cs, r) => (c' :: cs, r)
    | none => none
  | c :: rest =>
    if c.toNat < 0x20 then none
    else (readText rest).map fun (cs, r) => (c :: cs, r)

/-- The whole part of a number: digits without a leading zero. -/
def readWhole (cs : List Char) : Option (List Char × List Char) :=
  match Text.spanDigits cs with
  | ([], _) => none
  | ('0' :: _ :: _, _) => none
  | (ds, rest) => some (ds, rest)

/-- The digits behind the point, none if there is no point. -/
def readFraction : List Char → Option (List Char × List Char)
  | '.' :: cs =>
    match Text.spanDigits cs with
    | ([], _) => none
    | (ds, rest) => some (ds, rest)
  | cs => some ([], cs)

/-- Whether there is a minus sign, and what stands behind the sign. -/
def readSign : List Char → Bool × List Char
  | '-' :: cs => (true, cs)
  | '+' :: cs => (false, cs)
  | cs => (false, cs)

/-- The exponent, if there is one. -/
def readExponent : List Char → Option (Option Int × List Char)
  | c :: cs =>
    if c = 'e' ∨ c = 'E' then
      let (negative, cs) := readSign cs
      match Text.spanDigits cs with
      | ([], _) => none
      | (ds, rest) =>
        let n : Int := Text.value ds
        some (some (if negative then -n else n), rest)
    else some (none, c :: cs)
  | [] => some (none, [])

/-- Whole numbers that are kept as such. -/
def isWholeRange (n : Int) : Bool := Int64.minValue.toInt ≤ n && n < UInt64.size

/-- Reads digits on from the number `n` while the number fits into 64 bits, and gives the digits left. -/
def takeFitting (n : Nat) : List Char → Nat × List Char
  | [] => (n, [])
  | d :: ds =>
    let m := Nat.ofDigitChars 10 [d] n
    if m < UInt64.size then takeFitting m ds else (n, d :: ds)

/-- The decimal with the digits of its whole part and its fraction, each as far as they fit. -/
def decimalOfDigits (negative : Bool) (whole fraction : List Char) (exponent : Int) : Decimal :=
  let (n, wholeLeft) := takeFitting 0 whole
  let (n, fractionLeft) := takeFitting n fraction
  ⟨negative, n, exponent + wholeLeft.length + fractionLeft.length - fraction.length⟩

def readNumber (negative : Bool) (cs : List Char) : Option (Json × List Char) := do
  let (whole, cs) ← readWhole cs
  let (fraction, cs) ← readFraction cs
  let (exponent, cs) ← readExponent cs
  let n : Int := if negative then -(Text.value whole : Int) else Text.value whole
  if fraction = [] ∧ exponent = none ∧ isWholeRange n ∧ ¬(negative ∧ n = 0) then
    return (int n, cs)
  else
    let d ← (decimalOfDigits negative whole fraction (exponent.getD 0)).inDoublePrecision?
    return (real d, cs)

mutual

/-- Reads a value; `fuel` bounds the nesting and the number of parts. -/
def readValue : Nat → List Char → Option (Json × List Char)
  | 0, _ => none
  | fuel + 1, cs =>
    match skipSpace cs with
    | 'n' :: 'u' :: 'l' :: 'l' :: rest => some (null, rest)
    | 't' :: 'r' :: 'u' :: 'e' :: rest => some (bool true, rest)
    | 'f' :: 'a' :: 'l' :: 's' :: 'e' :: rest => some (bool false, rest)
    | '"' :: rest => (readText rest).map fun (s, r) => (text (String.ofList s), r)
    | '[' :: rest =>
      match skipSpace rest with
      | ']' :: rest => some (list [], rest)
      | rest => (readItems fuel rest).map fun (js, r) => (list js, r)
    | '\x7b' :: rest =>
      match skipSpace rest with
      | '\x7d' :: rest => some (record [], rest)
      | rest => (readMembers fuel [] rest).map fun (ms, r) => (record ms, r)
    | '-' :: rest => readNumber true rest
    | rest => readNumber false rest

/-- Reads the items of a list, at least one, and its closing bracket. -/
def readItems : Nat → List Char → Option (List Json × List Char)
  | 0, _ => none
  | fuel + 1, cs =>
    match readValue fuel cs with
    | none => none
    | some (j, rest) =>
      match skipSpace rest with
      | ',' :: rest => (readItems fuel rest).map fun (js, r) => (j :: js, r)
      | ']' :: rest => some ([j], rest)
      | _ => none

/-- Reads the members of a record, at least one, and its closing brace. -/
def readMembers : Nat → List (String × Json) → List Char → Option (List (String × Json) × List Char)
  | 0, _, _ => none
  | fuel + 1, ms, cs =>
    match skipSpace cs with
    | '"' :: rest =>
      match readText rest with
      | none => none
      | some (name, rest) =>
        match skipSpace rest with
        | ':' :: rest =>
          match readValue fuel rest with
          | none => none
          | some (j, rest) =>
            let ms := setMember (String.ofList name) j ms
            match skipSpace rest with
            | ',' :: rest => readMembers fuel ms rest
            | '\x7d' :: rest => some (ms, rest)
            | _ => none
        | _ => none
    | _ => none

end

/-- Reads a whole text as one value. -/
def parse (s : String) : Option Json :=
  let cs := s.toList
  match readValue (cs.length + 1) cs with
  | some (j, rest) => if skipSpace rest = [] then some j else none
  | none => none

end HotelBooking.Json
