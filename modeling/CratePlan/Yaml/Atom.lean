import CratePlan.Json.Basic

/-!
# What a plain scalar means

A scalar without quotes and without a tag may be a null, a truth value or a number,
and is a text if it is none of them. The forms are those of the core schema of the
language: three spellings of each word, integers in four bases, and decimals. A
number with a needless zero in front is a text.

Integers beyond 64 bits are told apart, since no value here can hold them. A decimal
that is too large for a float of 64 bits is a text again.
-/

namespace CratePlan.Yaml

/-- What a plain scalar means. -/
inductive Atom where
  | null
  | bool (value : Bool)
  | integer (value : Int)
  /-- An integer that fits 128 bits but not 64. -/
  | wideInteger
  | decimal (value : Decimal)
  | infinity (negative : Bool)
  | notANumber
  | text
deriving Repr, DecidableEq, Inhabited

namespace Atom

/-- The value of a digit in a base of up to sixteen. -/
def digitIn? (base : Nat) (c : Char) : Option Nat :=
  let value :=
    if c.isDigit then some (c.toNat - '0'.toNat)
    else if 'a' ≤ c ∧ c ≤ 'f' then some (c.toNat - 'a'.toNat + 10)
    else if 'A' ≤ c ∧ c ≤ 'F' then some (c.toNat - 'A'.toNat + 10)
    else none
  value.filter (· < base)

/-- The number that digits write in a base. -/
def numberIn? (base : Nat) (digits : List Char) : Option Nat :=
  if digits.isEmpty then none
  else digits.foldlM (fun n c => (digitIn? base c).map (n * base + ·)) 0

/-- The number that digits write, in the base that their start names. -/
def magnitude? (text : List Char) : Option Nat :=
  match text with
  | '0' :: 'x' :: digits => numberIn? 16 digits
  | '0' :: 'o' :: digits => numberIn? 8 digits
  | '0' :: 'b' :: digits => numberIn? 2 digits
  | _ => numberIn? 10 text

/-- Digits with a needless zero in front, behind a sign or none. -/
def hasNeedlessZero (text : List Char) : Bool :=
  let digits :=
    match text with
    | '-' :: rest => rest
    | '+' :: rest => rest
    | _ => text
  digits.length > 1 && digits.head? == some '0' && digits.all Char.isDigit

/-- An integer, as wide as it is. -/
def ofInteger? (negative : Bool) (magnitude : Nat) : Option Atom :=
  if negative then
    if magnitude ≤ Nat.pow 2 63 then some (.integer (-(magnitude : Int)))
    else if magnitude ≤ Nat.pow 2 127 then some .wideInteger
    else none
  else
    if magnitude < Nat.pow 2 64 then some (.integer magnitude)
    else if magnitude < Nat.pow 2 128 then some .wideInteger
    else none

/-- The integer that a text writes. -/
def integer? (text : List Char) : Option Atom :=
  if hasNeedlessZero text then none
  else
    match text with
    | '-' :: rest => (magnitude? rest).bind (ofInteger? true)
    | '+' :: rest => (magnitude? rest).bind (ofInteger? false)
    | _ => (magnitude? text).bind (ofInteger? false)

/-- The least number that no float of 64 bits is near to. -/
def floatBound : Nat := Nat.pow 2 1024 - Nat.pow 2 970

/-- The number is in the range of the floats of 64 bits. -/
def fitsFloat (digits : Nat) (exponent : Int) : Bool :=
  let places : Int := (toString digits).length + exponent
  if digits == 0 || places ≤ 308 then true
  else if places ≥ 311 then false
  else if exponent ≥ 0 then digits * Nat.pow 10 exponent.toNat < floatBound
  else digits < floatBound * Nat.pow 10 (-exponent).toNat

/-- The exponent of a decimal, with its letter; none stands for zero. -/
def exponent? : List Char → Option Int
  | [] => some 0
  | letter :: rest =>
    if letter == 'e' || letter == 'E' then
      match rest with
      | '-' :: digits => (numberIn? 10 digits).map fun n => -(n : Int)
      | '+' :: digits => (numberIn? 10 digits).map Int.ofNat
      | digits => (numberIn? 10 digits).map Int.ofNat
    else none

/-- The decimal that a text without a sign writes, if it is in range. -/
def unsignedDecimal? (negative : Bool) (text : List Char) : Option Decimal := do
  let whole := text.takeWhile Char.isDigit
  let rest := text.dropWhile Char.isDigit
  let (fraction, rest) :=
    if rest.head? == some '.' then
      (rest.tail.takeWhile Char.isDigit, rest.tail.dropWhile Char.isDigit)
    else ([], rest)
  let digits ← numberIn? 10 (whole ++ fraction)
  let exponent := (← exponent? rest) - (fraction.length : Int)
  if fitsFloat digits exponent then some ⟨negative, digits, exponent⟩ else none

/-- The decimal that a text writes, or the infinity or other value that is named
with a full stop in front. -/
def decimal? (text : List Char) : Option Atom :=
  let positive :=
    match text with
    | '+' :: rest => rest
    | _ => text
  if [".inf", ".Inf", ".INF"].contains (String.ofList positive) then some (.infinity false)
  else if ["-.inf", "-.Inf", "-.INF"].contains (String.ofList text) then some (.infinity true)
  else if [".nan", ".NaN", ".NAN"].contains (String.ofList text) then some .notANumber
  else
    match text with
    | '-' :: rest => (unsignedDecimal? true rest).map .decimal
    | _ => (unsignedDecimal? false positive).map .decimal

/-- The text is a word for nothing. -/
def isNull (text : String) : Bool := ["null", "Null", "NULL", "~"].contains text

/-- The truth value that a text writes. -/
def bool? (text : String) : Option Bool :=
  if ["true", "True", "TRUE"].contains text then some true
  else if ["false", "False", "FALSE"].contains text then some false
  else none

/-- What a plain scalar means. -/
def ofPlain (text : String) : Atom :=
  if text.isEmpty || isNull text then .null
  else
    match bool? text with
    | some value => .bool value
    | none =>
      match integer? text.toList with
      | some atom => atom
      | none =>
        if hasNeedlessZero text.toList then .text else (decimal? text.toList).getD .text

end Atom

end CratePlan.Yaml
