/-!
# JSON values

The operations of an endpoint are carried through a run unread, as a JSON value,
and a plan is written as one. Objects keep the order of their members.

A number is an integer or a decimal, and stays what it was: `1000` and `1000.0`
are different values. A decimal keeps the digits that it was written with.
-/

namespace CratePlan

/-- The number `digits * 10 ^ exponent`, with a sign that zero has too. -/
structure Decimal where
  negative : Bool
  digits : Nat
  exponent : Int
deriving Repr, DecidableEq, Inhabited

/-- A JSON value. -/
inductive Json where
  | null
  | bool (value : Bool)
  | integer (value : Int)
  | decimal (value : Decimal)
  | string (value : String)
  | array (items : List Json)
  | object (members : List (String × Json))
deriving Repr, BEq, Inhabited

namespace Json

/-- A list of texts. -/
def ofStrings (texts : List String) : Json :=
  array (texts.map string)

end Json

end CratePlan
