import Mathlib.Data.Rat.Defs

/-!
# JSON values, as the Python code reads them

The services and the Bridge exchange JSON and look at the decoded values with Python's `or`,
`bool()`, `==` and `datetime.fromisoformat`. `Json` keeps of a value what those operations see.

A JSON text is one of three constructors: `instant t` for a text that `datetime.fromisoformat` reads
as the aware instant `t` (with `Z` written as `+00:00` where the code replaces it first), `naive t`
for one it reads as a time without an offset, `str` for every other text. Floats carry the decimal
value of their shortest `repr`; `json.loads` also reads `NaN` and the infinities. An array or an
object that is only passed through is kept as its text.
-/

namespace Firebot

/-- Microseconds since the epoch: the resolution of `datetime`. -/
abbrev Time := Int

/-- One second of `Time`. -/
def second : Time := 1000000

/-- A decoded JSON value. -/
inductive Json where
  | null
  | bool (b : Bool)
  | int (n : Int)
  | real (q : ℚ)
  | inf (negative : Bool)
  | nan
  | instant (t : Time)
  | naive (t : Time)
  | str (s : String)
  | compound (text : String)
  deriving DecidableEq

namespace Json

/-- Python's `bool(value)`. -/
def truthy : Json → Bool
  | .null => false
  | .bool b => b
  | .int n => n != 0
  | .real q => q != 0
  | .inf _ => true
  | .nan => true
  | .instant _ => true
  | .naive _ => true
  | .str s => s != ""
  | .compound text => text != "[]" && text != "{}"

/-- Python's `value or other`. -/
def orElse (value other : Json) : Json := if value.truthy then value else other

end Json

end Firebot
