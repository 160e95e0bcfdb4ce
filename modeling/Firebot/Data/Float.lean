import Firebot.MqttIngress.Env

/-!
# `float` of a decoded value

`float` of a value that `json.loads` made: a number is rounded to a float, a text is read, anything else
raises. The result is a value again, so that it can go into the next message.
-/

namespace Firebot

open MqttIngress (Raised)

/-- `float(value)`; `floatOf` is `float` of a text, `none` where it is no number. -/
def float (floatOf : JsonText → Option JsonTree) : JsonTree → Except Raised JsonTree
  | .bool b => .ok (.real (if b then 1 else 0))
  | .int n =>
    match MqttIngress.Env.nearest n with
    | some m => .ok (.real m)
    | none => .error .overflowError
  | .real q => .ok (.real q)
  | .inf negative => .ok (.inf negative)
  | .nan => .ok .nan
  | .str s =>
    match floatOf s with
    | some x => .ok x
    | none => .error .valueError
  | .null | .arr _ | .obj _ => .error .typeError

end Firebot
