import Firebot.MqttIngress.Order
import Firebot.Worker.Reconcile

/-!
# The ingress and the worker side by side

An action is a call of the ingress, a tick of the worker, or the end of some keys' time to live. Each is one
step of a run: a tick reads what is stored when it begins, and so does a call.
-/

namespace Firebot.Platform

open Firebot.MqttIngress Firebot.Worker

/-- Keys of Redis whose time to live is over. -/
structure Expiry where
  heartbeat : String → Bool
  lease : String → Bool
  dedup : String → Bool
  pending : String → Bool
  lastSeq : SeqKey → Bool

/-- What happens to the ingress and to the worker. -/
inductive Action where
  | message (c : Call)
  | tick (now : Time) (commits : Bool)
  | expire (gone : Expiry)

/-- The keys are gone. -/
def Expiry.apply (gone : Expiry) (r : Redis) : Redis where
  latest := r.latest
  heartbeat v := if gone.heartbeat v then none else r.heartbeat v
  lease robotId := if gone.lease robotId then none else r.lease robotId
  dedup id := !gone.dedup id && r.dedup id
  pending id := !gone.pending id && r.pending id
  lastSeq key := if gone.lastSeq key then none else r.lastSeq key

/-- The state after an action. -/
def act (env : Env) (s : State) : Action → State
  | .message c => deliver env s c
  | .tick now commits => tick env.settings now commits s
  | .expire gone => s.marks gone.apply

end Firebot.Platform
