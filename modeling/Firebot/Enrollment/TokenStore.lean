import Mathlib.Logic.Function.Basic
import Firebot.Data.Json
import Firebot.Data.PyInt
import Firebot.Lib.JsonTree
import Firebot.Lib.OneTime
import Firebot.Lib.Run

/-!
# Enrollment tokens

`issue_token` and `POST /enrollment/activate` run in transactions of their own under READ COMMITTED, one
statement after the other: a statement sees what was committed when it began, waits for the lock of the row that
it has found, and then looks at the row once more with the values that it was sent with (the reading of the clock
in the `SELECT` is as old as the statement). The unique index lets an `INSERT` wait for a transaction that may
still remove the row in its way, or whose own row may still go, and refuses it where the row stays.

There is a row for each device at most, so the table is a map. The ids are numbered in the order in which they
are drawn. An event can also be that a transaction is rolled back, at any point: an error, a deadlock, a lost
connection. The history is what has been committed, the newest first.
-/

namespace Firebot.Enrollment

/-! ## Rows -/

/-- What `issue_token` stores. -/
structure IssuedToken where
  id : Nat
  deviceId : String
  tokenHash : String
  credentialJson : List (JsonText × JsonTree)
  issuedAt : Time
  expiresAt : Time

/-- `EnrollmentToken`. -/
structure EnrollmentToken extends IssuedToken where
  consumedAt : Option Time

/-- The row can be consumed at a time: the predicate of the `SELECT`. -/
def EnrollmentToken.consumable (row : EnrollmentToken) (now : Time) : Bool := row.consumedAt.isNone && now < row.expiresAt

/-! ## Answers -/

/-- `ActivateResponse`. -/
structure ActivateResponse where
  deviceId : String
  profileId : String
  mqttHost : String
  mqttPort : Int
  mqttUsername : String
  mqttPassword : String
  deviceToken : String
  caCert : String
  siteCode : String
  mapCode : String
  mapVersion : String
  mapChecksum : String
  deriving DecidableEq

/-- `int(value)`. -/
def intOf : JsonTree → Option Int
  | .bool b => some (if b then 1 else 0)
  | .int n => some n
  | .real q => some (Int.tdiv q.num q.den)
  | .str (.chars s) => pyInt s.toList
  | .null | .inf _ | .nan | .str (.surrogates _) | .arr _ | .obj _ => none

/-- `cred.get(name, default)`, as a field of the response, which has to be a text. -/
def textOf (cred : List (JsonText × JsonTree)) (name : String) (default : Option String) : Option String :=
  match cred.lookup (.chars name) with
  | some value => value.asText.bind JsonText.plain
  | none => default

/-- What `activate` makes of a credential; `none` where it raises. -/
def respond (deviceId : String) (cred : List (JsonText × JsonTree)) : Option ActivateResponse := do
  let profileId ← textOf cred "profile_id" "firebot_ros1_standard_v1"
  let mqttHost ← textOf cred "mqtt_host" ""
  let mqttPort ← intOf ((cred.lookup (.chars "mqtt_port")).getD (.int 8883))
  let mqttPassword ← textOf cred "mqtt_password" none
  let deviceToken ← textOf cred "device_token" ""
  let caCert ← textOf cred "ca_cert" "/etc/firebot/production-ca.crt"
  let siteCode ← textOf cred "site_code" ""
  let mapCode ← textOf cred "map_code" ""
  let mapVersion ← textOf cred "map_version" ""
  let mapChecksum ← textOf cred "map_checksum" ""
  return { deviceId, profileId, mqttHost, mqttPort, mqttUsername := deviceId, mqttPassword, deviceToken, caCert, siteCode
           mapCode, mapVersion, mapChecksum }

/-- `DEVICE_ID_RE`. -/
def validDeviceId (deviceId : String) : Bool :=
  let text := deviceId.toList
  1 ≤ text.length && text.length ≤ 64 &&
    text.all fun c => ('A' ≤ c && c ≤ 'Z') || ('a' ≤ c && c ≤ 'z') || ('0' ≤ c && c ≤ '9') || c = '_' || c = '-'

/-! ## Transactions -/

/-- How far a transaction has come. -/
inductive Transaction where
  | idle
  /-- `issue_token` before its `DELETE`. -/
  | issuing (token : IssuedToken)
  /-- The `DELETE` has found a row. -/
  | deleting (token : IssuedToken) (seen : Option Nat)
  | inserting (token : IssuedToken) (deleted : Option Nat)
  | inserted (token : IssuedToken) (deleted : Option Nat)
  /-- `consume_token` has read the clock for its `SELECT`. -/
  | selecting (deviceId token : String) (now : Time)
  /-- The `SELECT` has found a row, and locks it. -/
  | locking (deviceId token : String) (now : Time) (seen : Nat)
  /-- The row is locked; `now` is the reading that the `SELECT` was sent with. -/
  | comparing (token : String) (now : Time) (row : EnrollmentToken)
  | consumed (token : String) (row : EnrollmentToken) (consumedAt : Time)
  /-- `consume_token` has returned `None`. -/
  | refused (held : Option Nat)

namespace Transaction

/-- The row whose lock the transaction holds. -/
def holds : Transaction → Option Nat
  | .inserting _ deleted | .inserted _ deleted => deleted
  | .comparing _ _ row | .consumed _ row _ => some row.id
  | .refused held => held
  | .idle | .issuing _ | .deleting _ _ | .selecting _ _ _ | .locking _ _ _ _ => none

/-- The device for which the transaction has a row that is not committed. -/
def claims : Transaction → Option String
  | .inserted token _ => some token.deviceId
  | .idle | .issuing _ | .deleting _ _ | .inserting _ _ | .selecting _ _ _ | .locking _ _ _ _ | .comparing _ _ _
  | .consumed _ _ _ | .refused _ => none

/-- What the transaction is about to issue. -/
def carries : Transaction → Option IssuedToken
  | .issuing token | .deleting token _ | .inserting token _ | .inserted token _ => some token
  | .idle | .selecting _ _ _ | .locking _ _ _ _ | .comparing _ _ _ | .consumed _ _ _ | .refused _ => none

/-- The transaction has written a row that was there. -/
def writes : Transaction → Bool
  | .inserting _ deleted | .inserted _ deleted => deleted.isSome
  | .consumed _ _ _ => true
  | .idle | .issuing _ | .deleting _ _ | .selecting _ _ _ | .locking _ _ _ _ | .comparing _ _ _ | .refused _ => false

end Transaction

/-- How a token was consumed: the text presented, when, and the answer. -/
structure Consumption where
  token : String
  consumedAt : Time
  answer : Option ActivateResponse

/-- What can happen. A transaction begins with what the caller gives it (for `issue_token` also the random text),
goes on by a step, or is rolled back; and the clock moves. -/
inductive Event where
  | issue (transaction : Nat) (deviceId : String) (credential : List (JsonText × JsonTree)) (ttlSeconds : Int)
      (token : String)
  | activate (transaction : Nat) (deviceId token : String)
  | go (transaction : Nat)
  | rollback (transaction : Nat)
  | clock (now : Time)

/-- What is committed, the locks of rows, the devices with a row to come, and the transactions. -/
structure World where
  clock : Time
  drawn : Nat
  rows : String → Option EnrollmentToken
  locks : Nat → Option Nat
  inserts : String → Option Nat
  transactions : Nat → Transaction
  history : List (OneTime String IssuedToken Consumption)

namespace World

variable (hash : String → String) (w : World)

/-- An empty table. -/
def initial (clock : Time) : World where
  clock := clock
  drawn := 0
  rows := fun _ => none
  locks := fun _ => none
  inserts := fun _ => none
  transactions := fun _ => .idle
  history := []

/-- A transaction goes on to another point. -/
def goTo (transaction : Nat) (point : Transaction) : World :=
  { w with transactions := Function.update w.transactions transaction point }

/-- A transaction takes the lock of a row. -/
def lock (id transaction : Nat) : World := { w with locks := Function.update w.locks id (some transaction) }

/-- A transaction has inserted a row for a device. -/
def claim (deviceId : String) (transaction : Nat) : World :=
  { w with inserts := Function.update w.inserts deviceId (some transaction) }

/-- A transaction ends, and its locks with it. -/
def release (transaction : Nat) : World :=
  { w.goTo transaction .idle with
    locks := fun id => if w.locks id = some transaction then none else w.locks id
    inserts := fun deviceId => if w.inserts deviceId = some transaction then none else w.inserts deviceId }

/-- A row is committed, with what it means. -/
def commit (row : EnrollmentToken) (op : OneTime String IssuedToken Consumption) : World :=
  { w with rows := Function.update w.rows row.deviceId (some row), history := op :: w.history }

/-- The row of a device, if it is the one with this id. -/
def rowOf (deviceId : String) (id : Nat) : Option EnrollmentToken := (w.rows deviceId).filter fun row => row.id = id

/-- The row in the way of an `INSERT`: the device's, unless the transaction has deleted it. -/
def conflict (deviceId : String) (deleted : Option Nat) : Option EnrollmentToken :=
  (w.rows deviceId).filter fun row => some row.id ≠ deleted

/-- The row may still change: the transaction that holds its lock has written it. -/
def unsettled (row : EnrollmentToken) : Bool := (w.locks row.id).any fun holder => (w.transactions holder).writes

/-- The next step of a transaction. A step that has to wait leaves everything as it is. -/
def go (transaction : Nat) : World :=
  match w.transactions transaction with
  | .idle => w
  | .issuing token => w.goTo transaction (.deleting token ((w.rows token.deviceId).map (·.id)))
  | .deleting token none => w.goTo transaction (.inserting token none)
  | .deleting token (some seen) =>
    if (w.locks seen).isSome then w
    else
      match w.rowOf token.deviceId seen with
      | some row => (w.lock row.id transaction).goTo transaction (.inserting token (some row.id))
      | none => w.goTo transaction (.inserting token none)
  | .inserting token deleted =>
    if (w.inserts token.deviceId).isSome then w
    else
      match w.conflict token.deviceId deleted with
      | some row => if w.unsettled row then w else w.release transaction
      | none => (w.claim token.deviceId transaction).goTo transaction (.inserted token deleted)
  | .inserted token _ => (w.commit { token with consumedAt := none } (.issue token.deviceId token)).release transaction
  | .selecting deviceId token now =>
    match (w.rows deviceId).filter fun row => row.consumable now with
    | some row => w.goTo transaction (.locking deviceId token now row.id)
    | none => w.goTo transaction (.refused none)
  | .locking deviceId token now seen =>
    if (w.locks seen).isSome then w
    else
      -- the predicate is looked at again, with the `now` of the statement
      match (w.rowOf deviceId seen).filter fun row => row.consumable now with
      | some row => (w.lock row.id transaction).goTo transaction (.comparing token now row)
      | none => w.goTo transaction (.refused none)
  | .comparing token _ row =>
    if row.tokenHash = hash token then w.goTo transaction (.consumed token row w.clock)
    else w.goTo transaction (.refused (some row.id))
  | .consumed token row consumedAt =>
    (w.commit { row with consumedAt := some consumedAt }
      (.use row.deviceId row.toIssuedToken
        { token, consumedAt, answer := respond row.deviceId row.credentialJson })).release transaction
  | .refused _ => w.release transaction

/-- What happens; a transaction begins where none is under way. -/
def step : Event → World
  | .issue transaction deviceId credential ttlSeconds token =>
    match w.transactions transaction with
    | .idle =>
      { w with drawn := w.drawn + 1 }.goTo transaction (.issuing
        { id := w.drawn, deviceId, tokenHash := hash token, credentialJson := credential, issuedAt := w.clock
          expiresAt := w.clock + ttlSeconds * second })
    | _ => w
  | .activate transaction deviceId token =>
    let deviceId := String.ofList (strip deviceId.toList)
    match w.transactions transaction with
    | .idle => if validDeviceId deviceId then w.goTo transaction (.selecting deviceId token w.clock) else w
    | _ => w
  | .go transaction => w.go hash transaction
  | .rollback transaction => w.release transaction
  | .clock now => { w with clock := now }

/-- The world after a run. -/
abbrev run (events : List Event) : World := Runs.run (step hash) w events

end World

end Firebot.Enrollment
