import Firebot.Protocol.Schema
import Firebot.Data.Json

/-!
# What the ingress calls and is called with

`Env` holds what the ingress calls of Python's library, of the JSON Schema validator and of the database, and
the settings and reference tables that no message changes. `Moment` is what differs from one call to the
next: the clock, the gates that Redis keeps with a time to live, and whether the database takes the rows of
the transaction.

A topic is the list of its levels: `robot/R1/location` is `["robot", "R1", "location"]`.
-/

namespace Firebot.MqttIngress

/-! ## Exceptions -/

/-- The exceptions that the code tells apart. `UnicodeDecodeError`, `UnicodeEncodeError` and
`JSONDecodeError` are `ValueError`s of their own kind. -/
inductive Raised where
  | unicodeDecodeError
  | unicodeEncodeError
  | jsonDecodeError
  | valueError
  | validationError
  | keyError
  | typeError
  | attributeError
  | overflowError
  | recursionError
  | databaseError
  deriving DecidableEq, Repr

/-- What `process` catches around parsing and validation. -/
def Raised.rejects : Raised → Bool
  | .unicodeDecodeError | .jsonDecodeError | .validationError => true
  | _ => false

/-- What `process_internal_compat` catches around parsing. -/
def Raised.rejectsCompat : Raised → Bool
  | .unicodeDecodeError | .unicodeEncodeError | .jsonDecodeError | .valueError | .keyError
  | .typeError => true
  | _ => false

/-! ## The environment -/

/-- The levels of an MQTT topic. -/
abbrev Topic := List String

/-- An MQTT payload. -/
abbrev Payload := List UInt8

/-- The settings that the ingress and the worker's reconciliation read. -/
structure Settings where
  maxMqttPayloadBytes : Nat
  maxJsonDepth : Nat
  robotStaleSeconds : Int
  robotOfflineSeconds : Int
  rosCompatStaleSeconds : Int
  rosCompatOfflineSeconds : Int

/-- The defaults of `config.py`. -/
def Settings.default : Settings where
  maxMqttPayloadBytes := 256 * 1024
  maxJsonDepth := 20
  robotStaleSeconds := 3
  robotOfflineSeconds := 10
  rosCompatStaleSeconds := 8
  rosCompatOfflineSeconds := 15

/-- A row of `maps`, with the version and the checksum of its active version. -/
structure MapRow where
  id : String
  active : Option (String × String)

/-- What the ingress calls.

`loads` is `json.loads(payload.decode("utf-8"))`, `fromisoformat` reads a time stamp and converts it to
UTC, `floatOf` is `float` of a text and `str` is `str` of a value that is no text. `stack` is the nesting that
`json_depth` reaches before Python ends the recursion, `encoderStack` the one that `json.dumps` does. `bind` is what the database compares a text column with
when it is given a JSON value, which is sent in UTF-8: `none` for `NULL`. -/
structure Env where
  settings : Settings
  loads : Payload → Except Raised JsonTree
  fromisoformat : JsonText → Except Raised Time
  isoformat : Time → String
  str : JsonTree → Except Raised JsonText
  lower : JsonText → JsonText
  floatOf : JsonText → Option JsonTree
  sha256 : String → String
  stack : Nat
  encoderStack : Nat
  uuid : String → Bool
  bind : JsonTree → Except Raised (Option String)
  maps : String → String → Option MapRow
  slots : String → Option String
  uuid_empty : uuid "" = false
  bind_text : ∀ s value, bind (.str (.chars s)) = .ok value → value = some s
  bind_encodes : ∀ value bound, bind value = .ok bound → value.encodes = true

/-- One call. -/
structure Moment where
  received : Time
  now : Time
  rateAllowed : Bool
  sampled : Bool
  wsGate : Bool
  metadataGate : Bool
  commits : Bool
  newId : String

/-- A call at a time at which every gate is open and the database takes the rows. -/
def Moment.plain (t : Time) : Moment where
  received := t
  now := t
  rateAllowed := true
  sampled := true
  wsGate := true
  metadataGate := true
  commits := true
  newId := ""

namespace Env

variable (env : Env)

/-- `str(value)`. -/
def text : JsonTree → Except Raised JsonText
  | .str s => .ok s
  | value => env.str value

/-- A text as it is written to Redis or to a socket. -/
def encode : JsonText → Except Raised String
  | .chars s => .ok s
  | .surrogates _ => .error .unicodeEncodeError

/-- The checker of the format `uuid`; `UUID()` reads no text with surrogates. -/
def isUuid : JsonText → Bool
  | .chars s => env.uuid s
  | .surrogates _ => false

/-- `parse_time`. -/
def parseTime : JsonTree → Except Raised Time
  | .str s => env.fromisoformat s
  | _ => .error .attributeError

/-- The float nearest to an integer, ties to even; `none` where it is too large. -/
def nearest (n : Int) : Option Int :=
  let shift := n.natAbs.log2 + 1 - 53
  let unit := Nat.pow 2 shift
  let quotient := n.natAbs / unit
  let rest := n.natAbs % unit
  let up := unit < 2 * rest ∨ unit = 2 * rest ∧ quotient % 2 = 1
  let magnitude := (if up then quotient + 1 else quotient) * unit
  if magnitude < Nat.pow 2 1024 then some (n.sign * magnitude) else none

/-- `float(value)`. -/
def float : JsonTree → Except Raised JsonTree
  | .bool b => .ok (.real (if b then 1 else 0))
  | .int n =>
    match nearest n with
    | some m => .ok (.real m)
    | none => .error .overflowError
  | .real q => .ok (.real q)
  | .inf negative => .ok (.inf negative)
  | .nan => .ok .nan
  | .str s =>
    match env.floatOf s with
    | some x => .ok x
    | none => .error .valueError
  | .null | .arr _ | .obj _ => .error .typeError

/-- `message[name]`, of a dictionary. -/
def field (msg : JsonTree) (name : String) : Except Raised JsonTree :=
  match msg.get name with
  | some value => .ok value
  | none => .error .keyError

/-! ## An environment to run the model in -/

/-- The UTF-8 bytes of a text. -/
def bytes (s : String) : Payload := s.toUTF8.data.toList

/-- The text is a UUID as `str(uuid4())` writes it. -/
def canonicalUuid (s : String) : Bool :=
  s.toList.map (fun c => if c = '-' then 'x' else if c.isDigit || 'a' ≤ c && c ≤ 'f' then 'h' else '?') =
    "hhhhhhhhxhhhhxhhhhxhhhhxhhhhhhhhhhhh".toList

/-- Python, the validator and the database, as far as the JSON texts and the time stamps of a list go: any
other payload is no JSON, any other time stamp no time, and no text is a number. -/
def knowing (texts : List (String × JsonTree)) (times : List (String × Time)) : Env where
  settings := .default
  loads payload :=
    match texts.find? fun entry => bytes entry.1 = payload with
    | some entry => .ok entry.2
    | none => .error .jsonDecodeError
  fromisoformat s :=
    match times.find? fun entry => s = .chars entry.1 with
    | some entry => .ok entry.2
    | none => .error .valueError
  isoformat t :=
    match times.find? fun entry => entry.2 = t with
    | some entry => entry.1
    | none => ""
  str _ := .error .recursionError
  lower s :=
    match s with
    | .chars s => .chars s.toLower
    | .surrogates ps => .surrogates ps
  floatOf _ := none
  sha256 s := s
  stack := 300
  encoderStack := 900
  uuid := canonicalUuid
  bind value :=
    match value with
    | .str (.chars s) => .ok (some s)
    | .null => .ok none
    | _ => .error .databaseError
  maps _ _ := none
  slots _ := none
  uuid_empty := by decide
  bind_text := by
    rintro s value ⟨⟩
    rfl
  bind_encodes := by
    intro value bound taken
    split at taken
    · rfl
    · rfl
    · cases taken

end Env

end Firebot.MqttIngress
