import Firebot.Worker.Observation

/-!
# What the ingress writes to a vehicle's latest telemetry

Every message of a vehicle is merged into one document: a handler reads the document, sets the fields
of its message and leaves the others as they are. The handlers run one after the other, so each is one
step on the document. Of the fields only those that the STOP verification reads are modelled; the
handlers write both time stamps with an offset (`parse_time` and `datetime.now(UTC)`).

Only a location and an odometry message carry a velocity, and under different names: `linear` and
`angular` are set by both, `planar_speed`, `linear_x`, `linear_y` and `angular_z` by odometry only. A
sensor message refreshes the time of reception alone, every other message of the ROS compatibility layer both
stamps, and a status message neither.
-/

namespace Firebot.Ingress

open Firebot.Worker

variable {F : Type}

/-- `handle_location`. -/
def handleLocation (source received : Time) (linearSpeed angularSpeed : Value F)
    (latest : Latest F) : Latest F :=
  { latest with
    linear := linearSpeed
    angular := angularSpeed
    sourceTimestamp := .aware source
    serverReceivedAt := .aware received }

/-- `handle_status`: no field of the STOP verification is touched. -/
def handleStatus (latest : Latest F) : Latest F := latest

/-- `handle_sensor`. -/
def handleSensor (received : Time) (latest : Latest F) : Latest F :=
  { latest with serverReceivedAt := .aware received }

/-- `process_internal_compat` for `compat_odom`. -/
def compatOdom (source received : Time) (planarSpeed linearX linearY angularZ : Value F)
    (latest : Latest F) : Latest F :=
  { latest with
    linear := planarSpeed
    angular := angularZ
    linearX := linearX
    linearY := linearY
    angularZ := some angularZ
    planarSpeed := planarSpeed
    sourceTimestamp := .aware source
    serverReceivedAt := .aware received }

/-- The end of `process_internal_compat`, which every message but odometry has in common. -/
def compatStamps (source received : Time) (latest : Latest F) : Latest F :=
  { latest with sourceTimestamp := .aware source, serverReceivedAt := .aware received }

/-- `process_internal_compat` for `compat_battery`. -/
def compatBattery (source received : Time) (latest : Latest F) : Latest F :=
  compatStamps source received latest

/-- `process_internal_compat` for `compat_status`. -/
def compatStatus (source received : Time) (latest : Latest F) : Latest F :=
  compatStamps source received latest

/-- A message of the vehicle, with what its handler writes of it. -/
inductive Message (F : Type) where
  | location (source received : Time) (linearSpeed angularSpeed : Value F)
  | status
  | sensor (received : Time)
  | odom (source received : Time) (planarSpeed linearX linearY angularZ : Value F)
  | battery (source received : Time)
  | compatStatus (source received : Time)

namespace Message

/-- The document after the message's handler. -/
def merge : Message F → Latest F → Latest F
  | location source received linearSpeed angularSpeed =>
    handleLocation source received linearSpeed angularSpeed
  | status => handleStatus
  | sensor received => handleSensor received
  | odom source received planarSpeed linearX linearY angularZ =>
    compatOdom source received planarSpeed linearX linearY angularZ
  | battery source received => compatBattery source received
  | compatStatus source received => Ingress.compatStatus source received

/-- The message carries a velocity. -/
def carriesVelocity : Message F → Bool
  | location .. | odom .. => true
  | status | sensor _ | battery .. | compatStatus .. => false

/-- What a message that carries a velocity says by itself: the document it makes of an empty one. -/
def velocity (m : Message F) : Option (Latest F) :=
  if m.carriesVelocity then some (m.merge .empty) else none

end Message

end Firebot.Ingress
