import Firebot.Alarms.Heard
import Firebot.Alarms.Lifecycle
import Firebot.Alarms.World
import Firebot.Api.Calls
import Firebot.Api.Commands
import Firebot.Api.Discipline
import Firebot.Api.Idempotency
import Firebot.Api.Identity
import Firebot.Api.OneWinner
import Firebot.Api.Release
import Firebot.Api.ReleaseCourse
import Firebot.Api.Replay
import Firebot.Api.SafetyQueue
import Firebot.Api.Sound
import Firebot.Api.Tasks
import Firebot.Api.World
import Firebot.Auth.Rotation
import Firebot.Auth.Sessions
import Firebot.Bridge.AckConsistency
import Firebot.Bridge.AtMostOnce
import Firebot.Bridge.Feedback
import Firebot.Bridge.GapLock
import Firebot.Bridge.Laws
import Firebot.Bridge.Processor
import Firebot.Bridge.Protocol
import Firebot.Bridge.RecordAge
import Firebot.Bridge.Records
import Firebot.Bridge.RosChild
import Firebot.Bridge.Run
import Firebot.Bridge.State
import Firebot.Bridge.TaskLock
import Firebot.Commands.Admission
import Firebot.Commands.Readiness
import Firebot.Commands.Requests
import Firebot.Data.Float
import Firebot.Data.Json
import Firebot.Data.PyInt
import Firebot.Dispatcher.Outbox
import Firebot.Dispatcher.OutboxLaws
import Firebot.Dispatcher.Publish
import Firebot.Dispatcher.Safety
import Firebot.Dispatcher.SafetyLaws
import Firebot.Enrollment.SingleUse
import Firebot.Enrollment.TokenStore
import Firebot.Events.Socket
import Firebot.Ingress.Latest
import Firebot.Ingress.MotionEvidence
import Firebot.Lib.Batch
import Firebot.Lib.Calendar
import Firebot.Lib.Dict
import Firebot.Lib.Dijkstra
import Firebot.Lib.EvenOdd
import Firebot.Lib.Except
import Firebot.Lib.JsonSchema
import Firebot.Lib.JsonTree
import Firebot.Lib.Newest
import Firebot.Lib.OneTime
import Firebot.Lib.OrderedLog
import Firebot.Lib.Ownership
import Firebot.Lib.Patch
import Firebot.Lib.Plane
import Firebot.Lib.Polyline
import Firebot.Lib.Process
import Firebot.Lib.Recurrence
import Firebot.Lib.Rows
import Firebot.Lib.Run
import Firebot.Lib.Streak
import Firebot.Lib.Table
import Firebot.Lib.TrimmedLog
import Firebot.Lib.UnitOfWork
import Firebot.Lib.Watch
import Firebot.Manual.Ends
import Firebot.Manual.Exclusion
import Firebot.Manual.Model
import Firebot.Manual.Pulses
import Firebot.Manual.Sessions
import Firebot.Maps.Immutable
import Firebot.Maps.Model
import Firebot.Missions.Model
import Firebot.Missions.OnMap
import Firebot.Monitor.Emitted
import Firebot.Monitor.Projection
import Firebot.Monitor.Store
import Firebot.MqttIngress.Boot
import Firebot.MqttIngress.Business
import Firebot.MqttIngress.Compat
import Firebot.MqttIngress.Env
import Firebot.MqttIngress.Handlers
import Firebot.MqttIngress.Laws
import Firebot.MqttIngress.MapContract
import Firebot.MqttIngress.Order
import Firebot.MqttIngress.Process
import Firebot.MqttIngress.Serialize
import Firebot.MqttIngress.Sessions
import Firebot.MqttIngress.State
import Firebot.MqttIngress.Totality
import Firebot.MqttIngress.Works
import Firebot.Navigation.CorridorGraph
import Firebot.Navigation.Cruise
import Firebot.Navigation.Evidence
import Firebot.Navigation.LaneNetwork
import Firebot.Navigation.Outcome
import Firebot.Navigation.Pose
import Firebot.Navigation.ReturnLaws
import Firebot.Navigation.ReturnPaths
import Firebot.Navigation.ReturnRoute
import Firebot.Navigation.Settles
import Firebot.Navigation.ShortestPath
import Firebot.Navigation.SlotClearance
import Firebot.Navigation.Trajectory
import Firebot.Navigation.World
import Firebot.Operations.Coverage
import Firebot.Patrols.Coverage
import Firebot.Patrols.Resume
import Firebot.Patrols.Route
import Firebot.Patrols.Start
import Firebot.Platform.Actions
import Firebot.Platform.BootSessions
import Firebot.Platform.LatestWriters
import Firebot.Platform.LostUpdates
import Firebot.Platform.Presence
import Firebot.Protocol.Schema
import Firebot.Recorder.Conservation
import Firebot.Recorder.EventRecorder
import Firebot.Recorder.Retention
import Firebot.Recorder.RotatingFiles
import Firebot.Recorder.SizeBound
import Firebot.Robots.Assignment
import Firebot.Robots.Model
import Firebot.RosCompat.Adapter
import Firebot.RosCompat.Atomic
import Firebot.Scheduler.CatchUp
import Firebot.Scheduler.CatchUpLaws
import Firebot.Scheduler.Dispatch
import Firebot.Server.CommandLifecycle
import Firebot.Tasks.Activity
import Firebot.Tasks.Model
import Firebot.Tasks.Refusal
import Firebot.Tasks.Report
import Firebot.Tasks.Terminal
import Firebot.Tasks.World
import Firebot.Trace.Delivery
import Firebot.Trace.FieldTrace
import Firebot.Trace.Sanitizing
import Firebot.Uplink.Intake
import Firebot.Uplink.Location
import Firebot.Uplink.LocationLoop
import Firebot.Uplink.Motion
import Firebot.Uplink.Report
import Firebot.Uplink.Sequence
import Firebot.Vehicle.Confirmation
import Firebot.Vehicle.ControlAdapter
import Firebot.Vehicle.Handlers
import Firebot.Vehicle.Joint
import Firebot.Vehicle.Rejection
import Firebot.Web.ChannelFreshness
import Firebot.Web.MapAdapter
import Firebot.Worker.FrameCounter
import Firebot.Worker.Observation
import Firebot.Worker.PartitionLaws
import Firebot.Worker.Partitions
import Firebot.Worker.Reconcile
import Firebot.Worker.StopMachine
import Firebot.Worker.StopOperation
import Firebot.Worker.StopTimely
