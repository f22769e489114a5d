import Liratek.Offline.Tables

/-! The channel policy of the shop's app version, and the offline id range. The recorded schemas, the
binding table and the limits are what one server runs with, so they do not change during a run. -/

namespace Liratek.Offline.Channels
open Tables

def offlineIdFloor : Nat := 1000000000000

def isOfflineId (id : Nat) : Bool :=
  offlineIdFloor ≤ id

/-- A channel's recorded schema, as the engine uses it. -/
structure Schema where
  /-- The recorded shape parses and is compatible with today's shape. -/
  isCompatible : String → Bool
  /-- `none` when the payload does not parse, else the offline ids in its id positions. -/
  parse : String → Option (List Nat)

structure Policy where
  classOf : String → ChannelClass
  label : String → Option String
  recordedSchema : String → Option Schema
  hasBinding : String → Bool
  /-- The recorded rates parse under the strict rates schema. -/
  ratesParse : String → Bool
  maxAttempts : Nat
  sha256 : String → String
  toleranceMs : Int
  serverSchemaVersion : Nat

/-- Classes the engine books or holds. Every other class is refused. -/
def ChannelClass.recordable : ChannelClass → Bool
  | .offline | .checkpoint => true
  | _ => false

def Policy.isRecordableChannel (policy : Policy) (channel : String) : Bool :=
  ChannelClass.recordable (policy.classOf channel)

def Policy.isCheckpoint (policy : Policy) (channel : String) : Bool :=
  policy.classOf channel = .checkpoint

/-- `created[table] ?? []` -/
def rowsOf (created : CreatedRows) (table : String) : List Nat :=
  (created.lookup table).getD []

def notRecordable (channel : String) : String :=
  "NOT_RECORDABLE: \"" ++ channel ++ "\" cannot be done offline"

def unknownChannel (channel : String) : String :=
  "UNKNOWN_CHANNEL: \"" ++ channel ++ "\" is not a channel this server knows"

end Liratek.Offline.Channels
