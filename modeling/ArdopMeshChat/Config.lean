import Mathlib.Data.Rat.Defs

/-!
# Configuration records

The fields of `mesh_config`'s dataclasses that the modelled code reads, as
`config_loader` fills them in.  Timestamps and expiries are `time.time()`
floats in the source; the model keeps them on an integer clock, since the code
only subtracts timestamps and compares the difference with an expiry.
Reconnect delays are doubled, so they stay rational.
-/

namespace ArdopMeshChat

/-- A `time.time()` reading, or a duration on the same clock. -/
abbrev Time := Int

/-- `KISSConnectionConfig`: the reconnect timers and the TX queue bound. -/
structure KISSConnectionConfig where
  reconnectBaseDelay : ℚ
  reconnectMaxDelay : ℚ
  txQueueSize : Nat
  deriving Repr

/-- `MeshRoutingConfig`: the OGM TTL and the three expiries. -/
structure MeshRoutingConfig where
  ogmTtl : Int
  routeExpirySeconds : Time
  neighborExpirySeconds : Time
  dataSeenExpirySeconds : Time
  deriving DecidableEq, Repr

/-- `MeshNodeConfig`: the station's callsign, the AX.25 destination of every
frame it sends, and its routing timers. -/
structure MeshNodeConfig where
  callsign : String
  meshDestCallsign : String
  routingConfig : MeshRoutingConfig
  deriving DecidableEq, Repr

end ArdopMeshChat
