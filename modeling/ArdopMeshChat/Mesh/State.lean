import ArdopMeshChat.Mesh.Wire
import Mathlib.Logic.Function.Basic

/-!
# The state of a mesh node

The routing tables, the dedup cache and the sequence counter a `MeshNode`
owns, and what one call into the node leaves behind.  Python dicts are read
through their lookups: the modelled code never lets the iteration order of a
dict show.  The node's collaborators that are not among the sources are
parameters: the `zlib` codec, and the `MeshEncryptor` of `crypto_layer`.
-/

namespace ArdopMeshChat

/-- A Python `dict` from keys to values, seen through lookups. -/
abbrev Table (κ α : Type) := κ → Option α

/-- `OriginatorEntry`. -/
structure OriginatorEntry where
  bestNextHop : Bytes
  lastSeqno : Nat
  metric : Nat
  lastSeen : Time
  deriving DecidableEq, Repr

/-- `NeighborEntry`. -/
structure NeighborEntry where
  lastSeen : Time
  linkMetric : Nat
  deriving DecidableEq, Repr

/-- `MeshRoutingState`. -/
structure MeshRoutingState where
  originators : Table Bytes OriginatorEntry
  neighbors : Table Bytes NeighborEntry

/-- A key of the dedup cache `_data_seen`: `(origin_id, seqno)`. -/
abbrev DataKey := Bytes × Nat

/-- The `zlib` module: `decompress` is `none` where it raises `zlib.error`. -/
structure Zlib where
  compress : Bytes → Bytes
  decompress : Bytes → Option Bytes

/-- `crypto_layer.MeshEncryptor`, whose source is not in the repository:
whether a key was configured, `encrypt(plaintext, aad)` returning the nonce and
the ciphertext, and `decrypt(nonce, ciphertext, aad)`, `none` where it raises. -/
structure MeshEncryptor where
  encryptionEnabled : Bool
  encrypt : Bytes → Bytes → Bytes × Bytes
  decrypt : Bytes → Bytes → Bytes → Option Bytes

/-- `MeshNode`, with whether an application callback is registered; the
callback's calls are recorded as effects.  `__init__` encodes
`mesh_dest_callsign` as ASCII, so no node exists whose destination is not. -/
structure MeshNode where
  config : MeshNodeConfig
  encryptor : MeshEncryptor
  appDataCallback : Bool
  routingState : MeshRoutingState
  seqno : UInt32
  dataSeen : Table DataKey Time
  meshDestAscii : isAscii config.meshDestCallsign.toList = true

namespace MeshNode

/-- `self._node_id`. -/
def nodeId (node : MeshNode) : Bytes := deriveNodeId node.config.callsign

/-- `MeshNode.__init__`: empty tables, the counter at 0. -/
def new (config : MeshNodeConfig) (encryptor : MeshEncryptor) (appDataCallback : Bool) :
    Except PyError MeshNode :=
  if destAscii : isAscii config.meshDestCallsign.toList = true then
    .ok ⟨config, encryptor, appDataCallback, ⟨fun _ => none, fun _ => none⟩, 0,
      fun _ => none, destAscii⟩
  else .error .unicodeEncodeError

/-- `MeshNode._next_seqno`: `(seqno + 1) & 0xFFFFFFFF`. -/
def nextSeqno (node : MeshNode) : MeshNode × UInt32 :=
  ({ node with seqno := node.seqno + 1 }, node.seqno + 1)

/-- `MeshNode._lookup_best_next_hop`. -/
def lookupBestNextHop (node : MeshNode) (destId : Bytes) : Option Bytes :=
  (node.routingState.originators destId).map (·.bestNextHop)

/-- The test each `_cleanup_loop` comprehension applies: `now - last_seen > expiry`. -/
def expired (now lastSeen expiry : Time) : Bool := decide (now - lastSeen > expiry)

/-- One pass of the `_cleanup_loop` body at time `now`: every originator,
neighbor and dedup key older than its expiry is deleted. -/
def cleanup (node : MeshNode) (now : Time) : MeshNode :=
  let routing := node.config.routingConfig
  { node with
    routingState :=
      { originators := fun key => (node.routingState.originators key).filter
          fun entry => !expired now entry.lastSeen routing.routeExpirySeconds
        neighbors := fun key => (node.routingState.neighbors key).filter
          fun entry => !expired now entry.lastSeen routing.neighborExpirySeconds }
    dataSeen := fun key => (node.dataSeen key).filter
      fun ts => !expired now ts routing.dataSeenExpirySeconds }

/-- What `__init__` builds, whenever it returns. -/
theorem eq_of_new {config : MeshNodeConfig} {encryptor : MeshEncryptor} {appDataCallback : Bool}
    {node : MeshNode} (created : new config encryptor appDataCallback = .ok node) :
    node.config = config ∧ node.encryptor = encryptor ∧ node.appDataCallback = appDataCallback ∧
      node.routingState.originators = (fun _ => none) ∧
      node.routingState.neighbors = (fun _ => none) ∧ node.dataSeen = fun _ => none := by
  unfold new at created
  split at created
  · cases created
    exact ⟨rfl, rfl, rfl, rfl, rfl, rfl⟩
  · cases created

@[simp] theorem nodeId_nextSeqno (node : MeshNode) : node.nextSeqno.1.nodeId = node.nodeId := rfl
@[simp] theorem config_nextSeqno (node : MeshNode) : node.nextSeqno.1.config = node.config := rfl
@[simp] theorem routingState_nextSeqno (node : MeshNode) :
    node.nextSeqno.1.routingState = node.routingState := rfl
@[simp] theorem dataSeen_nextSeqno (node : MeshNode) :
    node.nextSeqno.1.dataSeen = node.dataSeen := rfl

theorem length_nodeId (node : MeshNode) : node.nodeId.length = 8 := by
  simp [nodeId, deriveNodeId, ljust]
  omega

end MeshNode

/-- A call the node makes out: to `kiss_client.send`, or to the application
callback `(origin_id, dest_id, data_seqno, payload_bytes)`. -/
inductive Effect where
  | send (frame : Bytes)
  | deliver (originId destId : Bytes) (dataSeqno : Nat) (payload : Bytes)
  deriving DecidableEq, Repr

/-- The frames among the calls out, in order. -/
def sentFrames (effects : List Effect) : List Bytes :=
  effects.filterMap fun
    | .send frame => some frame
    | .deliver .. => none

@[simp] theorem sentFrames_nil : sentFrames [] = [] := rfl

@[simp] theorem sentFrames_send (frame : Bytes) : sentFrames [.send frame] = [frame] := rfl

@[simp] theorem sentFrames_deliver (originId destId : Bytes) (dataSeqno : Nat) (payload : Bytes) :
    sentFrames [.deliver originId destId dataSeqno payload] = [] := rfl

/-- What one call into the node leaves behind: its new state, the calls it
made out in order, and the exception it raised, if any. -/
structure Reaction where
  node : MeshNode
  effects : List Effect
  raised : Option PyError

/-- The reaction of a call that changed the state to `node` and then either
made the calls `effects` or raised. -/
def Reaction.ofExcept (node : MeshNode) : Except PyError (List Effect) → Reaction
  | .ok effects => ⟨node, effects, none⟩
  | .error err => ⟨node, [], some err⟩

@[simp] theorem Reaction.effects_ofExcept_ok (node : MeshNode) (effects : List Effect) :
    (Reaction.ofExcept node (.ok effects)).effects = effects := rfl

@[simp] theorem Reaction.effects_ofExcept_error (node : MeshNode) (err : PyError) :
    (Reaction.ofExcept node (.error err)).effects = [] := rfl

@[simp] theorem Reaction.node_ofExcept (node : MeshNode) (result : Except PyError (List Effect)) :
    (Reaction.ofExcept node result).node = node := by
  cases result <;> rfl

end ArdopMeshChat
