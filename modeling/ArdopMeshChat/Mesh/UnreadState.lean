import ArdopMeshChat.Mesh.Dispatch

/-!
# State the node writes and never reads

`_handle_ogm` keeps a neighbor table and gives every route a next hop and a
metric, and `_cleanup_loop` ages the neighbors out; but no code path reads any
of them.  `_lookup_best_next_hop` returns the next hop only for
`_handle_data_frame` to test it against `None`, and the forwarded frame is a
broadcast that does not name it.  What the node's behaviour reads of its
routing state is, for each origin, whether there is a route, and the route's
`last_seqno` and `last_seen`.

`MeshNode.erase` blanks the rest.  Each operation of the node commutes with it
(`MeshNode.erase_call`), so a node and its erasure answer every sequence of
calls alike (`MeshNode.outputs_eq_of_erase_eq`): the neighbor table, the next
hops and the metrics could be deleted from the code without changing a frame
sent, a payload delivered or an exception raised.
-/

namespace ArdopMeshChat

/-- An originator entry with its next hop and metric blanked. -/
def OriginatorEntry.erase (entry : OriginatorEntry) : OriginatorEntry :=
  ⟨[], entry.lastSeqno, 0, entry.lastSeen⟩

@[simp] theorem OriginatorEntry.erase_erase (entry : OriginatorEntry) :
    entry.erase.erase = entry.erase := rfl

/-- A call into a node from one of its threads: `_on_kiss_frame` on the RX
thread, `send_application_data` from the application, one iteration of
`_ogm_loop`, one iteration of the `_cleanup_loop` body. -/
inductive NodeCall where
  | frame (now : Time) (frame : Bytes)
  | send (destNodeId payload : Bytes)
  | ogmTick
  | sweep (now : Time)
  deriving DecidableEq, Repr

namespace MeshNode

variable (zlib : Zlib)

/-- The node's reaction to one call. -/
def call (node : MeshNode) : NodeCall → Reaction
  | .frame now frame => node.onKissFrame zlib now frame
  | .send destNodeId payload => node.sendApplicationData zlib destNodeId payload
  | .ogmTick => node.ogmTick
  | .sweep now => ⟨node.cleanup now, [], none⟩

/-- What the radio, the application and the calling thread see of a run of
calls: each call's calls out, and the exception it raised. -/
def outputs (node : MeshNode) : List NodeCall → List (List Effect × Option PyError)
  | [] => []
  | next :: calls =>
      ((node.call zlib next).effects, (node.call zlib next).raised) ::
        (node.call zlib next).node.outputs calls

/-- The node with what no code path reads blanked: no neighbors, and every
route without its next hop and metric. -/
def erase (node : MeshNode) : MeshNode :=
  { node with routingState :=
      ⟨fun originId => (node.routingState.originators originId).map OriginatorEntry.erase,
        fun _ => none⟩ }

end MeshNode

/-- A reaction with the node it leaves erased. -/
def Reaction.erase (reaction : Reaction) : Reaction :=
  ⟨reaction.node.erase, reaction.effects, reaction.raised⟩

@[simp] theorem Reaction.erase_ofExcept (node : MeshNode) (result : Except PyError (List Effect)) :
    (Reaction.ofExcept node result).erase = Reaction.ofExcept node.erase result := by
  cases result <;> rfl

namespace MeshNode

variable (zlib : Zlib) (node : MeshNode)

/-! ## Erasure commutes with every update -/

@[simp] theorem config_erase : node.erase.config = node.config := rfl
@[simp] theorem encryptor_erase : node.erase.encryptor = node.encryptor := rfl
@[simp] theorem appDataCallback_erase : node.erase.appDataCallback = node.appDataCallback := rfl
@[simp] theorem dataSeen_erase : node.erase.dataSeen = node.dataSeen := rfl
@[simp] theorem nodeId_erase : node.erase.nodeId = node.nodeId := rfl
@[simp] theorem originators_erase (originId : Bytes) :
    node.erase.routingState.originators originId =
      (node.routingState.originators originId).map OriginatorEntry.erase := rfl

@[simp] theorem erase_erase : node.erase.erase = node.erase := by
  simp only [erase, Option.map_map]
  rfl

@[simp] theorem erase_refreshNeighbor (now : Time) (prevHopId : Bytes) (linkMetric : Nat) :
    (node.refreshNeighbor now prevHopId linkMetric).erase = node.erase := rfl

theorem erase_setOriginator (originId : Bytes) (entry : OriginatorEntry) :
    (node.setOriginator originId entry).erase = node.erase.setOriginator originId entry.erase := by
  simp only [erase, setOriginator, MeshNode.mk.injEq, MeshRoutingState.mk.injEq, true_and, and_true]
  funext key
  by_cases same : key = originId
  · subst same
    simp
  · simp [Function.update_noteq same]

@[simp] theorem erase_markSeen (key : DataKey) (now : Time) :
    (node.markSeen key now).erase = node.erase.markSeen key now := rfl

@[simp] theorem erase_nextSeqno : node.nextSeqno.1.erase = node.erase.nextSeqno.1 := rfl

theorem erase_cleanup (now : Time) : (node.cleanup now).erase = node.erase.cleanup now := by
  simp only [erase, cleanup, MeshNode.mk.injEq, MeshRoutingState.mk.injEq, true_and, and_true]
  refine ⟨funext fun key => ?_, rfl⟩
  cases node.routingState.originators key <;> simp [Option.filter, OriginatorEntry.erase]

/-- The originator update reads of an entry only its seqno: nodes alike up to
erasure stay alike. -/
theorem erase_updateOriginator {other : MeshNode} (same : node.erase = other.erase) (now : Time)
    (originId : Bytes) (seqno : Nat) (prevHopId : Bytes) (linkMetric : Nat) :
    (node.updateOriginator now originId seqno prevHopId linkMetric).erase =
      (other.updateOriginator now originId seqno prevHopId linkMetric).erase := by
  have routes : (node.routingState.originators originId).map OriginatorEntry.erase =
      (other.routingState.originators originId).map OriginatorEntry.erase :=
    congrFun (congrArg (·.routingState.originators) same) originId
  unfold updateOriginator
  cases found : node.routingState.originators originId <;>
    cases found' : other.routingState.originators originId <;>
    simp only [found, found', Option.map_none', Option.map_some', reduceCtorEq, Option.some.injEq] at routes ⊢
  · simp only [erase_setOriginator, same]
  · next entry entry' =>
      have seqnos : entry.lastSeqno = entry'.lastSeqno := congrArg (·.lastSeqno) routes
      rw [seqnos]
      split_ifs
      · simp only [erase_setOriginator, same]
      · exact same

/-! ## Erasure commutes with every operation -/

/-- The forwarding decision tests the route lookup against `None` only. -/
theorem deliverOrForward_erase (originId : Bytes) (seqno ttl flags : Nat) (body destId : Bytes)
    (dataSeq : Nat) (appBytes : Bytes) :
    node.erase.deliverOrForward originId seqno ttl flags body destId dataSeq appBytes =
      node.deliverOrForward originId seqno ttl flags body destId dataSeq appBytes := by
  unfold deliverOrForward lookupBestNextHop
  simp only [originators_erase, nodeId_erase, appDataCallback_erase, config_erase]
  cases node.routingState.originators destId <;> rfl

theorem processData_erase (originId : Bytes) (seqno ttl flags : Nat) (body : Bytes) :
    node.erase.processData zlib originId seqno ttl flags body =
      node.processData zlib originId seqno ttl flags body := by
  simp only [processData, openAndDeliver, deliverOrForward_erase]
  rfl

theorem erase_onKissFrame (now : Time) (frame : Bytes) :
    (node.onKissFrame zlib now frame).erase = (node.erase.onKissFrame zlib now frame).erase := by
  unfold onKissFrame
  cases classifyFrame frame with
  | drop => simp [Reaction.erase]
  | fault err => simp [Reaction.erase]
  | ogm header prevHop linkMetric =>
      have refreshed : (node.refreshNeighbor now prevHop linkMetric).erase =
          (node.erase.refreshNeighbor now prevHop linkMetric).erase := by simp
      simp only [handleOgm_eq, Reaction.erase_ofExcept, ogmForward_congr node (rfl : node.erase.config = _),
        erase_updateOriginator _ refreshed]
  | data header body =>
      simp only [handleDataFrame, dataSeen_erase]
      cases node.dataSeen (header.originId, header.seqno) with
      | some _ => simp [Reaction.erase]
      | none => simp only [Reaction.erase_ofExcept, ← erase_markSeen, erase_erase, processData_erase]

theorem erase_sendApplicationData (destNodeId payload : Bytes) :
    (node.sendApplicationData zlib destNodeId payload).erase =
      (node.erase.sendApplicationData zlib destNodeId payload).erase := by
  unfold sendApplicationData
  split
  · simp [Reaction.erase]
  · simp only [Reaction.erase_ofExcept, erase_nextSeqno, erase_erase]
    rfl

theorem erase_ogmTick : node.ogmTick.erase = node.erase.ogmTick.erase := by
  simp only [ogmTick, buildOgmPayload, Reaction.erase_ofExcept, erase_nextSeqno, erase_erase]
  rfl

/-- One call into the node commutes with erasure: the same calls out, the same
exception, and a state alike up to erasure. -/
theorem erase_call (next : NodeCall) : (node.call zlib next).erase = (node.erase.call zlib next).erase := by
  cases next with
  | frame now frame => exact erase_onKissFrame zlib node now frame
  | send destNodeId payload => exact erase_sendApplicationData zlib node destNodeId payload
  | ogmTick => exact erase_ogmTick node
  | sweep now => simp [call, Reaction.erase, erase_cleanup]

/-- Nodes alike up to erasure react alike to a call. -/
theorem call_congr {other : MeshNode} (same : node.erase = other.erase) (next : NodeCall) :
    (node.call zlib next).erase = (other.call zlib next).erase := by
  rw [erase_call, same, ← erase_call]

/-! ## Runs -/

/-- Two nodes that differ only in their neighbor tables and in the next hops
and metrics of their routes answer every sequence of calls alike. -/
theorem outputs_eq_of_erase_eq {node other : MeshNode} (same : node.erase = other.erase)
    (calls : List NodeCall) : node.outputs zlib calls = other.outputs zlib calls := by
  induction calls generalizing node other with
  | nil => rfl
  | cons next calls ih =>
      have reacted := call_congr zlib node same next
      simp only [Reaction.erase, Reaction.mk.injEq] at reacted
      simp only [outputs, reacted.2.1, reacted.2.2, ih reacted.1]

/-- `sampleRelay` with its route to `DEST` through another next hop and with
another metric, and with `HOP` in its neighbor table. -/
def reroutedRelay : MeshNode :=
  { sampleRelay with routingState :=
      ⟨fun key => if key = deriveNodeId "DEST" then some ⟨deriveNodeId "OTHER", 1, 255, 0⟩ else none,
        fun key => if key = deriveNodeId "HOP" then some ⟨0, 1⟩ else none⟩ }

theorem outputs_eq_of_erase_eq_reroutedRelay :
    sampleRelay.erase = reroutedRelay.erase ∧
      sampleRelay.outputs sampleZlib [.frame 0 (compressedDataFrame emptyZlibStream), .ogmTick, .sweep 200] =
        reroutedRelay.outputs sampleZlib [.frame 0 (compressedDataFrame emptyZlibStream), .ogmTick, .sweep 200] :=
  have same : sampleRelay.erase = reroutedRelay.erase := by
    simp only [erase, sampleRelay, reroutedRelay, MeshNode.mk.injEq, MeshRoutingState.mk.injEq, true_and,
      and_true]
    funext key
    split <;> rfl
  ⟨same, outputs_eq_of_erase_eq sampleZlib same _⟩

end MeshNode

end ArdopMeshChat
