import ArdopMeshChat.Mesh.OgmFlood
import ArdopMeshChat.Mesh.RoutingLog

/-!
# Routes lead to stations that sent an OGM

`_handle_data_frame` relays a DATA frame only when `_lookup_best_next_hop`
finds a route to its destination, and the only code that creates a route is
`_handle_ogm`, for the origin of the OGM it handles.  Over every run from nodes
with empty tables in which the medium carries only frames that were
transmitted, whatever the sweeps delete:

- `Network.HeardOrigins`: every route a node holds, and every DATA frame
  relayed on the air, names the origin of an OGM on the air;
- `Network.relayedData_toward_ogmSender`: so a DATA frame is relayed only
  toward a node ID that some station on the channel has as its own and has sent
  an OGM under, from its OGM loop.

A packet for a node ID no station announces is never relayed: it reaches the
originator's neighbors and goes no further.
-/

namespace ArdopMeshChat

/-- The destination a frame the dispatcher takes for DATA names. -/
def dataDest? (frame : Bytes) : Option Bytes :=
  match classifyFrame frame with
  | .data _ body => some (slice body 0 8)
  | _ => none

namespace MeshNode

variable (zlib : Zlib)

@[simp] theorem routingState_sendApplicationData (node : MeshNode) (destNodeId payload : Bytes) :
    (node.sendApplicationData zlib destNodeId payload).node.routingState = node.routingState := by
  unfold sendApplicationData
  split <;> simp

@[simp] theorem routingState_ogmTick (node : MeshNode) :
    node.ogmTick.node.routingState = node.routingState := by
  simp [ogmTick, buildOgmPayload]

/-- A frame gives a node a route only to the origin of the OGM it is. -/
theorem isSome_originators_onKissFrame {node : MeshNode} {now : Time} {frame originId : Bytes}
    (routed : ((node.onKissFrame zlib now frame).node.routingState.originators originId).isSome) :
    (node.routingState.originators originId).isSome ∨
      ∃ seqno ttl, ogmInfo? frame = some (originId, seqno, ttl) := by
  rw [node_onKissFrame] at routed
  cases classified : classifyFrame frame with
  | ogm header prevHop linkMetric =>
      rw [classified] at routed
      by_cases same : originId = header.originId
      · exact .inr ⟨header.seqno, header.ttl, by rw [same]; exact ogmInfo_of_classifyFrame classified⟩
      · rw [originators_updateOriginator_of_ne _ same, originators_refreshNeighbor] at routed
        exact .inl routed
  | data header body =>
      rw [classified] at routed
      dsimp only at routed
      split at routed <;> exact .inl routed
  | drop => rw [classified] at routed; exact .inl routed
  | fault err => rw [classified] at routed; exact .inl routed

/-- A DATA frame a node relays names a destination the node has a route to. -/
theorem isSome_originators_of_sent_data {node : MeshNode} {now : Time} {frame sent destId : Bytes}
    (member : sent ∈ sentFrames (node.onKissFrame zlib now frame).effects)
    (toward : dataDest? sent = some destId) : (node.routingState.originators destId).isSome := by
  obtain ⟨header, forwarded, flags', -, -, -, wrapped, parsedForwarded, relayData, -⟩ :=
    sent_of_onKissFrame zlib node now frame sent member
  unfold dataDest? at toward
  split at toward
  · next sentHeader body classifiedSent =>
      obtain ⟨parsedSent, -, data, rfl⟩ := classifyFrame_eq_data classifiedSent
      rw [drop_wrapInAx25Ui wrapped, parsedForwarded, Except.ok.injEq] at parsedSent
      subst parsedSent
      obtain ⟨-, sameBody, -, routed⟩ := relayData data
      have dropped : sent.drop 32 = frame.drop 32 := by
        rw [← sameBody, ← drop_wrapInAx25Ui wrapped, List.drop_drop]
      rw [← Option.some.inj toward, dropped]
      exact routed
  · cases toward

end MeshNode

namespace Network

variable {ι : Type} [DecidableEq ι] {zlib : Zlib}

/-- The air holds an OGM from the origin `originId`. -/
def HeardFrom (net : Network ι) (originId : Bytes) : Prop :=
  ∃ sent ∈ net.air, ∃ seqno ttl, ogmInfo? sent.frame = some (originId, seqno, ttl)

theorem HeardFrom.step {net : Network ι} {originId : Bytes} (heard : net.HeardFrom originId)
    (event : NetEvent ι) : (net.step zlib event).HeardFrom originId :=
  let ⟨sent, member, info⟩ := heard
  ⟨sent, air_subset_step net event member, info⟩

/-- An event gives a node a route only to the origin of an OGM it hands over. -/
theorem isSome_originators_step {net : Network ι} {event : NetEvent ι} {i : ι} {originId : Bytes}
    (routed : (((net.step zlib event).nodes i).routingState.originators originId).isSome) :
    ((net.nodes i).routingState.originators originId).isSome ∨
      ∃ receiver now frame, event = .deliver receiver now frame ∧
        ∃ seqno ttl, ogmInfo? frame = some (originId, seqno, ttl) := by
  cases event with
  | deliver receiver now frame =>
      simp only [step, nodes_react, Function.update_apply] at routed
      split at routed
      · next same =>
          subst same
          exact (MeshNode.isSome_originators_onKissFrame zlib routed).imp_right
            fun info => ⟨i, now, frame, rfl, info⟩
      · exact .inl routed
  | send sender destNodeId payload =>
      simp only [step, nodes_react, Function.update_apply] at routed
      split at routed
      · next same => exact .inl (same ▸ by simpa using routed)
      · exact .inl routed
  | ogmTick sender =>
      simp only [step, nodes_react, Function.update_apply] at routed
      split at routed
      · next same => exact .inl (same ▸ by simpa using routed)
      · exact .inl routed
  | sweep j now =>
      simp only [step, Function.update_apply] at routed
      split at routed
      · next same => exact .inl (same ▸ Option.isSome_filter_of_isSome _ _ routed)
      · exact .inl routed

/-- Every route a node holds, and every DATA frame relayed on the air, names
the origin of an OGM on the air. -/
structure HeardOrigins (net : Network ι) : Prop where
  routes : ∀ i originId, ((net.nodes i).routingState.originators originId).isSome →
    net.HeardFrom originId
  relays : ∀ sent ∈ net.air, sent.relayed = true → ∀ destId, dataDest? sent.frame = some destId →
    net.HeardFrom destId

/-- A route comes from an OGM the medium carried; a relay, from a route the
relaying node held. -/
theorem HeardOrigins.step {net : Network ι} (heard : net.HeardOrigins) {event : NetEvent ι}
    (onAir : net.OnAir event) : (net.step zlib event).HeardOrigins := by
  refine ⟨fun i originId routed => ?_, fun sent member relayed destId toward => ?_⟩
  · rcases isSome_originators_step routed with kept | ⟨receiver, now, frame, rfl, seqno, ttl, info⟩
    · exact (heard.routes i originId kept).step event
    · obtain ⟨received, carried, rfl⟩ := onAir
      exact ⟨received, air_subset_step net _ carried, seqno, ttl, info⟩
  · by_cases old : sent ∈ net.air
    · exact (heard.relays sent old relayed destId toward).step event
    cases event with
    | deliver i now frame =>
        obtain ⟨rfl, -, sentBy⟩ := (mem_air_react member).resolve_left old
        exact (heard.routes _ destId (MeshNode.isSome_originators_of_sent_data zlib sentBy toward)).step _
    | send i destNodeId payload =>
        obtain ⟨-, own, -⟩ := (mem_air_react member).resolve_left old
        simp [own] at relayed
    | ogmTick i =>
        obtain ⟨-, own, -⟩ := (mem_air_react member).resolve_left old
        simp [own] at relayed
    | sweep i now => exact absurd member old

theorem heardOrigins_of_onAirReachable {start net : Network ι} (quiet : start.air = [])
    (fresh : ∀ i originId, (start.nodes i).routingState.originators originId = none)
    (reach : OnAirReachable zlib start net) : net.HeardOrigins := by
  induction reach with
  | start => exact ⟨fun i originId routed => by simp [fresh] at routed, fun sent member => by
      simp [quiet] at member⟩
  | step event _ onAir heard => exact heard.step onAir

/-- DATA is relayed only toward a station that has spoken.  From nodes with
empty routing tables, over every run in which the medium carries only frames
that were transmitted, any number of times and to any node, whatever is sent
and whatever the sweeps delete: every route a node holds is to the origin of
an OGM on the air, and every relayed DATA frame on the air names a destination
that is the node ID of a station on the channel, and the air holds an OGM
under that ID which the station sent itself. -/
theorem relayedData_toward_ogmSender {start net : Network ι} (quiet : start.air = [])
    (fresh : ∀ i originId, (start.nodes i).routingState.originators originId = none)
    (reach : OnAirReachable zlib start net) {sent : Transmission ι} (member : sent ∈ net.air)
    (relayed : sent.relayed = true) {destId : Bytes} (toward : dataDest? sent.frame = some destId) :
    (∀ i originId, ((net.nodes i).routingState.originators originId).isSome → net.HeardFrom originId) ∧
      ∃ source ∈ net.air, source.relayed = false ∧ (net.nodes source.sender).nodeId = destId ∧
        ∃ seqno ttl, ogmInfo? source.frame = some (destId, seqno, ttl) := by
  have heard := heardOrigins_of_onAirReachable quiet fresh reach
  obtain ⟨ogm, onAirOgm, seqno, ttl, info⟩ := heard.relays sent member relayed destId toward
  obtain ⟨source, sourced, own, sourceTtl, sourceInfo, -, named, -⟩ :=
    (ogmTrail_of_onAirReachable quiet reach).source onAirOgm info
  exact ⟨heard.routes, source, sourced, own, named, seqno, sourceTtl, sourceInfo⟩

/-- Three fresh stations of the line on one channel. -/
def threeFresh : Network (Fin 3) :=
  ⟨fun i => MeshNode.lineStation (["N0CALL", "N1CALL", "N2CALL"].getD i.val "") false, []⟩

/-- `N2CALL` sends an OGM. -/
def ogmAnnounced : Network (Fin 3) :=
  threeFresh.step MeshNode.storeZlib (.ogmTick 2)

/-- `N1CALL` hears and rebroadcasts it, and has a route to `N2CALL`. -/
def routeLearned : Network (Fin 3) :=
  ogmAnnounced.step MeshNode.storeZlib (.deliver 1 0 (lastSent ogmAnnounced))

/-- `N0CALL` sends `hi` to `N2CALL`. -/
def dataSent : Network (Fin 3) :=
  routeLearned.step MeshNode.storeZlib (.send 0 (deriveNodeId "N2CALL") [0x68, 0x69])

/-- `N1CALL` relays it. -/
def dataRelayed : Network (Fin 3) :=
  dataSent.step MeshNode.storeZlib (.deliver 1 0 (lastSent dataSent))

theorem onAirReachable_dataRelayed : OnAirReachable MeshNode.storeZlib threeFresh dataRelayed :=
  .step (.deliver 1 0 _)
    (.step (.send 0 _ _)
      (.step (.deliver 1 0 _) (.step (.ogmTick 2) .start trivial)
        (show ∃ sent ∈ ogmAnnounced.air, sent.frame = lastSent ogmAnnounced by decide))
      trivial)
    (show ∃ sent ∈ dataSent.air, sent.frame = lastSent dataSent by decide)

theorem relayedData_toward_ogmSender_dataRelayed :
    threeFresh.air = [] ∧ (∀ i originId, (threeFresh.nodes i).routingState.originators originId = none) ∧
      OnAirReachable MeshNode.storeZlib threeFresh dataRelayed ∧
      (⟨1, lastSent dataRelayed, true⟩ : Transmission (Fin 3)) ∈ dataRelayed.air ∧
      dataDest? (lastSent dataRelayed) = some (deriveNodeId "N2CALL") ∧
      (∀ i originId, ((dataRelayed.nodes i).routingState.originators originId).isSome →
        dataRelayed.HeardFrom originId) ∧
      ∃ source ∈ dataRelayed.air, source.relayed = false ∧
        (dataRelayed.nodes source.sender).nodeId = deriveNodeId "N2CALL" ∧
        ∃ seqno ttl, ogmInfo? source.frame = some (deriveNodeId "N2CALL", seqno, ttl) :=
  have member : (⟨1, lastSent dataRelayed, true⟩ : Transmission (Fin 3)) ∈ dataRelayed.air := by decide
  have toward : dataDest? (lastSent dataRelayed) = some (deriveNodeId "N2CALL") := by decide
  ⟨rfl, fun _ _ => rfl, onAirReachable_dataRelayed, member, toward,
    relayedData_toward_ogmSender rfl (fun _ _ => rfl) onAirReachable_dataRelayed member rfl toward⟩

end Network

end ArdopMeshChat
