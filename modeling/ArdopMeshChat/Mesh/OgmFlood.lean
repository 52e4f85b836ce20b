import ArdopMeshChat.Mesh.Network
import ArdopMeshChat.Mesh.Line

/-!
# OGM flooding

`_handle_ogm` rebroadcasts every OGM it receives with a TTL above 1, however
often the same OGM arrives: OGMs pass no dedup cache.  What ends the flood is
the TTL.  A rebroadcast carries the TTL it arrived with, less one, so every
relayed OGM on the air has a copy with the same origin and seqno and one more
TTL on the air, and following the copies back ends at an OGM its origin sent
itself, with its `ogm_ttl`.  So a relayed OGM carries a TTL below the
`ogm_ttl` of a node with its origin's ID, and has travelled fewer hops than
that `ogm_ttl`.

Nothing but the TTL holds the flood back: over every schedule, each delivery
of the bytes of an OGM with a TTL above 1 puts exactly one rebroadcast on the
air, however often the node heard it before (`Network.ogmRelays_run`).
-/

namespace ArdopMeshChat

/-- The origin, seqno and TTL of a frame the dispatcher takes for an OGM. -/
def ogmInfo? (frame : Bytes) : Option (Bytes × Nat × Nat) :=
  match classifyFrame frame with
  | .ogm header _ _ => some (header.originId, header.seqno, header.ttl)
  | _ => none

theorem ogmInfo_of_classifyFrame {frame prevHop : Bytes} {header : MeshHeader} {linkMetric : Nat}
    (classified : classifyFrame frame = .ogm header prevHop linkMetric) :
    ogmInfo? frame = some (header.originId, header.seqno, header.ttl) := by
  rw [ogmInfo?, classified]

theorem classifyFrame_of_ogmInfo {frame originId : Bytes} {seqno ttl : Nat}
    (carries : ogmInfo? frame = some (originId, seqno, ttl)) :
    ∃ header prevHop linkMetric, classifyFrame frame = .ogm header prevHop linkMetric ∧
      header.originId = originId ∧ header.seqno = seqno ∧ header.ttl = ttl := by
  unfold ogmInfo? at carries
  split at carries
  · next header prevHop linkMetric classified =>
      simp only [Option.some.injEq, Prod.mk.injEq] at carries
      exact ⟨header, prevHop, linkMetric, classified, carries⟩
  · cases carries

/-- An OGM's TTL is a byte. -/
theorem ttl_lt_of_ogmInfo {frame originId : Bytes} {seqno ttl : Nat}
    (carries : ogmInfo? frame = some (originId, seqno, ttl)) : ttl < 256 := by
  obtain ⟨header, _, _, classified, -, -, rfl⟩ := classifyFrame_of_ogmInfo carries
  exact (parseMeshHeader_inRange (classifyFrame_eq_ogm classified).1).ttl

namespace MeshNode

variable (zlib : Zlib)

/-- A rebroadcast OGM arrived with the same origin and seqno and one more TTL. -/
theorem ogmInfo_of_relayed {node : MeshNode} {now : Time} {frame sent originId : Bytes}
    {seqno ttl : Nat} (member : sent ∈ sentFrames (node.onKissFrame zlib now frame).effects)
    (carries : ogmInfo? sent = some (originId, seqno, ttl)) :
    ogmInfo? frame = some (originId, seqno, ttl + 1) := by
  obtain ⟨header, forwarded, flags', parsed, version, twoHops, wrapped, parsedForwarded, -, ogmBody⟩ :=
    sent_of_onKissFrame zlib node now frame sent member
  obtain ⟨sentHeader, _, _, classified, rfl, rfl, rfl⟩ := classifyFrame_of_ogmInfo carries
  obtain ⟨parsedSent, -, ogm, -⟩ := classifyFrame_eq_ogm classified
  rw [drop_wrapInAx25Ui wrapped, parsedForwarded, Except.ok.injEq] at parsedSent
  subst parsedSent
  obtain ⟨-, metric, metricAt, -⟩ := ogmBody ogm
  have received : classifyFrame frame = .ogm header (slice (frame.drop 32) 0 8) metric.toNat := by
    rw [classifyFrame_of_parsed parsed, if_neg (by simpa using version), if_pos ogm, metricAt]
  rw [ogmInfo_of_classifyFrame received]
  simp only [Option.some.injEq, Prod.mk.injEq, true_and]
  omega

/-- Every OGM a node receives with a TTL above 1 is rebroadcast exactly once,
with the same origin and seqno and one TTL less, whatever the node has seen. -/
theorem relayed_of_ogmInfo (node : MeshNode) (callsignAscii : isAscii node.config.callsign.toList = true)
    (now : Time) {frame originId : Bytes} {seqno ttl : Nat}
    (carries : ogmInfo? frame = some (originId, seqno, ttl)) (forwarding : 1 < ttl) :
    ∃ next, sentFrames (node.onKissFrame zlib now frame).effects = [next] ∧
      ogmInfo? next = some (originId, seqno, ttl - 1) := by
  obtain ⟨header, prevHop, linkMetric, classified, rfl, rfl, rfl⟩ := classifyFrame_of_ogmInfo carries
  obtain ⟨parsed, -, -, -, metric⟩ := classifyFrame_eq_ogm classified
  obtain ⟨-, -, -, ttlByte, eightBytes, seqnoWord⟩ := parseMeshHeader_inRange parsed
  obtain ⟨byte, -, rfl⟩ := Option.map_eq_some'.mp metric
  obtain ⟨next, wrapped⟩ := wrapInAx25Ui_ok node callsignAscii
    (headerBytes meshMsgOgm 0 (header.ttl - 1) header.originId header.seqno ++ (node.nodeId ++ [byte]))
  refine ⟨next, ?_, ogmInfo_of_classifyFrame (classifyFrame_of_ogm (drop_wrapInAx25Ui wrapped)
    (by omega) eightBytes seqnoWord (length_nodeId node))⟩
  rw [onKissFrame, classified]
  dsimp only
  rw [handleOgm_eq, if_pos forwarding, ogmForward_eq node eightBytes seqnoWord (by omega) (by omega)
    (UInt8.toNat_lt_size byte), UInt8.ofNat_toNat', wrapped]
  rfl

/-- An OGM whose TTL is spent is not rebroadcast. -/
theorem sentFrames_of_ogmInfo_expiring (node : MeshNode) (now : Time) {frame originId : Bytes}
    {seqno ttl : Nat} (carries : ogmInfo? frame = some (originId, seqno, ttl)) (expiring : ttl ≤ 1) :
    sentFrames (node.onKissFrame zlib now frame).effects = [] := by
  obtain ⟨header, prevHop, linkMetric, classified, -, -, rfl⟩ := classifyFrame_of_ogmInfo carries
  rw [onKissFrame, classified]
  dsimp only
  rw [handleOgm_eq, if_neg (by omega)]
  rfl

/-- The payload of the node's own OGM: the header, then its ID and metric 255. -/
theorem buildOgmPayload_snd (node : MeshNode) :
    node.buildOgmPayload.2 = (· ++ (node.nodeId ++ [255])) <$>
      buildMeshHeader meshMsgOgm 0 node.config.routingConfig.ogmTtl node.nodeId
        node.nextSeqno.2.toNat := by
  have metric : toByte 255 = .ok 255 := toByte_of_lt (by decide : (255 : Nat) < 256)
  simp only [buildOgmPayload, metric, config_nextSeqno, nodeId_nextSeqno]
  cases buildMeshHeader meshMsgOgm 0 node.config.routingConfig.ogmTtl node.nodeId
    node.nextSeqno.2.toNat <;> rfl

/-- The node's own OGM carries its ID, its new seqno and its `ogm_ttl`. -/
theorem ogmInfo_of_ogmTick {node : MeshNode} {sent : Bytes}
    (member : sent ∈ sentFrames node.ogmTick.effects) :
    ∃ ttl : Nat, node.config.routingConfig.ogmTtl = ttl ∧
      ogmInfo? sent = some (node.nodeId, node.nextSeqno.2.toNat, ttl) := by
  have member : sent ∈ sentFrames (Reaction.ofExcept node.nextSeqno.1 (do
      let built ← node.buildOgmPayload.2
      let wrapped ← wrapInAx25Ui node.nextSeqno.1.config built
      return [Effect.send wrapped])).effects := member
  obtain ⟨payload, built, wrapped⟩ := mem_sentFrames_wrapped node.nextSeqno.1 member
  rw [buildOgmPayload_snd] at built
  cases header : buildMeshHeader meshMsgOgm 0 node.config.routingConfig.ogmTtl node.nodeId
      node.nextSeqno.2.toNat with
  | error err =>
      rw [header] at built
      cases built
  | ok headerPart =>
      rw [header] at built
      simp only [Functor.map, Except.map, Except.ok.injEq] at built
      subst built
      obtain ⟨msgType, flags, ttl, seqno, typeIs, flagsIs, ttlIs, seqnoIs, -, -, ttlByte, seqnoWord,
        rfl⟩ := buildMeshHeader_ok (length_nodeId node) header
      obtain ⟨rfl, rfl, rfl⟩ : meshMsgOgm = msgType ∧ 0 = flags ∧ node.nextSeqno.2.toNat = seqno := by
        omega
      exact ⟨ttl, ttlIs, ogmInfo_of_classifyFrame (classifyFrame_of_ogm (drop_wrapInAx25Ui wrapped)
        ttlByte (length_nodeId node) seqnoWord (length_nodeId node))⟩

@[simp] theorem config_sendApplicationData (node : MeshNode) (destNodeId payload : Bytes) :
    (node.sendApplicationData zlib destNodeId payload).node.config = node.config := by
  unfold sendApplicationData
  split <;> simp

@[simp] theorem config_ogmTick (node : MeshNode) : node.ogmTick.node.config = node.config := by
  simp [ogmTick, buildOgmPayload]

/-- A DATA payload that builds starts with a DATA header built from the
node's ID and `ogm_ttl`. -/
theorem buildDataPayload_ok {node : MeshNode} {destId appPayload meshPayload : Bytes}
    {dataSeqno : Nat} (built : node.buildDataPayload zlib destId dataSeqno appPayload = .ok meshPayload) :
    ∃ (flags : Int) (header rest : Bytes), buildMeshHeader meshMsgData flags
      node.config.routingConfig.ogmTtl node.nodeId dataSeqno = .ok header ∧ meshPayload = header ++ rest := by
  simp only [buildDataPayload, bind, Except.bind] at built
  split at built
  · cases built
  · split at built
    · cases built
    · next header headerBuilt => exact ⟨_, header, _, headerBuilt, (Except.ok.inj built).symm⟩

/-- The frame `send_application_data` sends is a DATA frame, never an OGM. -/
theorem ogmInfo_of_sendApplicationData {node : MeshNode} {destNodeId payload sent : Bytes}
    (member : sent ∈ sentFrames (node.sendApplicationData zlib destNodeId payload).effects) :
    ogmInfo? sent = none := by
  unfold sendApplicationData at member
  split at member
  · simp at member
  obtain ⟨meshPayload, built, wrapped⟩ := mem_sentFrames_wrapped _ member
  obtain ⟨flags, header, rest, headerBuilt, rfl⟩ := buildDataPayload_ok zlib built
  obtain ⟨msgType, _, _, _, typeIs, -, -, -, typeByte, flagsByte, ttlByte, seqnoWord, rfl⟩ :=
    buildMeshHeader_ok (length_nodeId _) headerBuilt
  cases carries : ogmInfo? sent with
  | none => rfl
  | some info =>
      obtain ⟨originId, seqno, ttl⟩ := info
      obtain ⟨sentHeader, _, _, classified, -⟩ := classifyFrame_of_ogmInfo carries
      obtain ⟨parsed, -, ogm, -⟩ := classifyFrame_eq_ogm classified
      rw [drop_wrapInAx25Ui wrapped, parseMeshHeader_headerBytes rest typeByte flagsByte ttlByte
        (length_nodeId _) seqnoWord, Except.ok.injEq] at parsed
      subst parsed
      simp only [meshMsgOgm, meshMsgData] at ogm typeIs
      omega

end MeshNode

/-- The origin and seqno of an OGM. -/
def ogmKey? (frame : Bytes) : Option (Bytes × Nat) :=
  (ogmInfo? frame).map fun info => (info.1, info.2.1)

/-- Whether a transmission rebroadcasts the OGM `key`. -/
def Transmission.relaysOgm {ι : Type} (key : Bytes × Nat) (sent : Transmission ι) : Bool :=
  sent.relayed && decide (ogmKey? sent.frame = some key)

/-- Whether an event hands a node the OGM `key` with a TTL above 1. -/
def NetEvent.receivesOgm {ι : Type} (key : Bytes × Nat) : NetEvent ι → Bool
  | .deliver _ _ frame =>
      match ogmInfo? frame with
      | some (originId, seqno, ttl) => decide ((originId, seqno) = key) && 1 < ttl
      | none => false
  | _ => false

/-- A delivery of the bytes of an OGM, whatever its flags and whatever follows
the link metric, hands the node the OGM `key` with a TTL above 1 exactly when
the bytes carry `key` and such a TTL. -/
theorem receivesOgm_deliver_ogmBytes {ι : Type} (key : Bytes × Nat) (i : ι) (now : Time)
    {frame prevHop originId rest : Bytes} {flags ttl seqno : Nat} {metric : UInt8}
    (info : frame.drop 16 = headerBytes meshMsgOgm flags ttl originId seqno ++ (prevHop ++ metric :: rest))
    (flagsByte : flags < 256) (ttlByte : ttl < 256) (eightBytes : originId.length = 8)
    (seqnoWord : seqno < 2 ^ 32) (prevHopEight : prevHop.length = 8) :
    (NetEvent.deliver i now frame).receivesOgm key = (decide ((originId, seqno) = key) && decide (1 < ttl)) := by
  rw [NetEvent.receivesOgm, ogmInfo_of_classifyFrame
    (classifyFrame_of_ogmBytes info flagsByte ttlByte eightBytes seqnoWord prevHopEight)]

namespace Network

variable {ι : Type}

/-- What an OGM on the air owes its origin.  A relayed OGM has a copy on the
air with one more TTL; a node's own OGM carries the node's ID and its
`ogm_ttl`. -/
structure Traced (net : Network ι) (sent : Transmission ι) : Prop where
  relay : ∀ {originId seqno ttl}, sent.relayed = true → ogmInfo? sent.frame = some (originId, seqno, ttl) →
    ∃ earlier ∈ net.air, ogmInfo? earlier.frame = some (originId, seqno, ttl + 1)
  own : ∀ {originId seqno ttl}, sent.relayed = false → ogmInfo? sent.frame = some (originId, seqno, ttl) →
    (net.nodes sent.sender).nodeId = originId ∧
      (net.nodes sent.sender).config.routingConfig.ogmTtl = ttl

/-- Every OGM on the air is traced. -/
def OgmTrail (net : Network ι) : Prop :=
  ∀ sent ∈ net.air, net.Traced sent

/-- Following an OGM's copies back ends at an OGM its origin sent itself with
the same seqno and at least its TTL: the `ogm_ttl` of the sending node. -/
theorem OgmTrail.source {net : Network ι} (trail : net.OgmTrail) {sent : Transmission ι} (member : sent ∈ net.air)
    {originId : Bytes} {seqno ttl : Nat} (carries : ogmInfo? sent.frame = some (originId, seqno, ttl)) :
    ∃ source ∈ net.air, source.relayed = false ∧ ∃ sourceTtl : Nat,
      ogmInfo? source.frame = some (originId, seqno, sourceTtl) ∧ ttl ≤ sourceTtl ∧
      (net.nodes source.sender).nodeId = originId ∧
      (net.nodes source.sender).config.routingConfig.ogmTtl = sourceTtl := by
  cases relayed : sent.relayed
  · obtain ⟨named, ttlIs⟩ := (trail sent member).own relayed carries
    exact ⟨sent, member, relayed, ttl, carries, le_rfl, named, ttlIs⟩
  · obtain ⟨earlier, heard, info⟩ := (trail sent member).relay relayed carries
    have byte := ttl_lt_of_ogmInfo info
    obtain ⟨source, sourced, own, sourceTtl, sourceInfo, above, named, ttlIs⟩ :=
      trail.source heard info
    exact ⟨source, sourced, own, sourceTtl, sourceInfo, by omega, named, ttlIs⟩
termination_by 256 - ttl

variable [DecidableEq ι] {zlib : Zlib}

/-- No event changes a node's configuration. -/
@[simp] theorem config_step (net : Network ι) (event : NetEvent ι) (i : ι) :
    ((net.step zlib event).nodes i).config = (net.nodes i).config := by
  cases event <;> simp only [step, nodes_react, Function.update_apply] <;> split <;>
    simp_all [MeshNode.cleanup]

@[simp] theorem nodeId_step (net : Network ι) (event : NetEvent ι) (i : ι) :
    ((net.step zlib event).nodes i).nodeId = (net.nodes i).nodeId := by
  simp only [MeshNode.nodeId, config_step]

/-- The air only grows. -/
theorem air_subset_step (net : Network ι) (event : NetEvent ι) :
    net.air ⊆ (net.step zlib event).air := by
  cases event <;> simp [step, react]

/-- A frame a reaction puts on the air is its node's, and is a relay when the
reaction is `_on_kiss_frame`'s. -/
theorem mem_air_react {net : Network ι} {i : ι} {reaction : Reaction} {relayed : Bool}
    {sent : Transmission ι} (member : sent ∈ (net.react i reaction relayed).air) :
    sent ∈ net.air ∨ sent.sender = i ∧ sent.relayed = relayed ∧ sent.frame ∈ sentFrames reaction.effects := by
  simp only [react, List.mem_append, List.mem_map] at member
  rcases member with old | ⟨frame, member, rfl⟩
  · exact .inl old
  · exact .inr ⟨rfl, rfl, member⟩

/-- A trace survives an event: the air keeps the copy, and the sender its ID
and `ogm_ttl`. -/
theorem Traced.step {net : Network ι} {sent : Transmission ι} (traced : net.Traced sent)
    (event : NetEvent ι) : (net.step zlib event).Traced sent := by
  refine ⟨fun relayed carries => ?_, fun own carries => ?_⟩
  · obtain ⟨earlier, member, info⟩ := traced.relay relayed carries
    exact ⟨earlier, air_subset_step net event member, info⟩
  · rw [nodeId_step, config_step]
    exact traced.own own carries

namespace OgmTrail

variable {net : Network ι}

/-- Every event that hands over only frames on the air keeps every OGM on the
air traced: a relay copies a frame that was on the air, `send_application_data`
sends no OGM, and the OGM timer stamps the node's own ID and `ogm_ttl`. -/
theorem step (trail : net.OgmTrail) {event : NetEvent ι} (onAir : net.OnAir event) :
    (net.step zlib event).OgmTrail := by
  intro sent member
  by_cases old : sent ∈ net.air
  · exact (trail sent old).step event
  cases event with
  | deliver i now frame =>
      obtain ⟨-, relayed, sentBy⟩ := (mem_air_react member).resolve_left old
      obtain ⟨received, heard, rfl⟩ := onAir
      refine ⟨fun _ carries => ⟨received, air_subset_step net _ heard,
        MeshNode.ogmInfo_of_relayed zlib sentBy carries⟩, fun own => ?_⟩
      simp [relayed] at own
  | send i destNodeId payload =>
      obtain ⟨-, relayed, sentBy⟩ := (mem_air_react member).resolve_left old
      refine ⟨fun relay => ?_, fun _ carries => ?_⟩
      · simp [relayed] at relay
      · simp [MeshNode.ogmInfo_of_sendApplicationData zlib sentBy] at carries
  | ogmTick i =>
      obtain ⟨rfl, relayed, sentBy⟩ := (mem_air_react member).resolve_left old
      obtain ⟨ttl, ttlIs, info⟩ := MeshNode.ogmInfo_of_ogmTick sentBy
      refine ⟨fun relay => ?_, fun _ carries => ?_⟩
      · simp [relayed] at relay
      · rw [info, Option.some.injEq, Prod.mk.injEq, Prod.mk.injEq] at carries
        obtain ⟨rfl, -, rfl⟩ := carries
        rw [nodeId_step, config_step]
        exact ⟨rfl, ttlIs⟩
  | sweep i now => exact absurd member old

end OgmTrail

theorem ogmTrail_of_onAirReachable {start net : Network ι} (quiet : start.air = [])
    (reach : OnAirReachable zlib start net) : net.OgmTrail := by
  induction reach with
  | start => intro sent member; simp [quiet] at member
  | step event _ onAir trail => exact trail.step onAir

theorem ogmTrail_of_reachable {start net : Network ι} (quiet : start.air = [])
    (reach : Reachable zlib start net) : net.OgmTrail :=
  ogmTrail_of_onAirReachable quiet reach.onAirReachable

/-- OGMs pass no dedup cache, and what ends their flood is the TTL.  Every
relayed OGM on the air has a source: an OGM with the same origin and seqno that
a node with the origin's ID sent itself, with its `ogm_ttl` as TTL, above the
relayed copy's. -/
theorem relayed_ogm_source {start net : Network ι} (quiet : start.air = [])
    (reach : Reachable zlib start net) {sent : Transmission ι} (member : sent ∈ net.air)
    (relayed : sent.relayed = true) {originId : Bytes} {seqno ttl : Nat}
    (carries : ogmInfo? sent.frame = some (originId, seqno, ttl)) :
    ∃ source ∈ net.air, source.relayed = false ∧ ∃ sourceTtl : Nat,
      ogmInfo? source.frame = some (originId, seqno, sourceTtl) ∧ ttl < sourceTtl ∧
      (net.nodes source.sender).nodeId = originId ∧
      (net.nodes source.sender).config.routingConfig.ogmTtl = sourceTtl := by
  have trail := ogmTrail_of_reachable quiet reach
  obtain ⟨earlier, heard, info⟩ := (trail sent member).relay relayed carries
  obtain ⟨source, sourced, own, sourceTtl, sourceInfo, above, named, ttlIs⟩ := trail.source heard info
  exact ⟨source, sourced, own, sourceTtl, sourceInfo, above, named, ttlIs⟩

/-- `ORIGIN` sends an OGM. -/
def ogmSent : Network (Fin 2) :=
  echoStart.step MeshNode.sampleZlib (.ogmTick 0)

/-- `RELAY` receives and rebroadcasts it. -/
def ogmRelayed : Network (Fin 2) :=
  ogmSent.step MeshNode.sampleZlib (.deliver 1 0 (lastSent ogmSent))

theorem reachable_ogmRelayed : Reachable MeshNode.sampleZlib echoStart ogmRelayed :=
  .step (.deliver 1 0 _) (.step (.ogmTick 0) .start trivial)
    (show ∃ sent ∈ ogmSent.air, sent.frame = lastSent ogmSent by decide)

theorem relayed_ogm_source_ogmRelayed :
    (⟨1, lastSent ogmRelayed, true⟩ : Transmission (Fin 2)) ∈ ogmRelayed.air ∧
    ogmInfo? (lastSent ogmRelayed) = some (sampleOrigin.nodeId, 1, 4) ∧
    ∃ source ∈ ogmRelayed.air, source.relayed = false ∧ ∃ sourceTtl : Nat,
      ogmInfo? source.frame = some (sampleOrigin.nodeId, 1, sourceTtl) ∧ 4 < sourceTtl ∧
      (ogmRelayed.nodes source.sender).nodeId = sampleOrigin.nodeId ∧
      (ogmRelayed.nodes source.sender).config.routingConfig.ogmTtl = sourceTtl :=
  have member : (⟨1, lastSent ogmRelayed, true⟩ : Transmission (Fin 2)) ∈ ogmRelayed.air := by
    decide
  have carries : ogmInfo? (lastSent ogmRelayed) = some (sampleOrigin.nodeId, 1, 4) := by decide
  ⟨member, carries, relayed_ogm_source rfl reachable_ogmRelayed member rfl carries⟩

/-! ## Every reception is rebroadcast -/

section Rebroadcast

variable (zlib)

/-- The network after a schedule of events. -/
def run (net : Network ι) (events : List (NetEvent ι)) : Network ι :=
  events.foldl (step zlib) net

/-- One event adds a rebroadcast of an OGM exactly when it hands a node that
OGM with a TTL above 1. -/
theorem countP_relaysOgm_step (net : Network ι)
    (ascii : ∀ i, isAscii (net.nodes i).config.callsign.toList = true) (key : Bytes × Nat)
    (event : NetEvent ι) :
    (net.step zlib event).air.countP (Transmission.relaysOgm key) =
      net.air.countP (Transmission.relaysOgm key) + (event.receivesOgm key).toNat := by
  cases event with
  | deliver i now frame =>
      simp only [step, react, List.countP_append]
      congr 1
      cases info : ogmInfo? frame with
      | none =>
          simp only [NetEvent.receivesOgm, info, Bool.toNat_false, List.countP_eq_zero, List.mem_map]
          rintro _ ⟨sent, member, rfl⟩
          cases carries : ogmInfo? sent with
          | none => simp [Transmission.relaysOgm, ogmKey?, carries]
          | some relayedInfo =>
              have heard := MeshNode.ogmInfo_of_relayed zlib member carries
              rw [info] at heard
              cases heard
      | some received =>
          obtain ⟨originId, seqno, ttl⟩ := received
          by_cases forwarding : 1 < ttl
          · obtain ⟨next, sent, nextInfo⟩ :=
              MeshNode.relayed_of_ogmInfo zlib _ (ascii i) now info forwarding
            by_cases same : (originId, seqno) = key <;>
              simp [sent, List.countP_cons, Transmission.relaysOgm, ogmKey?, nextInfo,
                NetEvent.receivesOgm, info, forwarding, same]
          · rw [MeshNode.sentFrames_of_ogmInfo_expiring zlib _ now info (by omega)]
            simp [NetEvent.receivesOgm, info, forwarding]
  | send i destNodeId payload => simp [step, react, Transmission.relaysOgm, NetEvent.receivesOgm]
  | ogmTick i => simp [step, react, Transmission.relaysOgm, NetEvent.receivesOgm]
  | sweep i now => simp [step, NetEvent.receivesOgm]

/-- OGMs pass no dedup cache.  Over every schedule, however often the medium
repeats a frame and to whichever nodes, each reception of an OGM with a TTL
above 1 puts exactly one rebroadcast of it on the air, and nothing else
rebroadcasts it: the rebroadcasts of an OGM are as many as its receptions.
A reception is a delivery of the bytes of that OGM with such a TTL. -/
theorem ogmRelays_run (net : Network ι)
    (ascii : ∀ i, isAscii (net.nodes i).config.callsign.toList = true) (key : Bytes × Nat)
    (events : List (NetEvent ι)) :
    (net.run zlib events).air.countP (Transmission.relaysOgm key) =
        net.air.countP (Transmission.relaysOgm key) + events.countP (NetEvent.receivesOgm key) ∧
      ∀ (i : ι) (now : Time) {frame prevHop originId rest : Bytes} {flags ttl seqno : Nat} {metric : UInt8},
        frame.drop 16 = headerBytes meshMsgOgm flags ttl originId seqno ++ (prevHop ++ metric :: rest) →
        flags < 256 → ttl < 256 → originId.length = 8 → seqno < 2 ^ 32 → prevHop.length = 8 →
        (NetEvent.deliver i now frame).receivesOgm key = (decide ((originId, seqno) = key) && decide (1 < ttl)) := by
  refine ⟨?_, fun i now _ _ _ _ _ _ _ _ info => receivesOgm_deliver_ogmBytes key i now info⟩
  induction events generalizing net with
  | nil => rfl
  | cons event events ih =>
      have later := ih (net.step zlib event) fun i => by rw [config_step]; exact ascii i
      rw [run, List.foldl_cons, ← run, later, countP_relaysOgm_step zlib net ascii key event,
        List.countP_cons]
      cases event.receivesOgm key <;> simp; omega

theorem ogmRelays_run_ogmSentTwice :
    (∀ i, isAscii (echoStart.nodes i).config.callsign.toList = true) ∧
    ((echoStart.run MeshNode.sampleZlib
        [.ogmTick 0, .deliver 1 0 (lastSent ogmSent), .deliver 1 0 (lastSent ogmSent)]).air.countP
        (Transmission.relaysOgm (sampleOrigin.nodeId, 1)) =
      echoStart.air.countP (Transmission.relaysOgm (sampleOrigin.nodeId, 1)) +
        ([.ogmTick 0, .deliver 1 0 (lastSent ogmSent), .deliver 1 0 (lastSent ogmSent)] :
          List (NetEvent (Fin 2))).countP (NetEvent.receivesOgm (sampleOrigin.nodeId, 1)) ∧
      ∀ (i : Fin 2) (now : Time) {frame prevHop originId rest : Bytes} {flags ttl seqno : Nat}
        {metric : UInt8},
        frame.drop 16 = headerBytes meshMsgOgm flags ttl originId seqno ++ (prevHop ++ metric :: rest) →
        flags < 256 → ttl < 256 → originId.length = 8 → seqno < 2 ^ 32 → prevHop.length = 8 →
        (NetEvent.deliver i now frame).receivesOgm (sampleOrigin.nodeId, 1) =
          (decide ((originId, seqno) = (sampleOrigin.nodeId, 1)) && decide (1 < ttl))) :=
  ⟨by decide, ogmRelays_run MeshNode.sampleZlib echoStart (by decide) _ _⟩

end Rebroadcast

end Network

end ArdopMeshChat
