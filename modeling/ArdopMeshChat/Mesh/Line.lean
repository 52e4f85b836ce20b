import ArdopMeshChat.Mesh.Run
import Mathlib.Data.List.Forall2

/-!
# Delivery along a line of nodes

Nodes `N0, ..., Nk` in a line, each hearing only its neighbours.  `Nk`'s own
OGM travels down the line and leaves every relay a route to `Nk`; then `N0`
sends DATA to `Nk`, and each relay hands on the frame it sends.  Every relay
sends exactly one frame and delivers nothing, and `Nk` delivers the payload
once, whatever the payload, the line's length up to `ogm_ttl`, and whether
the nodes compress and encrypt: the sender's compression, encryption, body
layout and associated data agree with every receiver's parse, decryption,
decompression and TTL checks.

What a receiver does not check: `_handle_data_frame` decrypts only a frame
whose own `ENCRYPTED` flag is set, so a node with a key configured delivers a
payload sent in clear under any `origin_id` (`MeshNode.plainDataFrame_delivered`);
and nothing dates a frame but the dedup cache, so a frame replayed after a sweep
has forgotten its key is handled as the first time (`MeshNode.replay_after_sweep`).
-/

namespace ArdopMeshChat

theorem classifyFrame_of_data {frame body originId : Bytes} {flags ttl seqno : Nat}
    (info : frame.drop 16 = headerBytes meshMsgData flags ttl originId seqno ++ body)
    (flagsByte : flags < 256) (ttlByte : ttl < 256) (eightBytes : originId.length = 8)
    (seqnoWord : seqno < 2 ^ 32) :
    classifyFrame frame = .data ⟨meshVersion, meshMsgData, flags, ttl, originId, seqno⟩ body := by
  have parsed : parseMeshHeader (frame.drop 16) = .ok ⟨meshVersion, meshMsgData, flags, ttl, originId,
      seqno⟩ := by
    rw [info]
    exact parseMeshHeader_headerBytes body (by decide) flagsByte ttlByte eightBytes seqnoWord
  have bodyAt : frame.drop 32 = body := by
    rw [show 32 = 16 + 16 from rfl, ← List.drop_drop, info]
    exact List.drop_left' (length_headerBytes _ _ _ _ eightBytes)
  rw [classifyFrame_of_parsed parsed, bodyAt]
  rfl

/-- The bytes of an OGM, whatever its flags and whatever follows the link
metric, are an OGM to the dispatcher. -/
theorem classifyFrame_of_ogmBytes {frame prevHop originId rest : Bytes} {flags ttl seqno : Nat}
    {metric : UInt8}
    (info : frame.drop 16 = headerBytes meshMsgOgm flags ttl originId seqno ++ (prevHop ++ metric :: rest))
    (flagsByte : flags < 256) (ttlByte : ttl < 256) (eightBytes : originId.length = 8)
    (seqnoWord : seqno < 2 ^ 32) (prevHopEight : prevHop.length = 8) :
    classifyFrame frame = .ogm ⟨meshVersion, meshMsgOgm, flags, ttl, originId, seqno⟩ prevHop
      metric.toNat := by
  have parsed : parseMeshHeader (frame.drop 16) = .ok ⟨meshVersion, meshMsgOgm, flags, ttl, originId,
      seqno⟩ := by
    rw [info]
    exact parseMeshHeader_headerBytes _ (by decide) flagsByte ttlByte eightBytes seqnoWord
  have bodyAt : frame.drop 32 = prevHop ++ metric :: rest := by
    rw [show 32 = 16 + 16 from rfl, ← List.drop_drop, info]
    exact List.drop_left' (length_headerBytes _ _ _ _ eightBytes)
  rw [classifyFrame_of_parsed parsed, bodyAt]
  simp [List.getElem?_append_right, List.getElem_append_right, prevHopEight, slice,
    List.take_append_eq_append_take]

theorem classifyFrame_of_ogm {frame prevHop originId : Bytes} {ttl seqno : Nat} {metric : UInt8}
    (info : frame.drop 16 = headerBytes meshMsgOgm 0 ttl originId seqno ++ (prevHop ++ [metric]))
    (ttlByte : ttl < 256) (eightBytes : originId.length = 8) (seqnoWord : seqno < 2 ^ 32)
    (prevHopEight : prevHop.length = 8) :
    classifyFrame frame = .ogm ⟨meshVersion, meshMsgOgm, 0, ttl, originId, seqno⟩ prevHop
      metric.toNat :=
  classifyFrame_of_ogmBytes info (by decide) ttlByte eightBytes seqnoWord prevHopEight

/-- `zlib.decompress` inverts `zlib.compress`. -/
def Zlib.RoundTrips (zlib : Zlib) : Prop :=
  ∀ data, zlib.decompress (zlib.compress data) = some data

/-- What the AES-GCM layer of `crypto_layer` provides: a 12-byte nonce, a
ciphertext that is never empty since it carries the tag, and decryption under
the same associated data gives the plaintext back. -/
def MeshEncryptor.RoundTrips (encryptor : MeshEncryptor) : Prop :=
  ∀ plaintext associatedData,
    (encryptor.encrypt plaintext associatedData).1.length = 12 ∧
    (encryptor.encrypt plaintext associatedData).2 ≠ [] ∧
    encryptor.decrypt (encryptor.encrypt plaintext associatedData).1
      (encryptor.encrypt plaintext associatedData).2 associatedData = some plaintext

namespace MeshNode

variable (zlib : Zlib)

theorem compressPayload_flags (appPayload : Bytes) : (compressPayload zlib appPayload).2 < 2 := by
  by_cases shorter : (zlib.compress appPayload).length < appPayload.length <;>
    simp [compressPayload, shorter]

/-- Whatever the compression step chose, a receiver that reads the same
`COMPRESSED` bit gets the payload back. -/
theorem inflatePayload_compressPayload (inflates : zlib.RoundTrips) (appPayload : Bytes) {flags : Nat}
    (sameBit : flags &&& meshFlagCompressed = (compressPayload zlib appPayload).2 &&& meshFlagCompressed) :
    inflatePayload zlib flags (compressPayload zlib appPayload).1 = some appPayload := by
  by_cases shorter : (zlib.compress appPayload).length < appPayload.length
  · simp only [compressPayload, shorter, if_true] at sameBit ⊢
    rw [inflatePayload, if_pos (by rw [sameBit]; decide)]
    exact inflates appPayload
  · simp only [compressPayload, shorter, if_false] at sameBit ⊢
    rw [inflatePayload, if_neg (by rw [sameBit]; decide)]

theorem sealPayload_flags (encryptor : MeshEncryptor) {flags : Nat} (small : flags < 2)
    (payloadToSend associatedData : Bytes) :
    (sealPayload encryptor flags payloadToSend associatedData).1 < 256 ∧
    (sealPayload encryptor flags payloadToSend associatedData).1 &&& meshFlagCompressed =
      flags &&& meshFlagCompressed := by
  unfold sealPayload
  rcases (by omega : flags = 0 ∨ flags = 1) with rfl | rfl <;> split <;> dsimp only <;> decide

/-- A receiver with the same encryptor opens what the encryption step sealed. -/
theorem openPayload_sealPayload (receiver : MeshNode) {encryptor : MeshEncryptor}
    (opens : encryptor.RoundTrips) (sameKey : receiver.encryptor = encryptor) {flags : Nat}
    (small : flags < 2) (payloadToSend associatedData : Bytes) :
    receiver.openPayload (sealPayload encryptor flags payloadToSend associatedData).1
      (sealPayload encryptor flags payloadToSend associatedData).2 associatedData =
        .ok (some payloadToSend) := by
  subst sameKey
  unfold sealPayload openPayload
  split
  · next enabled =>
      obtain ⟨nonceLength, nonEmpty, decrypted⟩ := opens payloadToSend associatedData
      have encrypted : (flags ||| meshFlagEncrypted) &&& meshFlagEncrypted ≠ 0 := by
        rcases (by omega : flags = 0 ∨ flags = 1) with rfl | rfl <;> decide
      have long : ¬ ((receiver.encryptor.encrypt payloadToSend associatedData).1 ++
          (receiver.encryptor.encrypt payloadToSend associatedData).2).length < 13 := by
        have := List.length_pos.mpr nonEmpty
        simp only [List.length_append, nonceLength]
        omega
      simp only [if_pos encrypted, if_neg long, ← nonceLength, List.drop_left,
        slice_prefix, decrypted]
  · next disabled =>
      have plain : flags &&& meshFlagEncrypted = 0 := by
        rcases (by omega : flags = 0 ∨ flags = 1) with rfl | rfl <;> decide
      simp [plain]

/-- An OGM updates the two tables, and a TTL above 1 makes the node pass it
on with its own ID as the previous hop. -/
theorem onKissFrame_of_ogm (node : MeshNode) (now : Time) {frame prevHop originId : Bytes}
    {ttl seqno : Nat} {metric : UInt8}
    (info : frame.drop 16 = headerBytes meshMsgOgm 0 ttl originId seqno ++ (prevHop ++ [metric]))
    (ttlByte : ttl < 256) (eightBytes : originId.length = 8) (seqnoWord : seqno < 2 ^ 32)
    (prevHopEight : prevHop.length = 8) (callsignAscii : isAscii node.config.callsign.toList = true) :
    (node.onKissFrame zlib now frame).node =
        (node.refreshNeighbor now prevHop metric.toNat).updateOriginator now originId seqno prevHop
          metric.toNat ∧
      (1 < ttl → ∃ next, (node.onKissFrame zlib now frame).effects = [.send next] ∧
        next.drop 16 = headerBytes meshMsgOgm 0 (ttl - 1) originId seqno ++ (node.nodeId ++ [metric])) := by
  have handled : node.onKissFrame zlib now frame =
      node.handleOgm now originId seqno ttl prevHop metric.toNat := by
    rw [onKissFrame, classifyFrame_of_ogm info ttlByte eightBytes seqnoWord prevHopEight]
  rw [handled, handleOgm_eq]
  refine ⟨by simp, fun forwarding => ?_⟩
  rw [if_pos forwarding, ogmForward_eq node eightBytes seqnoWord (by omega) (by omega)
    (UInt8.toNat_lt_size metric), UInt8.ofNat_toNat']
  obtain ⟨next, wrapped⟩ := wrapInAx25Ui_ok node callsignAscii
    (headerBytes meshMsgOgm 0 (ttl - 1) originId seqno ++ (node.nodeId ++ [metric]))
  exact ⟨next, by simp [wrapped, Functor.map, Except.map], drop_wrapInAx25Ui wrapped⟩

/-- A DATA frame with a fresh key whose payload opens at the node: the node
records the key, then delivers or forwards. -/
theorem onKissFrame_of_data (node : MeshNode) (now : Time)
    {frame rest destId originId appBytes payload : Bytes} {flags ttl seqno : Nat}
    (info : frame.drop 16 =
      headerBytes meshMsgData flags ttl originId seqno ++ (destId ++ packBE32 seqno ++ rest))
    (flagsByte : flags < 256) (ttlByte : ttl < 256) (eightBytes : originId.length = 8)
    (destEight : destId.length = 8) (seqnoWord : seqno < 2 ^ 32)
    (fresh : node.dataSeen (originId, seqno) = none)
    (opened : node.openPayload flags rest (originId ++ destId ++ packBE32 seqno) = .ok (some appBytes))
    (inflated : inflatePayload zlib flags appBytes = some payload) :
    node.onKissFrame zlib now frame = Reaction.ofExcept (node.markSeen (originId, seqno) now)
      (node.deliverOrForward originId seqno ttl flags (destId ++ packBE32 seqno ++ rest) destId
        seqno payload) := by
  have fourBytes := length_packBE32 seqno
  rw [onKissFrame, classifyFrame_of_data info flagsByte ttlByte eightBytes seqnoWord]
  dsimp only
  rw [handleDataFrame_eq]
  simp only [fresh]
  obtain ⟨dataSeq, unpacked, processed⟩ := node.processData_eq zlib originId seqno ttl flags
    (by simp [destEight, fourBytes]; omega : 12 ≤ (destId ++ packBE32 seqno ++ rest).length)
  have sliced : slice (destId ++ packBE32 seqno ++ rest) 8 12 = packBE32 seqno := by
    rw [slice_append_left (by simp [destEight, fourBytes]), slice_append_right (by omega)]
    simp [destEight, slice, fourBytes]
  rw [sliced, structUnpack_packBE32 seqnoWord, Except.ok.injEq] at unpacked
  subst unpacked
  have split12 : (destId ++ packBE32 seqno ++ rest).take 12 = destId ++ packBE32 seqno := by
    rw [List.take_left' (by simp [destEight, fourBytes])]
  have drop12 : (destId ++ packBE32 seqno ++ rest).drop 12 = rest := by
    rw [List.drop_left' (by simp [destEight, fourBytes])]
  have dest8 : slice (destId ++ packBE32 seqno ++ rest) 0 8 = destId := by
    rw [List.append_assoc, ← destEight, slice_prefix]
  rw [processed, openAndDeliver, split12, drop12, dest8, ← List.append_assoc, opened]
  simp only [inflated]

/-- `send_application_data` to an 8-byte ID puts one DATA frame on the air:
the header with the OGM TTL and the new seqno, then `dest_id ‖ seqno` and the
sealed payload, which a receiver with the same encryptor opens and inflates
back to the payload. -/
theorem sendApplicationData_sends (node : MeshNode) {destNodeId : Bytes} (payload : Bytes)
    (destEight : destNodeId.length = 8) {ttl : Nat} (ttlIs : node.config.routingConfig.ogmTtl = ttl)
    (ttlByte : ttl < 256) (callsignAscii : isAscii node.config.callsign.toList = true) :
    ∃ frame flags rest, (node.sendApplicationData zlib destNodeId payload).effects = [.send frame] ∧
      flags < 256 ∧
      frame.drop 16 = headerBytes meshMsgData flags ttl node.nodeId node.nextSeqno.2.toNat ++
        (destNodeId ++ packBE32 node.nextSeqno.2.toNat ++ rest) ∧
      (zlib.RoundTrips → node.encryptor.RoundTrips → ∀ receiver : MeshNode,
        receiver.encryptor = node.encryptor → ∃ appBytes,
          receiver.openPayload flags rest
            (node.nodeId ++ destNodeId ++ packBE32 node.nextSeqno.2.toNat) = .ok (some appBytes) ∧
          inflatePayload zlib flags appBytes = some payload) := by
  have seqnoWord : node.nextSeqno.2.toNat < 2 ^ 32 := UInt32.toNat_lt_size _
  have smallFlags := compressPayload_flags zlib payload
  obtain ⟨flagsByte, sameBit⟩ := sealPayload_flags node.encryptor smallFlags
    (compressPayload zlib payload).1 (node.nodeId ++ destNodeId ++ packBE32 node.nextSeqno.2.toNat)
  have built : node.nextSeqno.1.buildDataPayload zlib destNodeId node.nextSeqno.2.toNat payload =
      .ok (headerBytes meshMsgData (sealPayload node.encryptor (compressPayload zlib payload).2
          (compressPayload zlib payload).1 (node.nodeId ++ destNodeId ++
            packBE32 node.nextSeqno.2.toNat)).1 ttl node.nodeId node.nextSeqno.2.toNat ++
        (destNodeId ++ packBE32 node.nextSeqno.2.toNat ++ (sealPayload node.encryptor
          (compressPayload zlib payload).2 (compressPayload zlib payload).1
            (node.nodeId ++ destNodeId ++ packBE32 node.nextSeqno.2.toNat)).2)) := by
    simp only [buildDataPayload, structPack_of_lt seqnoWord, config_nextSeqno, nodeId_nextSeqno,
      ttlIs, bind, Except.bind]
    rw [show node.nextSeqno.1.encryptor = node.encryptor from rfl,
      buildMeshHeader_eq (by decide) flagsByte ttlByte (length_nodeId node) seqnoWord]
    rfl
  obtain ⟨frame, wrapped⟩ := wrapInAx25Ui_ok node callsignAscii _
  refine ⟨frame, _, _, ?_, flagsByte, drop_wrapInAx25Ui wrapped,
    fun inflates opens receiver sameKey => ⟨_, openPayload_sealPayload receiver opens sameKey
      smallFlags _ _, inflatePayload_compressPayload zlib inflates payload sameBit⟩⟩
  unfold sendApplicationData
  rw [if_neg (by omega)]
  simp only [built, config_nextSeqno, wrapped, bind, Except.bind, pure, Except.pure]
  rfl

section DataHop

variable (node : MeshNode) (now : Time) {frame rest destId originId appBytes payload : Bytes}
  {flags ttl seqno : Nat}
  (info : frame.drop 16 =
    headerBytes meshMsgData flags ttl originId seqno ++ (destId ++ packBE32 seqno ++ rest))
  (flagsByte : flags < 256) (ttlByte : ttl < 256) (eightBytes : originId.length = 8)
  (destEight : destId.length = 8) (seqnoWord : seqno < 2 ^ 32)
  (fresh : node.dataSeen (originId, seqno) = none)
  (opened : node.openPayload flags rest (originId ++ destId ++ packBE32 seqno) = .ok (some appBytes))
  (inflated : inflatePayload zlib flags appBytes = some payload)
include info flagsByte ttlByte eightBytes destEight seqnoWord fresh opened inflated

/-- A relay with a route passes the frame on: TTL decremented, body unchanged. -/
theorem onKissFrame_relays (elsewhere : destId ≠ node.nodeId) (forwarding : 1 < ttl)
    (routed : (node.routingState.originators destId).isSome)
    (callsignAscii : isAscii node.config.callsign.toList = true) :
    ∃ next, (node.onKissFrame zlib now frame).effects = [.send next] ∧
      next.drop 16 = headerBytes meshMsgData flags (ttl - 1) originId seqno ++
        (destId ++ packBE32 seqno ++ rest) := by
  obtain ⟨next, wrapped⟩ := wrapInAx25Ui_ok node callsignAscii
    (headerBytes meshMsgData flags (ttl - 1) originId seqno ++ (destId ++ packBE32 seqno ++ rest))
  refine ⟨next, ?_, drop_wrapInAx25Ui wrapped⟩
  rw [onKissFrame_of_data zlib node now info flagsByte ttlByte eightBytes destEight seqnoWord fresh
    opened inflated, deliverOrForward_eq node _ destId seqno payload eightBytes seqnoWord flagsByte
    (by omega), if_neg elsewhere, if_neg (by omega), if_pos routed, wrapped]
  rfl

/-- The destination hands the payload to its callback. -/
theorem onKissFrame_delivers (toUs : destId = node.nodeId) (callback : node.appDataCallback = true) :
    (node.onKissFrame zlib now frame).effects = [.deliver originId destId seqno payload] := by
  rw [onKissFrame_of_data zlib node now info flagsByte ttlByte eightBytes destEight seqnoWord fresh
    opened inflated, deliverOrForward_eq node _ destId seqno payload eightBytes seqnoWord flagsByte
    (by omega), if_pos toUs, callback]
  rfl

end DataHop

/-- The node's own OGM: one frame, with the OGM TTL and the new seqno, its
body the node's ID and link metric 255. -/
theorem ogmTick_sends (node : MeshNode) {ttl : Nat} (ttlIs : node.config.routingConfig.ogmTtl = ttl)
    (ttlByte : ttl < 256) (callsignAscii : isAscii node.config.callsign.toList = true) :
    ∃ frame, node.ogmTick.effects = [.send frame] ∧ node.ogmTick.node = node.nextSeqno.1 ∧
      frame.drop 16 = headerBytes meshMsgOgm 0 ttl node.nodeId node.nextSeqno.2.toNat ++
        (node.nodeId ++ [255]) := by
  have built : buildMeshHeader meshMsgOgm 0 node.config.routingConfig.ogmTtl node.nodeId
      node.nextSeqno.2.toNat = .ok (headerBytes meshMsgOgm 0 ttl node.nodeId node.nextSeqno.2.toNat) := by
    rw [ttlIs]
    exact buildMeshHeader_eq (by decide) (by decide) ttlByte (length_nodeId node)
      (UInt32.toNat_lt_size _)
  obtain ⟨frame, wrapped⟩ := wrapInAx25Ui_ok node callsignAscii
    (headerBytes meshMsgOgm 0 ttl node.nodeId node.nextSeqno.2.toNat ++ (node.nodeId ++ [255]))
  refine ⟨frame, ?_, by simp [ogmTick, buildOgmPayload], drop_wrapInAx25Ui wrapped⟩
  have metric : toByte 255 = .ok 255 := toByte_of_lt (by decide : (255 : Nat) < 256)
  simp only [ogmTick, buildOgmPayload, metric, nodeId_nextSeqno, config_nextSeqno, built, bind,
    Except.bind, pure, Except.pure]
  rw [wrapped]
  rfl

/-! ## Relaying down a line -/

/-- Hop-by-hop relay: the frame goes into the first node's `_on_kiss_frame`,
the one frame that node sends into the next node's, and so on; the relay stops
at a node that sends anything other than one frame. -/
def relayChain (now : Time) : List MeshNode → Bytes → List Reaction
  | [], _ => []
  | node :: rest, frame =>
      let reaction := node.onKissFrame zlib now frame
      reaction :: match sentFrames reaction.effects with
        | [next] => relayChain now rest next
        | _ => []

/-- The nodes after a relay: those it reached in their new state, the rest as
they were. -/
def afterRelay (now : Time) (nodes : List MeshNode) (frame : Bytes) : List MeshNode :=
  let reached := relayChain zlib now nodes frame
  reached.map (·.node) ++ nodes.drop reached.length

theorem relayChain_cons_of_sends {node : MeshNode} {now : Time} {frame next : Bytes}
    (rest : List MeshNode) (sends : (node.onKissFrame zlib now frame).effects = [.send next]) :
    relayChain zlib now (node :: rest) frame =
      node.onKissFrame zlib now frame :: relayChain zlib now rest next := by
  simp only [relayChain, sends, sentFrames_send]

/-- What an OGM leaves at a node for the DATA path: the configuration, the
encryptor and the dedup cache as before, and a route to the OGM's origin. -/
structure Learned (originId : Bytes) (node learned : MeshNode) : Prop where
  config : learned.config = node.config
  encryptor : learned.encryptor = node.encryptor
  dataSeen : learned.dataSeen = node.dataSeen
  routed : (learned.routingState.originators originId).isSome

/-- An OGM with TTL above the line's length reaches every node of it, and
each learns a route to the origin. -/
theorem relayChain_ogm (now : Time) {frame prevHop originId : Bytes} {ttl seqno : Nat}
    {metric : UInt8} (hops : List MeshNode)
    (info : frame.drop 16 = headerBytes meshMsgOgm 0 ttl originId seqno ++ (prevHop ++ [metric]))
    (ttlByte : ttl < 256) (eightBytes : originId.length = 8) (seqnoWord : seqno < 2 ^ 32)
    (prevHopEight : prevHop.length = 8)
    (ascii : ∀ node ∈ hops, isAscii node.config.callsign.toList = true)
    (enough : hops.length < ttl) :
    (relayChain zlib now hops frame).length = hops.length ∧
      ∀ reaction ∈ relayChain zlib now hops frame, ∃ node ∈ hops,
        Learned originId node reaction.node := by
  induction hops generalizing frame prevHop ttl with
  | nil => exact ⟨rfl, by simp [relayChain]⟩
  | cons node rest ih =>
      rw [List.length_cons] at enough
      obtain ⟨updated, forwards⟩ := node.onKissFrame_of_ogm zlib now info ttlByte eightBytes
        seqnoWord prevHopEight (ascii node (.head _))
      obtain ⟨next, sends, nextInfo⟩ := forwards (by omega)
      obtain ⟨length, learned⟩ := ih nextInfo (by omega) (length_nodeId node)
        (fun other mem => ascii other (.tail _ mem)) (by omega)
      have here : Learned originId node (node.onKissFrame zlib now frame).node := by
        rw [updated]
        exact ⟨by simp, by simp, by simp, isSome_originators_updateOriginator ..⟩
      rw [relayChain_cons_of_sends zlib rest sends]
      refine ⟨by simp [length], ?_⟩
      rintro reaction (_ | ⟨_, mem⟩)
      · exact ⟨node, .head _, here⟩
      · obtain ⟨other, otherMem, otherLearned⟩ := learned reaction mem
        exact ⟨other, .tail _ otherMem, otherLearned⟩

section DataRelay

variable (now : Time) {originId destId rest payload : Bytes} {flags seqno : Nat}
  (flagsByte : flags < 256) (eightBytes : originId.length = 8) (destEight : destId.length = 8)
  (seqnoWord : seqno < 2 ^ 32)
include flagsByte eightBytes destEight seqnoWord

/-- What the DATA relay needs at a node: a fresh key, and a payload that the
node opens and inflates. -/
def Accepts (originId destId rest payload : Bytes) (flags seqno : Nat) (node : MeshNode) : Prop :=
  node.dataSeen (originId, seqno) = none ∧ ∃ appBytes,
    node.openPayload flags rest (originId ++ destId ++ packBE32 seqno) = .ok (some appBytes) ∧
    inflatePayload zlib flags appBytes = some payload

/-- A DATA frame with TTL above the number of relays goes up the line: each
relay sends one frame, and the destination delivers the payload once. -/
theorem relayChain_data (dest : MeshNode) (toDest : destId = dest.nodeId)
    (callback : dest.appDataCallback = true)
    (destAccepts : Accepts zlib originId destId rest payload flags seqno dest)
    (relays : List MeshNode)
    (relaying : ∀ node ∈ relays, destId ≠ node.nodeId ∧
      (node.routingState.originators destId).isSome ∧
      isAscii node.config.callsign.toList = true ∧ Accepts zlib originId destId rest payload flags seqno node)
    {frame : Bytes} {ttl : Nat}
    (info : frame.drop 16 =
      headerBytes meshMsgData flags ttl originId seqno ++ (destId ++ packBE32 seqno ++ rest))
    (ttlByte : ttl < 256) (enough : relays.length < ttl) :
    ∃ relayed : List Bytes, relayed.length = relays.length ∧
      (relayChain zlib now (relays ++ [dest]) frame).map (·.effects) =
        relayed.map (fun next => [Effect.send next]) ++ [[.deliver originId destId seqno payload]] := by
  induction relays generalizing frame ttl with
  | nil =>
      obtain ⟨fresh, appBytes, opened, inflated⟩ := destAccepts
      have delivers := dest.onKissFrame_delivers zlib now info flagsByte ttlByte eightBytes destEight
        seqnoWord fresh opened inflated toDest callback
      exact ⟨[], rfl, by simp [relayChain, delivers]⟩
  | cons node others ih =>
      rw [List.length_cons] at enough
      obtain ⟨elsewhere, routed, callsignAscii, fresh, appBytes, opened, inflated⟩ :=
        relaying node (.head _)
      obtain ⟨next, sends, nextInfo⟩ := node.onKissFrame_relays zlib now info flagsByte ttlByte
        eightBytes destEight seqnoWord fresh opened inflated elsewhere (by omega) routed callsignAscii
      obtain ⟨relayed, length, chain⟩ := ih (fun other mem => relaying other (.tail _ mem)) nextInfo
        (by omega) (by omega)
      refine ⟨next :: relayed, by simp [length], ?_⟩
      rw [List.cons_append, relayChain_cons_of_sends zlib _ sends, List.map_cons, chain, sends]
      rfl

end DataRelay

/-! ## The line -/

/-- The line `origin, relays, dest`: `dest`'s own OGM relayed down the relays
from its end, then `origin`'s DATA to `dest` relayed up the line.  The sender's
reaction, and the reactions of the DATA relay in line order. -/
def sendAlongLine (now : Time) (origin : MeshNode) (relays : List MeshNode) (dest : MeshNode)
    (payload : Bytes) : Reaction × List Reaction :=
  let beacon := dest.ogmTick
  let learned := match sentFrames beacon.effects with
    | [frame] => (afterRelay zlib now relays.reverse frame).reverse
    | _ => relays
  let sent := origin.sendApplicationData zlib dest.nodeId payload
  (sent, match sentFrames sent.effects with
    | [frame] => relayChain zlib now (learned ++ [beacon.node]) frame
    | _ => [])

/-- Multi-hop delivery: on a line of fresh nodes sharing one encryptor and
one routing configuration, no longer than the OGM TTL, the sender sends one
frame, every relay sends one frame and delivers nothing, and the destination
delivers the payload once, under the sender's ID and seqno. -/
theorem sendAlongLine_delivers (now : Time) (encryptor : MeshEncryptor)
    (routing : MeshRoutingConfig) (origin dest : MeshNode) (relays : List MeshNode) (payload : Bytes)
    (fresh : ∀ node ∈ origin :: relays ++ [dest], ∃ callsign meshDestCallsign appDataCallback,
      MeshNode.new ⟨callsign, meshDestCallsign, routing⟩ encryptor appDataCallback = .ok node)
    (distinct : ∀ relay ∈ relays, relay.nodeId ≠ dest.nodeId)
    (ascii : ∀ node ∈ origin :: relays ++ [dest], isAscii node.config.callsign.toList = true)
    (ttlByte : routing.ogmTtl ≤ 255) (long : relays.length + 1 ≤ routing.ogmTtl)
    (callback : dest.appDataCallback = true) (inflates : zlib.RoundTrips)
    (opens : encryptor.RoundTrips) :
    ∃ (frame : Bytes) (relayed : List Bytes), (sendAlongLine zlib now origin relays dest payload).1.effects = [.send frame] ∧
      relayed.length = relays.length ∧
      (sendAlongLine zlib now origin relays dest payload).2.map (·.effects) =
        relayed.map (fun next => [Effect.send next]) ++
          [[.deliver origin.nodeId dest.nodeId origin.nextSeqno.2.toNat payload]] := by
  have shared : ∀ node ∈ origin :: relays ++ [dest], node.config.routingConfig = routing ∧
      node.encryptor = encryptor ∧ node.dataSeen = fun _ => none := by
    intro node mem
    obtain ⟨_, _, _, created⟩ := fresh node mem
    obtain ⟨config, keyed, -, -, -, empty⟩ := eq_of_new created
    exact ⟨by rw [config], keyed, empty⟩
  have relayIn : ∀ relay ∈ relays, relay ∈ origin :: relays ++ [dest] := fun relay mem => by
    simp [mem]
  have destIn : dest ∈ origin :: relays ++ [dest] := by simp
  have originIn : origin ∈ origin :: relays ++ [dest] := .head _
  obtain ⟨ttl, ttlIs⟩ : ∃ ttl : Nat, routing.ogmTtl = ttl := ⟨routing.ogmTtl.toNat, by omega⟩
  have ttlNat : ttl < 256 := by omega
  have enough : relays.length < ttl := by omega
  -- `dest`'s OGM teaches every relay a route to it
  obtain ⟨beacon, beaconSends, beaconNode, beaconInfo⟩ := dest.ogmTick_sends
    (by rw [(shared dest destIn).1, ttlIs]) ttlNat (ascii dest destIn)
  obtain ⟨reached, learned⟩ := relayChain_ogm zlib now relays.reverse beaconInfo ttlNat
    (length_nodeId dest) (UInt32.toNat_lt_size _) (length_nodeId dest)
    (fun relay mem => ascii relay (relayIn relay (List.mem_reverse.1 mem))) (by simpa using enough)
  -- `origin`'s DATA frame
  obtain ⟨frame, flags, rest, sends, flagsByte, info, opensAt⟩ := origin.sendApplicationData_sends
    zlib payload (length_nodeId dest) (by rw [(shared origin originIn).1, ttlIs]) ttlNat
    (ascii origin originIn)
  have accepts : ∀ node, node.encryptor = encryptor → node.dataSeen = (fun _ => none) →
      Accepts zlib origin.nodeId dest.nodeId rest payload flags origin.nextSeqno.2.toNat node :=
    fun node keyed empty => ⟨by rw [empty], opensAt inflates
      (by rw [(shared origin originIn).2.1]; exact opens) node
      (by rw [keyed, (shared origin originIn).2.1])⟩
  have relaying : ∀ node ∈ ((relayChain zlib now relays.reverse beacon).map (·.node)).reverse,
      dest.nodeId ≠ node.nodeId ∧ (node.routingState.originators dest.nodeId).isSome ∧
        isAscii node.config.callsign.toList = true ∧
        Accepts zlib origin.nodeId dest.nodeId rest payload flags origin.nextSeqno.2.toNat node := by
    intro node mem
    obtain ⟨reaction, reactionMem, rfl⟩ := List.mem_map.1 (List.mem_reverse.1 mem)
    obtain ⟨relay, relayMem, learnedAt⟩ := learned reaction reactionMem
    have relayMem := List.mem_reverse.1 relayMem
    have sameId : reaction.node.nodeId = relay.nodeId := by
      unfold nodeId
      rw [learnedAt.config]
    refine ⟨by rw [sameId]; exact (distinct relay relayMem).symm, learnedAt.routed,
      by rw [learnedAt.config]; exact ascii relay (relayIn relay relayMem), accepts _ ?_ ?_⟩
    · rw [learnedAt.encryptor, (shared relay (relayIn relay relayMem)).2.1]
    · rw [learnedAt.dataSeen, (shared relay (relayIn relay relayMem)).2.2]
  obtain ⟨relayed, relayedLength, chain⟩ := relayChain_data zlib now flagsByte (length_nodeId origin)
    (length_nodeId dest) (UInt32.toNat_lt_size _) dest.ogmTick.node (by rw [beaconNode]; rfl)
    (by rw [beaconNode]; exact callback)
    (accepts _ (by rw [beaconNode]; exact (shared dest destIn).2.1)
      (by rw [beaconNode]; exact (shared dest destIn).2.2))
    _ relaying info ttlNat (by simpa [reached] using enough)
  refine ⟨frame, relayed, sends, by simpa [reached] using relayedLength, ?_⟩
  simp only [sendAlongLine, beaconSends, sends, sentFrames_send, afterRelay, reached,
    List.drop_length, List.append_nil]
  exact chain

/-- Stand-ins that meet the round-trip contracts: a codec that stores data as
it is, and a cipher that sends a zero nonce and a one-byte tag before the
plaintext. -/
def storeZlib : Zlib := ⟨id, some⟩

def tagCipher : MeshEncryptor :=
  ⟨true, fun plaintext _ => (List.replicate 12 0, 0 :: plaintext), fun _ ciphertext _ => ciphertext.tail?⟩

def lineRouting : MeshRoutingConfig := ⟨5, 120, 60, 30⟩

/-- A fresh station of the line. -/
def lineStation (callsign : String) (appDataCallback : Bool) : MeshNode :=
  ⟨⟨callsign, "QMESH", lineRouting⟩, tagCipher, appDataCallback, ⟨fun _ => none, fun _ => none⟩, 0,
    fun _ => none, (by decide : isAscii "QMESH".toList = true)⟩

theorem sendAlongLine_delivers_fourStations :
    ∃ (frame : Bytes) (relayed : List Bytes),
      (sendAlongLine storeZlib 0 (lineStation "N0CALL" false)
        [lineStation "N1CALL" false, lineStation "N2CALL" false] (lineStation "N3CALL" true)
        [0x68, 0x69]).1.effects = [.send frame] ∧
      relayed.length = 2 ∧
      (sendAlongLine storeZlib 0 (lineStation "N0CALL" false)
        [lineStation "N1CALL" false, lineStation "N2CALL" false] (lineStation "N3CALL" true)
        [0x68, 0x69]).2.map (·.effects) =
        relayed.map (fun next => [Effect.send next]) ++
          [[.deliver (deriveNodeId "N0CALL") (deriveNodeId "N3CALL") 1 [0x68, 0x69]]] :=
  sendAlongLine_delivers storeZlib 0 tagCipher lineRouting _ _ _ _
    (by
      intro node mem
      simp only [List.cons_append, List.nil_append, List.mem_cons, List.not_mem_nil, or_false] at mem
      rcases mem with rfl | rfl | rfl | rfl
      · exact ⟨"N0CALL", "QMESH", false, rfl⟩
      · exact ⟨"N1CALL", "QMESH", false, rfl⟩
      · exact ⟨"N2CALL", "QMESH", false, rfl⟩
      · exact ⟨"N3CALL", "QMESH", true, rfl⟩)
    (by decide) (by decide) (by decide) (by decide) rfl (fun _ => rfl)
    (fun _ _ => ⟨rfl, List.cons_ne_nil _ _, rfl⟩)

/-! ## Encryption does not authenticate -/

/-- A DATA frame that needs no key: any 16 bytes in place of the AX.25
addresses, a DATA header with no flag set, and `dest_id ‖ data_seq` in front of
the payload in clear. -/
def plainDataFrame (addresses originId destId : Bytes) (ttl seqno : Nat) (payload : Bytes) : Bytes :=
  addresses ++ (headerBytes meshMsgData 0 ttl originId seqno ++ (destId ++ packBE32 seqno ++ payload))

/-- `encryption_enabled` is read only when sending, and `_handle_data_frame`
decrypts only a frame whose own `ENCRYPTED` flag is set.  So every node, one
with a key configured included, hands its application any payload sent to it
in clear, as coming from whatever `origin_id` the frame names: neither the
AX.25 addresses nor the origin are checked, and only the dedup key must be new. -/
theorem plainDataFrame_delivered (node : MeshNode) (now : Time) {addresses originId : Bytes}
    (sixteen : addresses.length = 16) (eightBytes : originId.length = 8) {ttl seqno : Nat}
    (ttlByte : ttl < 256) (seqnoWord : seqno < 2 ^ 32) (payload : Bytes)
    (fresh : node.dataSeen (originId, seqno) = none) (callback : node.appDataCallback = true) :
    (node.onKissFrame zlib now (plainDataFrame addresses originId node.nodeId ttl seqno payload)).effects =
      [.deliver originId node.nodeId seqno payload] :=
  onKissFrame_delivers zlib node now (List.drop_left' sixteen) (by decide) ttlByte eightBytes
    (length_nodeId node) seqnoWord fresh rfl rfl rfl callback

/-- A station of the line, with its key, takes `hi` sent in clear as coming
from `N2CALL`. -/
theorem plainDataFrame_delivered_keyedStation :
    (lineStation "N1CALL" true).encryptor.encryptionEnabled = true ∧
      (List.replicate 16 0 : Bytes).length = 16 ∧ (deriveNodeId "N2CALL").length = 8 ∧ 5 < 256 ∧
      1 < 2 ^ 32 ∧ (lineStation "N1CALL" true).dataSeen (deriveNodeId "N2CALL", 1) = none ∧
      (lineStation "N1CALL" true).appDataCallback = true ∧
      ((lineStation "N1CALL" true).onKissFrame storeZlib 0
        (plainDataFrame (List.replicate 16 0) (deriveNodeId "N2CALL") (lineStation "N1CALL" true).nodeId 5 1
          [0x68, 0x69])).effects =
        [.deliver (deriveNodeId "N2CALL") (lineStation "N1CALL" true).nodeId 1 [0x68, 0x69]] :=
  ⟨rfl, rfl, rfl, by decide, by decide, rfl, rfl,
    @plainDataFrame_delivered storeZlib (lineStation "N1CALL" true) 0 (List.replicate 16 0)
      (deriveNodeId "N2CALL") rfl rfl 5 1 (by decide) (by decide) [0x68, 0x69] rfl rfl⟩

/-! ## The dedup cache is the only replay defence -/

/-- For a packet addressed to the node, the processing reads of the node only
its configuration, its encryptor and whether a callback is registered: not its
routes, which only forwarding consults. -/
theorem processData_of_toUs {node other : MeshNode} (config : other.config = node.config)
    (encryptor : other.encryptor = node.encryptor) (callback : other.appDataCallback = node.appDataCallback)
    (originId : Bytes) (seqno ttl flags : Nat) {body : Bytes} (toUs : slice body 0 8 = node.nodeId) :
    other.processData zlib originId seqno ttl flags body = node.processData zlib originId seqno ttl flags body := by
  have toOther : slice body 0 8 = other.nodeId := by rw [toUs, nodeId, nodeId, config]
  simp only [processData, openAndDeliver, openPayload, deliverOrForward, encryptor, callback, config,
    if_pos toUs, if_pos toOther]

/-- A frame replayed once a sweep has forgotten its key is handled as the first
time.  `_handle_data_frame` remembers a packet only in `_data_seen`, and nothing
else in the frame dates it: a DATA frame for this node that arrived with a new
key, captured and sent again after a sweep found its key expired, makes the
same calls out, its delivery to the application included, and raises the same. -/
theorem replay_after_sweep (node : MeshNode) (now : Time) {frame body : Bytes} {header : MeshHeader}
    (classified : classifyFrame frame = .data header body) (toUs : slice body 0 8 = node.nodeId)
    (fresh : node.dataSeen (header.originId, header.seqno) = none) {sweepTime : Time}
    (expired : node.config.routingConfig.dataSeenExpirySeconds < sweepTime - now) (later : Time) :
    let first := node.onKissFrame zlib now frame
    let again := (first.node.cleanup sweepTime).onKissFrame zlib later frame
    again.effects = first.effects ∧ again.raised = first.raised := by
  intro first again
  let key := (header.originId, header.seqno)
  have firstIs : first = Reaction.ofExcept (node.markSeen key now)
      ((node.markSeen key now).processData zlib header.originId header.seqno header.ttl header.flags body) := by
    simp only [first, onKissFrame, classified, handleDataFrame, fresh]
  -- the sweep forgets the key, so the replay passes the dedup gate again
  have forgotten : ((node.markSeen key now).cleanup sweepTime).dataSeen key = none := by
    simp only [key, dataSeen_cleanup, dataSeen_markSeen, Function.update_same, Option.filter_some,
      MeshNode.expired, config_markSeen]
    simp [show sweepTime - now > node.config.routingConfig.dataSeenExpirySeconds from expired]
  have againIs : again = Reaction.ofExcept (((node.markSeen key now).cleanup sweepTime).markSeen key later)
      ((((node.markSeen key now).cleanup sweepTime).markSeen key later).processData zlib header.originId
        header.seqno header.ttl header.flags body) := by
    simp only [again, firstIs, Reaction.node_ofExcept, onKissFrame, classified, handleDataFrame]
    rw [forgotten]
  have same : (((node.markSeen key now).cleanup sweepTime).markSeen key later).processData zlib header.originId
      header.seqno header.ttl header.flags body =
        (node.markSeen key now).processData zlib header.originId header.seqno header.ttl header.flags body :=
    @processData_of_toUs zlib (node.markSeen key now) (((node.markSeen key now).cleanup sweepTime).markSeen key later)
      rfl rfl rfl _ _ _ _ body toUs
  rw [againIs, firstIs, same]
  cases (node.markSeen key now).processData zlib header.originId header.seqno header.ttl header.flags body <;>
    exact ⟨rfl, rfl⟩

/-- `hi` for `N1CALL`, sent in clear under `N2CALL`'s ID. -/
def plainHi : Bytes :=
  plainDataFrame (List.replicate 16 0) (deriveNodeId "N2CALL") (lineStation "N1CALL" true).nodeId 5 1
    [0x68, 0x69]

theorem replay_after_sweep_plainHi :
    classifyFrame plainHi = .data ⟨meshVersion, meshMsgData, 0, 5, deriveNodeId "N2CALL", 1⟩
        ((lineStation "N1CALL" true).nodeId ++ packBE32 1 ++ [0x68, 0x69]) ∧
      slice ((lineStation "N1CALL" true).nodeId ++ packBE32 1 ++ [0x68, 0x69]) 0 8 =
        (lineStation "N1CALL" true).nodeId ∧
      (lineStation "N1CALL" true).dataSeen (deriveNodeId "N2CALL", 1) = none ∧
      (lineStation "N1CALL" true).config.routingConfig.dataSeenExpirySeconds < 100 - 0 ∧
      (let first := (lineStation "N1CALL" true).onKissFrame storeZlib 0 plainHi;
        let again := (first.node.cleanup 100).onKissFrame storeZlib 200 plainHi;
        again.effects = first.effects ∧ again.raised = first.raised) :=
  have classified : classifyFrame plainHi = .data ⟨meshVersion, meshMsgData, 0, 5, deriveNodeId "N2CALL", 1⟩
      ((lineStation "N1CALL" true).nodeId ++ packBE32 1 ++ [0x68, 0x69]) :=
    classifyFrame_of_data (List.drop_left' rfl) (by decide) (by decide) rfl (by decide)
  have toUs : slice ((lineStation "N1CALL" true).nodeId ++ packBE32 1 ++ [0x68, 0x69]) 0 8 =
      (lineStation "N1CALL" true).nodeId := by decide
  ⟨classified, toUs, rfl, by decide, replay_after_sweep storeZlib _ 0 classified toUs rfl (by decide) 200⟩

/-- The replay is delivered a second time. -/
example : let first := (lineStation "N1CALL" true).onKissFrame storeZlib 0 plainHi
    ((first.node.cleanup 100).onKissFrame storeZlib 200 plainHi).effects =
      [.deliver (deriveNodeId "N2CALL") (lineStation "N1CALL" true).nodeId 1 [0x68, 0x69]] := by
  decide

end MeshNode

end ArdopMeshChat
