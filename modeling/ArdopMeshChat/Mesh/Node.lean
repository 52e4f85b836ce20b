import ArdopMeshChat.Mesh.State

/-!
# What a node does

`_on_kiss_frame` and the two handlers it dispatches to, the builders of the
node's own OGMs and DATA packets, and `send_application_data`.  Where a method
first changes the node's state and then computes a frame that may still raise,
the frame is an `Except` computed from the new state: that is the state Python
leaves behind when the exception escapes.
-/

namespace ArdopMeshChat

variable (zlib : Zlib)

namespace MeshNode

/-! ## OGMs -/

/-- `MeshNode._build_ogm_payload`: a fresh seqno, the OGM header with the
configured TTL, and the body `prev_hop ‖ link_metric` of an own OGM. -/
def buildOgmPayload (node : MeshNode) : MeshNode × Except PyError Bytes :=
  let (node, seqno) := node.nextSeqno
  (node, do
    let meshHeader ←
      buildMeshHeader meshMsgOgm 0 node.config.routingConfig.ogmTtl node.nodeId seqno.toNat
    let prevHop := node.nodeId
    let linkMetric : Int := 255
    let body := prevHop ++ [← toByte linkMetric]
    return meshHeader ++ body)

/-- One iteration of `_ogm_loop`: build, wrap and send an own OGM. -/
def ogmTick (node : MeshNode) : Reaction :=
  let (node, payload) := node.buildOgmPayload
  Reaction.ofExcept node do
    let frame ← wrapInAx25Ui node.config (← payload)
    return [.send frame]

/-- The neighbor update of `_handle_ogm`: whether the entry exists or not, it
ends up holding the arrival time and the link metric. -/
def refreshNeighbor (node : MeshNode) (now : Time) (prevHopId : Bytes) (linkMetric : Nat) :
    MeshNode :=
  { node with routingState := { node.routingState with
      neighbors := Function.update node.routingState.neighbors prevHopId
        (some ⟨now, linkMetric⟩) } }

/-- Store an originator entry. -/
def setOriginator (node : MeshNode) (originId : Bytes) (entry : OriginatorEntry) : MeshNode :=
  { node with routingState := { node.routingState with
      originators := Function.update node.routingState.originators originId (some entry) } }

/-- The originator update of `_handle_ogm`: insert when absent, replace on a
strictly greater seqno, leave the entry alone otherwise. -/
def updateOriginator (node : MeshNode) (now : Time) (originId : Bytes) (seqno : Nat)
    (prevHopId : Bytes) (linkMetric : Nat) : MeshNode :=
  match node.routingState.originators originId with
  | none => node.setOriginator originId ⟨prevHopId, seqno, linkMetric, now⟩
  | some entry =>
      if seqno > entry.lastSeqno then node.setOriginator originId ⟨prevHopId, seqno, linkMetric, now⟩
      else node

section Frames

variable (node : MeshNode) (now : Time) (key : Bytes)

@[simp] theorem config_refreshNeighbor (linkMetric : Nat) :
    (node.refreshNeighbor now key linkMetric).config = node.config := rfl
@[simp] theorem appDataCallback_refreshNeighbor (linkMetric : Nat) :
    (node.refreshNeighbor now key linkMetric).appDataCallback = node.appDataCallback := rfl
@[simp] theorem encryptor_refreshNeighbor (linkMetric : Nat) :
    (node.refreshNeighbor now key linkMetric).encryptor = node.encryptor := rfl
@[simp] theorem dataSeen_refreshNeighbor (linkMetric : Nat) :
    (node.refreshNeighbor now key linkMetric).dataSeen = node.dataSeen := rfl
@[simp] theorem originators_refreshNeighbor (linkMetric : Nat) :
    (node.refreshNeighbor now key linkMetric).routingState.originators =
      node.routingState.originators := rfl
@[simp] theorem neighbors_refreshNeighbor (linkMetric : Nat) :
    (node.refreshNeighbor now key linkMetric).routingState.neighbors =
      Function.update node.routingState.neighbors key (some ⟨now, linkMetric⟩) := rfl

@[simp] theorem config_setOriginator (entry : OriginatorEntry) :
    (node.setOriginator key entry).config = node.config := rfl
@[simp] theorem appDataCallback_setOriginator (entry : OriginatorEntry) :
    (node.setOriginator key entry).appDataCallback = node.appDataCallback := rfl
@[simp] theorem encryptor_setOriginator (entry : OriginatorEntry) :
    (node.setOriginator key entry).encryptor = node.encryptor := rfl
@[simp] theorem dataSeen_setOriginator (entry : OriginatorEntry) :
    (node.setOriginator key entry).dataSeen = node.dataSeen := rfl
@[simp] theorem originators_setOriginator (entry : OriginatorEntry) :
    (node.setOriginator key entry).routingState.originators =
      Function.update node.routingState.originators key (some entry) := rfl
@[simp] theorem neighbors_setOriginator (entry : OriginatorEntry) :
    (node.setOriginator key entry).routingState.neighbors = node.routingState.neighbors := rfl

/-- The three cases of the originator update. -/
theorem updateOriginator_cases (seqno : Nat) (prevHopId : Bytes) (linkMetric : Nat) :
    node.updateOriginator now key seqno prevHopId linkMetric =
        node.setOriginator key ⟨prevHopId, seqno, linkMetric, now⟩ ∧
      (∀ entry, node.routingState.originators key = some entry → seqno > entry.lastSeqno) ∨
    node.updateOriginator now key seqno prevHopId linkMetric = node ∧
      ∃ entry, node.routingState.originators key = some entry ∧ seqno ≤ entry.lastSeqno := by
  unfold updateOriginator
  split
  · next absent => exact .inl ⟨rfl, by simp [absent]⟩
  · next entry present =>
      split
      · next greater => exact .inl ⟨rfl, by simp [present, greater]⟩
      · next notGreater => exact .inr ⟨rfl, entry, present, by omega⟩

@[simp] theorem config_updateOriginator (seqno : Nat) (prevHopId : Bytes) (linkMetric : Nat) :
    (node.updateOriginator now key seqno prevHopId linkMetric).config = node.config := by
  rcases updateOriginator_cases node now key seqno prevHopId linkMetric with
    ⟨result, -⟩ | ⟨result, -⟩ <;> simp [result]
@[simp] theorem appDataCallback_updateOriginator (seqno : Nat) (prevHopId : Bytes)
    (linkMetric : Nat) :
    (node.updateOriginator now key seqno prevHopId linkMetric).appDataCallback =
      node.appDataCallback := by
  rcases updateOriginator_cases node now key seqno prevHopId linkMetric with
    ⟨result, -⟩ | ⟨result, -⟩ <;> simp [result]
@[simp] theorem dataSeen_updateOriginator (seqno : Nat) (prevHopId : Bytes) (linkMetric : Nat) :
    (node.updateOriginator now key seqno prevHopId linkMetric).dataSeen = node.dataSeen := by
  rcases updateOriginator_cases node now key seqno prevHopId linkMetric with
    ⟨result, -⟩ | ⟨result, -⟩ <;> simp [result]
@[simp] theorem encryptor_updateOriginator (seqno : Nat) (prevHopId : Bytes) (linkMetric : Nat) :
    (node.updateOriginator now key seqno prevHopId linkMetric).encryptor = node.encryptor := by
  rcases updateOriginator_cases node now key seqno prevHopId linkMetric with
    ⟨result, -⟩ | ⟨result, -⟩ <;> simp [result]
@[simp] theorem neighbors_updateOriginator (seqno : Nat) (prevHopId : Bytes) (linkMetric : Nat) :
    (node.updateOriginator now key seqno prevHopId linkMetric).routingState.neighbors =
      node.routingState.neighbors := by
  rcases updateOriginator_cases node now key seqno prevHopId linkMetric with
    ⟨result, -⟩ | ⟨result, -⟩ <;> simp [result]

/-- After an OGM for an origin the node has a route to it, whichever case applied. -/
theorem isSome_originators_updateOriginator (seqno : Nat) (prevHopId : Bytes) (linkMetric : Nat) :
    ((node.updateOriginator now key seqno prevHopId linkMetric).routingState.originators key).isSome := by
  rcases updateOriginator_cases node now key seqno prevHopId linkMetric with
    ⟨result, -⟩ | ⟨result, entry, present, -⟩ <;> simp [result, *]

end Frames

/-- The OGM `_handle_ogm` rebroadcasts: TTL decremented, origin and seqno
kept, body replaced by the node's own ID and the received link metric. -/
def ogmForward (node : MeshNode) (originId : Bytes) (seqno ttl linkMetric : Nat) :
    Except PyError Bytes := do
  let fwdTtl : Int := ttl - 1
  let meshHeader ← buildMeshHeader meshMsgOgm 0 fwdTtl originId seqno
  let fwdBody := node.nodeId ++ [← toByte linkMetric]
  wrapInAx25Ui node.config (meshHeader ++ fwdBody)

/-- `MeshNode._handle_ogm` at time `now`. -/
def handleOgm (node : MeshNode) (now : Time) (originId : Bytes) (seqno ttl : Nat)
    (prevHopId : Bytes) (linkMetric : Nat) : Reaction :=
  let node := (node.refreshNeighbor now prevHopId linkMetric).updateOriginator now originId seqno
    prevHopId linkMetric
  Reaction.ofExcept node
    (if ttl > 1 then (fun frame => [.send frame]) <$> node.ogmForward originId seqno ttl linkMetric
    else .ok [])

/-! ## DATA -/

/-- The compression step of `_build_data_payload`: the compressed bytes and
`COMPRESSED` when they are strictly shorter. -/
def compressPayload (appPayload : Bytes) : Bytes × Nat :=
  let compressed := zlib.compress appPayload
  if compressed.length < appPayload.length then (compressed, meshFlagCompressed)
  else (appPayload, 0)

/-- The encryption step of `_build_data_payload`: with a key configured,
`ENCRYPTED` and `nonce ‖ ciphertext` in place of the bytes to send. -/
def sealPayload (encryptor : MeshEncryptor) (flags : Nat) (payloadToSend associatedData : Bytes) :
    Nat × Bytes :=
  if encryptor.encryptionEnabled then
    -- `nonce, ciphertext = encrypt(...)`, sent as `nonce + ciphertext`
    let encrypted := encryptor.encrypt payloadToSend associatedData
    (flags ||| meshFlagEncrypted, encrypted.1 ++ encrypted.2)
  else (flags, payloadToSend)

/-- `MeshNode._build_data_payload`: compress when that is strictly shorter,
encrypt when a key is configured, behind a DATA header with the OGM TTL. -/
def buildDataPayload (node : MeshNode) (destId : Bytes) (dataSeqno : Nat) (appPayload : Bytes) :
    Except PyError Bytes := do
  let (payloadToSend, flags) := compressPayload zlib appPayload
  -- `struct.pack(">I", data_seqno)`, packed alike for the AAD and for the body
  let seqnoBytes ← structPack dataSeqno
  let associatedData := node.nodeId ++ destId ++ seqnoBytes
  let (flags, sealed) := sealPayload node.encryptor flags payloadToSend associatedData
  let meshHeader ←
    buildMeshHeader meshMsgData flags node.config.routingConfig.ogmTtl node.nodeId dataSeqno
  return meshHeader ++ (destId ++ seqnoBytes ++ sealed)

/-- `MeshNode.send_application_data`. -/
def sendApplicationData (node : MeshNode) (destNodeId payload : Bytes) : Reaction :=
  if destNodeId.length ≠ 8 then
    ⟨node, [], some (.valueError "dest_node_id must be exactly 8 bytes")⟩
  else
    let (node, seqno) := node.nextSeqno
    Reaction.ofExcept node do
      let meshPayload ← node.buildDataPayload zlib destNodeId seqno.toNat payload
      let frame ← wrapInAx25Ui node.config meshPayload
      return [.send frame]

/-- The `ENCRYPTED` step of `_handle_data_frame`: the bytes decryption leaves,
`none` when a ciphertext shorter than 13 bytes drops the frame; a failed
decryption raises. -/
def openPayload (node : MeshNode) (flags : Nat) (remainder associatedData : Bytes) :
    Except PyError (Option Bytes) :=
  if flags &&& meshFlagEncrypted ≠ 0 then
    if remainder.length < 13 then .ok none
    else
      match node.encryptor.decrypt (slice remainder 0 12) (remainder.drop 12) associatedData with
      | some decrypted => .ok (some decrypted)
      | none => .error .authFail
  else .ok (some remainder)

/-- The `COMPRESSED` step of `_handle_data_frame`: a `zlib.error` drops the frame. -/
def inflatePayload (flags : Nat) (appBytes : Bytes) : Option Bytes :=
  if flags &&& meshFlagCompressed ≠ 0 then zlib.decompress appBytes else some appBytes

/-- The last step of `_handle_data_frame`: deliver a packet for this node, or
forward it with the TTL decremented and the received body unchanged. -/
def deliverOrForward (node : MeshNode) (originId : Bytes) (seqno ttl flags : Nat)
    (body destId : Bytes) (dataSeq : Nat) (appBytes : Bytes) : Except PyError (List Effect) :=
  if destId = node.nodeId then
    .ok (if node.appDataCallback then [.deliver originId destId dataSeq appBytes] else [])
  else if ttl ≤ 1 then .ok []
  else
    match node.lookupBestNextHop destId with
    | none => .ok []
    | some _ => do
      let fwdTtl : Int := ttl - 1
      let meshHeader ← buildMeshHeader meshMsgData flags fwdTtl originId seqno
      let frame ← wrapInAx25Ui node.config (meshHeader ++ body)
      return [.send frame]

/-- The steps of `_handle_data_frame` after the associated data is built:
decrypt the remainder past offset 12, decompress, then deliver or forward. -/
def openAndDeliver (node : MeshNode) (originId : Bytes) (seqno ttl flags : Nat) (body destId : Bytes)
    (dataSeq : Nat) (associatedData : Bytes) : Except PyError (List Effect) :=
  match node.openPayload flags (body.drop 12) associatedData with
  | .error err => .error err
  | .ok none => .ok []
  | .ok (some appBytes) =>
    match inflatePayload zlib flags appBytes with
    | none => .ok []
    | some appBytes =>
      node.deliverOrForward originId seqno ttl flags body destId dataSeq appBytes

/-- `_handle_data_frame` past its dedup gate. -/
def processData (node : MeshNode) (originId : Bytes) (seqno ttl flags : Nat) (body : Bytes) :
    Except PyError (List Effect) :=
  if body.length < 12 then .ok [] else
  let destId := slice body 0 8
  match structUnpack (slice body 8 12) with
  | .error err => .error err
  | .ok dataSeq =>
    match structPack dataSeq with
    | .error err => .error err
    | .ok seqBytes =>
      let associatedData := originId ++ destId ++ seqBytes
      node.openAndDeliver zlib originId seqno ttl flags body destId dataSeq associatedData

/-- Record a key in the dedup cache. -/
def markSeen (node : MeshNode) (key : DataKey) (now : Time) : MeshNode :=
  { node with dataSeen := Function.update node.dataSeen key (some now) }

@[simp] theorem config_markSeen (node : MeshNode) (key : DataKey) (now : Time) :
    (node.markSeen key now).config = node.config := rfl
@[simp] theorem appDataCallback_markSeen (node : MeshNode) (key : DataKey) (now : Time) :
    (node.markSeen key now).appDataCallback = node.appDataCallback := rfl
@[simp] theorem encryptor_markSeen (node : MeshNode) (key : DataKey) (now : Time) :
    (node.markSeen key now).encryptor = node.encryptor := rfl
@[simp] theorem routingState_markSeen (node : MeshNode) (key : DataKey) (now : Time) :
    (node.markSeen key now).routingState = node.routingState := rfl
@[simp] theorem dataSeen_markSeen (node : MeshNode) (key : DataKey) (now : Time) :
    (node.markSeen key now).dataSeen = Function.update node.dataSeen key (some now) := rfl

/-- `MeshNode._handle_data_frame` at time `now`: a key already in the dedup
cache drops the frame, any other is recorded before anything else happens. -/
def handleDataFrame (node : MeshNode) (now : Time) (originId : Bytes) (seqno ttl flags : Nat)
    (body : Bytes) : Reaction :=
  match node.dataSeen (originId, seqno) with
  | some _ => ⟨node, [], none⟩
  | none =>
    let node := node.markSeen (originId, seqno) now
    Reaction.ofExcept node (node.processData zlib originId seqno ttl flags body)

end MeshNode

/-! ## The receive path -/

/-- What `_on_kiss_frame` makes of a frame before it calls a handler. -/
inductive Inbound where
  | drop
  | ogm (header : MeshHeader) (prevHop : Bytes) (linkMetric : Nat)
  | data (header : MeshHeader) (body : Bytes)
  | fault (err : PyError)
  deriving DecidableEq, Repr

/-- The decoding half of `_on_kiss_frame`: length check, header parse (a
`ValueError` drops the frame), version check, and the split on `msg_type`. -/
def classifyFrame (frame : Bytes) : Inbound :=
  if frame.length ≤ 16 then .drop else
  match findInfoStart frame with
  | none => .drop
  | some infoStart =>
    let info := frame.drop infoStart
    match parseMeshHeader info with
    | .error err => if err.isValueError then .drop else .fault err
    | .ok header =>
      if header.version ≠ meshVersion then .drop else
      let body := info.drop 16
      if header.msgType = meshMsgOgm then
        if body.length < 9 then .drop else
        match pyIndex body 8 with
        | .ok linkMetric => .ogm header (slice body 0 8) linkMetric.toNat
        | .error err => .fault err
      else if header.msgType = meshMsgData then .data header body
      else .drop

namespace MeshNode

/-- `MeshNode._on_kiss_frame` at time `now`. -/
def onKissFrame (node : MeshNode) (now : Time) (frame : Bytes) : Reaction :=
  match classifyFrame frame with
  | .drop => ⟨node, [], none⟩
  | .fault err => ⟨node, [], some err⟩
  | .ogm header prevHop linkMetric =>
      node.handleOgm now header.originId header.seqno header.ttl prevHop linkMetric
  | .data header body =>
      node.handleDataFrame zlib now header.originId header.seqno header.ttl header.flags body

end MeshNode

end ArdopMeshChat
