import ArdopMeshChat.Mesh.Handlers

/-!
# The receive path as a whole

Three properties of `_on_kiss_frame` over every byte string and every node
state: a relay rewrites only the header of what it forwards; the forwarding
decision of a relay reads the header, the destination and the tables, and
also whether a compressed payload inflates; and no input makes the node raise
from its own decoding or encoding.
-/

namespace ArdopMeshChat

namespace MeshNode

variable (zlib : Zlib)

theorem length_sentFrames_le (effects : List Effect) :
    (sentFrames effects).length ≤ effects.length :=
  List.length_filterMap_le _ _

theorem length_sentFrames_onKissFrame_le (node : MeshNode) (now : Time) (frame : Bytes) :
    (sentFrames (node.onKissFrame zlib now frame).effects).length ≤ 1 := by
  unfold onKissFrame
  cases classified : classifyFrame frame with
  | drop => simp
  | fault err => simp
  | ogm header prevHop linkMetric =>
      exact (length_sentFrames_le _).trans
        (node.effects_handleOgm now header.originId header.seqno header.ttl prevHop linkMetric).1
  | data header body =>
      obtain ⟨parsed, -, -, rfl⟩ := classifyFrame_eq_data classified
      obtain ⟨-, -, flagsByte, ttlByte, eightBytes, seqnoWord⟩ := parseMeshHeader_inRange parsed
      dsimp only
      rw [handleDataFrame_eq]
      split
      · simp
      · exact (length_sentFrames_le _).trans (length_effects_ofExcept_le _ fun effects done =>
          (node.effects_processData zlib eightBytes seqnoWord flagsByte (by omega) done).1)

/-- What a frame `_on_kiss_frame` sends is made of: the received mesh header
with the TTL decremented (the flags of an OGM cleared) behind the node's own
AX.25 addresses, followed by the received DATA body, or by the node's ID and
the received link metric for an OGM. -/
theorem sent_of_onKissFrame (node : MeshNode) (now : Time) (frame : Bytes) :
    ∀ sent ∈ sentFrames (node.onKissFrame zlib now frame).effects,
      ∃ header forwarded flags', parseMeshHeader (frame.drop 16) = .ok header ∧
        header.version = meshVersion ∧ 2 ≤ header.ttl ∧
        wrapInAx25Ui node.config forwarded = .ok sent ∧
        parseMeshHeader forwarded =
          .ok ⟨meshVersion, header.msgType, flags', header.ttl - 1, header.originId, header.seqno⟩ ∧
        (header.msgType = meshMsgData → flags' = header.flags ∧
          forwarded.drop 16 = frame.drop 32 ∧ slice (frame.drop 32) 0 8 ≠ node.nodeId ∧
          (node.routingState.originators (slice (frame.drop 32) 0 8)).isSome) ∧
        (header.msgType = meshMsgOgm → flags' = 0 ∧
          ∃ metric, (frame.drop 32)[8]? = some metric ∧
            forwarded.drop 16 = node.nodeId ++ [metric]) := by
  intro sent member
  unfold onKissFrame at member
  cases classified : classifyFrame frame with
  | drop => simp [classified] at member
  | fault err => simp [classified] at member
  | ogm header prevHop linkMetric =>
      rw [classified] at member
      obtain ⟨parsed, version, ogm, -, metric⟩ := classifyFrame_eq_ogm classified
      obtain ⟨-, -, -, ttlByte, eightBytes, seqnoWord⟩ := parseMeshHeader_inRange parsed
      obtain ⟨byte, byteAt, rfl⟩ := Option.map_eq_some'.mp metric
      obtain ⟨forwarding, forwarded⟩ :=
        (node.effects_handleOgm now header.originId header.seqno header.ttl prevHop byte.toNat).2
          sent member
      rw [ogmForward_eq node eightBytes seqnoWord (by omega) (by omega)
        (UInt8.toNat_lt_size byte), UInt8.ofNat_toNat'] at forwarded
      refine ⟨header, _, 0, parsed, version, by omega, forwarded, ?_, by simp [ogm], fun _ =>
        ⟨rfl, byte, byteAt, ?_⟩⟩
      · rw [parseMeshHeader_headerBytes _ (by decide) (by decide) (by omega) eightBytes seqnoWord,
          ogm]
      · exact List.drop_left' (length_headerBytes _ _ _ _ eightBytes)
  | data header body =>
      rw [classified] at member
      obtain ⟨parsed, version, data, rfl⟩ := classifyFrame_eq_data classified
      obtain ⟨-, -, flagsByte, ttlByte, eightBytes, seqnoWord⟩ := parseMeshHeader_inRange parsed
      dsimp only at member
      rw [handleDataFrame_eq] at member
      split at member
      · simp at member
      · obtain ⟨effects, done, sentMember⟩ := mem_sentFrames_ofExcept _ member
        obtain ⟨destNe, forwarding, routed, wrapped⟩ :=
          (node.effects_processData zlib eightBytes seqnoWord flagsByte (by omega) done).2 sent
            sentMember
        refine ⟨header, _, header.flags, parsed, version, by omega, wrapped, ?_,
          fun _ => ⟨rfl, List.drop_left' (length_headerBytes _ _ _ _ eightBytes), destNe, routed⟩,
          fun ogm => absurd (data.symm.trans ogm) (by decide)⟩
        rw [parseMeshHeader_headerBytes _ (by decide) flagsByte (by omega) eightBytes seqnoWord, data]

/-- Forwarding is a header-only rewrite: at most one frame goes out, and it
is the received mesh header with the TTL decremented (the flags of an OGM
cleared), behind the node's own AX.25 addresses; a DATA body is passed on
byte for byte, an OGM body is replaced by the node's ID and the received link
metric. -/
theorem onKissFrame_forward (node : MeshNode) (now : Time) (frame : Bytes) :
    (sentFrames (node.onKissFrame zlib now frame).effects).length ≤ 1 ∧
    ∀ sent ∈ sentFrames (node.onKissFrame zlib now frame).effects,
      ∃ header forwarded flags', parseMeshHeader (frame.drop 16) = .ok header ∧
        header.version = meshVersion ∧ 2 ≤ header.ttl ∧
        wrapInAx25Ui node.config forwarded = .ok sent ∧
        parseMeshHeader forwarded =
          .ok ⟨meshVersion, header.msgType, flags', header.ttl - 1, header.originId, header.seqno⟩ ∧
        (header.msgType = meshMsgData → flags' = header.flags ∧
          forwarded.drop 16 = frame.drop 32 ∧ slice (frame.drop 32) 0 8 ≠ node.nodeId ∧
          (node.routingState.originators (slice (frame.drop 32) 0 8)).isSome) ∧
        (header.msgType = meshMsgOgm → flags' = 0 ∧
          ∃ metric, (frame.drop 32)[8]? = some metric ∧
            forwarded.drop 16 = node.nodeId ++ [metric]) :=
  ⟨length_sentFrames_onKissFrame_le zlib node now frame, sent_of_onKissFrame zlib node now frame⟩

/-! ## Robustness -/

theorem wrapInAx25Ui_ok (node : MeshNode) (callsignAscii : isAscii node.config.callsign.toList = true)
    (infoPayload : Bytes) : ∃ frame, wrapInAx25Ui node.config infoPayload = .ok frame := by
  obtain ⟨pre, prefixed, -⟩ := uiPrefix_ok callsignAscii node.meshDestAscii
  exact ⟨_, wrapInAx25Ui_of_uiPrefix prefixed infoPayload⟩

theorem raised_handleOgm (node : MeshNode) (callsignAscii : isAscii node.config.callsign.toList = true)
    (now : Time) {originId : Bytes} {seqno ttl : Nat} (prevHopId : Bytes) {linkMetric : Nat}
    (eightBytes : originId.length = 8) (seqnoWord : seqno < 2 ^ 32) (ttlByte : ttl < 256)
    (metricByte : linkMetric < 256) :
    (node.handleOgm now originId seqno ttl prevHopId linkMetric).raised = none := by
  rw [handleOgm_eq]
  split
  · obtain ⟨frame, wrapped⟩ := wrapInAx25Ui_ok node callsignAscii
      (headerBytes meshMsgOgm 0 (ttl - 1) originId seqno ++ (node.nodeId ++ [UInt8.ofNat linkMetric]))
    rw [ogmForward_eq node eightBytes seqnoWord (by omega) (by omega) metricByte, wrapped]
    rfl
  · rfl

theorem processData_error (node : MeshNode) (callsignAscii : isAscii node.config.callsign.toList = true)
    {originId : Bytes} {seqno ttl flags : Nat} {body : Bytes} {err : PyError}
    (eightBytes : originId.length = 8) (seqnoWord : seqno < 2 ^ 32) (flagsByte : flags < 256)
    (ttlByte : ttl < 257) (failed : node.processData zlib originId seqno ttl flags body = .error err) :
    err = .authFail := by
  by_cases short : body.length < 12
  · simp [processData, short] at failed
  obtain ⟨dataSeq, -, processed⟩ :=
    node.processData_eq zlib originId seqno ttl flags (Nat.le_of_not_lt short)
  rw [processed, openAndDeliver] at failed
  cases opened : node.openPayload flags (body.drop 12) (originId ++ body.take 12) with
  | error openErr =>
      simp only [opened, Except.error.injEq] at failed
      subst openErr
      unfold openPayload at opened
      split_ifs at opened
      · split at opened <;> simp_all
  | ok result =>
      cases result with
      | none => simp [opened] at failed
      | some appBytes =>
          cases inflated : inflatePayload zlib flags appBytes with
          | none => simp [opened, inflated] at failed
          | some appBytes =>
              simp only [opened, inflated] at failed
              rw [deliverOrForward_eq node _ _ _ _ eightBytes seqnoWord flagsByte ttlByte] at failed
              split_ifs at failed
              obtain ⟨frame, wrapped⟩ := wrapInAx25Ui_ok node callsignAscii
                (headerBytes meshMsgData flags (ttl - 1) originId seqno ++ body)
              simp [wrapped, Functor.map, Except.map] at failed

/-- The frames the dispatcher drops before any handler runs: too short to
hold a header and a body, a version other than 1, a message type that is
neither DATA nor OGM, and an OGM without its 9-byte body. -/
def IgnoredFrame (frame : Bytes) : Prop :=
  frame.length < 32 ∨ frame[16]? ≠ some 1 ∨ (frame[17]? ≠ some 0 ∧ frame[17]? ≠ some 1) ∨
    (frame[17]? = some 1 ∧ frame.length < 41)

theorem eq_some_of_map_toNat {byte? : Option UInt8} {value : Nat}
    (read : byte?.map UInt8.toNat = some value) : byte? = some (UInt8.ofNat value) := by
  obtain ⟨byte, rfl, rfl⟩ := Option.map_eq_some'.mp read
  rw [UInt8.ofNat_toNat']

theorem header_bytes_of_parsed {frame : Bytes} {header : MeshHeader}
    (parsed : parseMeshHeader (frame.drop 16) = .ok header) :
    frame[16]?.map UInt8.toNat = some header.version ∧
      frame[17]?.map UInt8.toNat = some header.msgType := by
  have long := parseMeshHeader_length parsed
  simp only [List.length_drop] at long
  obtain ⟨seqno, -, parsedAt⟩ := parseMeshHeader_of_le (by simpa using long : 16 ≤ (frame.drop 16).length)
  rw [parsedAt, Except.ok.injEq] at parsed
  subst header
  simp [List.getElem?_eq_getElem (show 16 < frame.length by omega),
    List.getElem?_eq_getElem (show 17 < frame.length by omega)]

theorem classifyFrame_ignored {frame : Bytes} (ignored : IgnoredFrame frame) :
    classifyFrame frame = .drop := by
  cases parsed : parseMeshHeader (frame.drop 16) with
  | error err => exact classifyFrame_of_unparsed parsed
  | ok header =>
      have long := parseMeshHeader_length parsed
      simp only [List.length_drop] at long
      obtain ⟨versionAt, typeAt⟩ := header_bytes_of_parsed parsed
      rw [classifyFrame_of_parsed parsed]
      rcases ignored with short | badVersion | ⟨notData, notOgm⟩ | ⟨ogmType, short⟩
      · omega
      · have otherVersion : header.version ≠ meshVersion := fun same =>
          badVersion (by rw [eq_some_of_map_toNat versionAt, same]; rfl)
        simp [otherVersion]
      · have otherType : header.msgType ≠ meshMsgOgm ∧ header.msgType ≠ meshMsgData :=
          ⟨fun same => notOgm (by rw [eq_some_of_map_toNat typeAt, same]; rfl),
            fun same => notData (by rw [eq_some_of_map_toNat typeAt, same]; rfl)⟩
        simp [otherType]
      · have ogm : header.msgType = meshMsgOgm := by
          rw [ogmType] at typeAt
          simpa using typeAt.symm
        have noMetric : (frame.drop 32)[8]? = none :=
          List.getElem?_eq_none (by simp only [List.length_drop]; omega)
        simp [ogm, noMetric]

/-! ## Sample stations -/

/-- `zlib.compress(b"")` as CPython writes it. -/
def emptyZlibStream : Bytes := [0x78, 0x9c, 0x03, 0x00, 0x00, 0x00, 0x00, 0x01]

/-- A `zlib` that agrees with CPython's on the streams below:
`zlib.decompress` inflates `emptyZlibStream` to `b""` and raises on `b""`. -/
def sampleZlib : Zlib where
  compress _ := emptyZlibStream
  decompress stream := if stream = emptyZlibStream then some [] else none

/-- A relay `RELAY` with a route to `DEST` through `HOP`, an empty dedup cache,
no encryption key and no application callback. -/
def sampleRelay : MeshNode where
  config := ⟨"RELAY", "QMESH", ⟨5, 120, 60, 30⟩⟩
  encryptor := ⟨false, fun plaintext _ => ([], plaintext), fun _ ciphertext _ => some ciphertext⟩
  appDataCallback := false
  routingState :=
    ⟨fun key => if key = deriveNodeId "DEST" then some ⟨deriveNodeId "HOP", 1, 1, 0⟩ else none,
      fun _ => none⟩
  seqno := 0
  dataSeen := fun _ => none
  meshDestAscii := by decide

/-- A compressed DATA frame from `ORIGIN` to `DEST` with TTL 5, whose body
after the destination and the data sequence number is `remainder`. -/
def compressedDataFrame (remainder : Bytes) : Bytes :=
  List.replicate 16 0 ++ headerBytes meshMsgData meshFlagCompressed 5 (deriveNodeId "ORIGIN") 7 ++
    deriveNodeId "DEST" ++ packBE32 1 ++ remainder

theorem onKissFrame_robust (node : MeshNode) (callsignAscii : isAscii node.config.callsign.toList = true)
    (now : Time) (frame : Bytes) :
    ((node.onKissFrame zlib now frame).raised = none ∨
      (node.onKissFrame zlib now frame).raised = some .authFail) ∧
    (IgnoredFrame frame → node.onKissFrame zlib now frame = ⟨node, [], none⟩) := by
  refine ⟨?_, fun ignored => by rw [onKissFrame, classifyFrame_ignored ignored]⟩
  unfold onKissFrame
  cases classified : classifyFrame frame with
  | drop => exact .inl rfl
  | fault err => exact absurd classified (classifyFrame_ne_fault frame err)
  | ogm header prevHop linkMetric =>
      obtain ⟨parsed, -, -, -, metric⟩ := classifyFrame_eq_ogm classified
      obtain ⟨-, -, -, ttlByte, eightBytes, seqnoWord⟩ := parseMeshHeader_inRange parsed
      obtain ⟨byte, -, rfl⟩ := Option.map_eq_some'.mp metric
      exact .inl (raised_handleOgm node callsignAscii now prevHop eightBytes seqnoWord ttlByte
        (UInt8.toNat_lt_size byte))
  | data header body =>
      obtain ⟨parsed, -, -, rfl⟩ := classifyFrame_eq_data classified
      obtain ⟨-, -, flagsByte, ttlByte, eightBytes, seqnoWord⟩ := parseMeshHeader_inRange parsed
      dsimp only
      rw [handleDataFrame_eq]
      split
      · exact .inl rfl
      · cases processed : node.processData zlib header.originId header.seqno header.ttl header.flags
            (frame.drop 32) with
        | ok effects => exact .inl rfl
        | error err =>
            exact .inr (by rw [processData_error zlib node callsignAscii eightBytes seqnoWord flagsByte
              (by omega) processed]; rfl)

theorem onKissFrame_robust_sampleRelay :
    isAscii sampleRelay.config.callsign.toList = true ∧
    (((sampleRelay.onKissFrame sampleZlib 0 []).raised = none ∨
      (sampleRelay.onKissFrame sampleZlib 0 []).raised = some .authFail) ∧
    (IgnoredFrame [] → sampleRelay.onKissFrame sampleZlib 0 [] = ⟨sampleRelay, [], none⟩)) :=
  ⟨by decide, onKissFrame_robust sampleZlib sampleRelay (by decide) 0 []⟩

/-! ## What a relay's forwarding decision reads -/

/-- Whether `_on_kiss_frame` passes a frame to `kiss_client.send`. -/
def Forwards (node : MeshNode) (now : Time) (frame : Bytes) : Prop :=
  sentFrames (node.onKissFrame zlib now frame).effects ≠ []

/-- A DATA frame with the `ENCRYPTED` flag clear is forwarded exactly when its
key is new, its body holds a destination and a seqno, the payload inflates if
`COMPRESSED` is set, the destination is another node with a route, the TTL
allows another hop, and the node's own addresses encode. -/
theorem forwards_data_iff (node : MeshNode) (now : Time) {frame body : Bytes} {header : MeshHeader}
    (classified : classifyFrame frame = .data header body)
    (clear : header.flags &&& meshFlagEncrypted = 0) :
    Forwards zlib node now frame ↔
      node.dataSeen (header.originId, header.seqno) = none ∧ 12 ≤ body.length ∧
      (inflatePayload zlib header.flags (body.drop 12)).isSome ∧ slice body 0 8 ≠ node.nodeId ∧
      1 < header.ttl ∧ (node.routingState.originators (slice body 0 8)).isSome ∧
      (∃ pre, uiPrefix node.config = .ok pre) := by
  obtain ⟨parsed, -, -, -⟩ := classifyFrame_eq_data classified
  obtain ⟨-, -, flagsByte, ttlByte, eightBytes, seqnoWord⟩ := parseMeshHeader_inRange parsed
  unfold Forwards onKissFrame
  rw [classified]
  dsimp only
  rw [handleDataFrame_eq]
  cases seen : node.dataSeen (header.originId, header.seqno) with
  | some ts => simp
  | none =>
      by_cases short : body.length < 12
      · simp [processData, short]
      obtain ⟨dataSeq, -, processed⟩ :=
        node.processData_eq zlib header.originId header.seqno header.ttl header.flags
          (Nat.le_of_not_lt short)
      have opened : node.openPayload header.flags (body.drop 12)
          (header.originId ++ body.take 12) = .ok (some (body.drop 12)) := by
        simp [openPayload, clear]
      rw [processed, openAndDeliver, opened]
      dsimp only
      cases inflated : inflatePayload zlib header.flags (body.drop 12) with
      | none => simp
      | some appBytes =>
          simp only [deliverOrForward_eq node _ _ _ _ eightBytes seqnoWord flagsByte
            (by omega : header.ttl < 257)]
          by_cases toUs : slice body 0 8 = node.nodeId
          · simp only [toUs, if_true]
            split <;> simp
          by_cases expiring : header.ttl ≤ 1
          · simp [toUs, expiring]
          by_cases routed : (node.routingState.originators (slice body 0 8)).isSome
          · simp only [toUs, expiring, routed, if_false, if_true, wrapInAx25Ui]
            cases uiPrefix node.config with
            | error err => simp [Functor.map, Except.map]
            | ok pre =>
                simp only [Functor.map, Except.map, Reaction.effects_ofExcept_ok, sentFrames_send]
                simp [Nat.le_of_not_lt short, toUs, routed, Nat.lt_of_not_le expiring]
          · simp [toUs, expiring, routed]

theorem parseMeshHeader_append {header rest : Bytes} (sixteen : header.length = 16) :
    parseMeshHeader (header ++ rest) = parseMeshHeader header := by
  obtain ⟨seqno, unpacked, parsed⟩ := parseMeshHeader_of_le (by omega : 16 ≤ header.length)
  obtain ⟨seqno', unpacked', parsed'⟩ :=
    parseMeshHeader_of_le (by simp; omega : 16 ≤ (header ++ rest).length)
  rw [slice_append_left (by omega)] at unpacked'
  rw [unpacked, Except.ok.injEq] at unpacked'
  subst seqno'
  rw [parsed, parsed']
  simp [List.getElem_append, sixteen, slice_append_left (show 12 ≤ header.length by omega)]

theorem classifyFrame_congr {frame frame' body : Bytes} {header : MeshHeader}
    (classified : classifyFrame frame = .data header body) (sameFront : frame.take 32 = frame'.take 32) :
    classifyFrame frame' = .data header (frame'.drop 32) := by
  obtain ⟨parsed, version, data, -⟩ := classifyFrame_eq_data classified
  have long := parseMeshHeader_length parsed
  simp only [List.length_drop] at long
  have long' : 32 ≤ frame'.length := by
    have := congrArg List.length sameFront
    simp only [List.length_take] at this
    omega
  have headerPart : ∀ f : Bytes, 32 ≤ f.length →
      parseMeshHeader (f.drop 16) = parseMeshHeader ((f.take 32).drop 16) := by
    intro f longF
    have sixteen : ((f.drop 16).take 16).length = 16 := by simp; omega
    rw [← List.take_append_drop 16 (f.drop 16), parseMeshHeader_append sixteen, List.take_drop]
  rw [classifyFrame_of_parsed (by rw [headerPart frame' long', ← sameFront, ← headerPart frame
    (by omega), parsed]), if_neg (by simpa using version), if_neg (by simp [data]), if_pos data]

/-- A relay decides from the header, the destination, the dedup cache and the
routing table, and from whether the remainder after body offset 12 inflates:
two DATA frames that agree up to that offset are forwarded alike when the
`COMPRESSED` flag is clear, or when both remainders inflate or neither does. -/
theorem forwards_iff_of_same_inflation (node : MeshNode) (now now' : Time)
    {frame frame' body : Bytes} {header : MeshHeader}
    (classified : classifyFrame frame = .data header body)
    (clear : header.flags &&& meshFlagEncrypted = 0) (sameFront : frame.take 44 = frame'.take 44)
    (sameInflation : header.flags &&& meshFlagCompressed = 0 ∨
      ((zlib.decompress (body.drop 12)).isSome ↔ (zlib.decompress ((frame'.drop 32).drop 12)).isSome)) :
    Forwards zlib node now frame ↔ Forwards zlib node now' frame' := by
  have body_eq : body = frame.drop 32 := (classifyFrame_eq_data classified).2.2.2
  subst body_eq
  have sameRoute : (frame.drop 32).take 12 = (frame'.drop 32).take 12 := by
    rw [List.take_drop, List.take_drop, sameFront]
  have sameDest : slice (frame.drop 32) 0 8 = slice (frame'.drop 32) 0 8 := by
    simpa [slice, List.take_take] using congrArg (List.take 8) sameRoute
  have sameLong : 12 ≤ (frame.drop 32).length ↔ 12 ≤ (frame'.drop 32).length := by
    have := congrArg List.length sameRoute
    simp only [List.length_take] at this
    omega
  have sameInflate : (inflatePayload zlib header.flags ((frame.drop 32).drop 12)).isSome ↔
      (inflatePayload zlib header.flags ((frame'.drop 32).drop 12)).isSome := by
    unfold inflatePayload
    rcases sameInflation with plain | same
    · simp [plain]
    · split
      · exact same
      · simp
  have classified' := classifyFrame_congr classified
    (by simpa [List.take_take] using congrArg (List.take 32) sameFront)
  rw [forwards_data_iff zlib node now classified clear,
    forwards_data_iff zlib node now' classified' clear, sameDest, sameLong, sameInflate]

theorem forwards_iff_of_same_inflation_sampleRelay :
    classifyFrame (compressedDataFrame []) =
      .data ⟨meshVersion, meshMsgData, meshFlagCompressed, 5, deriveNodeId "ORIGIN", 7⟩
        ((compressedDataFrame []).drop 32) ∧
    meshFlagCompressed &&& meshFlagEncrypted = 0 ∧
    (compressedDataFrame []).take 44 = (compressedDataFrame [0xff]).take 44 ∧
    (meshFlagCompressed &&& meshFlagCompressed = 0 ∨
      ((sampleZlib.decompress (((compressedDataFrame []).drop 32).drop 12)).isSome ↔
        (sampleZlib.decompress (((compressedDataFrame [0xff]).drop 32).drop 12)).isSome)) ∧
    (Forwards sampleZlib sampleRelay 0 (compressedDataFrame []) ↔
      Forwards sampleZlib sampleRelay 0 (compressedDataFrame [0xff])) :=
  have classified : classifyFrame (compressedDataFrame []) =
      .data ⟨meshVersion, meshMsgData, meshFlagCompressed, 5, deriveNodeId "ORIGIN", 7⟩
        ((compressedDataFrame []).drop 32) := by decide
  have sameFront : (compressedDataFrame []).take 44 = (compressedDataFrame [0xff]).take 44 := by
    decide
  have neither : meshFlagCompressed &&& meshFlagCompressed = 0 ∨
      ((sampleZlib.decompress (((compressedDataFrame []).drop 32).drop 12)).isSome ↔
        (sampleZlib.decompress (((compressedDataFrame [0xff]).drop 32).drop 12)).isSome) :=
    .inr (by decide)
  ⟨classified, by decide, sameFront, neither,
    forwards_iff_of_same_inflation sampleZlib sampleRelay 0 0 classified (by decide) sameFront
      neither⟩

/-- Two compressed DATA frames, not for the relay, that agree up to body offset
12: the relay forwards the one whose remainder inflates and drops the other. -/
theorem relay_forwarding_reads_payload :
    (compressedDataFrame emptyZlibStream).take 44 = (compressedDataFrame []).take 44 ∧
    classifyFrame (compressedDataFrame emptyZlibStream) =
      .data ⟨meshVersion, meshMsgData, meshFlagCompressed, 5, deriveNodeId "ORIGIN", 7⟩
        ((compressedDataFrame emptyZlibStream).drop 32) ∧
    meshFlagCompressed &&& meshFlagEncrypted = 0 ∧
    slice ((compressedDataFrame emptyZlibStream).drop 32) 0 8 ≠ sampleRelay.nodeId ∧
    Forwards sampleZlib sampleRelay 0 (compressedDataFrame emptyZlibStream) ∧
    ¬ Forwards sampleZlib sampleRelay 0 (compressedDataFrame []) := by
  unfold Forwards
  decide

end MeshNode

end ArdopMeshChat
