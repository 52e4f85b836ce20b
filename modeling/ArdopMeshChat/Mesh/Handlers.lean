import ArdopMeshChat.Mesh.Node

/-!
# One lemma per handler

What each step of the receive path can do, said once: the frames the
dispatcher hands to each handler, the state each handler leaves, and the one
frame each can send.  Every later theorem about a node cites these and never
unfolds a handler again.
-/

namespace ArdopMeshChat

/-! ## Parsed headers -/

/-- The fields of a parsed header fit the bytes they were read from. -/
structure MeshHeader.InRange (header : MeshHeader) : Prop where
  version : header.version < 256
  msgType : header.msgType < 256
  flags : header.flags < 256
  ttl : header.ttl < 256
  originId : header.originId.length = 8
  seqno : header.seqno < 2 ^ 32

theorem parseMeshHeader_inRange {info : Bytes} {header : MeshHeader}
    (parsed : parseMeshHeader info = .ok header) : header.InRange := by
  have long : 16 ≤ info.length := by
    by_contra short
    simp [parseMeshHeader, Nat.lt_of_not_le short] at parsed
  obtain ⟨seqno, unpacked, parsedAt⟩ := parseMeshHeader_of_le long
  rw [parsedAt, Except.ok.injEq] at parsed
  subst header
  exact ⟨UInt8.toNat_lt_size _, UInt8.toNat_lt_size _, UInt8.toNat_lt_size _,
    UInt8.toNat_lt_size _, by simp; omega, structUnpack_lt unpacked⟩

theorem parseMeshHeader_length {info : Bytes} {header : MeshHeader}
    (parsed : parseMeshHeader info = .ok header) : 16 ≤ info.length := by
  by_contra short
  simp [parseMeshHeader, Nat.lt_of_not_le short] at parsed

/-! ## The dispatcher -/

theorem parseMeshHeader_error {info : Bytes} {err : PyError}
    (failed : parseMeshHeader info = .error err) : err.isValueError = true := by
  by_cases short : info.length < 16
  · simp only [parseMeshHeader, short, if_true, Except.error.injEq] at failed
    subst err
    rfl
  · obtain ⟨_, _, parsed⟩ := parseMeshHeader_of_le (Nat.le_of_not_lt short)
    rw [parsed] at failed
    cases failed

theorem classifyFrame_ne_fault (frame : Bytes) (err : PyError) :
    classifyFrame frame ≠ .fault err := by
  unfold classifyFrame
  split
  · simp
  split
  · simp
  dsimp only
  split
  · next failed => simp [parseMeshHeader_error failed]
  split
  · simp
  split
  · split
    · simp
    · rw [pyIndex_of_lt (by omega)]
      simp
  split <;> simp

theorem classifyFrame_of_unparsed {frame : Bytes} {err : PyError}
    (failed : parseMeshHeader (frame.drop 16) = .error err) : classifyFrame frame = .drop := by
  unfold classifyFrame findInfoStart
  split
  · rfl
  · simp [failed, parseMeshHeader_error failed]

theorem classifyFrame_of_parsed {frame : Bytes} {header : MeshHeader}
    (parsed : parseMeshHeader (frame.drop 16) = .ok header) :
    classifyFrame frame =
      if header.version ≠ meshVersion then .drop
      else if header.msgType = meshMsgOgm then
        match (frame.drop 32)[8]? with
        | some linkMetric => .ogm header (slice (frame.drop 32) 0 8) linkMetric.toNat
        | none => .drop
      else if header.msgType = meshMsgData then .data header (frame.drop 32)
      else .drop := by
  have long := parseMeshHeader_length parsed
  simp only [List.length_drop] at long
  have dropDrop : (frame.drop 16).drop 16 = frame.drop 32 := by simp [List.drop_drop]
  simp only [classifyFrame, findInfoStart, show ¬ frame.length ≤ 16 by omega, if_false, parsed,
    dropDrop, pyIndex]
  split_ifs <;> first | rfl | skip
  · next short => simp [List.getElem?_eq_none (by omega : (frame.drop 32).length ≤ 8)]
  · next long9 =>
      rw [List.getElem?_eq_getElem (by omega : 8 < (frame.drop 32).length)]

theorem classifyFrame_eq_ogm {frame prevHop : Bytes} {header : MeshHeader} {linkMetric : Nat}
    (classified : classifyFrame frame = .ogm header prevHop linkMetric) :
    parseMeshHeader (frame.drop 16) = .ok header ∧ header.version = meshVersion ∧
      header.msgType = meshMsgOgm ∧ prevHop = slice (frame.drop 32) 0 8 ∧
      (frame.drop 32)[8]?.map UInt8.toNat = some linkMetric := by
  cases parsed : parseMeshHeader (frame.drop 16) with
  | error err => rw [classifyFrame_of_unparsed parsed] at classified; cases classified
  | ok parsedHeader =>
      rw [classifyFrame_of_parsed parsed] at classified
      split_ifs at classified with version ogm data
      · cases ogmByte : (frame.drop 32)[8]? with
        | none => simp [ogmByte] at classified
        | some byte =>
            simp only [ogmByte, Inbound.ogm.injEq] at classified
            obtain ⟨rfl, rfl, rfl⟩ := classified
            exact ⟨rfl, by simpa using version, ogm, rfl, rfl⟩

theorem classifyFrame_eq_data {frame body : Bytes} {header : MeshHeader}
    (classified : classifyFrame frame = .data header body) :
    parseMeshHeader (frame.drop 16) = .ok header ∧ header.version = meshVersion ∧
      header.msgType = meshMsgData ∧ body = frame.drop 32 := by
  cases parsed : parseMeshHeader (frame.drop 16) with
  | error err => rw [classifyFrame_of_unparsed parsed] at classified; cases classified
  | ok parsedHeader =>
      rw [classifyFrame_of_parsed parsed] at classified
      split_ifs at classified with version ogm data
      · cases ogmByte : (frame.drop 32)[8]? <;> simp [ogmByte] at classified
      · simp only [Inbound.data.injEq] at classified
        obtain ⟨rfl, rfl⟩ := classified
        exact ⟨rfl, by simpa using version, data, rfl⟩

/-! ## Building a header with a decremented TTL -/

theorem buildMeshHeader_pred {msgType flags ttl seqno : Nat} {originId : Bytes}
    (typeByte : msgType < 256) (flagsByte : flags < 256) (ttlPos : 1 ≤ ttl) (ttlByte : ttl < 257)
    (eightBytes : originId.length = 8) (seqnoWord : seqno < 2 ^ 32) :
    buildMeshHeader msgType flags ((ttl : Int) - 1) originId seqno =
      .ok (headerBytes msgType flags (ttl - 1) originId seqno) := by
  have cast : (ttl : Int) - 1 = ((ttl - 1 : Nat) : Int) := by omega
  rw [cast, buildMeshHeader_eq typeByte flagsByte (by omega) eightBytes seqnoWord]

namespace MeshNode

variable (zlib : Zlib) (node : MeshNode) (now : Time)

/-! ## OGM handling -/

theorem ogmForward_congr {other : MeshNode} (sameConfig : other.config = node.config) :
    other.ogmForward = node.ogmForward := by
  unfold ogmForward nodeId
  rw [sameConfig]

theorem ogmForward_eq {originId : Bytes} {seqno ttl linkMetric : Nat}
    (eightBytes : originId.length = 8) (seqnoWord : seqno < 2 ^ 32) (ttlPos : 1 ≤ ttl)
    (ttlByte : ttl < 257) (metricByte : linkMetric < 256) :
    node.ogmForward originId seqno ttl linkMetric =
      wrapInAx25Ui node.config (headerBytes meshMsgOgm 0 (ttl - 1) originId seqno ++
        (node.nodeId ++ [UInt8.ofNat linkMetric])) := by
  have build := @buildMeshHeader_pred meshMsgOgm 0 ttl seqno originId (by decide) (by decide)
    ttlPos ttlByte eightBytes seqnoWord
  rw [Nat.cast_zero] at build
  simp only [ogmForward, build, toByte_of_lt metricByte, bind, Except.bind]

/-- `_handle_ogm` updates the neighbor and then the originator, and sends the
rebroadcast when the TTL allows one. -/
theorem handleOgm_eq (originId : Bytes) (seqno ttl : Nat) (prevHopId : Bytes) (linkMetric : Nat) :
    node.handleOgm now originId seqno ttl prevHopId linkMetric =
      Reaction.ofExcept
        ((node.refreshNeighbor now prevHopId linkMetric).updateOriginator now originId seqno
          prevHopId linkMetric)
        (if ttl > 1 then (fun frame => [.send frame]) <$> node.ogmForward originId seqno ttl linkMetric
        else .ok []) := by
  rw [handleOgm, ogmForward_congr node (by simp)]

/-! ## DATA handling -/

theorem deliverOrForward_eq {originId : Bytes} {seqno ttl flags : Nat} (body destId : Bytes)
    (dataSeq : Nat) (appBytes : Bytes) (eightBytes : originId.length = 8)
    (seqnoWord : seqno < 2 ^ 32) (flagsByte : flags < 256) (ttlByte : ttl < 257) :
    node.deliverOrForward originId seqno ttl flags body destId dataSeq appBytes =
      if destId = node.nodeId then
        .ok (if node.appDataCallback then [.deliver originId destId dataSeq appBytes] else [])
      else if ttl ≤ 1 then .ok []
      else if (node.routingState.originators destId).isSome then
        (fun frame => [.send frame]) <$>
          wrapInAx25Ui node.config (headerBytes meshMsgData flags (ttl - 1) originId seqno ++ body)
      else .ok [] := by
  unfold deliverOrForward lookupBestNextHop
  by_cases toUs : destId = node.nodeId
  · simp [toUs]
  by_cases expiring : ttl ≤ 1
  · simp [toUs, expiring]
  cases found : node.routingState.originators destId with
  | none => simp [toUs, expiring, found]
  | some entry =>
      simp only [toUs, expiring, found, if_false, Option.map_some', Option.isSome_some, if_true]
      rw [buildMeshHeader_pred (by decide) flagsByte (by omega) ttlByte eightBytes seqnoWord]
      dsimp only [bind, Except.bind]
      cases wrapInAx25Ui node.config (headerBytes meshMsgData flags (ttl - 1) originId seqno ++ body)
        <;> rfl

/-- Past the length check, the `struct` calls of `_handle_data_frame` cannot
fail: the associated data is the origin and the first twelve body bytes. -/
theorem processData_eq (originId : Bytes) (seqno ttl flags : Nat) {body : Bytes}
    (long : 12 ≤ body.length) :
    ∃ dataSeq, structUnpack (slice body 8 12) = .ok dataSeq ∧
      node.processData zlib originId seqno ttl flags body =
        node.openAndDeliver zlib originId seqno ttl flags body (slice body 0 8) dataSeq
          (originId ++ body.take 12) := by
  obtain ⟨dataSeq, unpacked⟩ :=
    structUnpack_of_length (by simp; omega : (slice body 8 12).length = 4)
  refine ⟨dataSeq, unpacked, ?_⟩
  have associated : slice body 0 8 ++ packBE32 dataSeq = body.take 12 := by
    rw [packBE32_structUnpack unpacked, show 12 = 8 + 4 from rfl, List.take_add]
    simp [slice]
  unfold processData
  rw [if_neg (by omega)]
  simp only [unpacked, structPack_of_lt (structUnpack_lt unpacked), List.append_assoc, associated]

/-- `_handle_data_frame` drops a key it has seen; otherwise it records the key
and the reaction is that of the processing. -/
theorem handleDataFrame_eq (originId : Bytes) (seqno ttl flags : Nat) (body : Bytes) :
    node.handleDataFrame zlib now originId seqno ttl flags body =
      match node.dataSeen (originId, seqno) with
      | some _ => ⟨node, [], none⟩
      | none => Reaction.ofExcept (node.markSeen (originId, seqno) now)
          (node.processData zlib originId seqno ttl flags body) := rfl

/-! ## The frames a handler sends -/

theorem mem_sentFrames_ofExcept {result : Except PyError (List Effect)} {frame : Bytes}
    (sent : frame ∈ sentFrames (Reaction.ofExcept node result).effects) :
    ∃ effects, result = .ok effects ∧ frame ∈ sentFrames effects := by
  cases result with
  | error err => simp [Reaction.ofExcept] at sent
  | ok effects => exact ⟨effects, rfl, sent⟩

/-- A frame sent by a call that wraps a payload it built: the payload built,
and wrapping it gave the frame. -/
theorem mem_sentFrames_wrapped {config : MeshNodeConfig} {payload : Except PyError Bytes}
    {frame : Bytes}
    (sent : frame ∈ sentFrames (Reaction.ofExcept node (do
      let built ← payload
      let wrapped ← wrapInAx25Ui config built
      return [Effect.send wrapped])).effects) :
    ∃ built, payload = .ok built ∧ wrapInAx25Ui config built = .ok frame := by
  obtain ⟨effects, done, member⟩ := mem_sentFrames_ofExcept node sent
  cases payload with
  | error err => cases done
  | ok built =>
      cases wrapped : wrapInAx25Ui config built with
      | error err => simp [wrapped, bind, Except.bind] at done
      | ok wrappedFrame =>
          simp only [wrapped, bind, Except.bind, pure, Except.pure, Except.ok.injEq] at done
          subst done
          simp only [sentFrames_send, List.mem_singleton] at member
          exact ⟨built, rfl, by rw [member, wrapped]⟩

theorem length_effects_ofExcept_le {result : Except PyError (List Effect)}
    (short : ∀ effects, result = .ok effects → effects.length ≤ 1) :
    (Reaction.ofExcept node result).effects.length ≤ 1 := by
  cases result with
  | error err => simp [Reaction.ofExcept]
  | ok effects => exact short effects rfl

theorem effects_handleOgm (originId : Bytes) (seqno ttl : Nat) (prevHopId : Bytes)
    (linkMetric : Nat) :
    (node.handleOgm now originId seqno ttl prevHopId linkMetric).effects.length ≤ 1 ∧
    ∀ frame ∈ sentFrames (node.handleOgm now originId seqno ttl prevHopId linkMetric).effects,
      1 < ttl ∧ node.ogmForward originId seqno ttl linkMetric = .ok frame := by
  rw [handleOgm_eq]
  constructor
  · apply length_effects_ofExcept_le
    intro effects done
    split at done
    · cases forward : node.ogmForward originId seqno ttl linkMetric <;>
        simp [forward, Functor.map, Except.map] at done
      subst effects
      rfl
    · cases done
      simp
  · intro frame sent
    obtain ⟨effects, done, member⟩ := mem_sentFrames_ofExcept _ sent
    split at done
    · cases forward : node.ogmForward originId seqno ttl linkMetric <;>
        simp [forward, Functor.map, Except.map] at done
      subst effects
      simp at member
      exact ⟨by omega, member ▸ rfl⟩
    · cases done
      simp at member

theorem effects_deliverOrForward {originId : Bytes} {seqno ttl flags : Nat}
    {body destId : Bytes} {dataSeq : Nat} {appBytes : Bytes} {effects : List Effect}
    (eightBytes : originId.length = 8) (seqnoWord : seqno < 2 ^ 32) (flagsByte : flags < 256)
    (ttlByte : ttl < 257)
    (done : node.deliverOrForward originId seqno ttl flags body destId dataSeq appBytes =
      .ok effects) :
    effects.length ≤ 1 ∧ ∀ frame ∈ sentFrames effects,
      destId ≠ node.nodeId ∧ 1 < ttl ∧ (node.routingState.originators destId).isSome ∧
      wrapInAx25Ui node.config (headerBytes meshMsgData flags (ttl - 1) originId seqno ++ body) =
        .ok frame := by
  rw [deliverOrForward_eq node body destId dataSeq appBytes eightBytes seqnoWord flagsByte
    ttlByte] at done
  by_cases toUs : destId = node.nodeId
  · rw [if_pos toUs] at done
    cases done
    split <;> simp
  rw [if_neg toUs] at done
  by_cases expiring : ttl ≤ 1
  · rw [if_pos expiring] at done
    cases done
    simp
  rw [if_neg expiring] at done
  by_cases routed : (node.routingState.originators destId).isSome
  · rw [if_pos routed] at done
    cases wrapped : wrapInAx25Ui node.config
        (headerBytes meshMsgData flags (ttl - 1) originId seqno ++ body) <;>
      simp only [wrapped, Functor.map, Except.map, reduceCtorEq, Except.ok.injEq] at done
    subst effects
    simp only [List.length_singleton, le_refl, sentFrames_send, List.mem_singleton, true_and]
    rintro frame rfl
    exact ⟨toUs, by omega, routed, rfl⟩
  · rw [if_neg routed] at done
    cases done
    simp

theorem effects_processData {originId : Bytes} {seqno ttl flags : Nat} {body : Bytes}
    {effects : List Effect} (eightBytes : originId.length = 8) (seqnoWord : seqno < 2 ^ 32)
    (flagsByte : flags < 256) (ttlByte : ttl < 257)
    (done : node.processData zlib originId seqno ttl flags body = .ok effects) :
    effects.length ≤ 1 ∧ ∀ frame ∈ sentFrames effects,
      slice body 0 8 ≠ node.nodeId ∧ 1 < ttl ∧
      (node.routingState.originators (slice body 0 8)).isSome ∧
      wrapInAx25Ui node.config (headerBytes meshMsgData flags (ttl - 1) originId seqno ++ body) =
        .ok frame := by
  by_cases short : body.length < 12
  · simp only [processData, short, if_true, Except.ok.injEq] at done
    subst effects
    simp
  obtain ⟨dataSeq, -, processed⟩ :=
    node.processData_eq zlib originId seqno ttl flags (Nat.le_of_not_lt short)
  rw [processed, openAndDeliver] at done
  cases opened : node.openPayload flags (body.drop 12) (originId ++ body.take 12) with
  | error err => simp [opened] at done
  | ok result =>
      cases result with
      | none =>
          simp only [opened, Except.ok.injEq] at done
          subst effects
          simp
      | some appBytes =>
          cases inflated : inflatePayload zlib flags appBytes with
          | none =>
              simp only [opened, inflated, Except.ok.injEq] at done
              subst effects
              simp
          | some appBytes =>
              simp only [opened, inflated] at done
              exact effects_deliverOrForward node eightBytes seqnoWord flagsByte ttlByte done

end MeshNode

end ArdopMeshChat
