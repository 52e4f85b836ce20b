import ArdopMeshChat.Python.Builtins
import ArdopMeshChat.Config

/-!
# The two nested wire formats

A mesh packet travels as the information field of an AX.25 UI frame, and
starts with a fixed 16-byte mesh header.  This file holds the encoders and
decoders of both layers as `mesh_node.py` writes them, and the facts that
make the layers fit: an address is seven bytes, so every frame the node
builds puts its payload at offset 16, where the receive path looks for it;
and the header parser reads back what the header builder wrote.  Node IDs
are callsigns cut to eight bytes, so they tell stations apart only while
callsigns stay that short.
-/

namespace ArdopMeshChat

abbrev meshVersion : Nat := 1
abbrev meshMsgData : Nat := 0
abbrev meshMsgOgm : Nat := 1
abbrev meshFlagCompressed : Nat := 0x01
abbrev meshFlagEncrypted : Nat := 0x02

/-- `MeshNode._derive_node_id`: the callsign's ASCII bytes, zero padded and
cut to eight. -/
def deriveNodeId (callsign : String) : Bytes :=
  (ljust (asciiEncodeIgnore callsign.toList) 8 0).take 8

/-- The loop `for idx, b in enumerate(call_bytes): shifted[idx] = b << 1`. -/
def shiftCallBytes (callBytes : Bytes) : Except PyError Bytes :=
  callBytes.mapM fun b => toByte (b.toNat <<< 1 : Nat)

/-- The `CALL[-SSID]` split of `_encode_ax25_address`: the text before the first
dash, and the SSID `int()` reads after it, 0 when it raises `ValueError`. -/
def splitCallsign (cs : List Char) : List Char × Int :=
  if '-' ∈ cs then
    (cs.takeWhile (· ≠ '-'), (pyInt ((cs.dropWhile (· ≠ '-')).drop 1)).getD 0)
  else (cs, 0)

/-- `MeshNode._encode_ax25_address`: six shifted callsign characters and the
SSID byte, whose low bit marks the last address.  An SSID that `int()`
rejects counts as 0, and `& 0x0F` keeps the SSID modulo 16. -/
def encodeAx25Address (callsign : String) (last : Bool) : Except PyError Bytes := do
  let (base, ssidValue) := splitCallsign callsign.toList
  let callBytes := ljust (← asciiEncode ((pyUpper base).take 6)) 6 (UInt8.ofNat 0x20)
  let shifted ← shiftCallBytes callBytes
  let ssidField : Nat := 0x60 ||| ((ssidValue % 16).toNat <<< 1)
  let ssidField := if last then ssidField ||| 0x01 else ssidField
  return shifted ++ [← toByte ssidField]

/-- The address part of `MeshNode._wrap_in_ax25_ui`: destination, then source
as the last address, control `0x03` and PID `0xF0`. -/
def uiPrefix (config : MeshNodeConfig) : Except PyError Bytes := do
  let dest ← encodeAx25Address config.meshDestCallsign false
  let src ← encodeAx25Address config.callsign true
  return dest ++ src ++ [0x03] ++ [0xf0]

/-- `MeshNode._wrap_in_ax25_ui`. -/
def wrapInAx25Ui (config : MeshNodeConfig) (infoPayload : Bytes) : Except PyError Bytes :=
  (· ++ infoPayload) <$> uiPrefix config

/-- `MeshNode._find_info_start`: the receive path never decodes the
addresses and takes the information field to start at byte 16. -/
def findInfoStart (frame : Bytes) : Option Nat :=
  if frame.length ≤ 16 then none else some 16

/-- `MeshNode._build_mesh_header`. -/
def buildMeshHeader (msgType flags ttl : Int) (originId : Bytes) (seqno : Int) :
    Except PyError Bytes := do
  let header := List.replicate 16 (0 : UInt8)
  let header := header.set 0 (← toByte meshVersion)
  let header := header.set 1 (← toByte msgType)
  let header := header.set 2 (← toByte flags)
  let header := header.set 3 (← toByte ttl)
  let header := setSlice header 4 12 originId
  let header := setSlice header 12 16 (← structPack seqno)
  return header

/-- The tuple `_parse_mesh_header` returns. -/
structure MeshHeader where
  version : Nat
  msgType : Nat
  flags : Nat
  ttl : Nat
  originId : Bytes
  seqno : Nat
  deriving DecidableEq, Repr

/-- `MeshNode._parse_mesh_header`. -/
def parseMeshHeader (info : Bytes) : Except PyError MeshHeader :=
  if info.length < 16 then .error (.valueError "info too short for mesh header") else do
  let version ← pyIndex info 0
  let msgType ← pyIndex info 1
  let flags ← pyIndex info 2
  let ttl ← pyIndex info 3
  let originId := slice info 4 12
  let seqno ← structUnpack (slice info 12 16)
  return ⟨version.toNat, msgType.toNat, flags.toNat, ttl.toNat, originId, seqno⟩

/-! ## The header codec -/

/-- The header bytes for in-range fields. -/
def headerBytes (msgType flags ttl : Nat) (originId : Bytes) (seqno : Nat) : Bytes :=
  [UInt8.ofNat meshVersion, UInt8.ofNat msgType, UInt8.ofNat flags, UInt8.ofNat ttl] ++
    originId ++ packBE32 seqno

theorem length_headerBytes (msgType flags ttl : Nat) {originId : Bytes} (seqno : Nat)
    (eightBytes : originId.length = 8) : (headerBytes msgType flags ttl originId seqno).length = 16 := by
  simp [headerBytes, eightBytes]

theorem buildMeshHeader_eq {msgType flags ttl seqno : Nat} {originId : Bytes}
    (typeByte : msgType < 256) (flagsByte : flags < 256) (ttlByte : ttl < 256)
    (eightBytes : originId.length = 8) (seqnoWord : seqno < 2 ^ 32) :
    buildMeshHeader msgType flags ttl originId seqno =
      .ok (headerBytes msgType flags ttl originId seqno) := by
  simp only [buildMeshHeader, toByte_of_lt typeByte, toByte_of_lt flagsByte,
    toByte_of_lt ttlByte, structPack_of_lt seqnoWord]
  simp [toByte, bind, Except.bind, pure, Except.pure, setSlice, headerBytes,
    List.drop_append_eq_append_drop, eightBytes]

/-- A header that builds has its fields in range, and is their bytes. -/
theorem buildMeshHeader_ok {msgType flags ttl seqno : Int} {originId header : Bytes}
    (eightBytes : originId.length = 8)
    (built : buildMeshHeader msgType flags ttl originId seqno = .ok header) :
    ∃ m f t s : Nat, msgType = m ∧ flags = f ∧ ttl = t ∧ seqno = s ∧ m < 256 ∧ f < 256 ∧
      t < 256 ∧ s < 2 ^ 32 ∧ header = headerBytes m f t originId s := by
  have version : toByte 1 = .ok 1 := rfl
  cases typed : toByte msgType with
  | error err => simp [buildMeshHeader, version, typed, bind, Except.bind] at built
  | ok typeByte =>
    cases flagged : toByte flags with
    | error err => simp [buildMeshHeader, version, typed, flagged, bind, Except.bind] at built
    | ok flagsByte =>
      cases timed : toByte ttl with
      | error err => simp [buildMeshHeader, version, typed, flagged, timed, bind, Except.bind] at built
      | ok ttlByte =>
        cases packed : structPack seqno with
        | error err =>
            simp [buildMeshHeader, version, typed, flagged, timed, packed, bind, Except.bind] at built
        | ok seqnoBytes =>
            obtain ⟨m, rfl, mByte⟩ := toByte_ok typed
            obtain ⟨f, rfl, fByte⟩ := toByte_ok flagged
            obtain ⟨t, rfl, tByte⟩ := toByte_ok timed
            obtain ⟨s, rfl, sWord⟩ := structPack_ok packed
            rw [buildMeshHeader_eq mByte fByte tByte eightBytes sWord, Except.ok.injEq] at built
            exact ⟨m, f, t, s, rfl, rfl, rfl, rfl, mByte, fByte, tByte, sWord, built.symm⟩

theorem parseMeshHeader_of_le {info : Bytes} (long : 16 ≤ info.length) :
    ∃ seqno, structUnpack (slice info 12 16) = .ok seqno ∧
      parseMeshHeader info = .ok ⟨info[0].toNat, info[1].toNat, info[2].toNat, info[3].toNat,
        slice info 4 12, seqno⟩ := by
  obtain ⟨seqno, unpacked⟩ :=
    structUnpack_of_length (by simp; omega : (slice info 12 16).length = 4)
  refine ⟨seqno, unpacked, ?_⟩
  simp [parseMeshHeader, Nat.not_lt.mpr long, pyIndex_of_lt (show 3 < info.length by omega),
    pyIndex_of_lt (show 2 < info.length by omega), pyIndex_of_lt (show 1 < info.length by omega),
    pyIndex_of_lt (show 0 < info.length by omega), unpacked, bind, Except.bind, pure, Except.pure]

theorem parseMeshHeader_headerBytes {msgType flags ttl seqno : Nat} {originId : Bytes}
    (rest : Bytes) (typeByte : msgType < 256) (flagsByte : flags < 256) (ttlByte : ttl < 256)
    (eightBytes : originId.length = 8) (seqnoWord : seqno < 2 ^ 32) :
    parseMeshHeader (headerBytes msgType flags ttl originId seqno ++ rest) =
      .ok ⟨meshVersion, msgType, flags, ttl, originId, seqno⟩ := by
  have long : 16 ≤ (headerBytes msgType flags ttl originId seqno ++ rest).length := by
    simp [headerBytes, eightBytes]; omega
  obtain ⟨n, unpacked, parsed⟩ := parseMeshHeader_of_le long
  have fourBytes := length_packBE32 seqno
  simp only [headerBytes, slice, List.append_assoc, List.cons_append, List.nil_append,
    List.drop_succ_cons, List.drop_left' eightBytes, List.take_left' eightBytes,
    List.take_left' fourBytes, Nat.reduceSub, List.drop_zero,
    structUnpack_packBE32 seqnoWord, Except.ok.injEq] at unpacked parsed ⊢
  subst n
  rw [parsed]
  simp [UInt8.toNat_ofNat', Nat.mod_eq_of_lt, typeByte, flagsByte, ttlByte]

/-- The fields `_parse_mesh_header` reads from sixteen bytes that start with
the version build those sixteen bytes again. -/
theorem buildMeshHeader_parsed {info : Bytes} (long : 16 ≤ info.length)
    (versioned : info[0]? = some 1) :
    ∃ header, parseMeshHeader info = .ok header ∧
      buildMeshHeader header.msgType header.flags header.ttl header.originId header.seqno =
        .ok (info.take 16) := by
  obtain ⟨a₁, a₂, a₃, rest, rfl⟩ : ∃ a₁ a₂ a₃ rest, info = 1 :: a₁ :: a₂ :: a₃ :: rest := by
    match info, long, versioned with
    | _ :: a₁ :: a₂ :: a₃ :: rest, _, versioned => exact ⟨a₁, a₂, a₃, rest, by simpa using versioned⟩
  obtain ⟨seqno, unpacked, parsed⟩ := parseMeshHeader_of_le long
  refine ⟨_, parsed, ?_⟩
  have eightBytes : (slice (1 :: a₁ :: a₂ :: a₃ :: rest) 4 12).length = 8 := by
    simp [slice] at long ⊢
    omega
  rw [buildMeshHeader_eq (UInt8.toNat_lt_size _) (UInt8.toNat_lt_size _)
    (UInt8.toNat_lt_size _) eightBytes (structUnpack_lt unpacked), headerBytes,
    packBE32_structUnpack unpacked]
  simp only [slice, UInt8.ofNat_toNat']
  simpa using (List.take_add rest 8 4).symm

/-- The mesh header codec round-trips both ways.  A header built from
in-range fields and an eight-byte origin is sixteen bytes, and parses back to
version 1 and those fields whatever follows it.  The fields parsed from any
sixteen or more bytes that start with version 1 build the first sixteen. -/
theorem meshHeader_roundTrip :
    (∀ (msgType flags ttl seqno : Nat) (originId rest : Bytes), msgType < 256 → flags < 256 →
      ttl < 256 → originId.length = 8 → seqno < 2 ^ 32 →
      ∃ header, buildMeshHeader msgType flags ttl originId seqno = .ok header ∧
        header.length = 16 ∧
        parseMeshHeader (header ++ rest) = .ok ⟨1, msgType, flags, ttl, originId, seqno⟩) ∧
    (∀ info : Bytes, 16 ≤ info.length → info[0]? = some 1 →
      ∃ header, parseMeshHeader info = .ok header ∧
        buildMeshHeader header.msgType header.flags header.ttl header.originId header.seqno =
          .ok (info.take 16)) :=
  ⟨fun _ _ _ _ _ rest typeByte flagsByte ttlByte eightBytes seqnoWord =>
    ⟨_, buildMeshHeader_eq typeByte flagsByte ttlByte eightBytes seqnoWord,
      length_headerBytes _ _ _ _ eightBytes,
      parseMeshHeader_headerBytes rest typeByte flagsByte ttlByte eightBytes seqnoWord⟩,
    fun _ => buildMeshHeader_parsed⟩

/-- An OGM header of `N0CALL` with one byte after it, and seventeen bytes of 1. -/
theorem meshHeader_roundTrip_n0call :
    (∃ header, buildMeshHeader 1 0 5 (deriveNodeId "N0CALL") 7 = .ok header ∧
      header.length = 16 ∧
      parseMeshHeader (header ++ [0xff]) = .ok ⟨1, 1, 0, 5, deriveNodeId "N0CALL", 7⟩) ∧
    ∃ header, parseMeshHeader (List.replicate 17 1) = .ok header ∧
      buildMeshHeader header.msgType header.flags header.ttl header.originId header.seqno =
        .ok ((List.replicate 17 1).take 16) :=
  ⟨meshHeader_roundTrip.1 1 0 5 7 _ [0xff] (by decide) (by decide) (by decide) (by decide)
    (by decide), meshHeader_roundTrip.2 _ (by decide) (by decide)⟩

/-! ## Addresses and the UI frame -/

private theorem toUpper_table : ∀ n < 128, (Char.toUpper (Char.ofNat n)).toNat < 128 := by
  decide

private theorem ssidField_table : ∀ v < 16, ∀ last : Bool,
    (if last then 0x60 ||| (v <<< 1) ||| 0x01 else 0x60 ||| (v <<< 1) : Nat) < 128 := by
  decide

private theorem ssidField_lowBit : ∀ v < 16, ∀ last : Bool,
    (UInt8.ofNat (if last then 0x60 ||| (v <<< 1) ||| 0x01 else 0x60 ||| (v <<< 1) : Nat)).toNat % 2 =
      if last then 1 else 0 := by
  decide

theorem isAscii_pyUpper {cs : List Char} (ascii : isAscii cs = true) :
    isAscii (pyUpper cs) = true := by
  simp only [isAscii_iff, pyUpper, List.mem_flatMap] at ascii ⊢
  rintro _ ⟨c, member, upper⟩
  have small := ascii c member
  simp only [pyUpperChar, small, if_true, List.mem_singleton] at upper
  rw [upper, ← Char.ofNat_toNat c]
  exact toUpper_table _ small

theorem shiftCallBytes_of_lt {callBytes : Bytes} (small : ∀ b ∈ callBytes, b.toNat < 128) :
    shiftCallBytes callBytes = .ok (callBytes.map fun b => UInt8.ofNat (b.toNat <<< 1)) := by
  induction callBytes with
  | nil => rfl
  | cons b rest ih =>
      have headSmall : b.toNat <<< 1 < 256 := by
        rw [Nat.shiftLeft_eq]; have := small b (by simp); omega
      simp only [shiftCallBytes, List.mapM_cons, toByte_of_lt headSmall] at ih ⊢
      rw [ih (fun b member => small b (by simp [member]))]
      rfl

theorem isAscii_take {cs : List Char} (n : Nat) (ascii : isAscii cs = true) :
    isAscii (cs.take n) = true := by
  simp only [isAscii_iff] at ascii ⊢
  exact fun c member => ascii c (List.mem_of_mem_take member)

theorem isAscii_splitCallsign {cs : List Char} (ascii : isAscii cs = true) :
    isAscii (splitCallsign cs).1 = true := by
  unfold splitCallsign
  split
  · simp only [isAscii_iff] at ascii ⊢
    exact fun c member => ascii c ((List.takeWhile_sublist _).subset member)
  · exact ascii

/-- The address-extension bits `_encode_ax25_address` writes for a callsign
it can encode, of any length and case and with any SSID text: clear in the
six call bytes, which are shifted left, and set in the SSID byte exactly for
the last address. -/
theorem encodeAx25Address_lowBits {callsign : String} (ascii : isAscii callsign.toList = true)
    (last : Bool) : ∃ address, encodeAx25Address callsign last = .ok address ∧
      address.map (·.toNat % 2) = List.replicate 6 0 ++ [if last then 1 else 0] := by
  rcases split : splitCallsign callsign.toList with ⟨base, ssidValue⟩
  have baseAscii : isAscii base = true := by
    have := isAscii_splitCallsign ascii
    rwa [split] at this
  have charsAscii := isAscii_take 6 (isAscii_pyUpper baseAscii)
  set chars := (pyUpper base).take 6
  have short : chars.length ≤ 6 := List.length_take_le 6 _
  have small : ∀ b ∈ ljust (chars.map (UInt8.ofNat ·.toNat)) 6 (UInt8.ofNat 0x20),
      b.toNat < 128 := by
    simp only [ljust, List.mem_append, List.mem_map, List.mem_replicate]
    rintro b (⟨c, member, rfl⟩ | ⟨-, rfl⟩)
    · rw [UInt8.toNat_ofNat']
      have := (isAscii_iff.mp charsAscii) c member
      omega
    · decide
  have ssidSmall := ssidField_table (ssidValue % 16).toNat (by omega) last
  simp only [encodeAx25Address, split, asciiEncode_of_isAscii charsAscii, bind, Except.bind,
    shiftCallBytes_of_lt small, toByte_of_lt (Nat.lt_trans ssidSmall (by decide)), pure,
    Except.pure]
  refine ⟨_, rfl, ?_⟩
  rw [List.map_append, List.map_map, List.map_singleton, ssidField_lowBit _ (by omega)]
  congr 1
  refine List.eq_replicate_iff.mpr ⟨by simp [ljust]; omega, fun bit member => ?_⟩
  obtain ⟨b, -, rfl⟩ := List.mem_map.mp member
  simp only [Function.comp, UInt8.toNat_ofNat', Nat.shiftLeft_eq]
  omega

/-- A callsign `_encode_ax25_address` can encode at all: `.encode("ascii")`
raises on the base call otherwise. -/
theorem encodeAx25Address_ok {callsign : String} (ascii : isAscii callsign.toList = true)
    (last : Bool) : ∃ address, encodeAx25Address callsign last = .ok address ∧
      address.length = 7 :=
  let ⟨address, encoded, bits⟩ := encodeAx25Address_lowBits ascii last
  ⟨address, encoded, by simpa using congrArg List.length bits⟩

/-- The prefix `_wrap_in_ax25_ui` puts before the payload: sixteen bytes,
control `0x03` and PID `0xF0` last, and among the fourteen address bytes only
the source's SSID byte, the last, has its address-extension bit set. -/
theorem uiPrefix_fields {config : MeshNodeConfig} (ascii : isAscii config.callsign.toList = true)
    (destAscii : isAscii config.meshDestCallsign.toList = true) :
    ∃ pre, uiPrefix config = .ok pre ∧ pre.length = 16 ∧ pre.drop 14 = [0x03, 0xf0] ∧
      (pre.take 14).map (·.toNat % 2) = List.replicate 13 0 ++ [1] := by
  obtain ⟨dest, destEncoded, destBits⟩ := encodeAx25Address_lowBits destAscii false
  obtain ⟨src, srcEncoded, srcBits⟩ := encodeAx25Address_lowBits ascii true
  have addresses : (dest ++ src).length = 14 := by
    simpa using congrArg₂ (·.length + ·.length) destBits srcBits
  simp only [uiPrefix, destEncoded, srcEncoded, bind, Except.bind, pure, Except.pure]
  refine ⟨_, rfl, by simp at addresses ⊢; omega, ?_, ?_⟩
  · rw [List.append_assoc, List.drop_left' addresses]
    rfl
  · rw [List.append_assoc, List.take_left' addresses, List.map_append, destBits, srcBits]
    rfl

theorem uiPrefix_ok {config : MeshNodeConfig} (ascii : isAscii config.callsign.toList = true)
    (destAscii : isAscii config.meshDestCallsign.toList = true) :
    ∃ pre, uiPrefix config = .ok pre ∧ pre.length = 16 :=
  let ⟨pre, prefixed, sixteen, _⟩ := uiPrefix_fields ascii destAscii
  ⟨pre, prefixed, sixteen⟩

theorem wrapInAx25Ui_of_uiPrefix {config : MeshNodeConfig} {pre : Bytes}
    (prefixed : uiPrefix config = .ok pre) (infoPayload : Bytes) :
    wrapInAx25Ui config infoPayload = .ok (pre ++ infoPayload) := by
  simp [wrapInAx25Ui, prefixed, Functor.map, Except.map]

theorem length_shiftCallBytes {callBytes shifted : Bytes}
    (done : shiftCallBytes callBytes = .ok shifted) : shifted.length = callBytes.length := by
  induction callBytes generalizing shifted with
  | nil => cases done; rfl
  | cons b rest ih =>
      rw [shiftCallBytes, List.mapM_cons] at done
      cases byte : toByte (b.toNat <<< 1 : Nat) with
      | error err => rw [byte] at done; cases done
      | ok byte' =>
          cases tail : rest.mapM (fun b => toByte (b.toNat <<< 1 : Nat)) with
          | error err => rw [byte, tail] at done; cases done
          | ok rest' =>
              rw [byte, tail] at done
              cases done
              simp [ih tail]

/-- Whatever callsign `_encode_ax25_address` accepts, it writes seven bytes. -/
theorem length_encodeAx25Address {callsign : String} {last : Bool} {address : Bytes}
    (encoded : encodeAx25Address callsign last = .ok address) : address.length = 7 := by
  unfold encodeAx25Address at encoded
  rcases split : splitCallsign callsign.toList with ⟨base, ssidValue⟩
  simp only [split, bind, Except.bind] at encoded
  split at encoded
  · cases encoded
  · next chars ascii =>
      have short : chars.length ≤ 6 := by
        unfold asciiEncode at ascii
        split at ascii
        · cases ascii; simp
        · cases ascii
      split at encoded
      · cases encoded
      · next out shifted =>
          have sixBytes : out.length = 6 := by
            rw [length_shiftCallBytes shifted, ljust_length_of_le short]
          split at encoded
          · cases encoded
          · cases encoded
            simp [sixBytes]

theorem length_uiPrefix {config : MeshNodeConfig} {pre : Bytes} (prefixed : uiPrefix config = .ok pre) :
    pre.length = 16 := by
  simp only [uiPrefix, bind, Except.bind] at prefixed
  split at prefixed
  · cases prefixed
  · next dest destEncoded =>
      split at prefixed
      · cases prefixed
      · next src srcEncoded =>
          cases prefixed
          simp [length_encodeAx25Address destEncoded, length_encodeAx25Address srcEncoded]

/-- Every frame the node builds carries its payload from byte 16 on, where
`_find_info_start` looks for it. -/
theorem drop_wrapInAx25Ui {config : MeshNodeConfig} {infoPayload frame : Bytes}
    (wrapped : wrapInAx25Ui config infoPayload = .ok frame) : frame.drop 16 = infoPayload := by
  simp only [wrapInAx25Ui, Functor.map, Except.map] at wrapped
  split at wrapped
  · cases wrapped
  · next pre prefixed =>
      cases wrapped
      exact List.drop_left' (length_uiPrefix prefixed)

/-- The AX.25 framer agrees with the receive path's fixed offset.  For ASCII
callsigns of any length and case, with or without an SSID of any text, every
frame is one sixteen-byte prefix and then the payload; the prefix ends in
control `0x03` and PID `0xF0`, and among its fourteen address bytes only the
last has its address-extension bit set.  A non-empty payload is found at
offset 16, whole. -/
theorem wrapInAx25Ui_frame {config : MeshNodeConfig} (ascii : isAscii config.callsign.toList = true)
    (destAscii : isAscii config.meshDestCallsign.toList = true) :
    ∃ pre : Bytes, pre.length = 16 ∧ pre.drop 14 = [0x03, 0xf0] ∧
      (pre.take 14).map (·.toNat % 2) = List.replicate 13 0 ++ [1] ∧
      ∀ payload, wrapInAx25Ui config payload = .ok (pre ++ payload) ∧
        (payload ≠ [] →
          findInfoStart (pre ++ payload) = some 16 ∧ (pre ++ payload).drop 16 = payload) := by
  obtain ⟨pre, prefixed, sixteen, tail, bits⟩ := uiPrefix_fields ascii destAscii
  refine ⟨pre, sixteen, tail, bits, fun payload =>
    ⟨wrapInAx25Ui_of_uiPrefix prefixed payload, fun nonempty => ⟨?_, List.drop_left' sixteen⟩⟩⟩
  have : payload.length ≠ 0 := fun empty => nonempty (List.eq_nil_of_length_eq_zero empty)
  rw [findInfoStart, if_neg (by rw [List.length_append, sixteen]; omega)]

/-- Lowercase callsigns, one with an SSID above 15 and one with an SSID that
`int()` rejects. -/
def lowercaseConfig : MeshNodeConfig := ⟨"n0call-17", "qmesh-x", ⟨5, 120, 60, 30⟩⟩

theorem wrapInAx25Ui_frame_lowercaseConfig :
    isAscii lowercaseConfig.callsign.toList = true ∧
    isAscii lowercaseConfig.meshDestCallsign.toList = true ∧
    ∃ pre : Bytes, pre.length = 16 ∧ pre.drop 14 = [0x03, 0xf0] ∧
      (pre.take 14).map (·.toNat % 2) = List.replicate 13 0 ++ [1] ∧
      ∀ payload, wrapInAx25Ui lowercaseConfig payload = .ok (pre ++ payload) ∧
        (payload ≠ [] →
          findInfoStart (pre ++ payload) = some 16 ∧ (pre ++ payload).drop 16 = payload) :=
  have ascii : isAscii lowercaseConfig.callsign.toList = true := by decide
  have destAscii : isAscii lowercaseConfig.meshDestCallsign.toList = true := by decide
  ⟨ascii, destAscii, wrapInAx25Ui_frame ascii destAscii⟩

/-! ## Node IDs -/

theorem asciiEncodeIgnore_of_isAscii {cs : List Char} (ascii : isAscii cs = true) :
    asciiEncodeIgnore cs = cs.map (UInt8.ofNat ·.toNat) := by
  rw [asciiEncodeIgnore, List.filter_eq_self.mpr (by simpa [isAscii_iff] using ascii)]

/-- A callsign of at most eight ASCII characters is its own node ID, zero padded. -/
theorem deriveNodeId_of_short {callsign : String} (ascii : isAscii callsign.toList = true)
    (short : callsign.length ≤ 8) :
    deriveNodeId callsign =
      callsign.toList.map (UInt8.ofNat ·.toNat) ++ List.replicate (8 - callsign.length) 0 := by
  have fits : (callsign.toList.map (UInt8.ofNat ·.toNat)).length ≤ 8 := by
    simpa using short
  rw [deriveNodeId, asciiEncodeIgnore_of_isAscii ascii,
    List.take_of_length_le (ljust_length_of_le fits).le, ljust, List.length_map]
  rfl

/-- Zero padding is undone by dropping the zeros, as long as the text has none. -/
theorem eq_of_append_replicate_zero {xs ys : Bytes} {m n : Nat} (nonzero : 0 ∉ xs)
    (nonzero' : 0 ∉ ys) (padded : xs ++ List.replicate m 0 = ys ++ List.replicate n 0) :
    xs = ys := by
  induction xs generalizing ys m with
  | nil =>
      cases ys with
      | nil => rfl
      | cons y ys =>
          cases m with
          | zero => simp at padded
          | succ m => exact (nonzero' ((List.cons.inj padded).1 ▸ List.mem_cons_self _ _)).elim
  | cons x xs ih =>
      cases ys with
      | nil =>
          cases n with
          | zero => simp at padded
          | succ n => exact (nonzero ((List.cons.inj padded).1 ▸ List.mem_cons_self _ _)).elim
      | cons y ys =>
          obtain ⟨rfl, rest⟩ := List.cons.inj padded
          rw [ih (fun h => nonzero (.tail _ h)) (fun h => nonzero' (.tail _ h)) rest]

theorem asciiByte_ne_zero {cs : List Char} (ascii : isAscii cs = true) (noNul : Char.ofNat 0 ∉ cs) :
    (0 : UInt8) ∉ cs.map (UInt8.ofNat ·.toNat) := by
  simp only [List.mem_map, not_exists, not_and]
  intro c member zero
  have small := isAscii_iff.mp ascii c member
  have : c.toNat = 0 := by
    have := congrArg UInt8.toNat zero
    rw [UInt8.toNat_ofNat'] at this
    simpa [Nat.mod_eq_of_lt (by omega : c.toNat < 256)] using this
  exact noNul (by rwa [← Char.ofNat_toNat c, this] at member)

theorem map_asciiByte_injective {cs ds : List Char} (ascii : isAscii cs = true) (ascii' : isAscii ds = true)
    (same : cs.map (UInt8.ofNat ·.toNat) = ds.map (UInt8.ofNat ·.toNat)) : cs = ds := by
  have decode : ∀ es : List Char, isAscii es = true →
      (es.map (UInt8.ofNat ·.toNat)).map (fun b => Char.ofNat b.toNat) = es := by
    intro es asciiEs
    rw [List.map_map]
    conv_rhs => rw [← List.map_id es]
    refine List.map_congr_left fun c member => ?_
    have := isAscii_iff.mp asciiEs c member
    simp [UInt8.toNat_ofNat', Nat.mod_eq_of_lt (by omega : c.toNat < 256), Char.ofNat_toNat]
  rw [← decode cs ascii, same, decode ds ascii']

/-- Node IDs tell apart the stations whose callsigns fit in eight characters
with no NUL among them: distinct AX.25 addresses give distinct IDs. -/
theorem deriveNodeId_ne_of_short {first second : String} (last : Bool)
    (firstAscii : isAscii first.toList = true) (secondAscii : isAscii second.toList = true)
    (firstShort : first.length ≤ 8) (secondShort : second.length ≤ 8)
    (firstNoNul : Char.ofNat 0 ∉ first.toList) (secondNoNul : Char.ofNat 0 ∉ second.toList)
    (distinct : encodeAx25Address first last ≠ encodeAx25Address second last) :
    deriveNodeId first ≠ deriveNodeId second := by
  intro same
  rw [deriveNodeId_of_short firstAscii firstShort, deriveNodeId_of_short secondAscii secondShort]
    at same
  have sameText : first.toList = second.toList := map_asciiByte_injective firstAscii secondAscii
    (eq_of_append_replicate_zero (asciiByte_ne_zero firstAscii firstNoNul)
      (asciiByte_ne_zero secondAscii secondNoNul) same)
  exact distinct (by rw [String.ext sameText])

theorem deriveNodeId_ne_of_short_n0call :
    encodeAx25Address "N0CALL" false ≠ encodeAx25Address "N1CALL" false ∧
    deriveNodeId "N0CALL" ≠ deriveNodeId "N1CALL" :=
  have distinct : encodeAx25Address "N0CALL" false ≠ encodeAx25Address "N1CALL" false := by
    rw [show encodeAx25Address "N0CALL" false = .ok [0x9c, 0x60, 0x86, 0x82, 0x98, 0x98, 0x60] from rfl,
      show encodeAx25Address "N1CALL" false = .ok [0x9c, 0x62, 0x86, 0x82, 0x98, 0x98, 0x60] from rfl]
    exact fun same => absurd (Except.ok.inj same) (by decide)
  ⟨distinct, deriveNodeId_ne_of_short false (by decide) (by decide) (by decide) (by decide)
    (by decide) (by decide) distinct⟩

/-- Two stations that differ only in a two-digit SSID share a node ID: the
ID keeps the first eight characters of `ABCDEF-10` and `ABCDEF-11`. -/
theorem deriveNodeId_ssid_collision :
    isAscii "ABCDEF-10".toList = true ∧ isAscii "ABCDEF-11".toList = true ∧
    encodeAx25Address "ABCDEF-10" false = .ok [0x82, 0x84, 0x86, 0x88, 0x8a, 0x8c, 0x74] ∧
    encodeAx25Address "ABCDEF-11" false = .ok [0x82, 0x84, 0x86, 0x88, 0x8a, 0x8c, 0x76] ∧
    deriveNodeId "ABCDEF-10" = deriveNodeId "ABCDEF-11" :=
  ⟨by decide, by decide, rfl, rfl, by decide⟩

end ArdopMeshChat
