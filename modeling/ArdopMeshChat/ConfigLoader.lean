import ArdopMeshChat.Python.Value
import ArdopMeshChat.Kiss.Backoff
import ArdopMeshChat.Kiss.Client
import ArdopMeshChat.Mesh.Line

/-!
# Loading the configuration

`config_loader` turns the mapping `yaml.safe_load` read from the config file
into the configuration records, section by section: `mesh`, `kiss`,
`routing`, `security` and `chat`.  A missing section is an empty mapping, a
missing key takes its default, and three keys are required: `mesh.callsign`,
`chat.db_path` and `node_id_hex` in each peer.  Opening and parsing the file
happen before the model's input.

The records keep what the modelled code reads.  The KISS transport, the serial
and TCP settings and `ogm_interval_seconds` feed the interface factory and the
OGM loop's sleep, neither of which is modelled: they are still read and
converted, so that their exceptions stay, and then dropped.  The node runs on
an integer clock, so it keeps an expiry `e` as `⌊e⌋`, which decides every
comparison with a clock difference the same way (`expired_floor`).

Nothing checks `ogm_ttl`: a value outside a byte loads, and the node then
raises on every OGM and every send (`ogmTtl_unchecked`).
-/

namespace ArdopMeshChat

/-- `TransportType`. -/
inductive TransportType where
  | tcp
  | serial
  deriving DecidableEq, Repr

/-- `MeshSecurityConfig`. -/
structure MeshSecurityConfig where
  enableEncryption : Bool
  key : Option Bytes
  deriving DecidableEq, Repr

/-- `ChatPeer`. -/
structure ChatPeer where
  nodeId : Bytes
  nick : String
  deriving DecidableEq, Repr

/-- `MeshNodeConfig` as `load_mesh_node_config` returns it: what the node
reads, and the sections it hands to the KISS client and to the encryptor. -/
structure LoadedNodeConfig where
  node : MeshNodeConfig
  kissConfig : KISSConnectionConfig
  securityConfig : MeshSecurityConfig

/-- `MeshChatConfig`; the peers are the items of a dict, in order. -/
structure MeshChatConfig where
  meshNodeConfig : LoadedNodeConfig
  dbPath : String
  peers : List (String × ChatPeer)

/-- `isinstance(x, dict)`. -/
def PyValue.isDict : PyValue → Bool
  | .dict _ => true
  | _ => false

/-- The argument of the `KeyError` of `_get_required`. -/
def missingKey (key : String) : String := "Missing required config key: " ++ key

section Loader

variable (conv : PyConversions)

/-- `_get_required`. -/
def getRequired (mapping : PyValue) (key : String) : Except PyError PyValue := do
  if !(← mapping.contains key) then throw (.keyError (missingKey key))
  mapping.getItem key

/-- `_load_transport`. -/
def loadTransport (cfg : PyValue) : Except PyError TransportType := do
  let value ← (← cfg.get "transport" (.str "tcp")).lower
  if value = "tcp" then return .tcp
  if value = "serial" then return .serial
  throw (.valueError ("Unknown transport type: " ++ value))

/-- `load_kiss_config`.  The transport and the serial and TCP settings go to
the interface factory only. -/
def loadKissConfig (root : PyValue) : Except PyError KISSConnectionConfig := do
  let kissCfg ← root.get "kiss" (.dict [])
  let _transport ← loadTransport kissCfg
  let _serialPort ← kissCfg.get "serial_port" (.str "/dev/ttyUSB0")
  let _serialBaud ← (← kissCfg.get "serial_baud" (.int 1200)).toInt
  let _tcpHost ← kissCfg.get "tcp_host" (.str "127.0.0.1")
  let _tcpPort ← (← kissCfg.get "tcp_port" (.int 8001)).toInt
  let reconnectBaseDelay ← (← kissCfg.get "reconnect_base_delay" (.float 5)).toFloat conv
  let reconnectMaxDelay ← (← kissCfg.get "reconnect_max_delay" (.float 60)).toFloat conv
  let txQueueSize ← (← kissCfg.get "tx_queue_size" (.int 1000)).toInt
  -- `queue.Queue(maxsize)` is unbounded for every `maxsize ≤ 0`
  return ⟨reconnectBaseDelay, reconnectMaxDelay, txQueueSize.toNat⟩

/-- `load_routing_config`.  `ogm_interval_seconds` goes to the OGM loop's
sleep only; the expiries are kept on the node's integer clock. -/
def loadRoutingConfig (root : PyValue) : Except PyError MeshRoutingConfig := do
  let routingCfg ← root.get "routing" (.dict [])
  let _ogmInterval ← (← routingCfg.get "ogm_interval_seconds" (.float 10)).toFloat conv
  let ogmTtl ← (← routingCfg.get "ogm_ttl" (.int 5)).toInt
  let routeExpiry ← (← routingCfg.get "route_expiry_seconds" (.float 120)).toFloat conv
  let neighborExpiry ← (← routingCfg.get "neighbor_expiry_seconds" (.float 60)).toFloat conv
  let dataSeenExpiry ← (← routingCfg.get "data_seen_expiry_seconds" (.float 30)).toFloat conv
  return ⟨ogmTtl, ⌊routeExpiry⌋, ⌊neighborExpiry⌋, ⌊dataSeenExpiry⌋⟩

/-- `load_security_config`. -/
def loadSecurityConfig (root : PyValue) : Except PyError MeshSecurityConfig := do
  let secCfg ← root.get "security" (.dict [])
  let enableEncryption := (← secCfg.get "enable_encryption" (.bool false)).truthy
  let keyHex ← secCfg.get "key_hex" .none
  let keyBytes ← if keyHex matches .none then pure none else some <$> unhexlify keyHex
  return ⟨enableEncryption, keyBytes⟩

/-- `load_mesh_node_config`. -/
def loadMeshNodeConfig (root : PyValue) : Except PyError LoadedNodeConfig := do
  let meshCfg ← root.get "mesh" (.dict [])
  let callsign := (← getRequired meshCfg "callsign").toStr conv
  let meshDestCallsign := (← meshCfg.get "mesh_dest_callsign" (.str "QMESH-0")).toStr conv
  let kissCfg ← loadKissConfig conv root
  let routingCfg ← loadRoutingConfig conv root
  let securityCfg ← loadSecurityConfig root
  return ⟨⟨callsign, meshDestCallsign, routingCfg⟩, kissCfg, securityCfg⟩

/-- One pass of the loop over `peers_raw.items()`: `none` when the entry is no
dict and is skipped. -/
def loadPeer (nickname : String) (peerDataAny : PyValue) : Except PyError (Option ChatPeer) := do
  if !peerDataAny.isDict then return none
  let nodeIdHex ← getRequired peerDataAny "node_id_hex"
  let peerNick := (← peerDataAny.get "nick" (.str nickname)).toStr conv
  let nodeIdBytes ← unhexlify nodeIdHex
  if nodeIdBytes.length ≠ 8 then
    throw (.valueError ("node_id_hex for peer " ++ nickname ++ " must decode to 8 bytes"))
  return some ⟨nodeIdBytes, peerNick⟩

/-- The loop over `peers_raw.items()`, from the peers loaded so far. -/
def loadPeers : List (String × PyValue) → List (String × ChatPeer) →
    Except PyError (List (String × ChatPeer))
  | [], peers => .ok peers
  | (nickname, peerDataAny) :: rest, peers => do
      let loaded ← loadPeer conv nickname peerDataAny
      loadPeers rest (loaded.elim peers (dictSet peers nickname))

/-- `load_chat_config_from_yaml`, from the value `yaml.safe_load` returned. -/
def loadChatConfigFromYaml (root : PyValue) : Except PyError MeshChatConfig := do
  if !root.isDict then throw (.valueError "Top-level YAML must be a mapping")
  let meshNodeCfg ← loadMeshNodeConfig conv root
  let chatCfgRaw ← root.get "chat" (.dict [])
  let dbPath := (← getRequired chatCfgRaw "db_path").toStr conv
  let peersRaw ← chatCfgRaw.get "peers" (.dict [])
  let peers ← loadPeers conv (← peersRaw.items) []
  return ⟨meshNodeCfg, dbPath, peers⟩

/-- Conversions for a file that holds no number as text and no float `str()`
has to print. -/
def plainConversions : PyConversions := ⟨fun _ => none, fun _ => ""⟩

@[simp] theorem PyValue.isDict_dict (items : List (String × PyValue)) : (PyValue.dict items).isDict :=
  rfl

theorem getRequired_dict (items : List (String × PyValue)) (key : String) :
    getRequired (.dict items) key = (items.lookup key).elim (.error (.keyError (missingKey key))) .ok := by
  cases found : items.lookup key <;> simp [getRequired, found]

/-! ## Every `KeyError` names a required key -/

/-- The `KeyError` of `_get_required` says which key the mapping lacks. -/
theorem getRequired_keyError {mapping : PyValue} {key arg : String}
    (raised : getRequired mapping key = .error (.keyError arg)) :
    arg = missingKey key ∧ mapping.contains key = .ok false := by
  cases mapping with
  | dict items =>
      rw [getRequired_dict] at raised
      cases found : items.lookup key with
      | none =>
          simp only [found, Option.elim, Except.error.injEq, PyError.keyError.injEq] at raised
          exact ⟨raised.symm, by rw [PyValue.contains_dict, found]; rfl⟩
      | some value => simp [found] at raised
  | list items =>
      by_cases member : items.any (PyValue.isStr key) <;>
        simp_all [getRequired, PyValue.contains, PyValue.getItem]
  | str s =>
      by_cases within : key.toList <:+: s.toList <;>
        simp_all [getRequired, PyValue.contains, PyValue.getItem]
  | _ => simp [getRequired, PyValue.contains] at raised

/-- Every `KeyError` the computation raises is `_get_required`'s, for one of
`keys`. -/
def KeyErrorsAmong {α : Type} (keys : List String) (x : Except PyError α) : Prop :=
  ∀ arg, x = .error (.keyError arg) → ∃ key ∈ keys, arg = missingKey key

namespace KeyErrorsAmong

variable {α β : Type} {keys : List String}

theorem pure (a : α) : KeyErrorsAmong keys (Except.ok a) := fun _ raised => by cases raised

theorem bind {x : Except PyError α} {f : α → Except PyError β} (first : KeyErrorsAmong keys x)
    (rest : ∀ a, KeyErrorsAmong keys (f a)) : KeyErrorsAmong keys (x >>= f) := by
  intro arg raised
  cases x with
  | error err =>
      obtain rfl := Except.error.inj raised
      exact first arg rfl
  | ok a => exact rest a arg raised

theorem mono {keys' : List String} {x : Except PyError α} (among : KeyErrorsAmong keys x)
    (sub : keys ⊆ keys') : KeyErrorsAmong keys' x := fun arg raised =>
  let ⟨key, mem, named⟩ := among arg raised
  ⟨key, sub mem, named⟩

/-- A computation that raises no `KeyError`. -/
theorem of_ne {x : Except PyError α} (never : ∀ arg, x ≠ .error (.keyError arg)) :
    KeyErrorsAmong keys x := fun arg raised => absurd raised (never arg)

theorem map {x : Except PyError α} (f : α → β) (among : KeyErrorsAmong keys x) :
    KeyErrorsAmong keys (f <$> x) := by
  intro arg raised
  cases x with
  | error err =>
      obtain rfl := Except.error.inj raised
      exact among arg rfl
  | ok a => cases raised

theorem valueError (message : String) :
    KeyErrorsAmong keys (throw (.valueError message) : Except PyError α) :=
  of_ne fun _ => by simp

theorem get (x : PyValue) (key : String) (default : PyValue) :
    KeyErrorsAmong keys (x.get key default) :=
  of_ne fun _ => by cases x <;> simp [PyValue.get]

theorem items (x : PyValue) : KeyErrorsAmong keys x.items :=
  of_ne fun _ => by cases x <;> simp [PyValue.items]

theorem lower (x : PyValue) : KeyErrorsAmong keys x.lower :=
  of_ne fun _ => by cases x <;> simp [PyValue.lower]

theorem toInt (x : PyValue) : KeyErrorsAmong keys x.toInt :=
  of_ne fun _ => by
    cases x with
    | str s =>
        simp only [PyValue.toInt]
        cases pyInt s.toList <;> simp
    | _ => simp [PyValue.toInt]

theorem toFloat (x : PyValue) : KeyErrorsAmong keys (x.toFloat conv) :=
  of_ne fun _ => by
    cases x with
    | int n =>
        simp only [PyValue.toFloat, intToFloat]
        split_ifs <;> simp
    | str s =>
        simp only [PyValue.toFloat]
        cases conv.floatOfStr s <;> simp
    | _ => simp [PyValue.toFloat]

theorem unhexlify (x : PyValue) : KeyErrorsAmong keys (unhexlify x) :=
  of_ne fun _ => by
    cases x with
    | str s =>
        simp only [ArdopMeshChat.unhexlify]
        split_ifs <;> cases hexPairs s.toList <;> simp
    | _ => simp [ArdopMeshChat.unhexlify]

theorem getRequired (mapping : PyValue) {key : String} (required : key ∈ keys) :
    KeyErrorsAmong keys (getRequired mapping key) := fun _ raised =>
  ⟨key, required, (getRequired_keyError raised).1⟩

theorem loadTransport (cfg : PyValue) : KeyErrorsAmong keys (loadTransport cfg) := by
  unfold ArdopMeshChat.loadTransport
  refine bind (get _ _ _) fun value => bind (lower value) fun lowered => ?_
  dsimp only
  split
  · exact pure _
  · refine bind (pure _) fun _ => ?_
    split
    · exact pure _
    · exact bind (pure _) fun _ => valueError _

/-! Each loader below is a chain of binds; every link is a builtin above or an
earlier loader. -/

theorem loadKissConfig (root : PyValue) : KeyErrorsAmong keys (loadKissConfig conv root) := by
  unfold ArdopMeshChat.loadKissConfig
  repeat' first
    | exact pure _ | exact get _ _ _ | exact toInt _ | exact toFloat conv _
    | exact loadTransport _ | refine bind ?_ fun _ => ?_

theorem loadRoutingConfig (root : PyValue) : KeyErrorsAmong keys (loadRoutingConfig conv root) := by
  unfold ArdopMeshChat.loadRoutingConfig
  repeat' first
    | exact pure _ | exact get _ _ _ | exact toInt _ | exact toFloat conv _
    | refine bind ?_ fun _ => ?_

theorem loadSecurityConfig (root : PyValue) : KeyErrorsAmong keys (loadSecurityConfig root) := by
  unfold ArdopMeshChat.loadSecurityConfig
  refine bind (get _ _ _) fun _ => bind (get _ _ _) fun _ => bind (get _ _ _) fun keyHex => ?_
  dsimp only
  split
  · exact bind (pure _) fun _ => pure _
  · exact bind (map _ (unhexlify _)) fun _ => pure _

theorem loadMeshNodeConfig (root : PyValue) (callsign : "callsign" ∈ keys) :
    KeyErrorsAmong keys (loadMeshNodeConfig conv root) := by
  unfold ArdopMeshChat.loadMeshNodeConfig
  repeat' first
    | exact pure _ | exact get _ _ _ | exact getRequired _ callsign
    | exact loadKissConfig conv _ | exact loadRoutingConfig conv _ | exact loadSecurityConfig _
    | refine bind ?_ fun _ => ?_

theorem loadPeer (nickname : String) (peerDataAny : PyValue) (nodeIdHex : "node_id_hex" ∈ keys) :
    KeyErrorsAmong keys (loadPeer conv nickname peerDataAny) := by
  unfold ArdopMeshChat.loadPeer
  dsimp only
  split
  · exact pure _
  · refine bind (pure _) fun _ => bind (getRequired _ nodeIdHex) fun _ => bind (get _ _ _) fun _ =>
      bind (unhexlify _) fun _ => ?_
    split
    · exact bind (valueError _) fun _ => pure _
    · exact bind (pure _) fun _ => pure _

theorem loadPeers (items : List (String × PyValue)) (nodeIdHex : "node_id_hex" ∈ keys)
    (peers : List (String × ChatPeer)) : KeyErrorsAmong keys (loadPeers conv items peers) := by
  induction items generalizing peers with
  | nil => exact pure _
  | cons item items ih => exact bind (loadPeer conv _ _ nodeIdHex) fun _ => ih _

end KeyErrorsAmong

/-- Every error that names a missing key is `_get_required`'s, for one of the
three keys the loader requires. -/
theorem keyError_of_loadChatConfigFromYaml {root : PyValue} {arg : String}
    (raised : loadChatConfigFromYaml conv root = .error (.keyError arg)) :
    ∃ key ∈ ["callsign", "db_path", "node_id_hex"], arg = missingKey key := by
  have among : KeyErrorsAmong ["callsign", "db_path", "node_id_hex"]
      (loadChatConfigFromYaml conv root) := by
    unfold loadChatConfigFromYaml
    dsimp only
    split
    all_goals repeat' first
      | exact KeyErrorsAmong.pure _ | exact KeyErrorsAmong.valueError _
      | exact KeyErrorsAmong.get _ _ _ | exact KeyErrorsAmong.items _
      | exact KeyErrorsAmong.getRequired _ (by decide)
      | exact KeyErrorsAmong.loadMeshNodeConfig conv _ (by decide)
      | exact KeyErrorsAmong.loadPeers conv _ (by decide) _
      | refine KeyErrorsAmong.bind ?_ fun _ => ?_
  exact among arg raised

example : loadChatConfigFromYaml plainConversions (.dict [("chat", .dict [])]) =
    .error (.keyError "Missing required config key: callsign") := rfl

/-! ## Defaults -/

/-- With only the two required keys, every other setting takes its default:
the reconnect timers and queue size of `defaultConfig`, the routing defaults,
no encryption and no peers. -/
theorem loadChatConfigFromYaml_defaults (callsign dbPath : String) :
    loadChatConfigFromYaml conv (.dict [("mesh", .dict [("callsign", .str callsign)]),
      ("chat", .dict [("db_path", .str dbPath)])]) =
      .ok ⟨⟨⟨callsign, "QMESH-0", ⟨5, 120, 60, 30⟩⟩, KISSConnectionConfig.defaultConfig, ⟨false, none⟩⟩,
        dbPath, []⟩ := by
  have tcp : (⟨"tcp".toList.map Char.toLower⟩ : String) = "tcp" := by decide
  simp [loadChatConfigFromYaml, loadMeshNodeConfig, loadKissConfig, loadTransport, tcp,
    loadRoutingConfig, loadSecurityConfig, getRequired_dict, List.lookup_cons, loadPeers,
    KISSConnectionConfig.defaultConfig]

/-! ## What the loader accepts

The loader returns exactly the configurations whose peers have 8-byte node IDs
under distinct nicknames: it reads each of them back from the YAML that writes
it out, and it returns no other. -/

/-- A chat configuration the loader can return. -/
structure MeshChatConfig.WellFormed (config : MeshChatConfig) : Prop where
  nodeIds : ∀ peer ∈ config.peers, peer.2.nodeId.length = 8
  nicknames : (config.peers.map (·.1)).Nodup

/-- A peer as the `peers` mapping of the YAML file writes it. -/
def ChatPeer.toYaml (peer : ChatPeer) : PyValue :=
  .dict [("node_id_hex", .str (bytesHex peer.nodeId)), ("nick", .str peer.nick)]

/-- The YAML mapping that writes out every field the loader keeps. -/
def MeshChatConfig.toYaml (config : MeshChatConfig) : PyValue :=
  let node := config.meshNodeConfig.node
  let routing := node.routingConfig
  let kiss := config.meshNodeConfig.kissConfig
  let security := config.meshNodeConfig.securityConfig
  .dict [
    ("mesh", .dict [("callsign", .str node.callsign),
      ("mesh_dest_callsign", .str node.meshDestCallsign)]),
    ("kiss", .dict [("reconnect_base_delay", .float kiss.reconnectBaseDelay),
      ("reconnect_max_delay", .float kiss.reconnectMaxDelay),
      ("tx_queue_size", .int kiss.txQueueSize)]),
    ("routing", .dict [("ogm_ttl", .int routing.ogmTtl),
      ("route_expiry_seconds", .float routing.routeExpirySeconds),
      ("neighbor_expiry_seconds", .float routing.neighborExpirySeconds),
      ("data_seen_expiry_seconds", .float routing.dataSeenExpirySeconds)]),
    ("security", .dict (("enable_encryption", .bool security.enableEncryption) ::
      security.key.elim [] fun key => [("key_hex", .str (bytesHex key))])),
    ("chat", .dict [("db_path", .str config.dbPath),
      ("peers", .dict (config.peers.map fun peer => (peer.1, peer.2.toYaml)))])]

theorem nodeId_of_loadPeer {nickname : String} {peerDataAny : PyValue} {peer : ChatPeer}
    (loaded : loadPeer conv nickname peerDataAny = .ok (some peer)) : peer.nodeId.length = 8 := by
  unfold loadPeer at loaded
  dsimp only at loaded
  split at loaded
  · cases loaded
  · simp only [pure_bind] at loaded
    obtain ⟨_, -, loaded⟩ := bind_eq_ok loaded
    obtain ⟨_, -, loaded⟩ := bind_eq_ok loaded
    obtain ⟨nodeIdBytes, -, loaded⟩ := bind_eq_ok loaded
    split at loaded
    · cases loaded
    · next eight =>
        cases loaded
        simpa using eight

example : loadPeer plainConversions "bob" (.dict [("node_id_hex", .str "0102030405AB")]) =
    .error (.valueError "node_id_hex for peer bob must decode to 8 bytes") := rfl

/-- The loop over the peers keeps their node IDs 8 bytes long and their
nicknames distinct. -/
theorem wellFormed_loadPeers {items : List (String × PyValue)} {peers loaded : List (String × ChatPeer)}
    (nodeIds : ∀ peer ∈ peers, peer.2.nodeId.length = 8) (nicknames : (peers.map (·.1)).Nodup)
    (done : loadPeers conv items peers = .ok loaded) :
    (∀ peer ∈ loaded, peer.2.nodeId.length = 8) ∧ (loaded.map (·.1)).Nodup := by
  induction items generalizing peers with
  | nil =>
      cases done
      exact ⟨nodeIds, nicknames⟩
  | cons item items ih =>
      obtain ⟨nickname, peerDataAny⟩ := item
      rw [loadPeers] at done
      obtain ⟨next, nextIs, done⟩ := bind_eq_ok done
      cases next with
      | none => exact ih nodeIds nicknames done
      | some peer =>
          refine ih (fun entry member => ?_) (nodup_keys_dictSet nicknames _ _) done
          rcases mem_dictSet member with old | rfl
          · exact nodeIds entry old
          · exact nodeId_of_loadPeer conv nextIs

theorem wellFormed_of_loadChatConfigFromYaml {root : PyValue} {config : MeshChatConfig}
    (done : loadChatConfigFromYaml conv root = .ok config) : config.WellFormed := by
  unfold loadChatConfigFromYaml at done
  dsimp only at done
  split at done
  · cases done
  · simp only [pure_bind] at done
    obtain ⟨_, -, done⟩ := bind_eq_ok done
    obtain ⟨_, -, done⟩ := bind_eq_ok done
    obtain ⟨_, -, done⟩ := bind_eq_ok done
    obtain ⟨_, -, done⟩ := bind_eq_ok done
    obtain ⟨_, -, done⟩ := bind_eq_ok done
    obtain ⟨peers, loaded, done⟩ := bind_eq_ok done
    cases done
    obtain ⟨nodeIds, nicknames⟩ := wellFormed_loadPeers conv (by simp) (by simp) loaded
    exact ⟨nodeIds, nicknames⟩

theorem loadPeer_toYaml (nickname : String) {peer : ChatPeer} (eight : peer.nodeId.length = 8) :
    loadPeer conv nickname peer.toYaml = .ok (some peer) := by
  simp [loadPeer, ChatPeer.toYaml, getRequired_dict, List.lookup_cons, unhexlify_bytesHex, eight]
  rfl

theorem loadPeers_toYaml {peers : List (String × ChatPeer)} (nodeIds : ∀ peer ∈ peers, peer.2.nodeId.length = 8)
    (acc : List (String × ChatPeer)) (nicknames : ((acc ++ peers).map (·.1)).Nodup) :
    loadPeers conv (peers.map fun peer => (peer.1, peer.2.toYaml)) acc = .ok (acc ++ peers) := by
  induction peers generalizing acc with
  | nil => simp [loadPeers]
  | cons peer peers ih =>
      have fresh : acc.lookup peer.1 = none := by
        rw [List.map_append, List.nodup_append] at nicknames
        refine List.lookup_eq_none_iff.mpr fun entry member => bne_iff_ne.mpr fun same => ?_
        exact nicknames.2.2 (List.mem_map_of_mem (·.1) member)
          (by rw [← same]; exact List.mem_map_of_mem _ (List.mem_cons_self _ _))
      rw [List.map_cons, loadPeers, loadPeer_toYaml conv _ (nodeIds peer (List.mem_cons_self _ _))]
      simp only [ok_bind, Option.elim, dictSet_of_fresh fresh]
      rw [ih (fun entry member => nodeIds entry (List.mem_cons_of_mem _ member)) _ (by simpa using nicknames)]
      simp

/-! Each section loader reads back the section that `MeshChatConfig.toYaml` writes. -/

theorem loadKissConfig_toYaml (config : MeshChatConfig) :
    loadKissConfig conv config.toYaml = .ok config.meshNodeConfig.kissConfig := by
  have tcp : (⟨"tcp".toList.map Char.toLower⟩ : String) = "tcp" := by decide
  simp [loadKissConfig, MeshChatConfig.toYaml, loadTransport, List.lookup_cons, tcp]

theorem loadRoutingConfig_toYaml (config : MeshChatConfig) :
    loadRoutingConfig conv config.toYaml = .ok config.meshNodeConfig.node.routingConfig := by
  simp [loadRoutingConfig, MeshChatConfig.toYaml, List.lookup_cons]

theorem loadSecurityConfig_toYaml (config : MeshChatConfig) :
    loadSecurityConfig config.toYaml = .ok config.meshNodeConfig.securityConfig := by
  obtain ⟨⟨-, -, ⟨-, key⟩⟩, -, -⟩ := config
  cases key <;> simp [loadSecurityConfig, MeshChatConfig.toYaml, List.lookup_cons, unhexlify_bytesHex]

theorem loadMeshNodeConfig_toYaml (config : MeshChatConfig) :
    loadMeshNodeConfig conv config.toYaml = .ok config.meshNodeConfig := by
  rw [loadMeshNodeConfig, loadKissConfig_toYaml, loadRoutingConfig_toYaml, loadSecurityConfig_toYaml]
  simp [MeshChatConfig.toYaml, getRequired_dict, List.lookup_cons]

/-- The loader returns exactly the well-formed configurations: it reads every
one of them back from the YAML that writes it out, and every configuration it
returns is well formed. -/
theorem loadChatConfigFromYaml_wellFormed (config : MeshChatConfig) :
    (config.WellFormed → loadChatConfigFromYaml conv config.toYaml = .ok config) ∧
    ∀ root, loadChatConfigFromYaml conv root = .ok config → config.WellFormed := by
  refine ⟨fun wellFormed => ?_, fun _ => wellFormed_of_loadChatConfigFromYaml conv⟩
  have peers := loadPeers_toYaml conv wellFormed.nodeIds [] (by simpa using wellFormed.nicknames)
  rw [loadChatConfigFromYaml, loadMeshNodeConfig_toYaml]
  simp [MeshChatConfig.toYaml, getRequired_dict, List.lookup_cons, peers]

end Loader

/-- `N0CALL`'s configuration, with a key and one peer. -/
def sampleChatConfig : MeshChatConfig :=
  ⟨⟨⟨"N0CALL", "QMESH-0", ⟨5, 120, 60, 30⟩⟩, KISSConnectionConfig.defaultConfig, ⟨true, some [1, 2]⟩⟩,
    "chat.db", [("bob", ⟨[1, 2, 3, 4, 5, 6, 7, 8], "Bob"⟩)]⟩

theorem loadChatConfigFromYaml_sampleChatConfig :
    sampleChatConfig.WellFormed ∧
      loadChatConfigFromYaml plainConversions sampleChatConfig.toYaml = .ok sampleChatConfig :=
  have wellFormed : sampleChatConfig.WellFormed := ⟨by decide, by decide⟩
  ⟨wellFormed, (loadChatConfigFromYaml_wellFormed plainConversions sampleChatConfig).1 wellFormed⟩

/-! ## The loaded values on the node's terms -/

/-- An integer clock difference exceeds a float expiry exactly when it exceeds
the expiry's floor: `expired` on `⌊e⌋` is the source's test on `e`. -/
theorem expired_floor (now lastSeen : Time) (expiry : ℚ) :
    MeshNode.expired now lastSeen ⌊expiry⌋ = decide (expiry < ((now - lastSeen : Time) : ℚ)) := by
  simp only [MeshNode.expired, gt_iff_lt, Int.floor_lt]

/-- `queue.Queue(maxsize)` is full when `0 < maxsize ≤ qsize()`, and the
client that counts `maxsize.toNat` tests exactly that. -/
theorem txQueueFull_toNat (client : KISSClient) {maxsize : Int}
    (sized : client.config.txQueueSize = maxsize.toNat) :
    client.txQueueFull = decide (0 < maxsize ∧ maxsize ≤ client.txQueue.length) := by
  rw [KISSClient.txQueueFull, sized, Bool.eq_iff_iff]
  simp only [Bool.and_eq_true, decide_eq_true_eq]
  omega

/-! ## An `ogm_ttl` outside a byte -/

/-- With an `ogm_ttl` outside a byte, `_build_ogm_payload` raises, so the OGM
loop sends nothing. -/
theorem ogmTick_of_not_byte (node : MeshNode)
    (outside : node.config.routingConfig.ogmTtl < 0 ∨ 255 < node.config.routingConfig.ogmTtl) :
    node.ogmTick = ⟨node.nextSeqno.1, [], some (.valueError "byte must be in range(0, 256)")⟩ := by
  simp only [MeshNode.ogmTick, MeshNode.buildOgmPayload, buildMeshHeader, MeshNode.config_nextSeqno,
    toByte_of_not_byte outside]
  rfl

/-- With an `ogm_ttl` outside a byte, `send_application_data` raises from
the header of the DATA payload, after taking a seqno, and sends nothing. -/
theorem sendApplicationData_of_not_byte (zlib : Zlib) (node : MeshNode)
    (outside : node.config.routingConfig.ogmTtl < 0 ∨ 255 < node.config.routingConfig.ogmTtl)
    {destNodeId : Bytes} (destEight : destNodeId.length = 8) (payload : Bytes) :
    node.sendApplicationData zlib destNodeId payload =
      ⟨node.nextSeqno.1, [], some (.valueError "byte must be in range(0, 256)")⟩ := by
  have seqnoWord : node.nextSeqno.2.toNat < 2 ^ 32 := node.nextSeqno.2.toNat_lt_size
  simp only [MeshNode.sendApplicationData, destEight, ne_eq, not_true_eq_false, if_false,
    MeshNode.buildDataPayload, structPack_of_lt seqnoWord, MeshNode.config_nextSeqno, ok_bind]
  have flagsByte := (MeshNode.sealPayload_flags node.nextSeqno.1.encryptor
    (MeshNode.compressPayload_flags zlib payload) (MeshNode.compressPayload zlib payload).1
    (node.nextSeqno.1.nodeId ++ destNodeId ++ packBE32 node.nextSeqno.2.toNat)).1
  simp only [buildMeshHeader, toByte_of_lt flagsByte, toByte_of_not_byte outside]
  rfl

/-- Nothing checks `ogm_ttl`.  A file that sets it outside a byte loads, with
that TTL; a node is created from it; and every node with that configuration,
in whatever state, raises `ValueError` from every OGM tick and from every
`send_application_data` call, and sends nothing. -/
theorem ogmTtl_unchecked (conv : PyConversions) (callsign dbPath : String) {ttl : Int}
    (outside : ttl < 0 ∨ 255 < ttl) :
    ∃ config, loadChatConfigFromYaml conv (.dict [("mesh", .dict [("callsign", .str callsign)]),
        ("routing", .dict [("ogm_ttl", .int ttl)]), ("chat", .dict [("db_path", .str dbPath)])]) =
        .ok config ∧
      config.meshNodeConfig.node.routingConfig.ogmTtl = ttl ∧
      (∀ encryptor appDataCallback, ∃ node,
        MeshNode.new config.meshNodeConfig.node encryptor appDataCallback = .ok node) ∧
      ∀ node : MeshNode, node.config = config.meshNodeConfig.node →
        node.ogmTick.effects = [] ∧
        node.ogmTick.raised = some (.valueError "byte must be in range(0, 256)") ∧
        ∀ zlib destNodeId payload, destNodeId.length = 8 →
          (node.sendApplicationData zlib destNodeId payload).effects = [] ∧
          (node.sendApplicationData zlib destNodeId payload).raised =
            some (.valueError "byte must be in range(0, 256)") := by
  have tcp : (⟨"tcp".toList.map Char.toLower⟩ : String) = "tcp" := by decide
  refine ⟨⟨⟨⟨callsign, "QMESH-0", ⟨ttl, 120, 60, 30⟩⟩, KISSConnectionConfig.defaultConfig,
    ⟨false, none⟩⟩, dbPath, []⟩, ?_, rfl,
    fun _ _ => ⟨_, dif_pos (show isAscii "QMESH-0".toList = true by decide)⟩,
    fun node configured => ?_⟩
  · simp [loadChatConfigFromYaml, loadMeshNodeConfig, loadKissConfig, loadTransport, tcp,
      loadRoutingConfig, loadSecurityConfig, getRequired_dict, List.lookup_cons, loadPeers,
      KISSConnectionConfig.defaultConfig]
  · have outsideNode : node.config.routingConfig.ogmTtl < 0 ∨ 255 < node.config.routingConfig.ogmTtl := by
      rw [configured]
      exact outside
    rw [ogmTick_of_not_byte node outsideNode]
    refine ⟨rfl, rfl, fun zlib destNodeId payload destEight => ?_⟩
    rw [sendApplicationData_of_not_byte zlib node outsideNode destEight payload]
    exact ⟨rfl, rfl⟩

theorem ogmTtl_unchecked_n0call :
    ((300 : Int) < 0 ∨ 255 < (300 : Int)) ∧
    ∃ config, loadChatConfigFromYaml plainConversions
        (.dict [("mesh", .dict [("callsign", .str "N0CALL")]), ("routing", .dict [("ogm_ttl", .int 300)]),
          ("chat", .dict [("db_path", .str "chat.db")])]) = .ok config ∧
      config.meshNodeConfig.node.routingConfig.ogmTtl = 300 ∧
      (∀ encryptor appDataCallback, ∃ node,
        MeshNode.new config.meshNodeConfig.node encryptor appDataCallback = .ok node) ∧
      ∀ node : MeshNode, node.config = config.meshNodeConfig.node →
        node.ogmTick.effects = [] ∧
        node.ogmTick.raised = some (.valueError "byte must be in range(0, 256)") ∧
        ∀ zlib destNodeId payload, destNodeId.length = 8 →
          (node.sendApplicationData zlib destNodeId payload).effects = [] ∧
          (node.sendApplicationData zlib destNodeId payload).raised =
            some (.valueError "byte must be in range(0, 256)") :=
  have outside : (300 : Int) < 0 ∨ 255 < (300 : Int) := .inr (by decide)
  ⟨outside, ogmTtl_unchecked plainConversions "N0CALL" "chat.db" outside⟩

end ArdopMeshChat
