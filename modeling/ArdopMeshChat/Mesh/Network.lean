import ArdopMeshChat.Mesh.Run
import Mathlib.Data.Fintype.Card

/-!
# Nodes sharing one channel

Any number of nodes on a broadcast medium that may hand any frame ever
transmitted to any node, any number of times and in any order.  Each node
keeps its own state; the air keeps every transmission with its sender and
whether `_on_kiss_frame` sent it (a relay) or the node's own
`send_application_data` or OGM timer did.

While no dedup entry expires, every node relays each DATA key at most once,
so a key is relayed at most once per node.  The originator never records its
own key, so the bound does not extend to the frames a node originates: the
echo of its own packet passes its dedup gate once.
-/

namespace ArdopMeshChat

/-- The dedup key a frame carries, if it is a DATA frame. -/
def dataKey? (frame : Bytes) : Option DataKey :=
  match classifyFrame frame with
  | .data header _ => some (header.originId, header.seqno)
  | _ => none

/-- One frame put on the air. -/
structure Transmission (ι : Type) where
  sender : ι
  frame : Bytes
  relayed : Bool
  deriving DecidableEq

/-- The nodes of a network, and every frame transmitted so far, in order. -/
structure Network (ι : Type) where
  nodes : ι → MeshNode
  air : List (Transmission ι)

/-- What can happen in a network: the medium hands a frame to a node, a node
sends application data or an OGM of its own, or a node's cleanup sweep runs. -/
inductive NetEvent (ι : Type) where
  | deliver (receiver : ι) (now : Time) (frame : Bytes)
  | send (sender : ι) (destNodeId payload : Bytes)
  | ogmTick (sender : ι)
  | sweep (node : ι) (now : Time)

namespace MeshNode

variable (zlib : Zlib)

/-- A DATA frame a node sends from `_on_kiss_frame` relays a received DATA
frame with the same key. -/
theorem classifyFrame_of_sent_data {node : MeshNode} {now : Time} {frame sent : Bytes}
    {key : DataKey} (member : sent ∈ sentFrames (node.onKissFrame zlib now frame).effects)
    (carries : dataKey? sent = some key) :
    ∃ header body, classifyFrame frame = .data header body ∧
      (header.originId, header.seqno) = key := by
  obtain ⟨header, forwarded, flags', parsed, version, -, wrapped, parsedForwarded, -, -⟩ :=
    sent_of_onKissFrame zlib node now frame sent member
  rw [← drop_wrapInAx25Ui wrapped] at parsedForwarded
  unfold dataKey? at carries
  split at carries
  · next sentHeader body classifiedSent =>
      obtain ⟨parsedSent, -, data, -⟩ := classifyFrame_eq_data classifiedSent
      rw [parsedForwarded, Except.ok.injEq] at parsedSent
      subst parsedSent
      have data : header.msgType = meshMsgData := data
      refine ⟨header, frame.drop 32, ?_, Option.some.inj carries⟩
      rw [classifyFrame_of_parsed parsed, if_neg (by simpa using version),
        if_neg (by rw [data]; decide), if_pos data]
  · cases carries

@[simp] theorem dataSeen_sendApplicationData (node : MeshNode) (destNodeId payload : Bytes) :
    (node.sendApplicationData zlib destNodeId payload).node.dataSeen = node.dataSeen := by
  unfold sendApplicationData
  split <;> simp

@[simp] theorem dataSeen_ogmTick (node : MeshNode) : node.ogmTick.node.dataSeen = node.dataSeen := by
  simp [ogmTick, buildOgmPayload]

end MeshNode

namespace Network

variable {ι : Type} [DecidableEq ι] (zlib : Zlib)

/-- Node `i` reacted: its new state, and its frames on the air. -/
def react (net : Network ι) (i : ι) (reaction : Reaction) (relayed : Bool) : Network ι :=
  ⟨Function.update net.nodes i reaction.node,
    net.air ++ (sentFrames reaction.effects).map fun frame => ⟨i, frame, relayed⟩⟩

/-- The network after one event. -/
def step (net : Network ι) : NetEvent ι → Network ι
  | .deliver i now frame => net.react i ((net.nodes i).onKissFrame zlib now frame) true
  | .send i destNodeId payload =>
      net.react i ((net.nodes i).sendApplicationData zlib destNodeId payload) false
  | .ogmTick i => net.react i (net.nodes i).ogmTick false
  | .sweep i now => ⟨Function.update net.nodes i ((net.nodes i).cleanup now), net.air⟩

/-- The medium carries only frames that were transmitted, and no sweep
evicts a dedup entry. -/
def Allowed (net : Network ι) : NetEvent ι → Prop
  | .deliver _ _ frame => ∃ sent ∈ net.air, sent.frame = frame
  | .sweep i now => ((net.nodes i).cleanup now).dataSeen = (net.nodes i).dataSeen
  | .send .. => True
  | .ogmTick _ => True

/-- The networks a run of allowed events leads to from `start`. -/
inductive Reachable (start : Network ι) : Network ι → Prop
  | start : Reachable start start
  | step {net : Network ι} (event : NetEvent ι) :
      Reachable start net → net.Allowed event → Reachable start (net.step zlib event)

/-- The medium carries only frames that were transmitted; sends, OGMs and
sweeps happen at any time. -/
def OnAir (net : Network ι) : NetEvent ι → Prop
  | .deliver _ _ frame => ∃ sent ∈ net.air, sent.frame = frame
  | _ => True

/-- The networks a run leads to from `start` when the medium carries only
frames that were transmitted, whatever the sweeps evict. -/
inductive OnAirReachable (start : Network ι) : Network ι → Prop
  | start : OnAirReachable start start
  | step {net : Network ι} (event : NetEvent ι) :
      OnAirReachable start net → net.OnAir event → OnAirReachable start (net.step zlib event)

omit [DecidableEq ι] in
theorem Allowed.onAir {net : Network ι} {event : NetEvent ι} (allowed : net.Allowed event) :
    net.OnAir event := by
  cases event with
  | deliver => exact allowed
  | _ => trivial

theorem Reachable.onAirReachable {start net : Network ι} (reach : Reachable zlib start net) :
    OnAirReachable zlib start net := by
  induction reach with
  | start => exact .start
  | step event _ allowed reached => exact .step event reached allowed.onAir

/-- The relays of DATA frames carrying `key` by node `i`. -/
def relaysOf (net : Network ι) (i : ι) (key : DataKey) : List (Transmission ι) :=
  net.air.filter fun sent => sent.sender = i ∧ sent.relayed ∧ dataKey? sent.frame = some key

/-- Each node has relayed each key at most once, and only keys its dedup
cache holds. -/
structure RelaysOnce (net : Network ι) : Prop where
  atMostOnce : ∀ i key, (net.relaysOf i key).length ≤ 1
  recorded : ∀ i key, net.relaysOf i key ≠ [] → (net.nodes i).dataSeen key ≠ none

@[simp] theorem nodes_react (net : Network ι) (i : ι) (reaction : Reaction) (relayed : Bool) :
    (net.react i reaction relayed).nodes = Function.update net.nodes i reaction.node := rfl

theorem relaysOf_react_of_ne (net : Network ι) {i j : ι} (other : j ≠ i) (reaction : Reaction)
    (relayed : Bool) (key : DataKey) :
    (net.react i reaction relayed).relaysOf j key = net.relaysOf j key := by
  simp [relaysOf, react, List.filter_append, Ne.symm other]

theorem relaysOf_react_own (net : Network ι) (i j : ι) (reaction : Reaction) (key : DataKey) :
    (net.react i reaction false).relaysOf j key = net.relaysOf j key := by
  simp [relaysOf, react, List.filter_append]

theorem relaysOf_react_self (net : Network ι) (i : ι) (reaction : Reaction) (key : DataKey) :
    (net.react i reaction true).relaysOf i key = net.relaysOf i key ++
      ((sentFrames reaction.effects).filter fun frame => dataKey? frame = some key).map
        fun frame => ⟨i, frame, true⟩ := by
  simp [relaysOf, react, List.filter_append, List.filter_map, Function.comp_def]

/-- What one delivery adds to the receiver's relays of a key: nothing, or a
single relay of a key its dedup cache did not hold and now holds. -/
theorem relays_onKissFrame (node : MeshNode) (now : Time) (frame : Bytes) (key : DataKey) :
    (sentFrames (node.onKissFrame zlib now frame).effects).filter (dataKey? · = some key) = [] ∨
      (((sentFrames (node.onKissFrame zlib now frame).effects).filter
          (dataKey? · = some key)).length ≤ 1 ∧
        node.dataSeen key = none ∧ (node.onKissFrame zlib now frame).node.dataSeen key = some now) := by
  by_cases empty : (sentFrames (node.onKissFrame zlib now frame).effects).filter
      (dataKey? · = some key) = []
  · exact .inl empty
  obtain ⟨sent, member⟩ := List.exists_mem_of_ne_nil _ empty
  obtain ⟨member, carries⟩ := List.mem_filter.mp member
  obtain ⟨header, body, classified, rfl⟩ :=
    MeshNode.classifyFrame_of_sent_data zlib member (of_decide_eq_true carries)
  have acted : (node.onKissFrame zlib now frame).effects ≠ [] := fun none => by
    simp [none] at member
  exact .inr ⟨(List.length_filter_le _ _).trans (MeshNode.length_sentFrames_onKissFrame_le zlib
    node now frame), MeshNode.dataSeen_of_acted zlib classified acted⟩

namespace RelaysOnce

variable {zlib} {net : Network ι}

theorem deliver (inv : net.RelaysOnce) (i : ι) (now : Time) (frame : Bytes) :
    (net.step zlib (.deliver i now frame)).RelaysOnce := by
  constructor
  · intro j key
    by_cases same : j = i
    · subst same
      simp only [step, relaysOf_react_self, List.length_append, List.length_map]
      rcases relays_onKissFrame zlib (net.nodes j) now frame key with none | ⟨one, fresh, -⟩
      · simpa [none] using inv.atMostOnce j key
      · have unrelayed : net.relaysOf j key = [] :=
          Classical.byContradiction fun relayed => inv.recorded j key relayed fresh
        simpa [unrelayed] using one
    · rw [step, relaysOf_react_of_ne _ same]
      exact inv.atMostOnce j key
  · intro j key relayed
    by_cases same : j = i
    · subst same
      simp only [step, relaysOf_react_self] at relayed
      simp only [step, nodes_react, Function.update_same]
      rcases relays_onKissFrame zlib (net.nodes j) now frame key with none | ⟨-, -, stamped⟩
      · simp only [none, List.map_nil, List.append_nil] at relayed
        obtain ⟨ts, seen⟩ := Option.ne_none_iff_exists'.mp (inv.recorded j key relayed)
        simp [MeshNode.dataSeen_onKissFrame_of_some zlib seen]
      · simp [stamped]
    · rw [step, relaysOf_react_of_ne _ same] at relayed
      simp only [step, nodes_react, Function.update_noteq same]
      exact inv.recorded j key relayed

/-- A node's own transmissions are no relays, and leave its cache alone. -/
theorem react_own (inv : net.RelaysOnce) {i : ι} {reaction : Reaction}
    (keeps : reaction.node.dataSeen = (net.nodes i).dataSeen) :
    (net.react i reaction false).RelaysOnce := by
  refine ⟨fun j key => by simpa only [relaysOf_react_own] using inv.atMostOnce j key,
    fun j key relayed => ?_⟩
  rw [relaysOf_react_own] at relayed
  by_cases same : j = i
  · subst same
    simpa [keeps] using inv.recorded j key relayed
  · simpa [Function.update_noteq same] using inv.recorded j key relayed

theorem sweep (inv : net.RelaysOnce) {i : ι} {now : Time}
    (keeps : ((net.nodes i).cleanup now).dataSeen = (net.nodes i).dataSeen) :
    (net.step zlib (.sweep i now)).RelaysOnce := by
  refine ⟨inv.atMostOnce, fun j key relayed => ?_⟩
  by_cases same : j = i
  · subst same
    simp only [step, Function.update_same]
    rw [keeps]
    exact inv.recorded j key relayed
  · simpa [step, Function.update_noteq same] using inv.recorded j key relayed

theorem step (inv : net.RelaysOnce) {event : NetEvent ι} (allowed : net.Allowed event) :
    (net.step zlib event).RelaysOnce := by
  cases event with
  | deliver i now frame => exact inv.deliver i now frame
  | send i destNodeId payload => exact inv.react_own (by simp)
  | ogmTick i => exact inv.react_own (by simp)
  | sweep i now => exact inv.sweep allowed

end RelaysOnce

theorem relaysOnce_of_reachable {start net : Network ι} (quiet : start.air = [])
    (reach : Reachable zlib start net) : net.RelaysOnce := by
  induction reach with
  | start => exact ⟨fun _ _ => by simp [relaysOf, quiet], fun _ _ relayed => by
      simp [relaysOf, quiet] at relayed⟩
  | step event _ allowed inv => exact inv.step allowed

/-- No DATA storm from relays: while no dedup entry expires, every node relays
each DATA key at most once, so a key is relayed at most once per node of the
network. -/
theorem relays_le_card [Fintype ι] {start net : Network ι} (quiet : start.air = [])
    (reach : Reachable zlib start net) (key : DataKey) :
    (∀ i, (net.relaysOf i key).length ≤ 1) ∧
      (net.air.filter fun sent => sent.relayed ∧ dataKey? sent.frame = some key).length ≤
        Fintype.card ι := by
  have once := (relaysOnce_of_reachable zlib quiet reach).atMostOnce
  refine ⟨fun i => once i key, ?_⟩
  have senders : ((net.air.filter fun sent => sent.relayed ∧ dataKey? sent.frame = some key).map
      (·.sender)).Nodup := by
    refine List.nodup_iff_count_le_one.mpr fun i => ?_
    have count : ((net.air.filter fun sent => sent.relayed ∧ dataKey? sent.frame = some key).map
        (·.sender)).count i = (net.relaysOf i key).length := by
      simp only [List.count_eq_countP, List.countP_eq_length_filter, List.filter_map,
        List.length_map, List.filter_filter, relaysOf]
      congr 1
      refine List.filter_congr fun sent _ => ?_
      simp only [Function.comp_apply, Bool.decide_and]
      rfl
    exact count ▸ once i key
  simpa using senders.length_le_card

/-! ## The echo of an originator's own packet -/

/-- An originator `ORIGIN` with a route to `DEST` through `RELAY`, the
routing defaults, and nothing in its dedup cache. -/
def sampleOrigin : MeshNode where
  config := ⟨"ORIGIN", "QMESH", ⟨5, 120, 60, 30⟩⟩
  encryptor := ⟨false, fun plaintext _ => ([], plaintext), fun _ ciphertext _ => some ciphertext⟩
  appDataCallback := false
  routingState :=
    ⟨fun key => if key = deriveNodeId "DEST" then some ⟨deriveNodeId "RELAY", 1, 1, 0⟩ else none,
      fun _ => none⟩
  seqno := 0
  dataSeen := fun _ => none
  meshDestAscii := by decide

/-- `ORIGIN` and `RELAY` on one channel, before anything is sent. -/
def echoStart : Network (Fin 2) :=
  ⟨fun i => if i = 0 then sampleOrigin else MeshNode.sampleRelay, []⟩

/-- The frame last put on the air. -/
def lastSent (net : Network ι) : Bytes :=
  (net.air.getLast?.map (·.frame)).getD []

/-- `ORIGIN` sends `hi` to `DEST`. -/
def echoSent : Network (Fin 2) :=
  echoStart.step MeshNode.sampleZlib (.send 0 (deriveNodeId "DEST") [0x68, 0x69])

/-- `RELAY` receives and relays it. -/
def echoRelayed : Network (Fin 2) :=
  echoSent.step MeshNode.sampleZlib (.deliver 1 0 (lastSent echoSent))

/-- The medium hands the relayed frame back to `ORIGIN`. -/
def echoRun : Network (Fin 2) :=
  echoRelayed.step MeshNode.sampleZlib (.deliver 0 0 (lastSent echoRelayed))

theorem reachable_echoRun : Reachable MeshNode.sampleZlib echoStart echoRun :=
  .step (.deliver 0 0 _)
    (.step (.deliver 1 0 _) (.step (.send 0 _ _) .start trivial)
      (show ∃ sent ∈ echoSent.air, sent.frame = lastSent echoSent by decide))
    (show ∃ sent ∈ echoRelayed.air, sent.frame = lastSent echoRelayed by decide)

theorem relays_le_card_echoRun :
    (∀ i, (echoRun.relaysOf i (sampleOrigin.nodeId, 1)).length ≤ 1) ∧
      (echoRun.air.filter fun sent =>
        sent.relayed ∧ dataKey? sent.frame = some (sampleOrigin.nodeId, 1)).length ≤
        Fintype.card (Fin 2) :=
  relays_le_card MeshNode.sampleZlib rfl reachable_echoRun _

/-- `ORIGIN` transmits its own packet twice: once from
`send_application_data`, and once more relaying the echo, which passes its
dedup gate because the originator never recorded the key; two nodes transmit
the key three times. -/
theorem originator_transmits_twice :
    Reachable MeshNode.sampleZlib echoStart echoRun ∧
    (echoRun.air.filter fun sent =>
      sent.sender = 0 ∧ dataKey? sent.frame = some (sampleOrigin.nodeId, 1)).length = 2 ∧
    (echoRun.air.filter fun sent => dataKey? sent.frame = some (sampleOrigin.nodeId, 1)).length = 3 :=
  ⟨reachable_echoRun, by decide, by decide⟩

end Network

end ArdopMeshChat
