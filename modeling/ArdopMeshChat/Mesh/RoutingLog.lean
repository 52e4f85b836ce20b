import ArdopMeshChat.Mesh.Line

/-!
# The routing tables as a fold of the OGMs received

`_handle_ogm` keeps, for each origin, the entry of the first OGM that carried
the greatest seqno seen so far, and for each previous hop the arrival time and
link metric of the latest OGM through it; a sweep deletes what has expired.
The OGMs a node has received are logged beside its run, per origin and per
previous hop, and a sweep forgets the lists of the entries it evicts.  The
tables are then a function of the log, over every run from a fresh node.
-/

namespace ArdopMeshChat

/-- An OGM as `_on_kiss_frame` hands it to `_handle_ogm`, with its arrival time. -/
structure OgmReceipt where
  originId : Bytes
  seqno : Nat
  prevHop : Bytes
  linkMetric : Nat
  arrival : Time
  deriving DecidableEq, Repr

/-- The originator entry an OGM sets up. -/
def OgmReceipt.entry (ogm : OgmReceipt) : OriginatorEntry :=
  ⟨ogm.prevHop, ogm.seqno, ogm.linkMetric, ogm.arrival⟩

/-- The OGM a received frame is, if it is one. -/
def ogmReceipt (now : Time) (frame : Bytes) : Option OgmReceipt :=
  match classifyFrame frame with
  | .ogm header prevHop linkMetric => some ⟨header.originId, header.seqno, prevHop, linkMetric, now⟩
  | _ => none

/-- The bytes of an OGM, whatever its flags and whatever follows the link
metric, are the receipt of that OGM at its arrival time. -/
theorem ogmReceipt_of_ogmBytes (now : Time) {frame prevHop originId rest : Bytes} {flags ttl seqno : Nat}
    {metric : UInt8}
    (info : frame.drop 16 = headerBytes meshMsgOgm flags ttl originId seqno ++ (prevHop ++ metric :: rest))
    (flagsByte : flags < 256) (ttlByte : ttl < 256) (eightBytes : originId.length = 8)
    (seqnoWord : seqno < 2 ^ 32) (prevHopEight : prevHop.length = 8) :
    ogmReceipt now frame = some ⟨originId, seqno, prevHop, metric.toNat, now⟩ := by
  rw [ogmReceipt, classifyFrame_of_ogmBytes info flagsByte ttlByte eightBytes seqnoWord prevHopEight]

/-- The OGMs received, per origin and per previous hop, in arrival order,
each list since its entry was last evicted. -/
structure OgmLog where
  byOrigin : Bytes → List OgmReceipt
  byHop : Bytes → List OgmReceipt

namespace OgmLog

/-- The log of a node that has received nothing. -/
def empty : OgmLog := ⟨fun _ => [], fun _ => []⟩

/-- The log after one event of a run at `node`: an OGM joins the lists of its
origin and of its previous hop; a sweep forgets the lists of the entries it
leaves absent. -/
def step (log : OgmLog) (node : MeshNode) : NodeEvent → OgmLog
  | .frame now frame =>
      match ogmReceipt now frame with
      | some ogm =>
          ⟨Function.update log.byOrigin ogm.originId (log.byOrigin ogm.originId ++ [ogm]),
            Function.update log.byHop ogm.prevHop (log.byHop ogm.prevHop ++ [ogm])⟩
      | none => log
  | .sweep now =>
      ⟨fun origin =>
          if ((node.cleanup now).routingState.originators origin).isNone then [] else
            log.byOrigin origin,
        fun hop =>
          if ((node.cleanup now).routingState.neighbors hop).isNone then [] else log.byHop hop⟩

end OgmLog

/-- The entry a list of OGMs for one origin calls for: none for no OGM, and
otherwise the hop, metric and arrival time of the first OGM carrying their
greatest seqno. -/
def IsOriginatorOf : List OgmReceipt → Option OriginatorEntry → Prop
  | receipts, none => receipts = []
  | receipts, some entry =>
      ∃ before ogm after, receipts = before ++ ogm :: after ∧
        (∀ earlier ∈ before, earlier.seqno < ogm.seqno) ∧ (∀ later ∈ after, later.seqno ≤ ogm.seqno) ∧
        entry = ogm.entry

/-- The entry a list of OGMs through one hop calls for: the arrival time and
link metric of the latest. -/
def neighborOf (receipts : List OgmReceipt) : Option NeighborEntry :=
  receipts.getLast?.map fun ogm => ⟨ogm.arrival, ogm.linkMetric⟩

/-- The tables hold what the log calls for. -/
structure OgmLog.Tracks (log : OgmLog) (node : MeshNode) : Prop where
  originators : ∀ origin, IsOriginatorOf (log.byOrigin origin) (node.routingState.originators origin)
  neighbors : ∀ hop, node.routingState.neighbors hop = neighborOf (log.byHop hop)

theorem isOriginatorOf_nil_iff {entry : Option OriginatorEntry} :
    IsOriginatorOf [] entry ↔ entry = none := by
  cases entry with
  | none => exact ⟨fun _ => rfl, fun _ => rfl⟩
  | some entry => simp [IsOriginatorOf]

theorem isOriginatorOf_concat_none {receipts : List OgmReceipt}
    (tracked : IsOriginatorOf receipts none) (ogm : OgmReceipt) :
    IsOriginatorOf (receipts ++ [ogm]) (some ogm.entry) := by
  have empty : receipts = [] := tracked
  subst empty
  exact ⟨[], ogm, [], rfl, by simp, by simp, rfl⟩

/-- An OGM with a strictly greater seqno takes the entry over. -/
theorem isOriginatorOf_concat_of_gt {receipts : List OgmReceipt} {entry : OriginatorEntry}
    (tracked : IsOriginatorOf receipts (some entry)) {ogm : OgmReceipt}
    (greater : ogm.seqno > entry.lastSeqno) :
    IsOriginatorOf (receipts ++ [ogm]) (some ogm.entry) := by
  obtain ⟨before, top, after, rfl, earlier, later, rfl⟩ := tracked
  refine ⟨before ++ top :: after, ogm, [], by simp, fun q member => ?_, by simp, rfl⟩
  simp only [List.mem_append, List.mem_cons] at member
  rcases member with inBefore | rfl | inAfter
  · exact (earlier q inBefore).trans greater
  · exact greater
  · exact lt_of_le_of_lt (later q inAfter) greater

/-- Any other OGM joins those after the one that set the entry. -/
theorem isOriginatorOf_concat_of_le {receipts : List OgmReceipt} {entry : OriginatorEntry}
    (tracked : IsOriginatorOf receipts (some entry)) {ogm : OgmReceipt}
    (notGreater : ogm.seqno ≤ entry.lastSeqno) :
    IsOriginatorOf (receipts ++ [ogm]) (some entry) := by
  obtain ⟨before, top, after, rfl, earlier, later, rfl⟩ := tracked
  refine ⟨before, top, after ++ [ogm], by simp, earlier, fun q member => ?_, rfl⟩
  rcases List.mem_append.mp member with inAfter | single
  · exact later q inAfter
  · rw [List.mem_singleton.mp single]
    exact notGreater

/-! ## How one event moves the tables and the log -/

namespace MeshNode

variable (zlib : Zlib)

/-- An OGM updates the neighbor entry of its previous hop, then the
originator entry of its origin. -/
theorem step_of_ogmReceipt {now : Time} {frame : Bytes} {ogm : OgmReceipt}
    (received : ogmReceipt now frame = some ogm) (node : MeshNode) :
    node.step zlib (.frame now frame) =
      (node.refreshNeighbor now ogm.prevHop ogm.linkMetric).updateOriginator now ogm.originId
        ogm.seqno ogm.prevHop ogm.linkMetric ∧ ogm.arrival = now := by
  unfold ogmReceipt at received
  split at received
  · next header prevHop linkMetric classified =>
      cases received
      simp [step, node_onKissFrame, classified]
  · cases received

theorem originators_updateOriginator_of_ne (node : MeshNode) {now : Time} {key other : Bytes}
    (different : other ≠ key) (seqno : Nat) (prevHopId : Bytes) (linkMetric : Nat) :
    (node.updateOriginator now key seqno prevHopId linkMetric).routingState.originators other =
      node.routingState.originators other := by
  rcases updateOriginator_cases node now key seqno prevHopId linkMetric with
    ⟨result, -⟩ | ⟨result, -⟩ <;> simp [result, Function.update_noteq different]

/-- DATA frames and frames the dispatcher drops leave both tables alone. -/
theorem routingState_onKissFrame_of_none {now : Time} {frame : Bytes}
    (other : ogmReceipt now frame = none) (node : MeshNode) :
    (node.onKissFrame zlib now frame).node.routingState = node.routingState := by
  unfold ogmReceipt at other
  rw [node_onKissFrame]
  split
  · simp_all
  · split <;> rfl
  · rfl

end MeshNode

namespace OgmLog

variable (zlib : Zlib)

/-- A sweep either deletes an entry, and forgets its list, or keeps both as
they are; so whatever relates a list to its entry still holds after it, if it
holds of no OGM and no entry. -/
theorem tracked_filter {α : Type} (R : List OgmReceipt → Option α → Prop)
    {receipts : List OgmReceipt} {entry : Option α} (tracked : R receipts entry)
    (untracked : R [] none) (keep : α → Bool) :
    R (if (entry.filter keep).isNone then [] else receipts) (entry.filter keep) := by
  cases entry with
  | none => exact untracked
  | some value => by_cases kept : keep value <;> simp [Option.filter, kept, tracked, untracked]

theorem Tracks.sweep {log : OgmLog} {node : MeshNode} (tracks : log.Tracks node) (now : Time) :
    (log.step node (.sweep now)).Tracks (node.step zlib (.sweep now)) :=
  ⟨fun origin => tracked_filter IsOriginatorOf (tracks.originators origin) rfl _,
    fun hop => tracked_filter (fun receipts entry => entry = neighborOf receipts)
      (tracks.neighbors hop) rfl _⟩

theorem Tracks.frame {log : OgmLog} {node : MeshNode} (tracks : log.Tracks node) (now : Time)
    (frame : Bytes) : (log.step node (.frame now frame)).Tracks (node.step zlib (.frame now frame)) := by
  cases received : ogmReceipt now frame with
  | none =>
      have unchanged := MeshNode.routingState_onKissFrame_of_none zlib received node
      simp only [step, received, MeshNode.step]
      exact ⟨fun origin => unchanged ▸ tracks.originators origin,
        fun hop => unchanged ▸ tracks.neighbors hop⟩
  | some ogm =>
      obtain ⟨stepped, arrived⟩ := MeshNode.step_of_ogmReceipt zlib received node
      simp only [step, received, stepped]
      constructor
      · intro origin
        by_cases same : origin = ogm.originId
        · subst same
          have tracked := tracks.originators ogm.originId
          dsimp only
          rw [Function.update_same]
          rcases MeshNode.updateOriginator_cases (node.refreshNeighbor now ogm.prevHop ogm.linkMetric)
            now ogm.originId ogm.seqno ogm.prevHop ogm.linkMetric with
            ⟨result, greater⟩ | ⟨result, entry, present, notGreater⟩
          · rw [result]
            simp only [MeshNode.originators_setOriginator, Function.update_same,
              MeshNode.originators_refreshNeighbor, ← arrived] at greater ⊢
            cases present : node.routingState.originators ogm.originId with
            | none => exact isOriginatorOf_concat_none (present ▸ tracked) ogm
            | some entry => exact isOriginatorOf_concat_of_gt (present ▸ tracked) (greater entry present)
          · rw [result]
            simp only [MeshNode.originators_refreshNeighbor] at present ⊢
            rw [present]
            exact isOriginatorOf_concat_of_le (present ▸ tracked) notGreater
        · simpa [Function.update_noteq same, MeshNode.originators_updateOriginator_of_ne _ same]
            using tracks.originators origin
      · intro hop
        by_cases same : hop = ogm.prevHop
        · subst same
          simp [neighborOf, arrived]
        · simpa [Function.update_noteq same] using tracks.neighbors hop

theorem Tracks.step {log : OgmLog} {node : MeshNode} (tracks : log.Tracks node) :
    ∀ event, (log.step node event).Tracks (node.step zlib event)
  | .frame now frame => tracks.frame zlib now frame
  | .sweep now => tracks.sweep zlib now

/-- The log after a run from `node`. -/
def run (log : OgmLog) (node : MeshNode) : List NodeEvent → OgmLog
  | [] => log
  | event :: events => (log.step node event).run (node.step zlib event) events

theorem Tracks.run {log : OgmLog} {node : MeshNode} (tracks : log.Tracks node)
    (events : List NodeEvent) : (log.run zlib node events).Tracks (node.run zlib events) := by
  induction events generalizing log node with
  | nil => exact tracks
  | cons event events ih => exact ih (tracks.step zlib event)

theorem tracks_new {config : MeshNodeConfig} {encryptor : MeshEncryptor} {appDataCallback : Bool}
    {node : MeshNode} (created : MeshNode.new config encryptor appDataCallback = .ok node) :
    empty.Tracks node := by
  unfold MeshNode.new at created
  split at created
  · cases created
    exact ⟨fun _ => rfl, fun _ => rfl⟩
  · cases created

end OgmLog

namespace MeshNode

variable (zlib : Zlib)

/-- While an originator entry exists, its `last_seqno` never decreases. -/
theorem lastSeqno_le_step {node : MeshNode} {origin : Bytes} {entry entry' : OriginatorEntry}
    (present : node.routingState.originators origin = some entry) (event : NodeEvent)
    (stillPresent : (node.step zlib event).routingState.originators origin = some entry') :
    entry.lastSeqno ≤ entry'.lastSeqno := by
  cases event with
  | sweep now =>
      simp only [step, cleanup, present, Option.filter_some] at stillPresent
      split at stillPresent
      · cases stillPresent; exact le_refl _
      · cases stillPresent
  | frame now frame =>
      cases received : ogmReceipt now frame with
      | none =>
          rw [step, routingState_onKissFrame_of_none zlib received, present] at stillPresent
          cases stillPresent; exact le_refl _
      | some ogm =>
          rw [(step_of_ogmReceipt zlib received node).1] at stillPresent
          by_cases same : origin = ogm.originId
          · subst same
            rcases updateOriginator_cases (node.refreshNeighbor now ogm.prevHop ogm.linkMetric) now
              ogm.originId ogm.seqno ogm.prevHop ogm.linkMetric with
              ⟨result, greater⟩ | ⟨result, -⟩
            · simp only [result, originators_setOriginator, Function.update_same,
                Option.some.injEq] at stillPresent
              subst stillPresent
              exact Nat.le_of_lt (greater entry (by simpa using present))
            · simp only [result, originators_refreshNeighbor, present, Option.some.injEq]
                at stillPresent
              rw [stillPresent]
          · rw [originators_updateOriginator_of_ne _ same, originators_refreshNeighbor, present]
              at stillPresent
            cases stillPresent; exact le_refl _

/-- The routing tables over every run from a fresh node: each originator
entry is the first OGM carrying the greatest seqno received for the origin
since it was last evicted, each neighbor entry the latest OGM through the hop
since it was last evicted, an OGM being a frame with the bytes of one; other
frames touch neither table; a sweep removes exactly the expired entries; and
`last_seqno` never decreases while its entry exists. -/
theorem routingTables_of_run {config : MeshNodeConfig} {encryptor : MeshEncryptor}
    {appDataCallback : Bool} {node : MeshNode}
    (created : MeshNode.new config encryptor appDataCallback = .ok node) (events : List NodeEvent) :
    (OgmLog.empty.run zlib node events).Tracks (node.run zlib events) ∧
    (∀ now {frame prevHop originId rest : Bytes} {flags ttl seqno : Nat} {metric : UInt8},
      frame.drop 16 = headerBytes meshMsgOgm flags ttl originId seqno ++ (prevHop ++ metric :: rest) →
      flags < 256 → ttl < 256 → originId.length = 8 → seqno < 2 ^ 32 → prevHop.length = 8 →
      ogmReceipt now frame = some ⟨originId, seqno, prevHop, metric.toNat, now⟩) ∧
    (∀ (node : MeshNode) now frame, ogmReceipt now frame = none →
      (node.onKissFrame zlib now frame).node.routingState = node.routingState) ∧
    (∀ (node : MeshNode) now,
      (∀ origin, (node.cleanup now).routingState.originators origin =
        (node.routingState.originators origin).filter
          fun entry => !expired now entry.lastSeen node.config.routingConfig.routeExpirySeconds) ∧
      ∀ hop, (node.cleanup now).routingState.neighbors hop =
        (node.routingState.neighbors hop).filter
          fun entry => !expired now entry.lastSeen node.config.routingConfig.neighborExpirySeconds) ∧
    (∀ (node : MeshNode) event origin (entry entry' : OriginatorEntry),
      node.routingState.originators origin = some entry →
      (node.step zlib event).routingState.originators origin = some entry' →
      entry.lastSeqno ≤ entry'.lastSeqno) :=
  ⟨(OgmLog.tracks_new created).run zlib events,
    fun now _ _ _ _ _ _ _ _ info => ogmReceipt_of_ogmBytes now info,
    fun node _ _ other => routingState_onKissFrame_of_none zlib other node,
    fun _ _ => ⟨fun _ => rfl, fun _ => rfl⟩,
    fun _ event _ _ _ present stillPresent => lastSeqno_le_step zlib present event stillPresent⟩

/-- A node as `MeshNode.__init__` leaves it, with the `config_loader` routing
defaults and no encryption key. -/
def freshStation : MeshNode :=
  ⟨⟨"N0CALL", "QMESH-0", ⟨5, 120, 60, 30⟩⟩,
    ⟨false, fun plaintext _ => ([], plaintext), fun _ ciphertext _ => some ciphertext⟩, false,
    ⟨fun _ => none, fun _ => none⟩, 0, fun _ => none, by decide⟩

/-- An OGM `N1CALL` sent itself: seqno 1, TTL 5, link metric 255. -/
def heardOgm : Bytes :=
  List.replicate 16 0 ++ headerBytes meshMsgOgm 0 5 (deriveNodeId "N1CALL") 1 ++
    (deriveNodeId "N1CALL" ++ [255])

/-- `freshStation` hears `N1CALL`'s OGM at time 5 and sweeps at 200, when the
route has expired. -/
theorem routingTables_of_run_freshStation :
    ogmReceipt 5 heardOgm = some ⟨deriveNodeId "N1CALL", 1, deriveNodeId "N1CALL", 255, 5⟩ ∧
    (OgmLog.empty.run sampleZlib freshStation [.frame 5 heardOgm, .sweep 200]).Tracks
      (freshStation.run sampleZlib [.frame 5 heardOgm, .sweep 200]) ∧
    (∀ now {frame prevHop originId rest : Bytes} {flags ttl seqno : Nat} {metric : UInt8},
      frame.drop 16 = headerBytes meshMsgOgm flags ttl originId seqno ++ (prevHop ++ metric :: rest) →
      flags < 256 → ttl < 256 → originId.length = 8 → seqno < 2 ^ 32 → prevHop.length = 8 →
      ogmReceipt now frame = some ⟨originId, seqno, prevHop, metric.toNat, now⟩) ∧
    (∀ (node : MeshNode) now frame, ogmReceipt now frame = none →
      (node.onKissFrame sampleZlib now frame).node.routingState = node.routingState) ∧
    (∀ (node : MeshNode) now,
      (∀ origin, (node.cleanup now).routingState.originators origin =
        (node.routingState.originators origin).filter
          fun entry => !expired now entry.lastSeen node.config.routingConfig.routeExpirySeconds) ∧
      ∀ hop, (node.cleanup now).routingState.neighbors hop =
        (node.routingState.neighbors hop).filter
          fun entry => !expired now entry.lastSeen node.config.routingConfig.neighborExpirySeconds) ∧
    (∀ (node : MeshNode) event origin (entry entry' : OriginatorEntry),
      node.routingState.originators origin = some entry →
      (node.step sampleZlib event).routingState.originators origin = some entry' →
      entry.lastSeqno ≤ entry'.lastSeqno) :=
  have heard : ogmReceipt 5 heardOgm = some ⟨deriveNodeId "N1CALL", 1, deriveNodeId "N1CALL", 255, 5⟩ := by
    decide
  ⟨heard, routingTables_of_run sampleZlib (show MeshNode.new freshStation.config freshStation.encryptor false =
    .ok freshStation from rfl) [.frame 5 heardOgm, .sweep 200]⟩

end MeshNode

end ArdopMeshChat
