import ArdopMeshChat.Mesh.Dispatch

/-!
# Runs of one node

A node's life as its threads see it: frames handed to `_on_kiss_frame`, and
iterations of the `_cleanup_loop` body, each at a clock reading.  A raised
exception leaves the state it reached, and the run may go on from there.

The dedup cache is the node's only defence against handling a DATA packet
twice.  Over a whole run, a key acts (is delivered or forwarded) a second time
only after a sweep found it expired.  The key is stamped before the body is
read, so the first copy to arrive claims it, even one the node then drops.
-/

namespace ArdopMeshChat

/-- What happens to a node: a received frame, or a cleanup sweep. -/
inductive NodeEvent where
  | frame (now : Time) (frame : Bytes)
  | sweep (now : Time)
  deriving DecidableEq, Repr

/-- The clock reading of an event. -/
def NodeEvent.time : NodeEvent → Time
  | .frame now _ => now
  | .sweep now => now

namespace MeshNode

variable (zlib : Zlib)

/-- The node's state after one event. -/
def step (node : MeshNode) : NodeEvent → MeshNode
  | .frame now frame => (node.onKissFrame zlib now frame).node
  | .sweep now => node.cleanup now

/-- The node's state after a run. -/
def run (node : MeshNode) (events : List NodeEvent) : MeshNode :=
  events.foldl (step zlib) node

@[simp] theorem run_nil (node : MeshNode) : node.run zlib [] = node := rfl

@[simp] theorem run_cons (node : MeshNode) (event : NodeEvent) (events : List NodeEvent) :
    node.run zlib (event :: events) = (node.step zlib event).run zlib events := rfl

@[simp] theorem run_append (node : MeshNode) (events events' : List NodeEvent) :
    node.run zlib (events ++ events') = (node.run zlib events).run zlib events' :=
  List.foldl_append _ _ _ _

/-- Everything `_on_kiss_frame` does to the state: an OGM updates the two
routing tables, a DATA frame with a fresh key marks it seen, and nothing
else changes anything. -/
theorem node_onKissFrame (node : MeshNode) (now : Time) (frame : Bytes) :
    (node.onKissFrame zlib now frame).node =
      match classifyFrame frame with
      | .ogm header prevHop linkMetric =>
          (node.refreshNeighbor now prevHop linkMetric).updateOriginator now header.originId
            header.seqno prevHop linkMetric
      | .data header _ =>
          match node.dataSeen (header.originId, header.seqno) with
          | some _ => node
          | none => node.markSeen (header.originId, header.seqno) now
      | _ => node := by
  unfold onKissFrame
  cases classifyFrame frame with
  | drop => rfl
  | fault err => rfl
  | ogm header prevHop linkMetric => simp [handleOgm]
  | data header body =>
      dsimp only
      rw [handleDataFrame_eq]
      cases node.dataSeen (header.originId, header.seqno) <;> simp

@[simp] theorem config_onKissFrame (node : MeshNode) (now : Time) (frame : Bytes) :
    (node.onKissFrame zlib now frame).node.config = node.config := by
  rw [node_onKissFrame]
  split
  · simp
  · split <;> simp
  · rfl

@[simp] theorem config_step (node : MeshNode) (event : NodeEvent) :
    (node.step zlib event).config = node.config := by
  cases event <;> simp [step, cleanup]

@[simp] theorem config_run (node : MeshNode) (events : List NodeEvent) :
    (node.run zlib events).config = node.config := by
  induction events generalizing node <;> simp [*]

/-! ## The dedup cache -/

@[simp] theorem dataSeen_cleanup (node : MeshNode) (now : Time) (key : DataKey) :
    (node.cleanup now).dataSeen key = (node.dataSeen key).filter
      fun ts => !expired now ts node.config.routingConfig.dataSeenExpirySeconds := rfl

/-- A frame never takes a key out of the dedup cache, nor restamps it. -/
theorem dataSeen_onKissFrame_of_some {node : MeshNode} {key : DataKey} {ts : Time}
    (seen : node.dataSeen key = some ts) (now : Time) (frame : Bytes) :
    (node.onKissFrame zlib now frame).node.dataSeen key = some ts := by
  rw [node_onKissFrame]
  cases classifyFrame frame with
  | ogm header prevHop linkMetric => simpa using seen
  | data header body =>
      dsimp only
      cases fresh : node.dataSeen (header.originId, header.seqno) with
      | some _ => exact seen
      | none =>
          have other : key ≠ (header.originId, header.seqno) := fun same => by
            simp [same, fresh] at seen
          simpa [Function.update_noteq other] using seen
  | drop => exact seen
  | fault err => exact seen

/-- A DATA frame that makes the node deliver or forward found its key missing
from the cache, and leaves it there stamped with its arrival time. -/
theorem dataSeen_of_acted {node : MeshNode} {now : Time} {frame body : Bytes}
    {header : MeshHeader} (classified : classifyFrame frame = .data header body)
    (acted : (node.onKissFrame zlib now frame).effects ≠ []) :
    node.dataSeen (header.originId, header.seqno) = none ∧
      (node.onKissFrame zlib now frame).node.dataSeen (header.originId, header.seqno) =
        some now := by
  have handled : node.onKissFrame zlib now frame =
      node.handleDataFrame zlib now header.originId header.seqno header.ttl header.flags body := by
    rw [onKissFrame, classified]
  rw [handled, handleDataFrame_eq] at acted ⊢
  split at acted
  · exact absurd rfl acted
  · next fresh => exact ⟨fresh, by simp [fresh]⟩

/-- A key leaves the cache only through a sweep that finds it expired. -/
theorem evicted_of_run {node : MeshNode} {key : DataKey} {ts : Time}
    (seen : node.dataSeen key = some ts) {events : List NodeEvent}
    (gone : (node.run zlib events).dataSeen key = none) :
    ∃ early now late, events = early ++ .sweep now :: late ∧
      (node.run zlib early).dataSeen key = some ts ∧
      now - ts > node.config.routingConfig.dataSeenExpirySeconds := by
  induction events generalizing node with
  | nil => simp [seen] at gone
  | cons event events ih =>
      by_cases evicts : ∃ now, event = .sweep now ∧
          now - ts > node.config.routingConfig.dataSeenExpirySeconds
      · obtain ⟨now, rfl, expiredNow⟩ := evicts
        exact ⟨[], now, events, rfl, seen, expiredNow⟩
      · have kept : (node.step zlib event).dataSeen key = some ts := by
          cases event with
          | frame now frame => exact dataSeen_onKissFrame_of_some zlib seen now frame
          | sweep now =>
              have fresh : ¬ now - ts > _ := fun expiredNow => evicts ⟨now, rfl, expiredNow⟩
              simp [step, seen, expired, fresh]
        obtain ⟨early, now, late, split, before, expiredNow⟩ := ih kept gone
        exact ⟨event :: early, now, late, by rw [split]; rfl, before, by simpa using expiredNow⟩

/-- Dedup over a whole run: two DATA frames with one key both act (are
delivered or forwarded) only if a sweep between them evicted the key, and
then the second arrived more than `data_seen_expiry_seconds` after the first. -/
theorem dedup_over_run (node : MeshNode) (before between : List NodeEvent) (now now' : Time)
    {frame frame' body body' : Bytes} {header header' : MeshHeader}
    (clock : ((before ++ NodeEvent.frame now frame :: between ++ [NodeEvent.frame now' frame']).map
      NodeEvent.time).Pairwise (· ≤ ·))
    (classified : classifyFrame frame = .data header body)
    (classified' : classifyFrame frame' = .data header' body')
    (sameKey : (header'.originId, header'.seqno) = (header.originId, header.seqno))
    (acted : ((node.run zlib before).onKissFrame zlib now frame).effects ≠ [])
    (acted' : ((node.run zlib (before ++ NodeEvent.frame now frame :: between)).onKissFrame zlib now'
      frame').effects ≠ []) :
    ∃ early sweepTime late, between = early ++ .sweep sweepTime :: late ∧
      (node.run zlib (before ++ NodeEvent.frame now frame :: early)).dataSeen
        (header.originId, header.seqno) = some now ∧
      (node.run zlib (before ++ NodeEvent.frame now frame :: early ++ [NodeEvent.sweep sweepTime])).dataSeen
        (header.originId, header.seqno) = none ∧
      now' - now > node.config.routingConfig.dataSeenExpirySeconds := by
  obtain ⟨-, stamped⟩ := dataSeen_of_acted zlib classified acted
  obtain ⟨fresh, -⟩ := dataSeen_of_acted zlib classified' acted'
  rw [sameKey] at fresh
  simp only [run_append, run_cons] at fresh
  obtain ⟨early, sweepTime, late, rfl, present, expiredAt⟩ := evicted_of_run zlib stamped fresh
  simp only [config_onKissFrame, config_run] at expiredAt
  have sweptBefore : sweepTime ≤ now' := by
    have atSweep : (before ++ NodeEvent.frame now frame :: (early ++ .sweep sweepTime :: late) ++
        [NodeEvent.frame now' frame']).map NodeEvent.time =
        (before ++ NodeEvent.frame now frame :: early).map NodeEvent.time ++
          sweepTime :: (late ++ [NodeEvent.frame now' frame']).map NodeEvent.time := by
      simp [NodeEvent.time]
    rw [atSweep, List.pairwise_append, List.pairwise_cons] at clock
    exact clock.2.1.1 now' (by simp [NodeEvent.time])
  refine ⟨early, sweepTime, late, rfl, by simpa using present, ?_,
    Int.lt_of_lt_of_le expiredAt (Int.sub_le_sub_right sweptBefore now)⟩
  simp only [run_append, run_cons, run_nil, step, dataSeen_cleanup, present, config_run,
    config_onKissFrame, expired, Option.filter, expiredAt, decide_True, Bool.not_true,
    Bool.false_eq_true, if_false]

theorem dedup_over_run_sampleRelay :
    ∃ early sweepTime late, [NodeEvent.sweep 31] = early ++ .sweep sweepTime :: late ∧
      (sampleRelay.run sampleZlib
        ([] ++ NodeEvent.frame 0 (compressedDataFrame emptyZlibStream) :: early)).dataSeen
        (deriveNodeId "ORIGIN", 7) = some 0 ∧
      (sampleRelay.run sampleZlib ([] ++ NodeEvent.frame 0 (compressedDataFrame emptyZlibStream) ::
        early ++ [NodeEvent.sweep sweepTime])).dataSeen (deriveNodeId "ORIGIN", 7) = none ∧
      (31 : Time) - 0 > sampleRelay.config.routingConfig.dataSeenExpirySeconds :=
  have classified : classifyFrame (compressedDataFrame emptyZlibStream) =
      .data ⟨meshVersion, meshMsgData, meshFlagCompressed, 5, deriveNodeId "ORIGIN", 7⟩
        ((compressedDataFrame emptyZlibStream).drop 32) := by decide
  dedup_over_run sampleZlib sampleRelay [] [.sweep 31] 0 31 (by decide) classified classified rfl
    (by decide) (by decide)

/-! ## The first copy claims the key

`_handle_data_frame` stamps the key before it looks at the body, so a copy
that is too short, fails to authenticate or to inflate claims the key as well
as a good one does. -/

/-- A key stays in the cache, with its stamp, through a run whose sweeps all
find it unexpired. -/
theorem dataSeen_run_of_unexpired {node : MeshNode} {key : DataKey} {ts : Time}
    (seen : node.dataSeen key = some ts) {events : List NodeEvent}
    (unexpired : ∀ now, NodeEvent.sweep now ∈ events →
      now - ts ≤ node.config.routingConfig.dataSeenExpirySeconds) :
    (node.run zlib events).dataSeen key = some ts := by
  induction events generalizing node with
  | nil => exact seen
  | cons event events ih =>
      refine ih ?_ fun now mem => by simpa using unexpired now (.tail _ mem)
      cases event with
      | frame now frame => exact dataSeen_onKissFrame_of_some zlib seen now frame
      | sweep now => simp [step, seen, expired, unexpired now (.head _)]

/-- A DATA frame whose key is in the cache is dropped: no callback, no
forward, no raise, and the state is unchanged. -/
theorem onKissFrame_of_dataSeen {node : MeshNode} {now ts : Time} {frame body : Bytes}
    {header : MeshHeader} (classified : classifyFrame frame = .data header body)
    (seen : node.dataSeen (header.originId, header.seqno) = some ts) :
    node.onKissFrame zlib now frame = ⟨node, [], none⟩ := by
  rw [onKissFrame, classified]
  simp only [handleDataFrame_eq, seen]

/-- Whatever the first DATA frame with a fresh key holds, every later frame
with that key is dropped until a sweep finds the key expired. -/
theorem firstCopy_claimsKey (node : MeshNode) (now : Time) {frame body : Bytes}
    {header : MeshHeader} (classified : classifyFrame frame = .data header body)
    (fresh : node.dataSeen (header.originId, header.seqno) = none) (between : List NodeEvent)
    (unexpired : ∀ sweepTime, NodeEvent.sweep sweepTime ∈ between →
      sweepTime - now ≤ node.config.routingConfig.dataSeenExpirySeconds)
    (later : Time) {frame' body' : Bytes} {header' : MeshHeader}
    (classified' : classifyFrame frame' = .data header' body')
    (sameKey : (header'.originId, header'.seqno) = (header.originId, header.seqno)) :
    let after := (node.onKissFrame zlib now frame).node.run zlib between
    after.onKissFrame zlib later frame' = ⟨after, [], none⟩ := by
  have stamped : (node.onKissFrame zlib now frame).node.dataSeen
      (header.originId, header.seqno) = some now := by
    simp [node_onKissFrame, classified, fresh, markSeen]
  have kept := dataSeen_run_of_unexpired zlib stamped (by simpa using unexpired)
  exact onKissFrame_of_dataSeen zlib classified' (sameKey ▸ kept)

/-- A copy of the relay's sample packet whose payload does not inflate claims
its key, and the good copy that follows is dropped. -/
theorem firstCopy_claimsKey_uninflatable :
    classifyFrame (compressedDataFrame []) =
        .data ⟨meshVersion, meshMsgData, meshFlagCompressed, 5, deriveNodeId "ORIGIN", 7⟩
          ((compressedDataFrame []).drop 32) ∧
      sampleRelay.dataSeen (deriveNodeId "ORIGIN", 7) = none ∧
      (∀ sweepTime, NodeEvent.sweep sweepTime ∈ [NodeEvent.sweep 30] →
        sweepTime - 0 ≤ sampleRelay.config.routingConfig.dataSeenExpirySeconds) ∧
      classifyFrame (compressedDataFrame emptyZlibStream) =
        .data ⟨meshVersion, meshMsgData, meshFlagCompressed, 5, deriveNodeId "ORIGIN", 7⟩
          ((compressedDataFrame emptyZlibStream).drop 32) ∧
      (deriveNodeId "ORIGIN", 7) = (deriveNodeId "ORIGIN", 7) ∧
      (let after := (sampleRelay.onKissFrame sampleZlib 0 (compressedDataFrame [])).node.run
          sampleZlib [.sweep 30];
        after.onKissFrame sampleZlib 30 (compressedDataFrame emptyZlibStream) = ⟨after, [], none⟩) :=
  have classified : classifyFrame (compressedDataFrame []) =
      .data ⟨meshVersion, meshMsgData, meshFlagCompressed, 5, deriveNodeId "ORIGIN", 7⟩
        ((compressedDataFrame []).drop 32) := by decide
  have classified' : classifyFrame (compressedDataFrame emptyZlibStream) =
      .data ⟨meshVersion, meshMsgData, meshFlagCompressed, 5, deriveNodeId "ORIGIN", 7⟩
        ((compressedDataFrame emptyZlibStream).drop 32) := by decide
  have unexpired : ∀ sweepTime, NodeEvent.sweep sweepTime ∈ [NodeEvent.sweep 30] →
      sweepTime - 0 ≤ sampleRelay.config.routingConfig.dataSeenExpirySeconds := by
    simp [sampleRelay]
  ⟨classified, rfl, unexpired, classified', rfl,
    firstCopy_claimsKey sampleZlib sampleRelay 0 classified rfl [.sweep 30] unexpired 30
      classified' rfl⟩

end MeshNode

end ArdopMeshChat
