import ArdopMeshChat.Kiss.Backoff
import ArdopMeshChat.Kiss.Client
import ArdopMeshChat.Mesh.Line

/-!
# A station: the node on its KISS client, thread by thread

`MeshNode` hands its frames to `KISSClient.send`, and the client's RX thread
hands the frames it receives to `MeshNode._on_kiss_frame`.  This module runs
the threads of both over their shared state: the client's RX and TX threads,
the node's OGM and cleanup threads, application threads calling
`send_application_data`, and the caller of `MeshNode.stop`.  The TX thread
steps as `KISSClient.txLoopStep`, the step the client's own model
(`ArdopMeshChat.Kiss.Client`) runs for each of its TX threads, here under the
`_lock` the RX thread holds inside `read`: outside `read` a TX step of the
station is a step of that model (`Station.txStep_eq_clientStep`).

A step is one blocking operation (taking `_lock`, a `put`, a `get`) or one
write of a flag, with the tests that lead to it.  A stretch that holds `_lock`
and neither blocks nor waits for the radio is one step: no other thread can
take `_lock` inside it.  The one stretch that holds `_lock` across steps is the
RX thread's `read`, which runs the callback on the RX thread for each frame
the radio brings: the callback's `send` then waits in `put` with `_lock`
still held.  What the radio and the interface do is an argument of the
events: which frame comes, whether `read` returns or raises `OSError`, whether
a connection attempt starts the interface, and whether a write raises.

* `Station.Deadlocked`: the RX thread waits in `put` inside `read`, the queue
  is full, and the TX thread, the one thread that takes frames off the queue,
  waits for `_lock` or has ended.  No step leaves such a state or writes a
  frame (`Station.Deadlocked.run`), and `MeshNode.stop`, which takes `_lock`
  to drop the interface, never returns from it (`Station.StopPending.run`).
* `Station.deadlock_reachable`: for every positive `tx_queue_size`, and every
  node with an ASCII callsign, OGMs the node relays bring the started station
  into such a state, before it has written a single frame.
* `Station.forgedFrame_ends_rx`: `_handle_rx_frame` catches `ValueError` only.
  `_on_kiss_frame` stamps an encrypted DATA frame that does not authenticate
  in the dedup cache and raises; if the encryptor's failure is not a
  `ValueError`, the frame ends the RX thread, and from then on the node's routing tables
  and dedup cache only lose entries (`Station.Unheard.run_of_ended`).
* `Station.stopped_writes_only_held`: `stop` does not flush the TX queue.  Once
  the client's `_running` is clear, the radio gains at most the frame the TX
  thread already holds; whatever is still queued is never written.
-/

namespace ArdopMeshChat

/-- Whether `_handle_rx_frame`'s `except ValueError` catches what the callback
raised: the `ValueError`s, and the encryptor's authentication failure when
`crypto_layer`, whose source is not in the repository, raises it as one. -/
def PyError.caughtByRx (authFailCaught : Bool) : PyError → Bool
  | .valueError _ | .unicodeEncodeError | .invalidLiteral | .binasciiError _ => true
  | .authFail => authFailCaught
  | _ => false

/-- Where the RX thread is in `_rx_loop`: at the loop's test, in
`_connect_with_backoff`, at the test after it, before `with self._lock:`,
inside `read`, in the callback's `put` inside `read`, in the `OSError`
handler, out of the loop, or ended by an exception. -/
inductive RxPc where
  | top
  | connecting (phase : ConnectPc)
  | afterConnect
  | acquire
  | reading
  | putting (frame : Bytes)
  | dropping
  | exited
  | ended
  deriving DecidableEq, Repr

/-- Where the node's OGM thread is: about to build an OGM, waiting in `put`, or
ended by an exception or by the node's `_running` being cleared. -/
inductive OgmPc where
  | idle
  | putting (frame : Bytes)
  | ended
  deriving DecidableEq, Repr

/-- Where the caller of `MeshNode.stop` is: not yet called, waiting for `_lock`
in `KISSClient.stop`, or returned. -/
inductive StopPc where
  | idle
  | locking
  | done
  deriving DecidableEq, Repr

/-- `_lock` is held across steps only by the RX thread, inside `read`. -/
def RxPc.inRead : RxPc → Bool
  | .reading | .putting _ => true
  | _ => false

/-- The TX thread takes no frame off the queue while `_lock` stays held: it
waits for `_lock`, for a connection attempt, a write or its `OSError` handler,
or it has left its loop. -/
def TxPc.stalled : TxPc → Bool
  | .connecting _ .attempt | .acquire _ | .dropping | .exited | .ended => true
  | _ => false

/-- A node on its KISS client: the node, its `_running`, the client's flags and
queue, where each thread is, the frames of application threads waiting in
`put`, and the frames written to the interface so far. -/
structure Station where
  node : MeshNode
  nodeRunning : Bool
  client : KISSClient
  rx : RxPc
  tx : TxPc
  ogm : OgmPc
  appWaiting : List Bytes
  stopper : StopPc
  radio : List Bytes

/-- What happens next: a step of one thread.  `rx` and `tx` take whether a
connection attempt starts the interface, and `tx` whether a write returns;
`rxFrame` is `read` handing a frame to the callback, and `rxReadEnds` is `read`
returning or raising `OSError` (`lost`). -/
inductive StationEvent where
  | rx (started : Bool)
  | rxFrame (now : Time) (frame : Bytes)
  | rxReadEnds (lost : Bool)
  | tx (ok : Bool)
  | ogm
  | appSend (destNodeId payload : Bytes)
  | appPut
  | cleanup (now : Time)
  | stop

namespace Station

variable (zlib : Zlib) (authFailCaught : Bool)

/-- Whether `_lock` is held. -/
def locked (s : Station) : Bool := s.rx.inRead

/-- The RX thread's next step outside `read`. -/
def rxStep (s : Station) (started : Bool) : Station :=
  match s.rx with
  | .top =>
      if !s.client.running then { s with rx := .exited }
      else if !s.client.connected || !s.client.hasIface then { s with rx := .connecting .test }
      else { s with rx := .acquire }
  | .connecting phase =>
      match connectStep s.client s.locked started phase with
      | (client, some phase) => { s with client := client, rx := .connecting phase }
      | (client, none) => { s with client := client, rx := .afterConnect }
  | .afterConnect =>
      if !s.client.connected || !s.client.hasIface then { s with rx := .top }
      else { s with rx := .acquire }
  | .acquire =>
      if !s.client.hasIface then { s with client := { s.client with connected := false }, rx := .top }
      else { s with rx := .reading }
  | .putting frame =>
      if s.client.txQueueFull then s else { s with client := s.client.enqueue frame, rx := .reading }
  | .dropping => { s with client := { s.client with hasIface := false, connected := false }, rx := .top }
  | .reading | .exited | .ended => s

/-- `read` hands a frame to the callback.  `_handle_rx_frame` runs
`MeshNode._on_kiss_frame` and catches `ValueError`; the frame the node relays
goes to `send`, which raises `KISSClientError` once the client has stopped.
What `_handle_rx_frame` does not catch leaves `read` and `_rx_loop`. -/
def rxFrame (s : Station) (now : Time) (frame : Bytes) : Station :=
  match s.rx with
  | .reading =>
      let reaction := s.node.onKissFrame zlib now frame
      match reaction.raised, sentFrames reaction.effects with
      | some err, _ =>
          { s with node := reaction.node, rx := if err.caughtByRx authFailCaught then .reading else .ended }
      | none, [] => { s with node := reaction.node }
      | none, next :: _ =>
          { s with node := reaction.node, rx := if s.client.running then .putting next else .ended }
  | _ => s

/-- `read` returns, or raises `OSError` (`lost`); either way `_lock` is released. -/
def rxReadEnds (s : Station) (lost : Bool) : Station :=
  match s.rx with
  | .reading => { s with rx := if lost then .dropping else .top }
  | _ => s

/-- The TX thread's next step: `KISSClient.txLoopStep` under the `_lock` the RX
thread holds inside `read`; what it writes goes to the radio. -/
def txStep (s : Station) (ok : Bool) : Station :=
  let next := s.client.txLoopStep s.locked ok s.tx
  { s with client := next.1, tx := next.2.1, radio := s.radio ++ next.2.2 }

/-- Outside `read`, a TX step of the station is a step of the client model
(`ClientThreads`) with its one TX thread: the same client and program counter
after it, and the frames that step writes go to the radio. -/
theorem txStep_eq_clientStep (s : Station) (ok : Bool) (unlocked : s.locked = false) :
    let next := (⟨s.client, [s.tx], [], false⟩ : ClientThreads).step (.tx 0 ok)
    (s.txStep ok).client = next.threads.client ∧ [(s.txStep ok).tx] = next.threads.txThreads ∧
      (s.txStep ok).radio = s.radio ++ next.written := by
  simp [txStep, ClientThreads.step, unlocked]

/-- The OGM thread's next step: one pass of `_ogm_loop` up to its `put`, or the
`put`.  An exception of `_build_ogm_payload`, `_wrap_in_ax25_ui` or `send`
ends the thread. -/
def ogmStep (s : Station) : Station :=
  match s.ogm with
  | .idle =>
      if !s.nodeRunning then { s with ogm := .ended }
      else
        let reaction := s.node.ogmTick
        match reaction.raised, sentFrames reaction.effects with
        | some _, _ => { s with node := reaction.node, ogm := .ended }
        | none, [] => { s with node := reaction.node }
        | none, frame :: _ =>
            { s with node := reaction.node, ogm := if s.client.running then .putting frame else .ended }
  | .putting frame =>
      if s.client.txQueueFull then s else { s with client := s.client.enqueue frame, ogm := .idle }
  | .ended => s

/-- An application thread calls `send_application_data`: what it raises goes
back to that thread, and a `put` on a full queue makes the thread wait. -/
def appSend (s : Station) (destNodeId payload : Bytes) : Station :=
  let reaction := s.node.sendApplicationData zlib destNodeId payload
  match reaction.raised, sentFrames reaction.effects with
  | none, frame :: _ =>
      if !s.client.running then { s with node := reaction.node }
      else if s.client.txQueueFull then
        { s with node := reaction.node, appWaiting := s.appWaiting ++ [frame] }
      else { s with node := reaction.node, client := s.client.enqueue frame }
  | _, _ => { s with node := reaction.node }

/-- The first application thread waiting in `put` finds room. -/
def appPut (s : Station) : Station :=
  match s.appWaiting with
  | [] => s
  | frame :: rest =>
      if s.client.txQueueFull then s
      else { s with client := s.client.enqueue frame, appWaiting := rest }

/-- One pass of `_cleanup_loop`, while the node runs. -/
def cleanup (s : Station) (now : Time) : Station :=
  if s.nodeRunning then { s with node := s.node.cleanup now } else s

/-- The caller of `MeshNode.stop`: clear the node's `_running`, then in
`KISSClient.stop` clear the client's, put the empty wake-up frame unless the
queue is full, wait out the joins, and take `_lock` to drop the interface. -/
def stopStep (s : Station) : Station :=
  match s.stopper with
  | .idle =>
      if !s.nodeRunning then { s with stopper := .done }
      else if !s.client.running then { s with nodeRunning := false, stopper := .done }
      else
        { s with
          nodeRunning := false
          client := { s.client with
            running := false
            txQueue := s.client.txQueue ++ if s.client.txQueueFull then [] else [[]] }
          stopper := .locking }
  | .locking =>
      if s.locked then s
      else
        { s with
          client := if s.client.hasIface then { s.client with hasIface := false, connected := false }
            else s.client
          stopper := .done }
  | .done => s

/-- The station after one event. -/
def step (s : Station) : StationEvent → Station
  | .rx started => s.rxStep started
  | .rxFrame now frame => s.rxFrame zlib authFailCaught now frame
  | .rxReadEnds lost => s.rxReadEnds lost
  | .tx ok => s.txStep ok
  | .ogm => s.ogmStep
  | .appSend destNodeId payload => s.appSend zlib destNodeId payload
  | .appPut => s.appPut
  | .cleanup now => s.cleanup now
  | .stop => s.stopStep

/-- The station after a schedule. -/
def run (s : Station) (events : List StationEvent) : Station :=
  events.foldl (step zlib authFailCaught) s

@[simp] theorem run_nil (s : Station) : s.run zlib authFailCaught [] = s := rfl

@[simp] theorem run_cons (s : Station) (event : StationEvent) (events : List StationEvent) :
    s.run zlib authFailCaught (event :: events) =
      (s.step zlib authFailCaught event).run zlib authFailCaught events := rfl

theorem run_append (s : Station) (events events' : List StationEvent) :
    s.run zlib authFailCaught (events ++ events') =
      (s.run zlib authFailCaught events).run zlib authFailCaught events' :=
  List.foldl_append _ _ _ _

/-- After `MeshNode.start`: the client started, and every thread at the top of
its loop. -/
def started (node : MeshNode) (config : KISSConnectionConfig) : Station :=
  ⟨node, true, (KISSClient.new config).start, .top, .top, .idle, [], .idle, []⟩

/-! ## A deadlock that no step leaves -/

/-- The RX thread waits in `put` inside `read`, so holding `_lock`, on a full
queue, and the TX thread takes no frame off the queue while `_lock` is held. -/
structure Deadlocked (s : Station) : Prop where
  putting : ∃ frame, s.rx = .putting frame
  full : s.client.txQueueFull = true
  stalled : s.tx.stalled = true

/-- `MeshNode.stop` has not returned, and returns only through `_lock`: its
caller waits for `_lock`, or has not called it while node and client run. -/
def StopPending (s : Station) : Prop :=
  s.stopper = .locking ∨ s.stopper = .idle ∧ s.nodeRunning = true ∧ s.client.running = true

/-- What a deadlock keeps: where the RX and TX threads are, the queue and its
bound, and the frames written. -/
structure Frozen (s s' : Station) : Prop where
  rx : s'.rx = s.rx
  tx : s'.tx = s.tx
  config : s'.client.config = s.client.config
  txQueue : s'.client.txQueue = s.client.txQueue
  radio : s'.radio = s.radio

theorem Frozen.refl (s : Station) : Frozen s s := ⟨rfl, rfl, rfl, rfl, rfl⟩

theorem Frozen.trans {s s' s'' : Station} (first : Frozen s s') (second : Frozen s' s'') :
    Frozen s s'' :=
  ⟨second.rx.trans first.rx, second.tx.trans first.tx, second.config.trans first.config,
    second.txQueue.trans first.txQueue, second.radio.trans first.radio⟩

/-! The threads other than RX and TX touch the queue only through a `put` that
finds room, and `_lock` only in `stop`. -/

section Others

variable {s : Station} (full : s.client.txQueueFull = true)
include full

theorem frozen_ogmStep : Frozen s s.ogmStep := by
  unfold ogmStep
  dsimp only
  split <;> (try split) <;> (try split) <;> (try split) <;>
    first | exact .refl s | exact ⟨rfl, rfl, rfl, rfl, rfl⟩

theorem frozen_appSend (destNodeId payload : Bytes) :
    Frozen s (s.appSend zlib destNodeId payload) := by
  unfold appSend
  dsimp only
  split <;> (try split) <;> exact ⟨rfl, rfl, rfl, rfl, rfl⟩

theorem frozen_appPut : Frozen s s.appPut := by
  unfold appPut
  split <;> (try split) <;> exact .refl s

omit full in
theorem frozen_cleanup (now : Time) : Frozen s (s.cleanup now) := by
  unfold cleanup
  split
  · exact ⟨rfl, rfl, rfl, rfl, rfl⟩
  · exact .refl s

theorem frozen_stopStep (locked : s.locked = true) : Frozen s s.stopStep := by
  unfold stopStep
  split <;> (try split) <;> (try split) <;>
    first | exact .refl s | exact ⟨rfl, rfl, rfl, rfl, rfl⟩ | exact ⟨rfl, rfl, rfl, by simp [full], rfl⟩

end Others

/-! Only the caller of `stop` writes the node's and the client's `_running`. -/

section Quiet

variable (s : Station)

/-- What only the caller of `stop` writes. -/
def stopView : StopPc × Bool × Bool := (s.stopper, s.nodeRunning, s.client.running)

theorem stopView_ogmStep : s.ogmStep.stopView = s.stopView := by
  unfold ogmStep
  dsimp only
  split <;> (try split) <;> (try split) <;> (try split) <;> rfl

theorem stopView_appSend (destNodeId payload : Bytes) :
    (s.appSend zlib destNodeId payload).stopView = s.stopView := by
  unfold appSend
  dsimp only
  split <;> (try split) <;> (try split) <;> rfl

theorem stopView_appPut : s.appPut.stopView = s.stopView := by
  unfold appPut
  split <;> (try split) <;> rfl

theorem stopView_cleanup (now : Time) : (s.cleanup now).stopView = s.stopView := by
  unfold cleanup
  split <;> rfl

end Quiet

section Deadlocked

variable {s : Station} (dead : s.Deadlocked)
include dead

theorem Deadlocked.locked : s.locked = true := by
  obtain ⟨frame, putting⟩ := dead.putting
  simp [Station.locked, putting, RxPc.inRead]

theorem Deadlocked.rxStep (started : Bool) : s.rxStep started = s := by
  obtain ⟨frame, putting⟩ := dead.putting
  simp [Station.rxStep, putting, dead.full]

theorem Deadlocked.txStep (ok : Bool) : s.txStep ok = s := by
  have stalled := dead.stalled
  have locked := dead.locked
  rcases s with ⟨_, _, _, _, tx, _, _, _, _⟩
  cases tx with
  | connecting frame phase =>
      cases phase <;> simp_all [TxPc.stalled, Station.txStep, KISSClient.txLoopStep, connectStep]
  | _ => simp_all [TxPc.stalled, Station.txStep, KISSClient.txLoopStep]
theorem Deadlocked.frozen_step (event : StationEvent) :
    Frozen s (s.step zlib authFailCaught event) := by
  obtain ⟨frame, putting⟩ := dead.putting
  cases event with
  | rx started => rw [step, dead.rxStep]; exact .refl s
  | tx ok => rw [step, dead.txStep]; exact .refl s
  | rxFrame now frame => simp only [step, rxFrame, putting]; exact .refl s
  | rxReadEnds lost => simp only [step, rxReadEnds, putting]; exact .refl s
  | ogm => exact frozen_ogmStep dead.full
  | appSend destNodeId payload => exact frozen_appSend zlib dead.full destNodeId payload
  | appPut => exact frozen_appPut dead.full
  | cleanup now => exact frozen_cleanup now
  | stop => exact frozen_stopStep dead.full dead.locked

theorem Deadlocked.of_frozen {s' : Station} (frozen : Frozen s s') : s'.Deadlocked where
  putting := by rw [frozen.rx]; exact dead.putting
  full := by simpa only [KISSClient.txQueueFull, frozen.config, frozen.txQueue] using dead.full
  stalled := by rw [frozen.tx]; exact dead.stalled

omit dead in
theorem StopPending.of_stopView {s' : Station} (same : s'.stopView = s.stopView)
    (pending : s.StopPending) : s'.StopPending := by
  simp only [stopView, Prod.mk.injEq] at same
  simpa only [StopPending, same] using pending

/-- Under a deadlock `MeshNode.stop` stays pending: its caller reaches the
wait for `_lock` and waits there. -/
theorem StopPending.step (pending : s.StopPending) (event : StationEvent) :
    (s.step zlib authFailCaught event).StopPending := by
  obtain ⟨frame, putting⟩ := dead.putting
  cases event with
  | rx started => rw [Station.step, dead.rxStep]; exact pending
  | tx ok => rw [Station.step, dead.txStep]; exact pending
  | rxFrame now frame => simpa only [Station.step, rxFrame, putting] using pending
  | rxReadEnds lost => simpa only [Station.step, rxReadEnds, putting] using pending
  | ogm => exact pending.of_stopView (stopView_ogmStep s)
  | appSend destNodeId payload => exact pending.of_stopView (stopView_appSend zlib s destNodeId payload)
  | appPut => exact pending.of_stopView (stopView_appPut s)
  | cleanup now => exact pending.of_stopView (stopView_cleanup s now)
  | stop =>
      rcases pending with locking | ⟨idle, nodeRunning, running⟩
      · simp [Station.step, stopStep, locking, dead.locked, StopPending]
      · simp [Station.step, stopStep, idle, nodeRunning, running, StopPending]

end Deadlocked

/-- From a deadlock, whatever the threads, the radio and the callers do: the
station stays deadlocked, with the same queue and not one more frame written,
and a pending `MeshNode.stop` never returns. -/
theorem Deadlocked.run {s : Station} (dead : s.Deadlocked) (events : List StationEvent) :
    (s.run zlib authFailCaught events).Deadlocked ∧ Frozen s (s.run zlib authFailCaught events) ∧
      (s.StopPending → (s.run zlib authFailCaught events).StopPending) := by
  induction events generalizing s with
  | nil => exact ⟨dead, .refl s, id⟩
  | cons event events ih =>
      have frozen := dead.frozen_step zlib authFailCaught event
      obtain ⟨later, laterFrozen, laterPending⟩ := ih (dead.of_frozen frozen)
      exact ⟨later, frozen.trans laterFrozen,
        fun pending => laterPending (StopPending.step zlib authFailCaught dead pending event)⟩

/-! ## Reaching the deadlock -/

/-- An OGM from another station with TTL 2, as the radio brings it. -/
def relayedOgm : Bytes :=
  List.replicate 16 0 ++
    (headerBytes meshMsgOgm 0 2 (List.replicate 8 1) 1 ++ (List.replicate 8 1 ++ [255]))

/-- Every node with an ASCII callsign relays it, whatever its tables hold. -/
theorem relayedOgm_relayed (node : MeshNode) (callsignAscii : isAscii node.config.callsign.toList = true)
    (now : Time) :
    (node.onKissFrame zlib now relayedOgm).raised = none ∧
      ∃ next, sentFrames (node.onKissFrame zlib now relayedOgm).effects = [next] ∧ next ≠ [] := by
  have info : relayedOgm.drop 16 =
      headerBytes meshMsgOgm 0 2 (List.replicate 8 1) 1 ++ (List.replicate 8 1 ++ [255]) :=
    List.drop_left' (List.length_replicate _ _)
  have eight : (List.replicate 8 (1 : UInt8)).length = 8 := List.length_replicate _ _
  obtain ⟨-, forwarded⟩ :=
    node.onKissFrame_of_ogm zlib now info (by decide) eight (by decide) eight callsignAscii
  obtain ⟨next, sent, nextInfo⟩ := forwarded (by decide)
  refine ⟨?_, next, by rw [sent]; rfl, fun empty => ?_⟩
  · rw [MeshNode.onKissFrame, classifyFrame_of_ogm info (by decide) eight (by decide) eight]
    exact node.raised_handleOgm callsignAscii now _ eight (by decide) (by decide) (by decide)
  · simp [empty] at nextInfo

/-- `count` relayed OGMs, each followed by the RX thread's `put`. -/
def relaySchedule (now : Time) : Nat → List StationEvent
  | 0 => []
  | count + 1 => .rxFrame now relayedOgm :: .rx true :: relaySchedule now count

/-- Inside `read`, with room on the queue, a relayed OGM puts one frame. -/
theorem relay_step {s : Station} (reading : s.rx = .reading) (running : s.client.running = true)
    (room : s.client.txQueueFull = false) (callsignAscii : isAscii s.node.config.callsign.toList = true)
    (now : Time) :
    ∃ next, next ≠ [] ∧ s.run zlib authFailCaught [.rxFrame now relayedOgm, .rx true] =
      { s with node := (s.node.onKissFrame zlib now relayedOgm).node, client := s.client.enqueue next } := by
  obtain ⟨raised, next, sent, nonempty⟩ := relayedOgm_relayed zlib s.node callsignAscii now
  refine ⟨next, nonempty, ?_⟩
  simp [Station.step, rxFrame, rxStep, reading, raised, sent, running, room]

/-- Inside `read`, with room for `count` more frames, `count` relayed OGMs put
`count` frames, none of them empty. -/
theorem relay_run (now : Time) (count : Nat) {s : Station} (reading : s.rx = .reading)
    (running : s.client.running = true) (callsignAscii : isAscii s.node.config.callsign.toList = true)
    (room : s.client.txQueue.length + count ≤ s.client.config.txQueueSize) :
    ∃ node frames, node.config = s.node.config ∧ frames.length = count ∧ (∀ frame ∈ frames, frame ≠ []) ∧
      s.run zlib authFailCaught (relaySchedule now count) =
        { s with node := node, client := { s.client with txQueue := s.client.txQueue ++ frames } } := by
  induction count generalizing s with
  | zero => exact ⟨s.node, [], rfl, rfl, by simp, by simp [relaySchedule]⟩
  | succ count ih =>
      have notFull : s.client.txQueueFull = false := by
        simp only [KISSClient.txQueueFull, Bool.and_eq_false_iff, decide_eq_false_iff_not]
        omega
      obtain ⟨next, nonempty, relayed⟩ :=
        relay_step zlib authFailCaught reading running notFull callsignAscii now
      obtain ⟨node, frames, config, length, nonempties, rest⟩ :=
        @ih { s with node := (s.node.onKissFrame zlib now relayedOgm).node, client := s.client.enqueue next }
          reading running (by simpa using callsignAscii) (by simp; omega)
      refine ⟨node, next :: frames, by simpa using config, by simp [length], ?_, ?_⟩
      · simpa using ⟨nonempty, nonempties⟩
      · simp only [run_cons, run_nil] at relayed
        rw [relaySchedule, run_cons, run_cons, relayed, rest]
        simp [KISSClient.enqueue]

end Station

/-! ## A frame that does not authenticate

`_handle_rx_frame` catches `ValueError` only.  If the encryptor's failure is
not one, the first encrypted DATA frame that does not authenticate (sent with
another key, or damaged) leaves `read` and `_rx_loop`, and the RX thread is
gone: the node hears nothing more, and its routes only ever expire. -/

namespace MeshNode

variable (zlib : Zlib)

/-- An ENCRYPTED DATA frame with a fresh key whose ciphertext does not
authenticate: `_on_kiss_frame` stamps the key, then raises the encryptor's
failure. -/
theorem onKissFrame_of_forged {node : MeshNode} (now : Time) {frame body : Bytes}
    {header : MeshHeader} (classified : classifyFrame frame = .data header body)
    (fresh : node.dataSeen (header.originId, header.seqno) = none)
    (encrypted : header.flags &&& meshFlagEncrypted ≠ 0) (long : 25 ≤ body.length)
    (forged : node.encryptor.decrypt (slice (body.drop 12) 0 12) ((body.drop 12).drop 12)
      (header.originId ++ body.take 12) = none) :
    node.onKissFrame zlib now frame =
      ⟨node.markSeen (header.originId, header.seqno) now, [], some .authFail⟩ := by
  obtain ⟨dataSeq, -, processed⟩ := node.processData_eq zlib header.originId header.seqno header.ttl
    header.flags (by omega : 12 ≤ body.length)
  have remainder : ¬ (body.drop 12).length < 13 := by simp; omega
  rw [onKissFrame, classified]
  dsimp only
  rw [handleDataFrame_eq, fresh]
  dsimp only
  rw [processed, openAndDeliver, openPayload, if_pos encrypted, if_neg remainder, forged]
  rfl

/-- Every entry of `small` is in `large`, with the same value. -/
def TableSub {κ α : Type} (small large : Table κ α) : Prop :=
  ∀ key value, small key = some value → large key = some value

/-- `after` knows nothing from frames that `before` did not: every entry of its
routing tables and dedup cache was in `before`, with the same value. -/
structure Shrunk (before after : MeshNode) : Prop where
  originators : TableSub after.routingState.originators before.routingState.originators
  neighbors : TableSub after.routingState.neighbors before.routingState.neighbors
  dataSeen : TableSub after.dataSeen before.dataSeen

theorem Shrunk.refl (node : MeshNode) : Shrunk node node :=
  ⟨fun _ _ => id, fun _ _ => id, fun _ _ => id⟩

theorem Shrunk.trans {node node' node'' : MeshNode} (first : Shrunk node node')
    (second : Shrunk node' node'') : Shrunk node node'' :=
  ⟨fun key value held => first.originators key value (second.originators key value held),
    fun key value held => first.neighbors key value (second.neighbors key value held),
    fun key value held => first.dataSeen key value (second.dataSeen key value held)⟩

theorem Shrunk.of_tables {before after : MeshNode} (routing : after.routingState = before.routingState)
    (seen : after.dataSeen = before.dataSeen) : Shrunk before after :=
  ⟨by rw [routing]; exact fun _ _ => id, by rw [routing]; exact fun _ _ => id,
    by rw [seen]; exact fun _ _ => id⟩

/-- A sweep only deletes. -/
theorem shrunk_cleanup (node : MeshNode) (now : Time) : Shrunk node (node.cleanup now) := by
  refine ⟨?_, ?_, ?_⟩ <;> intro key value kept <;> exact (Option.filter_eq_some.mp kept).1

theorem shrunk_ogmTick (node : MeshNode) : Shrunk node node.ogmTick.node :=
  .of_tables (by simp [ogmTick, buildOgmPayload]) (by simp [ogmTick, buildOgmPayload])

theorem shrunk_sendApplicationData (node : MeshNode) (destNodeId payload : Bytes) :
    Shrunk node (node.sendApplicationData zlib destNodeId payload).node := by
  unfold sendApplicationData
  split
  · exact .refl node
  · exact .of_tables (by simp) (by simp)

end MeshNode

namespace Station

variable (zlib : Zlib) (authFailCaught : Bool)

/-- From `s` to `s'` the RX thread stays where it is, and the node learns
nothing. -/
structure Unheard (s s' : Station) : Prop where
  rx : s'.rx = s.rx
  shrunk : MeshNode.Shrunk s.node s'.node

theorem Unheard.refl (s : Station) : Unheard s s := ⟨rfl, .refl s.node⟩

theorem Unheard.trans {s s' s'' : Station} (first : Unheard s s') (second : Unheard s' s'') :
    Unheard s s'' :=
  ⟨second.rx.trans first.rx, first.shrunk.trans second.shrunk⟩

section Unheard

variable (s : Station)

theorem unheard_txStep (ok : Bool) : Unheard s (s.txStep ok) := ⟨rfl, .refl s.node⟩

theorem unheard_ogmStep : Unheard s s.ogmStep := by
  unfold ogmStep
  dsimp only
  split <;> (try split) <;> (try split) <;> (try split) <;>
    first | exact .refl s | exact ⟨rfl, .refl s.node⟩ | exact ⟨rfl, s.node.shrunk_ogmTick⟩

theorem unheard_appSend (destNodeId payload : Bytes) : Unheard s (s.appSend zlib destNodeId payload) := by
  unfold appSend
  dsimp only
  split <;> (try split) <;> (try split) <;>
    exact ⟨rfl, s.node.shrunk_sendApplicationData zlib destNodeId payload⟩

theorem unheard_appPut : Unheard s s.appPut := by
  unfold appPut
  split <;> (try split) <;> exact ⟨rfl, .refl s.node⟩

theorem unheard_cleanup (now : Time) : Unheard s (s.cleanup now) := by
  unfold cleanup
  split
  · exact ⟨rfl, s.node.shrunk_cleanup now⟩
  · exact .refl s

theorem unheard_stopStep : Unheard s s.stopStep := by
  unfold stopStep
  split <;> (try split) <;> (try split) <;> exact ⟨rfl, .refl s.node⟩

/-- Once the RX thread has ended, no step brings it back or gives the node an
entry it did not have. -/
theorem Unheard.step_of_ended (ended : s.rx = .ended) (event : StationEvent) :
    Unheard s (s.step zlib authFailCaught event) := by
  cases event with
  | rx started => simp only [Station.step, rxStep, ended]; exact .refl s
  | rxFrame now frame => simp only [Station.step, rxFrame, ended]; exact .refl s
  | rxReadEnds lost => simp only [Station.step, rxReadEnds, ended]; exact .refl s
  | tx ok => exact unheard_txStep s ok
  | ogm => exact unheard_ogmStep s
  | appSend destNodeId payload => exact unheard_appSend zlib s destNodeId payload
  | appPut => exact unheard_appPut s
  | cleanup now => exact unheard_cleanup s now
  | stop => exact unheard_stopStep s

theorem Unheard.run_of_ended (ended : s.rx = .ended) (events : List StationEvent) :
    Unheard s (s.run zlib authFailCaught events) := by
  induction events generalizing s with
  | nil => exact .refl s
  | cons event events ih =>
      have first := Unheard.step_of_ended zlib authFailCaught s ended event
      exact first.trans (ih _ (first.rx.trans ended))

end Unheard

/-- A cipher whose one-byte tag must be 0. -/
def checkedTagCipher : MeshEncryptor :=
  ⟨true, fun plaintext _ => (List.replicate 12 0, 0 :: plaintext),
    fun _ ciphertext _ => match ciphertext with
      | 0 :: plaintext => some plaintext
      | _ => none⟩

/-- A station of the line whose cipher checks its tag, inside `read`. -/
def listeningStation : Station :=
  ⟨{ MeshNode.lineStation "N1CALL" false with encryptor := checkedTagCipher }, true,
    ⟨KISSConnectionConfig.defaultConfig, true, true, true, []⟩, .reading, .top, .idle, [], .idle, []⟩

/-- An encrypted DATA frame from `ORIGIN` to `DEST` whose tag is 1. -/
def forgedFrame : Bytes :=
  List.replicate 16 0 ++ headerBytes meshMsgData meshFlagEncrypted 5 (deriveNodeId "ORIGIN") 7 ++
    deriveNodeId "DEST" ++ packBE32 1 ++ List.replicate 12 0 ++ [1, 104, 105]

end Station

/-! ## `stop` does not flush the queue

Once `_running` is clear, the TX thread's next test or `get` ends it, whatever
the queue holds: only a frame it had already taken off the queue can still be
written. -/

namespace Station

variable (zlib : Zlib) (authFailCaught : Bool)

/-- The frames written, where the TX thread is, and the client's `_running`. -/
def txView (s : Station) : List Bytes × TxPc × Bool := (s.radio, s.tx, s.client.running)

/-- From `s`, whose client's `_running` is clear: either the radio has gained
nothing and the TX thread holds nothing or the frame it held in `s`, or the
radio has gained that frame and the thread holds nothing. -/
def Draining (s t : Station) : Prop :=
  t.client.running = false ∧
    (t.radio = s.radio ∧ (t.tx.held = none ∨ t.tx.held = s.tx.held) ∨
      ∃ frame, s.tx.held = some frame ∧ t.radio = s.radio ++ [frame] ∧ t.tx.held = none)

section Draining

variable (s : Station)

/-! No thread but TX writes to the radio or moves the TX thread, and only the
caller of `stop` writes `_running`. -/

theorem txView_rxStep (started : Bool) : (s.rxStep started).txView = s.txView := by
  rcases s with ⟨_, _, client, rx, _, _, _, _, _⟩
  cases rx with
  | connecting phase =>
      have kept := (connectStep_fields client false started phase).2.1
      rcases stepped : connectStep client false started phase with ⟨client', _ | phase'⟩ <;>
        simpa [rxStep, locked, RxPc.inRead, stepped, txView] using kept
  | _ => simp only [rxStep] <;> (try split) <;> (try split) <;> rfl

theorem txView_rxFrame (now : Time) (frame : Bytes) :
    (s.rxFrame zlib authFailCaught now frame).txView = s.txView := by
  unfold rxFrame
  dsimp only
  split <;> (try split) <;> rfl

theorem txView_rxReadEnds (lost : Bool) : (s.rxReadEnds lost).txView = s.txView := by
  unfold rxReadEnds
  split <;> rfl

theorem txView_ogmStep : s.ogmStep.txView = s.txView := by
  unfold ogmStep
  dsimp only
  split <;> (try split) <;> (try split) <;> (try split) <;> rfl

theorem txView_appSend (destNodeId payload : Bytes) :
    (s.appSend zlib destNodeId payload).txView = s.txView := by
  unfold appSend
  dsimp only
  split <;> (try split) <;> (try split) <;> rfl

theorem txView_appPut : s.appPut.txView = s.txView := by
  unfold appPut
  split <;> (try split) <;> rfl

theorem txView_cleanup (now : Time) : (s.cleanup now).txView = s.txView := by
  unfold cleanup
  split <;> rfl

theorem txView_stopStep (stopped : s.client.running = false) : s.stopStep.txView = s.txView := by
  unfold stopStep
  split <;> (try split) <;> (try split) <;> simp [txView, stopped]

/-- With `_running` clear, a TX step keeps the radio and holds nothing new, or
writes the frame the thread holds and then holds nothing. -/
theorem txStep_of_stopped (stopped : s.client.running = false) (ok : Bool) :
    (s.txStep ok).client.running = false ∧
      ((s.txStep ok).radio = s.radio ∧
          ((s.txStep ok).tx.held = none ∨ (s.txStep ok).tx.held = s.tx.held) ∨
        ∃ frame, s.tx.held = some frame ∧ (s.txStep ok).radio = s.radio ++ [frame] ∧
          (s.txStep ok).tx.held = none) := by
  obtain ⟨-, running, -, ⟨wrote, -, kept⟩ | ⟨-, nothing, frame, -, holds⟩ |
    ⟨-, nothing, frame, holding, wrote, -⟩⟩ := KISSClient.txLoopStep_cases s.client s.locked ok s.tx
  · exact ⟨running.trans stopped, .inl ⟨by simp [txStep, wrote], kept.symm⟩⟩
  · simp [KISSClient.running_of_txLoopStep_takes nothing holds] at stopped
  · exact ⟨running.trans stopped, .inr ⟨frame, holding, by simp [txStep, wrote], nothing⟩⟩

theorem Draining.refl (stopped : s.client.running = false) : Draining s s :=
  ⟨stopped, .inl ⟨rfl, .inr rfl⟩⟩

theorem Draining.of_txView {t t' : Station} (draining : Draining s t) (same : t'.txView = t.txView) :
    Draining s t' := by
  simp only [txView, Prod.mk.injEq] at same
  obtain ⟨radio, tx, running⟩ := same
  simpa only [Draining, radio, tx, running] using draining

theorem Draining.step {t : Station} (draining : Draining s t) (event : StationEvent) :
    Draining s (t.step zlib authFailCaught event) := by
  cases event with
  | rx started => exact draining.of_txView s (txView_rxStep t started)
  | rxFrame now frame => exact draining.of_txView s (txView_rxFrame zlib authFailCaught t now frame)
  | rxReadEnds lost => exact draining.of_txView s (txView_rxReadEnds t lost)
  | ogm => exact draining.of_txView s (txView_ogmStep t)
  | appSend destNodeId payload => exact draining.of_txView s (txView_appSend zlib t destNodeId payload)
  | appPut => exact draining.of_txView s (txView_appPut t)
  | cleanup now => exact draining.of_txView s (txView_cleanup t now)
  | stop => exact draining.of_txView s (txView_stopStep t draining.1)
  | tx ok =>
      change Draining s (t.txStep ok)
      obtain ⟨stopped, progress⟩ := draining
      obtain ⟨stillStopped, kept | ⟨frame, holding, wrote, none⟩⟩ := txStep_of_stopped t stopped ok
      · refine ⟨stillStopped, ?_⟩
        rcases progress with ⟨radio, nothing | same⟩ | ⟨frame, holding, radio, nothing⟩
        · exact .inl ⟨kept.1.trans radio, .inl (by simpa [nothing] using kept.2)⟩
        · exact .inl ⟨kept.1.trans radio, same ▸ kept.2⟩
        · exact .inr ⟨frame, holding, kept.1.trans radio, by simpa [nothing] using kept.2⟩
      · refine ⟨stillStopped, .inr ⟨frame, ?_, ?_, none⟩⟩
        · rcases progress with ⟨-, nothing | same⟩ | ⟨-, -, -, nothing⟩
          · simp [nothing] at holding
          · rwa [← same]
          · simp [nothing] at holding
        · rcases progress with ⟨radio, -⟩ | ⟨-, -, -, nothing⟩
          · rw [wrote, radio]
          · simp [nothing] at holding

theorem Draining.run {t : Station} (draining : Draining s t) (events : List StationEvent) :
    Draining s (t.run zlib authFailCaught events) := by
  induction events generalizing t with
  | nil => exact draining
  | cons event events ih => exact ih (draining.step zlib authFailCaught s event)

end Draining

/-- A station inside `read` whose TX thread holds the frame `[0]` to write
while `[1]` and `[2]` wait in the queue. -/
def busyStation : Station :=
  { listeningStation with
    client := ⟨KISSConnectionConfig.defaultConfig, true, true, true, [[1], [2]]⟩, tx := .acquire [0] }

/-- `stop`, then `read` returns: the held frame goes out, the queued ones never do. -/
example : ((busyStation.step MeshNode.storeZlib false .stop).run MeshNode.storeZlib false
    [.rxReadEnds false, .tx true, .tx true, .tx true, .tx true]).radio = [[0]] := by
  decide

end Station

end ArdopMeshChat
