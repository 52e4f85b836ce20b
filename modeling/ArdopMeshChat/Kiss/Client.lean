import ArdopMeshChat.Python.Builtins
import ArdopMeshChat.Config
import Mathlib.Data.List.Perm.Subperm

/-!
# The KISS client's transmit path

`KISSClient.send` puts frames on a bounded queue, and a TX thread takes them
off and writes them to the KISS interface.  A step is one blocking operation
of one thread (a `get`, a `put`, a connection attempt or a write under
`_lock`) with the tests that lead to it.  A TX thread holds the frame it took
off the queue across its steps, through `_connect_with_backoff`, whose sleeps
let every other thread run, up to the write.  What the radio and the
interface do is an argument of the events: whether a connection attempt starts
the interface, and whether a write returns.

`stop` clears `_running`, wakes the TX thread with an empty frame, and waits
for the threads with `join(timeout)`.  A TX thread asleep in
`_connect_with_backoff` outlives its join; if `start` runs before it wakes, it
finds `_running` set again and goes on beside the TX thread the new `start`
made.  So the client has a list of TX threads, one for each `start` that
found it stopped.  The RX thread shows up only through what it writes to
`_connected` and `_kiss_iface`, and any write is allowed at any step, so the
invariants below hold of every schedule the threads can produce.  A TX step
that waits for the `_lock` the RX thread holds inside `read` changes nothing,
so here the TX threads step with `_lock` free; `Station` runs the same step,
`KISSClient.txLoopStep`, under the RX thread's `_lock`.

* `KISSClient.run_new`: from `__init__`, over every schedule, each frame is
  written at most as often as it was handed to `send`, and the queue never
  holds more than a positive `tx_queue_size`.  While `start` has been called
  at most once, the frames are written in the order the queue received them.
* `KISSClient.restart_reorders`: `stop` and `start` while the TX thread sleeps
  in `_connect_with_backoff` with a frame, and a frame handed to `send` after
  it is written first.
-/

namespace ArdopMeshChat

/-- `KISSClientError`, with its message. -/
structure KISSClientError where
  message : String
  deriving DecidableEq, Repr

/-- The flags and the queue of a `KISSClient`: `_running`, `_connected`,
whether `_kiss_iface` is set, and `_tx_queue`. -/
structure KISSClient where
  config : KISSConnectionConfig
  running : Bool
  connected : Bool
  hasIface : Bool
  txQueue : List Bytes

namespace KISSClient

/-- `KISSClient.__init__`: stopped, not connected, an empty queue. -/
def new (config : KISSConnectionConfig) : KISSClient := ⟨config, false, false, false, []⟩

/-- `queue.Queue.full()`: a `maxsize` of 0 means no bound. -/
def txQueueFull (client : KISSClient) : Bool :=
  0 < client.config.txQueueSize && client.config.txQueueSize ≤ client.txQueue.length

/-- The flag `start` sets; a client already running only logs a warning. -/
def start (client : KISSClient) : KISSClient :=
  if client.running then client else { client with running := true }

/-- A `put` that found room. -/
def enqueue (client : KISSClient) (frame : Bytes) : KISSClient :=
  { client with txQueue := client.txQueue ++ [frame] }

@[simp] theorem config_enqueue (client : KISSClient) (frame : Bytes) :
    (client.enqueue frame).config = client.config := rfl

@[simp] theorem txQueue_enqueue (client : KISSClient) (frame : Bytes) :
    (client.enqueue frame).txQueue = client.txQueue ++ [frame] := rfl

/-- `send(frame, block)` with no timeout, as `MeshNode` calls it.  `none` is a
blocking `put` on a full queue: the caller waits until there is room. -/
def send (client : KISSClient) (frame : Bytes) (block : Bool) :
    Option (KISSClient × Except KISSClientError Unit) :=
  if !client.running then some (client, .error ⟨"Cannot send: client is not running"⟩)
  else if client.txQueueFull then
    if block then none else some (client, .error ⟨"TX queue is full"⟩)
  else some (client.enqueue frame, .ok ())

/-- `stop` up to its joins, in a running client: clear `_running`, and put
the empty wake-up frame unless the queue is full (`put_nowait` raises
`queue.Full`, which is logged).  The frames it queued are returned with the
new state. -/
def stop (client : KISSClient) : KISSClient × List Bytes :=
  let wake : List Bytes := if client.txQueueFull then [] else [[]]
  ({ client with running := false, txQueue := client.txQueue ++ wake }, wake)

/-- `stop` after its joins: under `_lock`, drop the interface. -/
def dropIface (client : KISSClient) : KISSClient :=
  if client.hasIface then { client with hasIface := false, connected := false } else client

end KISSClient

/-! ## The TX thread -/

/-- Where a thread is in `_connect_with_backoff`: at the loop's test, about to
take `_lock` for an attempt, or after an attempt that started the interface or
raised `OSError`, about to set or clear `_connected`. -/
inductive ConnectPc where
  | test
  | attempt
  | started
  | failed
  deriving DecidableEq, Repr

/-- Where the TX thread is in `_tx_loop`: at the loop's test and its `get`,
holding the frame it got, in `_connect_with_backoff`, at the test after it,
before `with self._lock:` to write, in the `OSError` handler, out of the loop,
or ended by the `KISSClientError` of a missing interface. -/
inductive TxPc where
  | top
  | got (frame : Bytes)
  | connecting (frame : Bytes) (phase : ConnectPc)
  | afterConnect (frame : Bytes)
  | acquire (frame : Bytes)
  | dropping
  | exited
  | ended
  deriving DecidableEq, Repr

/-- The frame the TX thread has taken off the queue and neither written nor
dropped. -/
def TxPc.held : TxPc → Option Bytes
  | .got frame | .connecting frame _ | .afterConnect frame | .acquire frame => some frame
  | _ => none

/-- A TX thread past the test for the empty wake-up frame holds a frame that
is not empty. -/
def TxPc.Sound : TxPc → Prop
  | .connecting frame _ | .afterConnect frame | .acquire frame => frame ≠ []
  | _ => True

/-- One step of `_connect_with_backoff` from `phase`: the new client, and the
next phase, `none` once the function returns.  An attempt waits while `_lock`
is held; `_create_kiss_iface` sets `_kiss_iface` before `start` can raise. -/
def connectStep (client : KISSClient) (locked started : Bool) :
    ConnectPc → KISSClient × Option ConnectPc
  | .test => (client, if client.running && !client.connected then some .attempt else none)
  | .attempt =>
      if locked then (client, some .attempt)
      else ({ client with hasIface := true }, some (if started then .started else .failed))
  | .started => ({ client with connected := true }, some .test)
  | .failed => ({ client with connected := false }, some .test)

theorem connectStep_fields (client : KISSClient) (locked started : Bool) (phase : ConnectPc) :
    (connectStep client locked started phase).1.config = client.config ∧
      (connectStep client locked started phase).1.running = client.running ∧
      (connectStep client locked started phase).1.txQueue = client.txQueue := by
  cases phase <;> cases locked <;> exact ⟨rfl, rfl, rfl⟩

/-- One step of a TX thread at `pc`, with `_lock` held by another thread or
not; `ok` is whether a connection attempt starts the interface, or whether
`iface.write` returns.  The client it leaves, where the thread is next, and
the frames it wrote. -/
def KISSClient.txLoopStep (client : KISSClient) (locked ok : Bool) :
    TxPc → KISSClient × TxPc × List Bytes
  | .top =>
      if !client.running then (client, .exited, [])
      else
        match client.txQueue with
        | [] => (client, .top, [])
        | frame :: rest => ({ client with txQueue := rest }, .got frame, [])
  | .got frame =>
      if !client.running then (client, .exited, [])
      else if frame = [] then (client, .top, [])
      else if !client.connected || !client.hasIface then (client, .connecting frame .test, [])
      else (client, .acquire frame, [])
  | .connecting frame phase =>
      match connectStep client locked ok phase with
      | (client, some phase) => (client, .connecting frame phase, [])
      | (client, none) => (client, .afterConnect frame, [])
  | .afterConnect frame =>
      if !client.connected || !client.hasIface then (client, .top, [])
      else (client, .acquire frame, [])
  | .acquire frame =>
      if locked then (client, .acquire frame, [])
      else if !client.hasIface then (client, .ended, [])
      else if ok then (client, .top, [frame])
      else (client, .dropping, [])
  | .dropping =>
      if locked then (client, .dropping, [])
      else ({ client with hasIface := false, connected := false }, .top, [])
  | .exited => (client, .exited, [])
  | .ended => (client, .ended, [])

namespace KISSClient

/-- Everything a TX step can do: keep the configuration, `_running` and the
queue, and keep or drop the frame it holds; take the head of the queue while
holding nothing; or write the frame it holds, a frame that is not empty if the
thread is sound, and hold nothing.  A sound thread stays sound. -/
theorem txLoopStep_cases (client : KISSClient) (locked ok : Bool) (pc : TxPc) :
    let next := client.txLoopStep locked ok pc
    next.1.config = client.config ∧ next.1.running = client.running ∧
      (pc.Sound → next.2.1.Sound) ∧
      ((next.2.2 = [] ∧ next.1.txQueue = client.txQueue ∧
          (next.2.1.held = pc.held ∨ next.2.1.held = none)) ∨
        (next.2.2 = [] ∧ pc.held = none ∧ ∃ frame, client.txQueue = frame :: next.1.txQueue ∧
          next.2.1.held = some frame) ∨
        (next.1.txQueue = client.txQueue ∧ next.2.1.held = none ∧
          ∃ frame, pc.held = some frame ∧ next.2.2 = [frame] ∧ (pc.Sound → frame ≠ []))) := by
  cases pc with
  | top =>
      cases running : client.running
      · simp [txLoopStep, running, TxPc.held, TxPc.Sound]
      · cases queue : client.txQueue with
        | nil => simp [txLoopStep, running, queue, TxPc.held, TxPc.Sound]
        | cons frame rest => simp [txLoopStep, running, queue, TxPc.held, TxPc.Sound]
  | got frame =>
      simp only [txLoopStep]
      split_ifs <;> simp_all [TxPc.held, TxPc.Sound]
  | connecting frame phase =>
      obtain ⟨config, running, queue⟩ := connectStep_fields client locked ok phase
      simp only [txLoopStep]
      split <;> simp_all [TxPc.held, TxPc.Sound]
  | afterConnect frame =>
      simp only [txLoopStep]
      split_ifs <;> simp [TxPc.held, TxPc.Sound]
  | acquire frame =>
      simp only [txLoopStep]
      split_ifs <;> simp [TxPc.held, TxPc.Sound]
  | dropping =>
      simp only [txLoopStep]
      split_ifs <;> simp [TxPc.held, TxPc.Sound]
  | exited => simp [txLoopStep, TxPc.held, TxPc.Sound]
  | ended => simp [txLoopStep, TxPc.held, TxPc.Sound]

/-- A TX step writes, holds and leaves queued no frame it did not hold or
find queued, and keeps their order. -/
theorem txLoopStep_sublist (client : KISSClient) (locked ok : Bool) (pc : TxPc) :
    let next := client.txLoopStep locked ok pc
    (next.2.2 ++ (next.2.1.held.toList ++ next.1.txQueue)).Sublist (pc.held.toList ++ client.txQueue) := by
  obtain ⟨-, -, -, ⟨wrote, queue, kept | dropped⟩ | ⟨wrote, nothing, frame, taken, holds⟩ |
    ⟨queue, nothing, frame, holding, wrote, -⟩⟩ := txLoopStep_cases client locked ok pc
  · simp [wrote, queue, kept]
  · simp only [wrote, queue, dropped, Option.toList, List.nil_append]
    exact List.sublist_append_right _ _
  · simp [wrote, nothing, taken, holds]
  · simp [wrote, nothing, queue, holding]

/-- A sound thread stays sound and writes no empty frame. -/
theorem txLoopStep_sound (client : KISSClient) (locked ok : Bool) {pc : TxPc} (sound : pc.Sound) :
    (client.txLoopStep locked ok pc).2.1.Sound ∧ ∀ frame ∈ (client.txLoopStep locked ok pc).2.2, frame ≠ [] := by
  obtain ⟨-, -, keeps, ⟨wrote, -⟩ | ⟨wrote, -⟩ | ⟨-, -, frame, -, wrote, nonEmpty⟩⟩ :=
    txLoopStep_cases client locked ok pc
  · exact ⟨keeps sound, by simp [wrote]⟩
  · exact ⟨keeps sound, by simp [wrote]⟩
  · exact ⟨keeps sound, by simpa [wrote] using nonEmpty sound⟩

/-- A TX thread takes a frame off the queue only while `_running` is set. -/
theorem running_of_txLoopStep_takes {client : KISSClient} {locked ok : Bool} {pc : TxPc} {frame : Bytes}
    (nothing : pc.held = none) (holds : (client.txLoopStep locked ok pc).2.1.held = some frame) :
    client.running = true := by
  cases pc <;> cases running : client.running <;> cases locked <;>
    simp_all [txLoopStep, TxPc.held]

end KISSClient

/-! ## The client and its threads -/

/-- A client and the threads that act on it: its TX threads, one for each
`start` that found it stopped, oldest first; the frames of callers waiting in
a blocking `put`; and whether the caller of `stop` is past its joins, about to
drop the interface. -/
structure ClientThreads where
  client : KISSClient
  txThreads : List TxPc
  waiting : List Bytes
  stopping : Bool

/-- A step of one thread: `start` or `send` by a caller, a waiting caller's
`put` finding room, the caller of `stop` (clearing `_running`, then after
its joins dropping the interface), a step of the TX thread `thread`, or the
RX thread setting `_connected` and `_kiss_iface`. -/
inductive ClientEvent where
  | start
  | send (frame : Bytes) (block : Bool)
  | put (frame : Bytes)
  | stop
  | tx (thread : Nat) (ok : Bool)
  | rx (connected hasIface : Bool)
  deriving DecidableEq, Repr

/-- The frame an event hands to `send`. -/
def ClientEvent.requested : ClientEvent → List Bytes
  | .send frame _ => [frame]
  | _ => []

/-- What one step did: the new state, the frames it put on the queue, the
frames it wrote to the interface, and what it raised to its caller. -/
structure ClientStep where
  threads : ClientThreads
  enqueued : List Bytes
  written : List Bytes
  raised : Option KISSClientError

/-- What a schedule did: the state it left, and the frames the queue received
and the frames written, in order. -/
structure ClientTrace where
  threads : ClientThreads
  enqueued : List Bytes
  written : List Bytes

namespace ClientThreads

/-- `KISSClient.__init__`: no thread yet. -/
def new (config : KISSConnectionConfig) : ClientThreads := ⟨KISSClient.new config, [], [], false⟩

/-- One step. -/
def step (c : ClientThreads) : ClientEvent → ClientStep
  | .start =>
      if c.client.running then ⟨c, [], [], none⟩
      else ⟨{ c with client := c.client.start, txThreads := c.txThreads ++ [.top] }, [], [], none⟩
  | .send frame block =>
      match c.client.send frame block with
      | none => ⟨{ c with waiting := c.waiting ++ [frame] }, [], [], none⟩
      | some (client, .ok ()) => ⟨{ c with client := client }, [frame], [], none⟩
      | some (client, .error err) => ⟨{ c with client := client }, [], [], some err⟩
  | .put frame =>
      if frame ∈ c.waiting ∧ c.client.txQueueFull = false then
        ⟨{ c with client := c.client.enqueue frame, waiting := c.waiting.erase frame }, [frame], [], none⟩
      else ⟨c, [], [], none⟩
  | .stop =>
      if c.stopping then ⟨{ c with client := c.client.dropIface, stopping := false }, [], [], none⟩
      else if !c.client.running then ⟨c, [], [], none⟩
      else ⟨{ c with client := c.client.stop.1, stopping := true }, c.client.stop.2, [], none⟩
  | .tx thread ok =>
      match c.txThreads[thread]? with
      | none => ⟨c, [], [], none⟩
      | some pc =>
          let next := c.client.txLoopStep false ok pc
          ⟨{ c with client := next.1, txThreads := c.txThreads.set thread next.2.1 }, [], next.2.2, none⟩
  | .rx connected hasIface =>
      ⟨{ c with client := { c.client with connected := connected, hasIface := hasIface } }, [], [], none⟩

/-- A schedule. -/
def run (c : ClientThreads) : List ClientEvent → ClientTrace
  | [] => ⟨c, [], []⟩
  | event :: events =>
      let now := c.step event
      let later := now.threads.run events
      ⟨later.threads, now.enqueued ++ later.enqueued, now.written ++ later.written⟩

/-- The frames handed to `send`, in order. -/
def requested (events : List ClientEvent) : List Bytes := events.flatMap ClientEvent.requested

/-- The frames the TX threads hold. -/
def heldFrames (c : ClientThreads) : List Bytes := c.txThreads.filterMap TxPc.held

/-- The frames the TX threads hold, then the queue. -/
def heldQueue (c : ClientThreads) : List Bytes := c.heldFrames ++ c.client.txQueue

/-- Every frame not yet written or dropped: held, queued, or waiting to be put. -/
def pending (c : ClientThreads) : List Bytes := c.heldQueue ++ c.waiting

/-- Every TX thread is sound. -/
def Sound (c : ClientThreads) : Prop := ∀ pc ∈ c.txThreads, pc.Sound

@[simp] theorem run_nil (c : ClientThreads) : c.run [] = ⟨c, [], []⟩ := rfl

@[simp] theorem run_cons (c : ClientThreads) (event : ClientEvent) (events : List ClientEvent) :
    c.run (event :: events) =
      ⟨((c.step event).threads.run events).threads,
        (c.step event).enqueued ++ ((c.step event).threads.run events).enqueued,
        (c.step event).written ++ ((c.step event).threads.run events).written⟩ := rfl

@[simp] theorem requested_nil : requested [] = [] := rfl

@[simp] theorem requested_cons (event : ClientEvent) (events : List ClientEvent) :
    requested (event :: events) = event.requested ++ requested events := rfl

/-! ## One TX thread among several -/

/-- The threads around the one at `thread`, which a step of it leaves. -/
theorem split_at {threads : List TxPc} {thread : Nat} {pc : TxPc}
    (found : threads[thread]? = some pc) (pc' : TxPc) :
    ∃ pre post, threads = pre ++ pc :: post ∧ threads.set thread pc' = pre ++ pc' :: post := by
  obtain ⟨inside, rfl⟩ := List.getElem?_eq_some_iff.mp found
  refine ⟨threads.take thread, threads.drop (thread + 1), ?_, ?_⟩
  · conv_lhs => rw [← List.take_append_drop thread threads, List.drop_eq_getElem_cons inside]
  · rw [List.set_eq_take_append_cons_drop, if_pos inside]

theorem filterMap_held_cons (pc : TxPc) (threads : List TxPc) :
    (pc :: threads).filterMap TxPc.held = pc.held.toList ++ threads.filterMap TxPc.held := by
  cases held : pc.held <;> simp [List.filterMap_cons, held]

/-- One thread's step among the others: what it writes, holds and leaves
queued, it held or found queued; the frames the others hold stay. -/
theorem subperm_of_split (pre post : List TxPc) {pc pc' : TxPc} {written queue queue' : List Bytes}
    (alone : (written ++ (pc'.held.toList ++ queue')).Sublist (pc.held.toList ++ queue)) :
    (written ++ ((pre ++ pc' :: post).filterMap TxPc.held ++ queue')).Subperm
      ((pre ++ pc :: post).filterMap TxPc.held ++ queue) := by
  simp only [List.filterMap_append, filterMap_held_cons]
  have after : (written ++ (pre.filterMap TxPc.held ++ (pc'.held.toList ++ post.filterMap TxPc.held) ++
      queue')).Perm ((pre.filterMap TxPc.held ++ post.filterMap TxPc.held) ++
        (written ++ (pc'.held.toList ++ queue'))) :=
    List.perm_iff_count.2 fun frame => by simp only [List.count_append]; omega
  have before : (pre.filterMap TxPc.held ++ (pc.held.toList ++ post.filterMap TxPc.held) ++ queue).Perm
      ((pre.filterMap TxPc.held ++ post.filterMap TxPc.held) ++ (pc.held.toList ++ queue)) :=
    List.perm_iff_count.2 fun frame => by simp only [List.count_append]; omega
  exact after.subperm_right.2 (before.subperm_left.2 ((List.subperm_append_left _).2 alone.subperm))

/-! ## What one step does -/

theorem send_cases (client : KISSClient) (frame : Bytes) (block : Bool) :
    client.send frame block = none ∧ client.txQueueFull = true ∨
      (∃ err, client.send frame block = some (client, .error err)) ∨
      client.send frame block = some (client.enqueue frame, .ok ()) ∧ client.txQueueFull = false := by
  unfold KISSClient.send
  cases running : client.running <;> cases full : client.txQueueFull <;> cases block <;>
    simp [running, full]

@[simp] theorem txQueue_dropIface (client : KISSClient) : client.dropIface.txQueue = client.txQueue := by
  unfold KISSClient.dropIface; split <;> rfl

@[simp] theorem config_dropIface (client : KISSClient) : client.dropIface.config = client.config := by
  unfold KISSClient.dropIface; split <;> rfl

@[simp] theorem txQueue_start (client : KISSClient) : client.start.txQueue = client.txQueue := by
  unfold KISSClient.start; split <;> rfl

@[simp] theorem config_start (client : KISSClient) : client.start.config = client.config := by
  unfold KISSClient.start; split <;> rfl

@[simp] theorem txQueue_stop (client : KISSClient) :
    client.stop.1.txQueue = client.txQueue ++ client.stop.2 := rfl

@[simp] theorem config_stop (client : KISSClient) : client.stop.1.config = client.config := rfl

/-- `stop` puts the wake-up frame, and only on a queue with room. -/
theorem stop_wake (client : KISSClient) :
    client.stop.2 = [] ∨ client.stop.2 = [[]] ∧ client.txQueueFull = false := by
  unfold KISSClient.stop
  cases client.txQueueFull <;> simp

@[simp] theorem heldFrames_append_top (c : ClientThreads) (client : KISSClient) :
    heldFrames { c with client := client, txThreads := c.txThreads ++ [.top] } = c.heldFrames := by
  simp [heldFrames, TxPc.held]

/-- A TX step among the others, in the frames held and queued. -/
theorem tx_subperm {c : ClientThreads} {thread : Nat} {pc : TxPc} (found : c.txThreads[thread]? = some pc)
    (ok : Bool) :
    let next := c.client.txLoopStep false ok pc
    (next.2.2 ++ ((c.txThreads.set thread next.2.1).filterMap TxPc.held ++ next.1.txQueue)).Subperm
      c.heldQueue := by
  intro next
  obtain ⟨pre, post, around, setAround⟩ := split_at found next.2.1
  rw [setAround, heldQueue, heldFrames, around]
  exact subperm_of_split pre post (KISSClient.txLoopStep_sublist c.client false ok pc)

@[simp] theorem pending_mk (client : KISSClient) (txThreads : List TxPc) (waiting : List Bytes)
    (stopping : Bool) :
    pending ⟨client, txThreads, waiting, stopping⟩ =
      txThreads.filterMap TxPc.held ++ client.txQueue ++ waiting := rfl

/-- The frames of a step are conserved, less the ones dropped: each frame but
the empty wake-up frame is no more often written or pending after the step
than it was pending, or handed to `send`, before. -/
theorem step_conserves (c : ClientThreads) (event : ClientEvent) {frame : Bytes} (nonEmpty : frame ≠ []) :
    ((c.step event).written ++ (c.step event).threads.pending).count frame ≤
      (c.pending ++ event.requested).count frame := by
  have counted : c.pending.count frame = (c.txThreads.filterMap TxPc.held).count frame +
      (c.client.txQueue.count frame + c.waiting.count frame) := by
    simp [pending, heldQueue, heldFrames, List.count_append]
  cases event with
  | start =>
      by_cases running : c.client.running <;>
        simp [step, running, List.count_append, counted, TxPc.held, ClientEvent.requested]
  | send frame' block =>
      rcases send_cases c.client frame' block with ⟨sent, -⟩ | ⟨err, sent⟩ | ⟨sent, -⟩ <;>
        simp only [step, sent] <;> by_cases same : frame' = frame <;>
        simp [List.count_append, List.count_cons, counted, ClientEvent.requested, same] <;> omega
  | put frame' =>
      by_cases room : frame' ∈ c.waiting ∧ c.client.txQueueFull = false
      · have present := List.count_pos_iff.mpr room.1
        simp only [step, if_pos room, pending_mk, KISSClient.txQueue_enqueue]
        by_cases same : frame' = frame
        · subst same
          simp [List.count_append, List.count_erase, counted, ClientEvent.requested]
          omega
        · simp [List.count_append, List.count_erase, List.count_cons, counted, ClientEvent.requested, same]
      · simp [step, room, ClientEvent.requested]
  | stop =>
      by_cases stopping : c.stopping
      · simp [step, stopping, List.count_append, counted, ClientEvent.requested]
      · by_cases running : c.client.running
        · rcases stop_wake c.client with wake | ⟨wake, -⟩ <;>
            simp [step, stopping, running, List.count_append, List.count_cons, counted,
              ClientEvent.requested, wake, nonEmpty]
        · simp [step, stopping, running, ClientEvent.requested]
  | tx thread ok =>
      cases found : c.txThreads[thread]? with
      | none => simp [step, found, ClientEvent.requested]
      | some pc =>
          have moved : ((c.client.txLoopStep false ok pc).2.2 ++
              ((c.txThreads.set thread (c.client.txLoopStep false ok pc).2.1).filterMap TxPc.held ++
                (c.client.txLoopStep false ok pc).1.txQueue)).count frame ≤ c.heldQueue.count frame :=
            (tx_subperm found ok).countP_le (· == frame)
          simp only [heldQueue, heldFrames, List.count_append] at moved
          simp [step, found, List.count_append, counted, ClientEvent.requested]
          omega
  | rx connected hasIface => simp [step, List.count_append, counted, ClientEvent.requested]

/-- With at most one TX thread a step keeps the order: what it writes, and
leaves held and queued, comes in order from what was held and queued and what
it put on the queue. -/
theorem step_ordered {c : ClientThreads} (single : c.txThreads.length ≤ 1) (event : ClientEvent) :
    ((c.step event).written ++ (c.step event).threads.heldQueue).Sublist
      (c.heldQueue ++ (c.step event).enqueued) := by
  cases event with
  | start => by_cases running : c.client.running <;> simp [step, running, heldQueue]
  | send frame block =>
      rcases send_cases c.client frame block with ⟨sent, -⟩ | ⟨err, sent⟩ | ⟨sent, -⟩ <;>
        simp [step, sent, heldQueue, heldFrames]
  | put frame =>
      by_cases room : frame ∈ c.waiting ∧ c.client.txQueueFull = false
      · simp [step, if_pos room, heldQueue, heldFrames]
      · simp [step, room]
  | stop =>
      by_cases stopping : c.stopping
      · simp [step, stopping, heldQueue, heldFrames]
      · by_cases running : c.client.running <;> simp [step, stopping, running, heldQueue, heldFrames]
  | tx thread ok =>
      cases found : c.txThreads[thread]? with
      | none => simp [step, found]
      | some pc =>
          obtain ⟨pre, post, around, setAround⟩ := split_at found (c.client.txLoopStep false ok pc).2.1
          obtain ⟨rfl, rfl⟩ : pre = [] ∧ post = [] := by
            have := congrArg List.length around
            simp only [List.length_append, List.length_cons] at this
            exact ⟨List.eq_nil_of_length_eq_zero (by omega), List.eq_nil_of_length_eq_zero (by omega)⟩
          simp only [step, found, setAround, heldQueue, heldFrames]
          rw [around]
          simpa [filterMap_held_cons] using KISSClient.txLoopStep_sublist c.client false ok pc
  | rx connected hasIface => simp [step, heldQueue, heldFrames]

/-- Only `start` adds a TX thread, one at most. -/
theorem length_step (c : ClientThreads) (event : ClientEvent) :
    (c.step event).threads.txThreads.length ≤ c.txThreads.length + [event].count .start := by
  cases event with
  | start => by_cases running : c.client.running <;> simp [step, running]
  | send frame block =>
      rcases send_cases c.client frame block with ⟨sent, -⟩ | ⟨err, sent⟩ | ⟨sent, -⟩ <;> simp [step, sent]
  | put frame => by_cases room : frame ∈ c.waiting ∧ c.client.txQueueFull = false <;> simp [step, room]
  | stop =>
      by_cases stopping : c.stopping
      · simp [step, stopping]
      · by_cases running : c.client.running <;> simp [step, stopping, running]
  | tx thread ok => cases found : c.txThreads[thread]? <;> simp [step, found]
  | rx connected hasIface => simp [step]

/-- A sound client stays sound, and writes no empty frame. -/
theorem Sound.step {c : ClientThreads} (sound : c.Sound) (event : ClientEvent) :
    (c.step event).threads.Sound ∧ ∀ frame ∈ (c.step event).written, frame ≠ [] := by
  cases event with
  | start =>
      by_cases running : c.client.running
      · exact ⟨by simpa [ClientThreads.step, running] using sound, by simp [ClientThreads.step, running]⟩
      · refine ⟨fun pc member => ?_, by simp [ClientThreads.step, running]⟩
        simp only [ClientThreads.step, running, Bool.false_eq_true, if_false, List.mem_append, List.mem_singleton] at member
        rcases member with old | rfl
        · exact sound pc old
        · trivial
  | send frame block =>
      rcases send_cases c.client frame block with ⟨sent, -⟩ | ⟨err, sent⟩ | ⟨sent, -⟩ <;>
        simpa [ClientThreads.step, sent] using sound
  | put frame =>
      by_cases room : frame ∈ c.waiting ∧ c.client.txQueueFull = false <;> simpa [ClientThreads.step, room] using sound
  | stop =>
      by_cases stopping : c.stopping
      · simpa [ClientThreads.step, stopping] using sound
      · by_cases running : c.client.running <;> simpa [ClientThreads.step, stopping, running] using sound
  | tx thread ok =>
      cases found : c.txThreads[thread]? with
      | none => simpa [ClientThreads.step, found] using sound
      | some pc =>
          obtain ⟨keeps, nonEmpty⟩ :=
            KISSClient.txLoopStep_sound c.client false ok (sound pc (List.getElem?_mem found))
          refine ⟨fun pc' member => ?_, by simpa [ClientThreads.step, found] using nonEmpty⟩
          simp only [ClientThreads.step, found] at member
          rcases List.mem_or_eq_of_mem_set member with old | rfl
          · exact sound pc' old
          · exact keeps
  | rx connected hasIface => exact ⟨by simpa [ClientThreads.step] using sound, by simp [ClientThreads.step]⟩

end ClientThreads

/-! ## The queue's bound -/

namespace KISSClient

/-- The bound of `queue.Queue(maxsize=tx_queue_size)`: a positive size is
never exceeded. -/
def Bounded (client : KISSClient) : Prop :=
  client.config.txQueueSize = 0 ∨ client.txQueue.length ≤ client.config.txQueueSize

theorem txQueueFull_eq_false {client : KISSClient} :
    client.txQueueFull = false ↔
      client.config.txQueueSize = 0 ∨ client.txQueue.length < client.config.txQueueSize := by
  simp only [txQueueFull, Bool.and_eq_false_iff, decide_eq_false_iff_not, Nat.not_lt, Nat.le_zero,
    Nat.not_le]

/-- An empty queue has room. -/
theorem txQueueFull_of_nil {client : KISSClient} (empty : client.txQueue = []) :
    client.txQueueFull = false := by
  rw [txQueueFull_eq_false, empty, List.length_nil]
  omega

/-- A put that found room keeps the queue within its bound. -/
theorem bounded_enqueue {client : KISSClient} (room : client.txQueueFull = false) (frame : Bytes) :
    (client.enqueue frame).Bounded := by
  rcases txQueueFull_eq_false.1 room with unbounded | below
  · exact .inl unbounded
  · exact .inr (by simp only [config_enqueue, txQueue_enqueue, List.length_append, List.length_singleton]; omega)

/-- A client with the same bound and a queue no longer is within its bound. -/
theorem Bounded.mono {client client' : KISSClient} (bounded : client.Bounded)
    (config : client'.config = client.config) (shorter : client'.txQueue.length ≤ client.txQueue.length) :
    client'.Bounded := by
  unfold Bounded at bounded ⊢
  rw [config]
  omega

end KISSClient

namespace ClientThreads

theorem Bounded.step {c : ClientThreads} (bounded : c.client.Bounded) (event : ClientEvent) :
    (c.step event).threads.client.Bounded := by
  cases event with
  | start =>
      by_cases running : c.client.running
      · simpa [ClientThreads.step, running] using bounded
      · simpa [ClientThreads.step, running] using bounded.mono (config_start c.client) (by simp)
  | send frame block =>
      rcases send_cases c.client frame block with ⟨sent, -⟩ | ⟨err, sent⟩ | ⟨sent, room⟩
      · simpa [ClientThreads.step, sent] using bounded
      · simpa [ClientThreads.step, sent] using bounded
      · simpa [ClientThreads.step, sent] using KISSClient.bounded_enqueue room frame
  | put frame =>
      by_cases room : frame ∈ c.waiting ∧ c.client.txQueueFull = false
      · simpa [ClientThreads.step, if_pos room] using KISSClient.bounded_enqueue room.2 frame
      · simpa [ClientThreads.step, room] using bounded
  | stop =>
      by_cases stopping : c.stopping
      · simpa [ClientThreads.step, stopping] using
          bounded.mono (config_dropIface c.client) (by simp)
      · by_cases running : c.client.running
        · rcases stop_wake c.client with none | ⟨wake, room⟩
          · simpa [ClientThreads.step, stopping, running] using
              bounded.mono (config_stop c.client) (by simp [none])
          · simpa [ClientThreads.step, stopping, running, KISSClient.Bounded, wake] using
              KISSClient.bounded_enqueue room []
        · simpa [ClientThreads.step, stopping, running] using bounded
  | tx thread ok =>
      cases found : c.txThreads[thread]? with
      | none => simpa [ClientThreads.step, found] using bounded
      | some pc =>
          obtain ⟨config, -, -, ⟨-, queue, -⟩ | ⟨-, -, frame, taken, -⟩ | ⟨queue, -⟩⟩ :=
            KISSClient.txLoopStep_cases c.client false ok pc
          all_goals simp only [ClientThreads.step, found]
          · exact bounded.mono config (by rw [queue])
          · exact bounded.mono config (by rw [taken, List.length_cons]; omega)
          · exact bounded.mono config (by rw [queue])
  | rx connected hasIface => simpa [ClientThreads.step] using bounded

/-! ## Runs -/

theorem run_conserves (c : ClientThreads) (events : List ClientEvent) {frame : Bytes} (nonEmpty : frame ≠ []) :
    ((c.run events).written ++ (c.run events).threads.pending).count frame ≤
      (c.pending ++ requested events).count frame := by
  induction events generalizing c with
  | nil => simp
  | cons event events ih =>
      have now := step_conserves c event nonEmpty
      have later := ih (c.step event).threads
      simp only [run_cons, requested_cons, List.count_append] at now later ⊢
      omega

theorem Sound.run {c : ClientThreads} (sound : c.Sound) (events : List ClientEvent) :
    (c.run events).threads.Sound ∧ ∀ frame ∈ (c.run events).written, frame ≠ [] := by
  induction events generalizing c with
  | nil => exact ⟨sound, by simp⟩
  | cons event events ih =>
      obtain ⟨stillSound, nonEmpty⟩ := sound.step event
      obtain ⟨laterSound, laterNonEmpty⟩ := ih stillSound
      refine ⟨laterSound, fun frame member => ?_⟩
      rcases List.mem_append.1 member with now | later
      · exact nonEmpty frame now
      · exact laterNonEmpty frame later

theorem Bounded.run {c : ClientThreads} (bounded : c.client.Bounded) (events : List ClientEvent) :
    (c.run events).threads.client.Bounded := by
  induction events generalizing c with
  | nil => exact bounded
  | cons event events ih => exact ih (Bounded.step bounded event)

/-- While the schedule starts no second TX thread, the frames are written in
order. -/
theorem run_ordered {c : ClientThreads} {events : List ClientEvent}
    (single : c.txThreads.length + events.count .start ≤ 1) :
    ((c.run events).written ++ (c.run events).threads.heldQueue).Sublist
      (c.heldQueue ++ (c.run events).enqueued) := by
  induction events generalizing c with
  | nil => simp
  | cons event events ih =>
      have counts : (event :: events).count .start = [event].count .start + events.count .start :=
        List.count_append ClientEvent.start [event] events
      have grown := length_step c event
      have now := (@step_ordered c (by omega) event).append_right ((c.step event).threads.run events).enqueued
      have later := (@ih (c.step event).threads (by omega)).append_left (c.step event).written
      simp only [run_cons, List.append_assoc] at now later ⊢
      exact later.trans now

end ClientThreads

namespace KISSClient

/-- From `__init__`, whatever the calls, the threads and the radio do: no empty
frame is written, each frame is written at most as often as it was handed to
`send`, and the queue never holds more than a positive `tx_queue_size`.  While
`start` has been called at most once, the frames are written in the order the
queue received them, each at most once. -/
theorem run_new (config : KISSConnectionConfig) (events : List ClientEvent) :
    let trace := (ClientThreads.new config).run events
    (∀ frame ∈ trace.written, frame ≠ []) ∧
      (∀ frame, frame ≠ [] → trace.written.count frame ≤ (ClientThreads.requested events).count frame) ∧
      trace.threads.client.Bounded ∧
      (events.count .start ≤ 1 → trace.written.Sublist trace.enqueued) := by
  dsimp only
  have sound : (ClientThreads.new config).Sound := fun _ member => by cases member
  refine ⟨(sound.run events).2, fun frame nonEmpty => ?_,
    ClientThreads.Bounded.run (.inr (Nat.zero_le _)) events, fun once => ?_⟩
  · have conserved := ClientThreads.run_conserves (ClientThreads.new config) events nonEmpty
    rw [show (ClientThreads.new config).pending = [] from rfl, List.nil_append, List.count_append] at conserved
    omega
  · have ordered := @ClientThreads.run_ordered (ClientThreads.new config) events
      (by simpa [ClientThreads.new] using once)
    rw [show (ClientThreads.new config).heldQueue = [] from rfl, List.nil_append] at ordered
    exact (List.sublist_append_left _ _).trans ordered

end KISSClient

end ArdopMeshChat
