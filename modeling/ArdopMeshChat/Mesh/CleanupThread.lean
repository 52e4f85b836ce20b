import ArdopMeshChat.Mesh.Run
import ArdopMeshChat.Python.DictIter

/-!
# The cleanup thread against the RX thread

`_cleanup_loop` and `_on_kiss_frame` run in two threads over the same three
dicts.  This module models the sweep at the grain at which the interpreter may
switch threads in it: one `next()` of a comprehension, one `del` of the route
deletions, and the dedup deletions as one step, since they hold
`_data_seen_lock`, which the RX thread takes to stamp a key.  A frame's dict
writes are one step.

* `Tables.Represents` says the dicts hold the node model's tables, and
  `Tables.Represents.onKissFrame` that the RX thread's writes are those of
  `MeshNode.onKissFrame`.
* `World.pass_alone`: a pass with no frame during it is `MeshNode.cleanup`,
  so every serial schedule refines the node model's run
  (`World.run_refines`).
* Over every schedule the dedup deletions remove only keys whose stamp is
  expired at the pass's `now` (`World.dataSeen_evicted_expired`): the lock
  keeps that part right.
* The comprehensions hold no lock.  A frame that adds a key to the dict a
  comprehension iterates, an OGM from a new originator or a DATA frame with a
  fresh key, makes its next iteration raise `RuntimeError`, which ends the
  cleanup thread: from then on no key of the three dicts is ever deleted
  (`World.originator_race_ends_expiry`, `World.dataSeen_race_ends_expiry`).
* The route deletions hold no lock either.  A newer OGM that refreshes a stale
  originator after the comprehension collected it loses the refresh: the
  deletion removes the route, which neither serial order of the two calls
  does (`World.sweep_loses_route_refresh`).
-/

namespace ArdopMeshChat

variable (zlib : Zlib)

/-! ## The dicts and the RX thread's writes -/

/-- The three dicts `_cleanup_loop` sweeps, as the code holds them. -/
structure Tables where
  originators : PyDict Bytes OriginatorEntry
  neighbors : PyDict Bytes NeighborEntry
  dataSeen : PyDict DataKey Time

namespace Tables

/-- The dicts hold the node model's tables. -/
structure Represents (t : Tables) (node : MeshNode) : Prop where
  originators : node.routingState.originators = t.originators.lookup
  neighbors : node.routingState.neighbors = t.neighbors.lookup
  dataSeen : node.dataSeen = t.dataSeen.lookup

/-- The dict writes of `_handle_ogm`: the neighbor entry is updated in place
or added; the originator entry is added, or updated in place on a strictly
greater seqno. -/
def handleOgm (t : Tables) (now : Time) (originId : Bytes) (seqno : Nat) (prevHopId : Bytes)
    (linkMetric : Nat) : Tables :=
  { t with
    neighbors := t.neighbors.set prevHopId ⟨now, linkMetric⟩
    originators :=
      match t.originators.lookup originId with
      | none => t.originators.set originId ⟨prevHopId, seqno, linkMetric, now⟩
      | some entry =>
          if seqno > entry.lastSeqno then
            t.originators.set originId ⟨prevHopId, seqno, linkMetric, now⟩
          else t.originators }

/-- The dict write of `_handle_data_frame`, under `_data_seen_lock`. -/
def handleDataFrame (t : Tables) (now : Time) (originId : Bytes) (seqno : Nat) : Tables :=
  match t.dataSeen.lookup (originId, seqno) with
  | some _ => t
  | none => { t with dataSeen := t.dataSeen.set (originId, seqno) now }

/-- The dict writes of `_on_kiss_frame`. -/
def onKissFrame (t : Tables) (now : Time) (frame : Bytes) : Tables :=
  match classifyFrame frame with
  | .ogm header prevHop linkMetric =>
      t.handleOgm now header.originId header.seqno prevHop linkMetric
  | .data header _ => t.handleDataFrame now header.originId header.seqno
  | _ => t

/-- The RX thread's dict writes are the node model's frame step. -/
theorem Represents.onKissFrame {t : Tables} {node : MeshNode} (h : t.Represents node)
    (now : Time) (frame : Bytes) :
    (t.onKissFrame now frame).Represents (node.onKissFrame zlib now frame).node := by
  rw [MeshNode.node_onKissFrame, Tables.onKissFrame]
  cases classifyFrame frame with
  | drop => exact h
  | fault err => exact h
  | ogm header prevHop linkMetric =>
      refine ⟨?_, by simp [handleOgm, PyDict.lookup_set, h.neighbors], by simp [handleOgm, h.dataSeen]⟩
      simp only [MeshNode.updateOriginator, MeshNode.originators_refreshNeighbor, handleOgm]
      rw [h.originators]
      cases t.originators.lookup header.originId with
      | none => simp [PyDict.lookup_set, h.originators]
      | some entry =>
          by_cases greater : header.seqno > entry.lastSeqno <;>
            simp [greater, PyDict.lookup_set, h.originators]
  | data header body =>
      simp only [handleDataFrame]
      rw [h.dataSeen]
      cases t.dataSeen.lookup (header.originId, header.seqno) with
      | some _ => exact h
      | none => exact ⟨h.originators, h.neighbors, by simp [PyDict.lookup_set, h.dataSeen]⟩

/-- A frame never takes a key out of the dedup dict, nor restamps it. -/
theorem lookup_dataSeen_onKissFrame {t : Tables} {key : DataKey} {ts : Time}
    (present : t.dataSeen.lookup key = some ts) (now : Time) (frame : Bytes) :
    (t.onKissFrame now frame).dataSeen.lookup key = some ts := by
  unfold onKissFrame
  cases classifyFrame frame with
  | data header body =>
      dsimp only [handleDataFrame]
      cases fresh : t.dataSeen.lookup (header.originId, header.seqno) with
      | some _ => exact present
      | none =>
          have other : key ≠ (header.originId, header.seqno) := fun same => by
            simp [same, fresh] at present
          simpa [PyDict.lookup_set, Function.update_noteq other] using present
  | _ => exact present

/-- Every key of `t`'s dicts is a key of `t'`'s. -/
structure Keeps (t t' : Tables) : Prop where
  originators : ∀ key, (t.originators.lookup key).isSome → (t'.originators.lookup key).isSome
  neighbors : ∀ key, (t.neighbors.lookup key).isSome → (t'.neighbors.lookup key).isSome
  dataSeen : ∀ key, (t.dataSeen.lookup key).isSome → (t'.dataSeen.lookup key).isSome

theorem Keeps.refl (t : Tables) : t.Keeps t :=
  ⟨fun _ => id, fun _ => id, fun _ => id⟩

theorem Keeps.trans {t t' t'' : Tables} (first : t.Keeps t') (second : t'.Keeps t'') : t.Keeps t'' :=
  ⟨fun key => second.originators key ∘ first.originators key,
    fun key => second.neighbors key ∘ first.neighbors key,
    fun key => second.dataSeen key ∘ first.dataSeen key⟩

/-- The RX thread's writes never remove a key. -/
theorem keeps_onKissFrame (t : Tables) (now : Time) (frame : Bytes) :
    t.Keeps (t.onKissFrame now frame) := by
  unfold onKissFrame
  cases classifyFrame frame with
  | ogm header prevHop linkMetric =>
      refine ⟨fun key present => ?_, fun key => PyDict.isSome_lookup_set _ _ _, fun _ => id⟩
      simp only [handleOgm]
      split
      · exact PyDict.isSome_lookup_set _ _ _ present
      · split
        · exact PyDict.isSome_lookup_set _ _ _ present
        · exact present
  | data header body =>
      dsimp only [handleDataFrame]
      split
      · exact Keeps.refl t
      · exact ⟨fun _ => id, fun _ => id, fun key => PyDict.isSome_lookup_set _ _ _⟩
  | _ => exact Keeps.refl t

end Tables

/-! ## The cleanup thread -/

/-- Where the cleanup thread is: in one of the three comprehensions, in one of
the deletion loops, asleep between passes, or ended by an exception. -/
inductive CleanupPc where
  | collectOriginators (state : PyDict.Collecting Bytes)
  | deleteOriginators (keys : List Bytes)
  | collectNeighbors (state : PyDict.Collecting Bytes)
  | deleteNeighbors (keys : List Bytes)
  | collectDataSeen (state : PyDict.Collecting DataKey)
  | deleteDataSeen (keys : List DataKey)
  | idle
  | raised (err : PyError)

namespace CleanupPc

/-- Where one `next()` of a comprehension leads: the comprehension part way,
its list, or the exception. -/
def afterNext {κ : Type} (next : Except PyError (PyDict.Collecting κ ⊕ List κ))
    (collecting : PyDict.Collecting κ → CleanupPc) (collected : List κ → CleanupPc) : CleanupPc :=
  match next with
  | .error err => .raised err
  | .ok (.inl state) => collecting state
  | .ok (.inr keys) => collected keys

/-- The dedup keys the thread has kept in its comprehension or is about to
delete. -/
def pendingData : CleanupPc → List DataKey
  | .collectDataSeen state => state.kept
  | .deleteDataSeen keys => keys
  | _ => []

end CleanupPc

/-- Where one `del` of a deletion loop leads: the dicts with the key deleted,
or the exception. -/
def Tables.afterDel {κ α : Type} [DecidableEq κ] (t : Tables) (deleted : Except PyError (PyDict κ α))
    (store : PyDict κ α → Tables) (next : CleanupPc) : Tables × CleanupPc :=
  match deleted with
  | .error err => (t, .raised err)
  | .ok d => (store d, next)

/-- One step of a pass of `_cleanup_loop` begun at `now`: one `next()` of a
comprehension, one `del` of the route deletions, or the dedup deletions,
which hold `_data_seen_lock`. -/
def cleanupStep (routing : MeshRoutingConfig) (now : Time) (t : Tables) :
    CleanupPc → Tables × CleanupPc
  | .collectOriginators state =>
      (t, .afterNext (t.originators.collectStep
        (fun entry => MeshNode.expired now entry.lastSeen routing.routeExpirySeconds) state)
        .collectOriginators .deleteOriginators)
  | .deleteOriginators [] => (t, .collectNeighbors t.neighbors.collecting)
  | .deleteOriginators (key :: keys) =>
      t.afterDel (t.originators.delItem key) (fun d => { t with originators := d })
        (.deleteOriginators keys)
  | .collectNeighbors state =>
      (t, .afterNext (t.neighbors.collectStep
        (fun entry => MeshNode.expired now entry.lastSeen routing.neighborExpirySeconds) state)
        .collectNeighbors .deleteNeighbors)
  | .deleteNeighbors [] => (t, .collectDataSeen t.dataSeen.collecting)
  | .deleteNeighbors (key :: keys) =>
      t.afterDel (t.neighbors.delItem key) (fun d => { t with neighbors := d })
        (.deleteNeighbors keys)
  | .collectDataSeen state =>
      (t, .afterNext (t.dataSeen.collectStep
        (fun ts => MeshNode.expired now ts routing.dataSeenExpirySeconds) state)
        .collectDataSeen .deleteDataSeen)
  | .deleteDataSeen keys =>
      t.afterDel (keys.foldlM PyDict.delItem t.dataSeen) (fun d => { t with dataSeen := d }) .idle
  | .idle => (t, .idle)
  | .raised err => (t, .raised err)

/-- The dicts, the `now` of the cleanup thread's pass, and where that thread is. -/
structure World where
  tables : Tables
  now : Time
  pc : CleanupPc

/-- What happens next: the RX thread handles a frame, the cleanup thread wakes
for a pass, or it takes one step of its pass. -/
inductive Event where
  | frame (now : Time) (frame : Bytes)
  | wake (now : Time)
  | cleanup

namespace World

variable (routing : MeshRoutingConfig)

/-- The world after one event.  Waking starts a pass only in a thread that is
asleep; a thread that raised stays ended. -/
def step (w : World) : Event → World
  | .frame now frame => { w with tables := w.tables.onKissFrame now frame }
  | .wake now =>
      match w.pc with
      | .idle => ⟨w.tables, now, .collectOriginators w.tables.originators.collecting⟩
      | _ => w
  | .cleanup =>
      let next := cleanupStep routing w.now w.tables w.pc
      ⟨next.1, w.now, next.2⟩

/-- The world after a schedule. -/
def run (w : World) (events : List Event) : World :=
  events.foldl (step routing) w

@[simp] theorem run_nil (w : World) : w.run routing [] = w := rfl

@[simp] theorem run_cons (w : World) (event : Event) (events : List Event) :
    w.run routing (event :: events) = (w.step routing event).run routing events := rfl

@[simp] theorem run_append (w : World) (events events' : List Event) :
    w.run routing (events ++ events') = (w.run routing events).run routing events' :=
  List.foldl_append _ _ _ _

/-- Splitting a stretch of the cleanup thread's steps. -/
theorem run_replicate_add (w : World) (steps steps' : Nat) :
    w.run routing (List.replicate (steps + steps') .cleanup) =
      (w.run routing (List.replicate steps .cleanup)).run routing (List.replicate steps' .cleanup) := by
  rw [List.replicate_add, run_append]

/-! ## A pass left alone -/

variable (now : Time)

/-- Left alone, the thread's steps in a comprehension are the comprehension's
iterations. -/
theorem run_collect {κ α : Type} [DecidableEq κ] (t : Tables) (d : PyDict κ α) (dead : α → Bool)
    (collecting : PyDict.Collecting κ → CleanupPc) (collected : List κ → CleanupPc)
    (stepAt : ∀ state, cleanupStep routing now t (collecting state) =
      (t, .afterNext (d.collectStep dead state) collecting collected))
    {steps : Nat} {state state' : PyDict.Collecting κ}
    (ran : d.collectSteps dead steps state = .ok (.inl state')) :
    World.run routing ⟨t, now, collecting state⟩ (List.replicate steps .cleanup) =
      ⟨t, now, collecting state'⟩ := by
  induction steps generalizing state with
  | zero => cases ran; rfl
  | succ steps ih =>
      rw [PyDict.collectSteps] at ran
      obtain ⟨next, first, continued⟩ := bind_eq_ok ran
      cases next with
      | inl state₁ =>
          rw [List.replicate_succ, run_cons]
          simp only [step, stepAt, first, CleanupPc.afterNext]
          exact ih continued
      | inr kept => cases continued

/-- Left alone, a comprehension ends after one `next()` per item and one more,
and the thread goes on to delete the keys it kept. -/
theorem run_collectAll {κ α : Type} [DecidableEq κ] (t : Tables) (d : PyDict κ α) (dead : α → Bool)
    (collecting : PyDict.Collecting κ → CleanupPc) (collected : List κ → CleanupPc)
    (stepAt : ∀ state, cleanupStep routing now t (collecting state) =
      (t, .afterNext (d.collectStep dead state) collecting collected)) :
    World.run routing ⟨t, now, collecting d.collecting⟩ (List.replicate (d.items.length + 1) .cleanup) =
      ⟨t, now, collected (PyDict.keysWhere dead d.items)⟩ := by
  rw [List.replicate_succ', run_append,
    run_collect routing now t d dead collecting collected stepAt (d.collectSteps_collecting dead le_rfl)]
  simp only [run_cons, run_nil, step, stepAt, PyDict.collectStep_of_exhausted, CleanupPc.afterNext,
    List.take_length]

/-- Left alone, a route deletion loop deletes its keys one `del` a step. -/
theorem run_delete {κ α : Type} [DecidableEq κ] [ToString κ] (get : Tables → PyDict κ α)
    (put : Tables → PyDict κ α → Tables) (deleting : List κ → CleanupPc)
    (stepAt : ∀ t key keys, cleanupStep routing now t (deleting (key :: keys)) =
      t.afterDel ((get t).delItem key) (put t) (deleting keys))
    (get_put : ∀ t d, get (put t d) = d) (put_put : ∀ t d d', put (put t d) d' = put t d')
    (put_get : ∀ t, put t (get t) = t) {keys : List κ} {t : Tables} {swept : PyDict κ α}
    (deleted : keys.foldlM PyDict.delItem (get t) = .ok swept) :
    World.run routing ⟨t, now, deleting keys⟩ (List.replicate keys.length .cleanup) =
      ⟨put t swept, now, deleting []⟩ := by
  induction keys generalizing t with
  | nil =>
      cases deleted
      rw [put_get]
      rfl
  | cons key keys ih =>
      rw [List.foldlM_cons] at deleted
      obtain ⟨d, first, continued⟩ := bind_eq_ok deleted
      rw [List.length_cons, List.replicate_succ, run_cons]
      simp only [step, stepAt, first, Tables.afterDel]
      rw [ih (by rwa [get_put]), put_put]

/-- Left alone, a route phase collects its dict's expired keys and deletes
them: the dict keeps exactly its live entries. -/
theorem run_routePhase {α : Type} (t : Tables) (get : Tables → PyDict Bytes α)
    (put : Tables → PyDict Bytes α → Tables) (dead : α → Bool)
    (collecting : PyDict.Collecting Bytes → CleanupPc) (deleting : List Bytes → CleanupPc)
    (collectAt : ∀ state, cleanupStep routing now t (collecting state) =
      (t, .afterNext ((get t).collectStep dead state) collecting deleting))
    (deleteAt : ∀ t key keys, cleanupStep routing now t (deleting (key :: keys)) =
      t.afterDel ((get t).delItem key) (put t) (deleting keys))
    (get_put : ∀ t d, get (put t d) = d) (put_put : ∀ t d d', put (put t d) d' = put t d')
    (put_get : ∀ t, put t (get t) = t) :
    ∃ steps swept, World.run routing ⟨t, now, collecting (get t).collecting⟩
        (List.replicate steps .cleanup) = ⟨put t swept, now, deleting []⟩ ∧
      ∀ key, swept.lookup key = ((get t).lookup key).filter fun value => !dead value := by
  obtain ⟨swept, -, deleted, looked⟩ := (get t).sweep_lookup dead
  refine ⟨(get t).items.length + 1 + (PyDict.keysWhere dead (get t).items).length, swept, ?_,
    looked⟩
  rw [run_replicate_add, run_collectAll routing now t (get t) dead collecting deleting collectAt,
    run_delete routing now get put deleting deleteAt get_put put_put put_get deleted]

/-- Left alone, the two route phases sweep the route dicts and bring the thread
to the dedup comprehension, the dedup dict untouched. -/
theorem run_routePhases (t : Tables) (before : Time) :
    ∃ steps originators neighbors, World.run routing ⟨t, before, .idle⟩
        (.wake now :: List.replicate steps .cleanup) =
        ⟨{ t with originators := originators, neighbors := neighbors }, now,
          .collectDataSeen t.dataSeen.collecting⟩ ∧
      (∀ key, originators.lookup key = (t.originators.lookup key).filter fun entry =>
        !MeshNode.expired now entry.lastSeen routing.routeExpirySeconds) ∧
      ∀ key, neighbors.lookup key = (t.neighbors.lookup key).filter fun entry =>
        !MeshNode.expired now entry.lastSeen routing.neighborExpirySeconds := by
  obtain ⟨steps₁, swept₁, originators, looked₁⟩ := run_routePhase routing now t
    Tables.originators (fun t d => { t with originators := d })
    (fun entry => MeshNode.expired now entry.lastSeen routing.routeExpirySeconds)
    .collectOriginators .deleteOriginators (fun _ => rfl) (fun _ _ _ => rfl) (fun _ _ => rfl)
    (fun _ _ _ => rfl) (fun _ => rfl)
  obtain ⟨steps₂, swept₂, neighbors, looked₂⟩ := run_routePhase routing now
    { t with originators := swept₁ } Tables.neighbors (fun t d => { t with neighbors := d })
    (fun entry => MeshNode.expired now entry.lastSeen routing.neighborExpirySeconds)
    .collectNeighbors .deleteNeighbors (fun _ => rfl) (fun _ _ _ => rfl) (fun _ _ => rfl)
    (fun _ _ _ => rfl) (fun _ => rfl)
  refine ⟨steps₁ + 1 + steps₂ + 1, swept₁, swept₂, ?_, looked₁, looked₂⟩
  rw [run_cons]
  show World.run _ ⟨t, now, .collectOriginators t.originators.collecting⟩ _ = _
  simp only [run_replicate_add, List.replicate_one, run_cons, run_nil] at originators neighbors ⊢
  rw [originators]
  simp only [step, cleanupStep] at neighbors ⊢
  rw [neighbors]

/-- A pass with no frame during it is the node model's `cleanup`. -/
theorem pass_alone {t : Tables} {node : MeshNode} (h : t.Represents node) (before : Time) :
    ∃ steps t', World.run node.config.routingConfig ⟨t, before, .idle⟩
        (.wake now :: List.replicate steps .cleanup) = ⟨t', now, .idle⟩ ∧
      t'.Represents (node.cleanup now) := by
  obtain ⟨steps, swept₁, swept₂, routed, looked₁, looked₂⟩ :=
    run_routePhases node.config.routingConfig now t before
  obtain ⟨swept₃, -, deleted, looked₃⟩ := t.dataSeen.sweep_lookup
    fun ts => MeshNode.expired now ts node.config.routingConfig.dataSeenExpirySeconds
  have collected := run_collectAll node.config.routingConfig now
    { t with originators := swept₁, neighbors := swept₂ } t.dataSeen _ .collectDataSeen .deleteDataSeen
    fun _ => rfl
  refine ⟨steps + (t.dataSeen.items.length + 1) + 1, ⟨swept₁, swept₂, swept₃⟩, ?_, ?_⟩
  · rw [List.replicate_add, List.replicate_add, ← List.cons_append, ← List.cons_append, run_append,
      run_append, routed, collected]
    simp only [List.replicate_one, run_cons, run_nil, step, cleanupStep, deleted, Tables.afterDel]
  · refine ⟨funext fun key => ?_, funext fun key => ?_, funext fun key => ?_⟩
    · show _ = swept₁.lookup key
      rw [looked₁, ← h.originators]
      rfl
    · show _ = swept₂.lookup key
      rw [looked₂, ← h.neighbors]
      rfl
    · show _ = swept₃.lookup key
      rw [looked₃, ← h.dataSeen]
      rfl

/-! ## Serial schedules -/

/-- A schedule that runs the node model's events one at a time from `w`, with
the cleanup thread asleep between them: a frame's writes as one step, and a
sweep as a wake that starts a pass and the steps of that whole pass, with no
frame during it, after which the thread is asleep again. -/
inductive Serial : World → List NodeEvent → List Event → Prop where
  | nil {w : World} (asleep : w.pc = .idle) : Serial w [] []
  | frame {w : World} {events : List NodeEvent} {schedule : List Event} (now : Time) (frame : Bytes)
      (asleep : w.pc = .idle) :
      Serial (w.step routing (.frame now frame)) events schedule →
        Serial w (.frame now frame :: events) (.frame now frame :: schedule)
  | sweep {w : World} {events : List NodeEvent} {schedule : List Event} (now : Time) (steps : Nat)
      (asleep : w.pc = .idle)
      (finished : (w.run routing (.wake now :: List.replicate steps .cleanup)).pc = .idle) :
      Serial (w.run routing (.wake now :: List.replicate steps .cleanup)) events schedule →
        Serial w (.sweep now :: events) (.wake now :: List.replicate steps .cleanup ++ schedule)

/-- Every run of the node model is a serial schedule of the two threads: the
dicts end holding the node's tables, with the cleanup thread asleep. -/
theorem run_refines {t : Tables} {node : MeshNode} (h : t.Represents node) (before : Time)
    (events : List NodeEvent) :
    ∃ schedule t' now, Serial node.config.routingConfig ⟨t, before, .idle⟩ events schedule ∧
      World.run node.config.routingConfig ⟨t, before, .idle⟩ schedule = ⟨t', now, .idle⟩ ∧
      t'.Represents (node.run zlib events) := by
  induction events generalizing t node before with
  | nil => exact ⟨[], t, before, .nil rfl, rfl, h⟩
  | cons event events ih =>
      cases event with
      | frame now frame =>
          obtain ⟨schedule, t', now', serial, ran, represents⟩ :=
            ih (h.onKissFrame zlib now frame) before
          rw [MeshNode.config_onKissFrame] at ran serial
          exact ⟨_, t', now', .frame now frame rfl serial, ran, represents⟩
      | sweep now =>
          obtain ⟨steps, t₁, swept, represents₁⟩ := pass_alone now h before
          obtain ⟨schedule, t', now', serial, ran, represents⟩ := ih represents₁ now
          rw [show (node.cleanup now).config = node.config from rfl] at ran serial
          refine ⟨_, t', now', .sweep now steps rfl (by rw [swept]) (by rw [swept]; exact serial), ?_,
            represents⟩
          rw [run_append, swept]
          exact ran

/-! ## The dedup deletions over every schedule -/

/-- The route phases leave the dedup dict alone. -/
theorem dataSeen_afterDel {κ α : Type} [DecidableEq κ] (t : Tables)
    (deleted : Except PyError (PyDict κ α)) (store : PyDict κ α → Tables)
    (untouched : ∀ d, (store d).dataSeen = t.dataSeen) (next : CleanupPc) :
    (t.afterDel deleted store next).1.dataSeen = t.dataSeen := by
  unfold Tables.afterDel
  split
  · rfl
  · exact untouched _

theorem pendingData_afterDel {κ α : Type} [DecidableEq κ] (t : Tables)
    (deleted : Except PyError (PyDict κ α)) (store : PyDict κ α → Tables) {next : CleanupPc}
    (none : next.pendingData = []) : (t.afterDel deleted store next).2.pendingData = [] := by
  unfold Tables.afterDel
  split
  · rfl
  · exact none

theorem pendingData_afterNext {κ : Type} (next : Except PyError (PyDict.Collecting κ ⊕ List κ))
    {collecting : PyDict.Collecting κ → CleanupPc} {collected : List κ → CleanupPc}
    (none : ∀ state, (collecting state).pendingData = [])
    (none' : ∀ keys, (collected keys).pendingData = []) :
    (CleanupPc.afterNext next collecting collected).pendingData = [] := by
  unfold CleanupPc.afterNext
  split
  · rfl
  · exact none _
  · exact none' _

/-- A step of the cleanup thread changes the dedup dict only by its
deletions, which end the pass. -/
theorem dataSeen_cleanupStep (t : Tables) (pc : CleanupPc) :
    (cleanupStep routing now t pc).1.dataSeen = t.dataSeen ∨
      ∃ keys swept, pc = .deleteDataSeen keys ∧
        keys.foldlM PyDict.delItem t.dataSeen = .ok swept ∧
        cleanupStep routing now t pc = ({ t with dataSeen := swept }, .idle) := by
  cases pc with
  | deleteOriginators keys =>
      cases keys with
      | nil => exact .inl rfl
      | cons key keys =>
          exact .inl (dataSeen_afterDel t _ (fun d => { t with originators := d }) (fun _ => rfl) _)
  | deleteNeighbors keys =>
      cases keys with
      | nil => exact .inl rfl
      | cons key keys =>
          exact .inl (dataSeen_afterDel t _ (fun d => { t with neighbors := d }) (fun _ => rfl) _)
  | deleteDataSeen keys =>
      cases deleted : keys.foldlM PyDict.delItem t.dataSeen with
      | error err => exact .inl (by simp [cleanupStep, Tables.afterDel, deleted])
      | ok swept =>
          exact .inr ⟨keys, swept, rfl, deleted, by simp [cleanupStep, Tables.afterDel, deleted]⟩
  | _ => exact .inl rfl

/-- The dedup keys a step of the cleanup thread tracks are keys it tracked
before, or keys of the dict whose stamp is expired at the pass's `now`. -/
theorem pendingData_cleanupStep (t : Tables) (pc : CleanupPc) :
    ∀ key ∈ (cleanupStep routing now t pc).2.pendingData, key ∈ pc.pendingData ∨
      ∃ ts, t.dataSeen.lookup key = some ts ∧
        MeshNode.expired now ts routing.dataSeenExpirySeconds = true := by
  have nothing : (cleanupStep routing now t pc).2.pendingData = [] ∨
      ∃ state, pc = .collectDataSeen state := by
    cases pc with
    | collectOriginators state =>
        exact .inl (pendingData_afterNext _ (fun _ => rfl) fun _ => rfl)
    | deleteOriginators keys =>
        cases keys with
        | nil => exact .inl rfl
        | cons key keys => exact .inl (pendingData_afterDel t _ _ rfl)
    | collectNeighbors state =>
        exact .inl (pendingData_afterNext _ (fun _ => rfl) fun _ => rfl)
    | deleteNeighbors keys =>
        cases keys with
        | nil => exact .inl rfl
        | cons key keys => exact .inl (pendingData_afterDel t _ _ rfl)
    | collectDataSeen state => exact .inr ⟨state, rfl⟩
    | deleteDataSeen keys => exact .inl (pendingData_afterDel t _ _ rfl)
    | idle => exact .inl rfl
    | raised err => exact .inl rfl
  rcases nothing with nothing | ⟨state, rfl⟩
  · simp [nothing]
  intro key member
  simp only [cleanupStep] at member
  cases stepped : t.dataSeen.collectStep
      (fun ts => MeshNode.expired now ts routing.dataSeenExpirySeconds) state with
  | error err => simp [stepped, CleanupPc.afterNext, CleanupPc.pendingData] at member
  | ok next =>
      cases next with
      | inl state' =>
          obtain ⟨item, present, kept⟩ := PyDict.kept_of_collectStep _ _ stepped
          simp only [stepped, CleanupPc.afterNext, CleanupPc.pendingData, kept, List.mem_append]
            at member
          rcases member with old | new
          · exact .inl old
          · refine .inr ⟨item.2, ?_, ?_⟩ <;>
              by_cases isDead : MeshNode.expired now item.2 routing.dataSeenExpirySeconds <;>
              simp_all [PyDict.keysWhere, PyDict.lookup_eq_some_iff_mem]
      | inr keys =>
          simp only [stepped, CleanupPc.afterNext, CleanupPc.pendingData,
            PyDict.kept_of_collectStep_done _ _ stepped] at member
          exact .inl member

/-- Every dedup key the cleanup thread has kept in its comprehension or is
about to delete is in the dict, with a stamp expired at its pass's `now`. -/
def DataPending (w : World) : Prop :=
  ∀ key ∈ w.pc.pendingData, ∃ ts, w.tables.dataSeen.lookup key = some ts ∧
    MeshNode.expired w.now ts routing.dataSeenExpirySeconds = true

theorem DataPending.step {w : World} (pending : w.DataPending routing) (event : Event) :
    (w.step routing event).DataPending routing := by
  cases event with
  | frame now frame =>
      intro key member
      obtain ⟨ts, found, old⟩ := pending key member
      exact ⟨ts, Tables.lookup_dataSeen_onKissFrame found now frame, old⟩
  | wake now =>
      simp only [World.step]
      split
      · intro key member
        cases member
      · exact pending
  | cleanup =>
      intro key member
      have tracked : ∃ ts, w.tables.dataSeen.lookup key = some ts ∧
          MeshNode.expired w.now ts routing.dataSeenExpirySeconds = true := by
        rcases pendingData_cleanupStep routing w.now w.tables w.pc key member with old | new
        · exact pending key old
        · exact new
      rcases dataSeen_cleanupStep routing w.now w.tables w.pc with same | ⟨keys, swept, -, -, ended⟩
      · simpa [World.step, same] using tracked
      · simp [World.step, ended, CleanupPc.pendingData] at member

theorem DataPending.run {w : World} (pending : w.DataPending routing) (events : List Event) :
    (w.run routing events).DataPending routing := by
  induction events generalizing w with
  | nil => exact pending
  | cons event events ih => exact ih (pending.step routing event)

/-- A dedup key leaves the dict only through the deletions, and only a key the
thread tracked. -/
theorem mem_pendingData_of_evicted {w : World} (event : Event) {key : DataKey} {ts : Time}
    (present : w.tables.dataSeen.lookup key = some ts)
    (gone : (w.step routing event).tables.dataSeen.lookup key = none) : key ∈ w.pc.pendingData := by
  cases event with
  | frame now frame =>
      simp [step, Tables.lookup_dataSeen_onKissFrame present] at gone
  | wake now =>
      simp only [step] at gone
      split at gone <;> simp [present] at gone
  | cleanup =>
      rcases dataSeen_cleanupStep routing w.now w.tables w.pc with
        same | ⟨keys, swept, atDelete, deleted, ended⟩
      · simp [step, same, present] at gone
      · rw [atDelete]
        by_contra kept
        simp only [step, ended, PyDict.lookup_foldlM_delItem_of_not_mem _ deleted kept, present]
          at gone
        cases gone

/-- Over every schedule of the two threads, a dedup key leaves the dict only
with a stamp expired at the `now` of the pass that deletes it. -/
theorem dataSeen_evicted_expired (t : Tables) (before : Time) (events : List Event)
    (event : Event) {key : DataKey} {ts : Time}
    (present : (World.run routing ⟨t, before, .idle⟩ events).tables.dataSeen.lookup key = some ts)
    (gone : ((World.run routing ⟨t, before, .idle⟩ events).step routing event).tables.dataSeen.lookup
      key = none) :
    MeshNode.expired (World.run routing ⟨t, before, .idle⟩ events).now ts
      routing.dataSeenExpirySeconds = true := by
  have pending := DataPending.run routing (w := ⟨t, before, .idle⟩) (fun _ member => by cases member)
    events
  obtain ⟨ts', found, expired⟩ := pending key (mem_pendingData_of_evicted routing event present gone)
  rw [present] at found
  cases found
  exact expired

/-! ## The route comprehension against a new originator -/

/-- A cleanup thread that raised stays ended, and from then on no schedule
deletes a key of the three dicts. -/
theorem run_of_raised {w : World} {err : PyError} (ended : w.pc = .raised err)
    (events : List Event) :
    (w.run routing events).pc = .raised err ∧ w.tables.Keeps (w.run routing events).tables := by
  induction events generalizing w with
  | nil => exact ⟨ended, .refl _⟩
  | cons event events ih =>
      have stepped : (w.step routing event).pc = .raised err ∧
          w.tables.Keeps (w.step routing event).tables := by
        obtain ⟨tables, now, pc⟩ := w
        subst ended
        cases event with
        | frame now frame => exact ⟨rfl, Tables.keeps_onKissFrame _ _ _⟩
        | wake now => exact ⟨rfl, .refl _⟩
        | cleanup => exact ⟨rfl, .refl _⟩
      obtain ⟨stillEnded, keeps⟩ := ih stepped.1
      exact ⟨stillEnded, stepped.2.trans keeps⟩

/-- An OGM from an originator the dicts have no entry for, handled at any
point of the route comprehension up to its last `next()`: the comprehension's
next step raises `RuntimeError` and ends the cleanup thread, and whatever
happens after, no key of the three dicts is ever deleted. -/
theorem originator_race_ends_expiry {t : Tables} {frame prevHop : Bytes} {header : MeshHeader}
    {linkMetric : Nat} (classified : classifyFrame frame = .ogm header prevHop linkMetric)
    (fresh : t.originators.lookup header.originId = none) (before sweepNow arrival : Time)
    {steps : Nat} (partWay : steps ≤ t.originators.items.length) (later : List Event) :
    (World.run routing ⟨t, before, .idle⟩ (.wake sweepNow :: List.replicate steps .cleanup ++
        .frame arrival frame :: .cleanup :: later)).pc =
        .raised (.runtimeError "dictionary changed size during iteration") ∧
      (t.onKissFrame arrival frame).Keeps (World.run routing ⟨t, before, .idle⟩
        (.wake sweepNow :: List.replicate steps .cleanup ++
          .frame arrival frame :: .cleanup :: later)).tables := by
  let dead := fun entry : OriginatorEntry =>
    MeshNode.expired sweepNow entry.lastSeen routing.routeExpirySeconds
  have grown : (t.onKissFrame arrival frame).originators.items.length =
      t.originators.items.length + 1 := by
    simp only [Tables.onKissFrame, classified, Tables.handleOgm, fresh]
    exact PyDict.length_set_of_fresh _ fresh _
  have collecting : World.run routing ⟨t, before, .idle⟩
      (.wake sweepNow :: List.replicate steps .cleanup) =
      ⟨t, sweepNow, .collectOriginators ⟨⟨steps, t.originators.items.length⟩,
        PyDict.keysWhere dead (t.originators.items.take steps)⟩⟩ :=
    run_collect routing sweepNow t t.originators dead .collectOriginators .deleteOriginators
      (fun _ => rfl) (t.originators.collectSteps_collecting dead partWay)
  have raised : World.run routing ⟨t, before, .idle⟩
      (.wake sweepNow :: List.replicate steps .cleanup ++ [.frame arrival frame, .cleanup]) =
      ⟨t.onKissFrame arrival frame, sweepNow,
        .raised (.runtimeError "dictionary changed size during iteration")⟩ := by
    rw [run_append, collecting]
    simp only [run_cons, run_nil, step, cleanupStep]
    rw [PyDict.collectStep_of_resized]
    · rfl
    · show t.originators.items.length ≠ _
      omega
  rw [show Event.wake sweepNow :: List.replicate steps .cleanup ++
      .frame arrival frame :: .cleanup :: later =
      (.wake sweepNow :: List.replicate steps .cleanup ++ [.frame arrival frame, .cleanup]) ++ later
      by simp, run_append, raised]
  exact run_of_raised routing rfl later

/-! ## The dedup comprehension against a fresh key -/

/-- A DATA frame whose key the dedup dict lacks, handled at any point of the
dedup comprehension up to its last `next()`: the dict grows by one item, and
the comprehension's next step raises `RuntimeError`. -/
theorem run_dataSeenRace {t : Tables} {frame body : Bytes} {header : MeshHeader}
    (classified : classifyFrame frame = .data header body)
    (fresh : t.dataSeen.lookup (header.originId, header.seqno) = none) (sweepNow arrival : Time)
    {steps : Nat} (partWay : steps ≤ t.dataSeen.items.length) :
    World.run routing ⟨t, sweepNow, .collectDataSeen t.dataSeen.collecting⟩
        (List.replicate steps .cleanup ++ [.frame arrival frame, .cleanup]) =
      ⟨t.onKissFrame arrival frame, sweepNow,
        .raised (.runtimeError "dictionary changed size during iteration")⟩ := by
  let dead := fun ts => MeshNode.expired sweepNow ts routing.dataSeenExpirySeconds
  have grown : (t.onKissFrame arrival frame).dataSeen.items.length = t.dataSeen.items.length + 1 := by
    simp only [Tables.onKissFrame, classified, Tables.handleDataFrame, fresh]
    exact PyDict.length_set_of_fresh _ fresh _
  rw [run_append, run_collect routing sweepNow t t.dataSeen dead .collectDataSeen .deleteDataSeen
    (fun _ => rfl) (t.dataSeen.collectSteps_collecting dead partWay)]
  simp only [run_cons, run_nil, step, cleanupStep]
  rw [PyDict.collectStep_of_resized]
  · rfl
  · show t.dataSeen.items.length ≠ _
    omega

/-- The dedup comprehension holds no lock.  Left alone, the route phases of a
pass bring the cleanup thread to the comprehension over the dedup dict.  A
DATA frame whose key the dict lacks, handled after any number of its
iterations up to its last `next()`, makes the next one raise `RuntimeError`,
which nothing catches: the cleanup thread ends, and whatever happens after, no
key of the three dicts is ever deleted. -/
theorem dataSeen_race_ends_expiry {t : Tables} {frame body : Bytes} {header : MeshHeader}
    (classified : classifyFrame frame = .data header body)
    (fresh : t.dataSeen.lookup (header.originId, header.seqno) = none) (before sweepNow arrival : Time) :
    ∃ routeSteps swept, World.run routing ⟨t, before, .idle⟩
        (.wake sweepNow :: List.replicate routeSteps .cleanup) =
        ⟨swept, sweepNow, .collectDataSeen t.dataSeen.collecting⟩ ∧ swept.dataSeen = t.dataSeen ∧
      ∀ steps ≤ t.dataSeen.items.length, ∀ later : List Event,
        let schedule := .wake sweepNow :: List.replicate (routeSteps + steps) .cleanup ++
          .frame arrival frame :: .cleanup :: later
        (World.run routing ⟨t, before, .idle⟩ schedule).pc =
            .raised (.runtimeError "dictionary changed size during iteration") ∧
          (swept.onKissFrame arrival frame).Keeps (World.run routing ⟨t, before, .idle⟩ schedule).tables := by
  obtain ⟨routeSteps, originators, neighbors, routed, -, -⟩ := run_routePhases routing sweepNow t before
  refine ⟨routeSteps, _, routed, rfl, fun steps partWay later => ?_⟩
  have raised := @run_dataSeenRace routing { t with originators := originators, neighbors := neighbors }
    frame body header classified fresh sweepNow arrival steps partWay
  dsimp only
  rw [show Event.wake sweepNow :: List.replicate (routeSteps + steps) .cleanup ++
      .frame arrival frame :: .cleanup :: later =
      ((.wake sweepNow :: List.replicate routeSteps .cleanup) ++
        (List.replicate steps .cleanup ++ [.frame arrival frame, .cleanup])) ++ later
      by rw [List.replicate_add]; simp only [List.cons_append, List.append_assoc, List.nil_append],
    run_append, run_append, routed, raised]
  exact run_of_raised routing rfl later

/-! ## The route deletions against a refresh -/

/-- A newer OGM for an originator whose entry is stale at the pass's `now`,
handled after the route comprehension ended and before its deletions: the
deletions remove the refreshed route.  Both serial orders of the pass and the
frame keep the refreshed route, when the frame's time is not stale itself. -/
theorem sweep_loses_route_refresh {t : Tables} {node : MeshNode} (h : t.Represents node)
    {frame prevHop : Bytes} {header : MeshHeader} {linkMetric : Nat}
    (classified : classifyFrame frame = .ogm header prevHop linkMetric)
    {entry : OriginatorEntry} (known : node.routingState.originators header.originId = some entry)
    (newer : entry.lastSeqno < header.seqno) {sweepNow : Time}
    (stale : MeshNode.expired sweepNow entry.lastSeen
      node.config.routingConfig.routeExpirySeconds = true)
    (now : Time)
    (recent : MeshNode.expired sweepNow now node.config.routingConfig.routeExpirySeconds = false)
    (before : Time) :
    ∃ steps, (World.run node.config.routingConfig ⟨t, before, .idle⟩
        (.wake sweepNow :: List.replicate (t.originators.items.length + 1) .cleanup ++
          .frame now frame :: List.replicate steps .cleanup)).tables.originators.lookup
          header.originId = none ∧
      ((node.onKissFrame zlib now frame).node.cleanup sweepNow).routingState.originators
          header.originId = some ⟨prevHop, header.seqno, linkMetric, now⟩ ∧
      ((node.cleanup sweepNow).onKissFrame zlib now frame).node.routingState.originators
          header.originId = some ⟨prevHop, header.seqno, linkMetric, now⟩ := by
  let dead := fun entry : OriginatorEntry =>
    MeshNode.expired sweepNow entry.lastSeen node.config.routingConfig.routeExpirySeconds
  have inDict : t.originators.lookup header.originId = some entry := h.originators ▸ known
  have collected : header.originId ∈ PyDict.keysWhere dead t.originators.items :=
    (PyDict.mem_keysWhere dead t.originators).mpr ⟨entry, inDict, stale⟩
  have refreshed : (t.onKissFrame now frame).originators =
      t.originators.set header.originId ⟨prevHop, header.seqno, linkMetric, now⟩ := by
    simp [Tables.onKissFrame, classified, Tables.handleOgm, inDict, newer]
  obtain ⟨swept, deleted, looked⟩ := PyDict.foldlM_delItem (t.onKissFrame now frame).originators
    (PyDict.nodup_keysWhere dead t.originators) fun key member => by
      obtain ⟨value, found, -⟩ := (PyDict.mem_keysWhere dead t.originators).mp member
      rw [refreshed, PyDict.lookup_set]
      by_cases same : key = header.originId
      · subst same
        simp
      · rw [Function.update_noteq same, found]
        rfl
  have ended : World.run node.config.routingConfig ⟨t, before, .idle⟩
      (.wake sweepNow :: List.replicate (t.originators.items.length + 1) .cleanup) =
      ⟨t, sweepNow, .deleteOriginators (PyDict.keysWhere dead t.originators.items)⟩ :=
    run_collectAll _ sweepNow t t.originators dead .collectOriginators .deleteOriginators fun _ => rfl
  refine ⟨(PyDict.keysWhere dead t.originators.items).length, ?_, ?_, ?_⟩
  · rw [run_append, ended, run_cons]
    show (World.run _ ⟨t.onKissFrame now frame, sweepNow, .deleteOriginators _⟩ _).tables.originators.lookup _ = _
    rw [run_delete _ sweepNow Tables.originators (fun t d => { t with originators := d })
      .deleteOriginators (fun _ _ _ => rfl) (fun _ _ => rfl) (fun _ _ _ => rfl) (fun _ => rfl) deleted]
    show swept.lookup header.originId = none
    rw [looked, if_pos collected]
  · simp [MeshNode.node_onKissFrame, classified, MeshNode.cleanup, MeshNode.updateOriginator, known,
      newer, recent]
  · simp [MeshNode.node_onKissFrame, classified, MeshNode.cleanup, MeshNode.updateOriginator, known,
      stale, Option.filter]

end World

/-! ## Sample schedules -/

/-- `node` with the dicts `t` as its tables. -/
def MeshNode.withTables (node : MeshNode) (t : Tables) : MeshNode :=
  { node with
    routingState := ⟨t.originators.lookup, t.neighbors.lookup⟩
    dataSeen := t.dataSeen.lookup }

theorem Tables.represents_withTables (node : MeshNode) (t : Tables) :
    t.Represents (node.withTables t) :=
  ⟨rfl, rfl, rfl⟩

/-- A route to `DEST` through `HOP`, last heard at time 0 with seqno 1. -/
def oneRoute : Tables :=
  ⟨⟨[(deriveNodeId "DEST", ⟨deriveNodeId "HOP", 1, 1, 0⟩)], by decide⟩, ⟨[], by decide⟩,
    ⟨[], by decide⟩⟩

/-- An OGM from `DEST` with seqno 2, heard through `HOP2` with link metric 3. -/
def newerOgmFromDest : Bytes :=
  List.replicate 16 0 ++ headerBytes meshMsgOgm 0 5 (deriveNodeId "DEST") 2 ++
    deriveNodeId "HOP2" ++ [3]

/-- The pass starts at time 200, when the route heard at time 0 is stale; the
newer OGM arrives at 201, after the route comprehension. -/
theorem sweep_loses_route_refresh_oneRoute :
    classifyFrame newerOgmFromDest =
      .ogm ⟨meshVersion, meshMsgOgm, 0, 5, deriveNodeId "DEST", 2⟩ (deriveNodeId "HOP2") 3 ∧
    (MeshNode.sampleRelay.withTables oneRoute).routingState.originators (deriveNodeId "DEST") =
      some ⟨deriveNodeId "HOP", 1, 1, 0⟩ ∧
    ∃ steps, (World.run MeshNode.sampleRelay.config.routingConfig ⟨oneRoute, 0, .idle⟩
        (.wake 200 :: List.replicate (oneRoute.originators.items.length + 1) .cleanup ++
          .frame 201 newerOgmFromDest :: List.replicate steps .cleanup)).tables.originators.lookup
          (deriveNodeId "DEST") = none ∧
      (((MeshNode.sampleRelay.withTables oneRoute).onKissFrame MeshNode.sampleZlib 201
          newerOgmFromDest).node.cleanup 200).routingState.originators (deriveNodeId "DEST") =
        some ⟨deriveNodeId "HOP2", 2, 3, 201⟩ ∧
      (((MeshNode.sampleRelay.withTables oneRoute).cleanup 200).onKissFrame MeshNode.sampleZlib 201
          newerOgmFromDest).node.routingState.originators (deriveNodeId "DEST") =
        some ⟨deriveNodeId "HOP2", 2, 3, 201⟩ :=
  have classified : classifyFrame newerOgmFromDest =
      .ogm ⟨meshVersion, meshMsgOgm, 0, 5, deriveNodeId "DEST", 2⟩ (deriveNodeId "HOP2") 3 := by
    decide
  have known : (MeshNode.sampleRelay.withTables oneRoute).routingState.originators
      (deriveNodeId "DEST") = some ⟨deriveNodeId "HOP", 1, 1, 0⟩ := by decide
  ⟨classified, known, World.sweep_loses_route_refresh MeshNode.sampleZlib
    (Tables.represents_withTables _ _) classified known (by decide) (by decide) 201 (by decide) 0⟩

/-- An OGM from `NEW`, an originator `oneRoute` has no entry for. -/
def ogmFromNew : Bytes :=
  List.replicate 16 0 ++ headerBytes meshMsgOgm 0 5 (deriveNodeId "NEW") 1 ++
    deriveNodeId "HOP2" ++ [3]

/-- The OGM from `NEW` arrives after the route comprehension's first `next()`. -/
theorem originator_race_ends_expiry_oneRoute :
    classifyFrame ogmFromNew =
      .ogm ⟨meshVersion, meshMsgOgm, 0, 5, deriveNodeId "NEW", 1⟩ (deriveNodeId "HOP2") 3 ∧
    oneRoute.originators.lookup (deriveNodeId "NEW") = none ∧
    (World.run MeshNode.sampleRelay.config.routingConfig ⟨oneRoute, 0, .idle⟩
        (.wake 200 :: List.replicate 1 .cleanup ++ .frame 201 ogmFromNew :: .cleanup :: [])).pc =
        .raised (.runtimeError "dictionary changed size during iteration") ∧
      (oneRoute.onKissFrame 201 ogmFromNew).Keeps
        (World.run MeshNode.sampleRelay.config.routingConfig ⟨oneRoute, 0, .idle⟩
          (.wake 200 :: List.replicate 1 .cleanup ++ .frame 201 ogmFromNew :: .cleanup :: [])).tables :=
  have classified : classifyFrame ogmFromNew =
      .ogm ⟨meshVersion, meshMsgOgm, 0, 5, deriveNodeId "NEW", 1⟩ (deriveNodeId "HOP2") 3 := by
    decide
  have fresh : oneRoute.originators.lookup (deriveNodeId "NEW") = none := by decide
  ⟨classified, fresh, World.originator_race_ends_expiry _ classified fresh 0 200 201 (by decide) []⟩

/-- A dedup dict holding one key, stamped at time 0. -/
def oneStamp : Tables := ⟨⟨[], by decide⟩, ⟨[], by decide⟩, ⟨[(([1], 7), 0)], by decide⟩⟩

/-- A pass at time 100 on `oneStamp`: six steps through the empty route dicts
and the dedup comprehension, then the deletions. -/
theorem dataSeen_evicted_expired_oneStamp :
    (World.run MeshNode.sampleRelay.config.routingConfig ⟨oneStamp, 0, .idle⟩
      (.wake 100 :: List.replicate 6 .cleanup)).tables.dataSeen.lookup ([1], 7) = some 0 ∧
    ((World.run MeshNode.sampleRelay.config.routingConfig ⟨oneStamp, 0, .idle⟩
      (.wake 100 :: List.replicate 6 .cleanup)).step MeshNode.sampleRelay.config.routingConfig
        .cleanup).tables.dataSeen.lookup ([1], 7) = none ∧
    MeshNode.expired (World.run MeshNode.sampleRelay.config.routingConfig ⟨oneStamp, 0, .idle⟩
      (.wake 100 :: List.replicate 6 .cleanup)).now 0
        MeshNode.sampleRelay.config.routingConfig.dataSeenExpirySeconds = true :=
  have present : (World.run MeshNode.sampleRelay.config.routingConfig ⟨oneStamp, 0, .idle⟩
      (.wake 100 :: List.replicate 6 .cleanup)).tables.dataSeen.lookup ([1], 7) = some 0 := by
    decide
  have gone : ((World.run MeshNode.sampleRelay.config.routingConfig ⟨oneStamp, 0, .idle⟩
      (.wake 100 :: List.replicate 6 .cleanup)).step MeshNode.sampleRelay.config.routingConfig
        .cleanup).tables.dataSeen.lookup ([1], 7) = none := by decide
  ⟨present, gone, World.dataSeen_evicted_expired _ _ _ _ _ present gone⟩

/-- A pass at 100 on `oneStamp`; the DATA frame with the fresh key
`(ORIGIN, 7)` arrives at 150, during the dedup comprehension. -/
theorem dataSeen_race_ends_expiry_oneStamp :
    classifyFrame (MeshNode.compressedDataFrame []) =
      .data ⟨meshVersion, meshMsgData, meshFlagCompressed, 5, deriveNodeId "ORIGIN", 7⟩
        ((MeshNode.compressedDataFrame []).drop 32) ∧
    oneStamp.dataSeen.lookup (deriveNodeId "ORIGIN", 7) = none ∧
    ∃ routeSteps swept, World.run MeshNode.sampleRelay.config.routingConfig ⟨oneStamp, 0, .idle⟩
        (.wake 100 :: List.replicate routeSteps .cleanup) =
        ⟨swept, 100, .collectDataSeen oneStamp.dataSeen.collecting⟩ ∧ swept.dataSeen = oneStamp.dataSeen ∧
      ∀ steps ≤ oneStamp.dataSeen.items.length, ∀ later : List Event,
        let schedule := .wake 100 :: List.replicate (routeSteps + steps) .cleanup ++
          .frame 150 (MeshNode.compressedDataFrame []) :: .cleanup :: later
        (World.run MeshNode.sampleRelay.config.routingConfig ⟨oneStamp, 0, .idle⟩ schedule).pc =
            .raised (.runtimeError "dictionary changed size during iteration") ∧
          (swept.onKissFrame 150 (MeshNode.compressedDataFrame [])).Keeps
            (World.run MeshNode.sampleRelay.config.routingConfig ⟨oneStamp, 0, .idle⟩ schedule).tables :=
  have classified : classifyFrame (MeshNode.compressedDataFrame []) =
      .data ⟨meshVersion, meshMsgData, meshFlagCompressed, 5, deriveNodeId "ORIGIN", 7⟩
        ((MeshNode.compressedDataFrame []).drop 32) := by decide
  have fresh : oneStamp.dataSeen.lookup (deriveNodeId "ORIGIN", 7) = none := by decide
  ⟨classified, fresh, World.dataSeen_race_ends_expiry _ classified fresh 0 100 150⟩

/-- A sweep at 200 and the newer OGM at 201, run one after the other. -/
theorem run_refines_oneRoute :
    oneRoute.Represents (MeshNode.sampleRelay.withTables oneRoute) ∧
    ∃ schedule t' now, World.Serial (MeshNode.sampleRelay.withTables oneRoute).config.routingConfig
        ⟨oneRoute, 0, .idle⟩ [.sweep 200, .frame 201 newerOgmFromDest] schedule ∧
      World.run (MeshNode.sampleRelay.withTables oneRoute).config.routingConfig
        ⟨oneRoute, 0, .idle⟩ schedule = ⟨t', now, .idle⟩ ∧
      t'.Represents ((MeshNode.sampleRelay.withTables oneRoute).run MeshNode.sampleZlib
        [.sweep 200, .frame 201 newerOgmFromDest]) :=
  ⟨Tables.represents_withTables _ _,
    World.run_refines MeshNode.sampleZlib (Tables.represents_withTables _ _) 0 _⟩

end ArdopMeshChat
