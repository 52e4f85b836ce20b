import ArdopMeshChat.Mesh.OgmFlood
import Mathlib.Algebra.BigOperators.Ring

/-!
# One OGM in a full mesh

`_handle_ogm` rebroadcasts every OGM with a TTL above 1, and nothing but the
TTL bounds the flood (`Network.ogmRelays_run`).  On a channel where every
station hears every other, the flood runs in rounds: each frame of a round is
heard by every station but its sender, and each of those receptions puts one
rebroadcast with one TTL less into the next round.  The own OGM of a station
with `ogm_ttl = T` among `n` stations so costs

  `1 + (n - 1) + (n - 1)^2 + ... + (n - 1)^(T - 1)`

transmissions, every one of them a copy of that OGM, and after `T` rounds the
flood is over (`Network.ogmFlood_fullMesh`).

What the flood leaves in the routing tables is decided in its first round:
every other station hears the origin's own frame first, and the copies
relayed after it carry no greater seqno, so each ends with a direct route to
the origin (`Network.ogmFlood_directRoutes`).
-/

namespace ArdopMeshChat

namespace Network

variable {ι : Type} [DecidableEq ι] (zlib : Zlib)

@[simp] theorem run_nil (net : Network ι) : net.run zlib [] = net := rfl

@[simp] theorem run_cons (net : Network ι) (event : NetEvent ι) (events : List (NetEvent ι)) :
    net.run zlib (event :: events) = (net.step zlib event).run zlib events := rfl

theorem run_append (net : Network ι) (events events' : List (NetEvent ι)) :
    net.run zlib (events ++ events') = (net.run zlib events).run zlib events' :=
  List.foldl_append _ _ _ _

@[simp] theorem config_run (net : Network ι) (events : List (NetEvent ι)) (i : ι) :
    ((net.run zlib events).nodes i).config = (net.nodes i).config := by
  induction events generalizing net <;> simp [*]

/-- A channel on which every station hears every other: the frame is handed
once to each station but its sender. -/
def hearAll (stations : List ι) (now : Time) (sent : Transmission ι) : List (NetEvent ι) :=
  (stations.erase sent.sender).map fun receiver => .deliver receiver now sent.frame

/-- The flood on such a channel, round by round: every frame of the last round
is heard by every other station, and what that makes the stations send is the
next round. -/
def flood (stations : List ι) (now : Time) :
    Nat → Network ι × List (Transmission ι) → Network ι × List (Transmission ι)
  | 0, state => state
  | rounds + 1, (net, last) =>
      let next := net.run zlib (last.flatMap (hearAll stations now))
      flood stations now rounds (next, next.air.drop net.air.length)

theorem flood_succ (stations : List ι) (now : Time) (rounds : Nat) (net : Network ι)
    (last : List (Transmission ι)) :
    flood zlib stations now (rounds + 1) (net, last) =
      flood zlib stations now rounds (net.run zlib (last.flatMap (hearAll stations now)),
        (net.run zlib (last.flatMap (hearAll stations now))).air.drop net.air.length) := rfl

/-- A round of the flood of the OGM `key`: copies of it with TTL `ttl`, each
sent by one of the stations. -/
def OgmRound (stations : List ι) (key : Bytes × Nat) (ttl : Nat) (round : List (Transmission ι)) :
    Prop :=
  ∀ sent ∈ round, sent.sender ∈ stations ∧ ogmInfo? sent.frame = some (key.1, key.2, ttl)

/-- The event hands one of the stations a copy of the OGM `key` with TTL `ttl`. -/
def HandsOgm (stations : List ι) (key : Bytes × Nat) (ttl : Nat) : NetEvent ι → Prop
  | .deliver receiver _ frame => receiver ∈ stations ∧ ogmInfo? frame = some (key.1, key.2, ttl)
  | _ => False

/-! ## One reception, one rebroadcast -/

section Receptions

variable {stations : List ι} {key : Bytes × Nat} {ttl : Nat}

/-- Handing a station an OGM with a TTL above 1 puts one rebroadcast on the air. -/
theorem step_deliver_of_forwarding (net : Network ι) {receiver : ι}
    (ascii : isAscii (net.nodes receiver).config.callsign.toList = true) (now : Time) {frame : Bytes}
    (carries : ogmInfo? frame = some (key.1, key.2, ttl)) (forwarding : 1 < ttl) :
    ∃ next, (net.step zlib (.deliver receiver now frame)).air = net.air ++ [⟨receiver, next, true⟩] ∧
      ogmInfo? next = some (key.1, key.2, ttl - 1) := by
  obtain ⟨next, sent, nextInfo⟩ := MeshNode.relayed_of_ogmInfo zlib _ ascii now carries forwarding
  exact ⟨next, by simp [step, react, sent], nextInfo⟩

/-- Receptions of an OGM with a TTL above 1 put one rebroadcast each on the
air, sent by the receiver with one TTL less. -/
theorem run_handsOgm_of_forwarding (net : Network ι)
    (ascii : ∀ i, isAscii (net.nodes i).config.callsign.toList = true) (forwarding : 1 < ttl)
    (events : List (NetEvent ι)) (hands : ∀ event ∈ events, HandsOgm stations key ttl event) :
    ∃ relays, (net.run zlib events).air = net.air ++ relays ∧ relays.length = events.length ∧
      OgmRound stations key (ttl - 1) relays ∧ ∀ sent ∈ relays, sent.relayed := by
  induction events generalizing net with
  | nil => exact ⟨[], by simp, rfl, by simp [OgmRound], by simp⟩
  | cons event events ih =>
      cases event with
      | deliver receiver now frame =>
          obtain ⟨member, carries⟩ := hands _ (.head _)
          obtain ⟨next, stepped, nextInfo⟩ :=
            step_deliver_of_forwarding zlib net (ascii receiver) now carries forwarding
          obtain ⟨relays, ran, counted, round, relayed⟩ :=
            ih (net.step zlib (.deliver receiver now frame)) (fun i => by simpa using ascii i)
              fun event mem => hands event (.tail _ mem)
          refine ⟨⟨receiver, next, true⟩ :: relays, by simp [ran, stepped], by simp [counted], ?_, ?_⟩
          · exact List.forall_mem_cons.mpr ⟨⟨member, nextInfo⟩, round⟩
          · exact List.forall_mem_cons.mpr ⟨rfl, relayed⟩
      | _ => exact (hands _ (.head _)).elim

/-- Receptions of an OGM whose TTL is spent put nothing on the air. -/
theorem run_handsOgm_of_expiring (net : Network ι) (expiring : ttl ≤ 1)
    (events : List (NetEvent ι)) (hands : ∀ event ∈ events, HandsOgm stations key ttl event) :
    (net.run zlib events).air = net.air := by
  induction events generalizing net with
  | nil => rfl
  | cons event events ih =>
      cases event with
      | deliver receiver now frame =>
          rw [run_cons, ih _ fun event mem => hands event (.tail _ mem)]
          simp [step, react, MeshNode.sentFrames_of_ogmInfo_expiring zlib _ now (hands _ (.head _)).2
            expiring]
      | _ => exact (hands _ (.head _)).elim

theorem handsOgm_hearAll {last : List (Transmission ι)} (round : OgmRound stations key ttl last)
    (now : Time) : ∀ event ∈ last.flatMap (hearAll stations now), HandsOgm stations key ttl event := by
  simp only [List.mem_flatMap, hearAll, List.mem_map]
  rintro _ ⟨sent, inRound, receiver, member, rfl⟩
  exact ⟨List.mem_of_mem_erase member, (round sent inRound).2⟩

/-- Each frame of a round is heard by the other `n - 1` stations. -/
theorem length_flatMap_hearAll {last : List (Transmission ι)}
    (round : OgmRound stations key ttl last) (now : Time) :
    (last.flatMap (hearAll stations now)).length = last.length * (stations.length - 1) := by
  induction last with
  | nil => simp
  | cons sent last ih =>
      have others : (hearAll stations now sent).length = stations.length - 1 := by
        rw [hearAll, List.length_map, List.length_erase_of_mem (round sent (.head _)).1]
      rw [List.flatMap_cons, List.length_append, others,
        ih fun later mem => round later (.tail _ mem), List.length_cons, Nat.succ_mul, Nat.add_comm]

end Receptions

/-- The origin's OGM timer opens the flood: one frame of its own on the air,
an OGM with its ID as origin and as previous hop, its new seqno, its `ogm_ttl`
and link metric 255. -/
theorem step_ogmTick_opens (net : Network ι) {origin : ι}
    (ascii : isAscii (net.nodes origin).config.callsign.toList = true) {ttl : Nat}
    (ttlIs : (net.nodes origin).config.routingConfig.ogmTtl = ttl) (ttlByte : ttl < 256) :
    ∃ frame, (net.step zlib (.ogmTick origin)).air = net.air ++ [⟨origin, frame, false⟩] ∧
      classifyFrame frame = .ogm ⟨meshVersion, meshMsgOgm, 0, ttl, (net.nodes origin).nodeId,
        (net.nodes origin).nextSeqno.2.toNat⟩ (net.nodes origin).nodeId (255 : UInt8).toNat := by
  obtain ⟨frame, sends, -, info⟩ := MeshNode.ogmTick_sends (net.nodes origin) ttlIs ttlByte ascii
  exact ⟨frame, by simp [step, react, sends], classifyFrame_of_ogm info ttlByte
    (MeshNode.length_nodeId _) (UInt32.toNat_lt_size _) (MeshNode.length_nodeId _)⟩

/-! ## The whole flood -/

theorem sum_range_succ_pow (base ttl : Nat) :
    ∑ k ∈ Finset.range (ttl + 1), base ^ k = base * ∑ k ∈ Finset.range ttl, base ^ k + 1 := by
  rw [Finset.sum_range_succ', Finset.mul_sum]
  simp [pow_succ, Nat.mul_comm]

/-- A round of `m` copies of an OGM with TTL `ttl` floods on for `ttl` rounds,
and then the flood is over: the rounds after it put `m (n - 1) + m (n - 1)^2
+ ... + m (n - 1)^(ttl - 1)` rebroadcasts of that OGM on the air. -/
theorem flood_ogmRound (net : Network ι)
    (ascii : ∀ i, isAscii (net.nodes i).config.callsign.toList = true)
    {stations : List ι} (now : Time) {key : Bytes × Nat} {ttl : Nat}
    (positive : 0 < ttl) {last : List (Transmission ι)} (round : OgmRound stations key ttl last) :
    (flood zlib stations now ttl (net, last)).2 = [] ∧
      ∃ sent, (flood zlib stations now ttl (net, last)).1.air = net.air ++ sent ∧
        last.length + sent.length =
          last.length * ∑ k ∈ Finset.range ttl, (stations.length - 1) ^ k ∧
        ∀ relay ∈ sent, relay.relaysOgm key := by
  induction ttl generalizing net last with
  | zero => cases positive
  | succ ttl ih =>
      rcases Nat.eq_zero_or_pos ttl with rfl | forwarding
      · have quiet : (net.run zlib (last.flatMap (hearAll stations now))).air = net.air :=
          run_handsOgm_of_expiring zlib net le_rfl _ (handsOgm_hearAll round now)
        refine ⟨by simp [flood, quiet], [], by simp [flood, quiet], by simp, by simp⟩
      · obtain ⟨relays, ran, counted, nextRound, relayed⟩ := run_handsOgm_of_forwarding zlib net ascii
          (by omega) _ (handsOgm_hearAll round now)
        have fresh : (net.run zlib (last.flatMap (hearAll stations now))).air.drop net.air.length =
            relays := by simp [ran]
        have relaysLength : relays.length = last.length * (stations.length - 1) := by
          rw [counted, length_flatMap_hearAll round]
        obtain ⟨over, sent, air, count, relaysOgm⟩ := ih (net.run zlib (last.flatMap (hearAll stations now)))
          (fun i => by simpa using ascii i) forwarding (by simpa using nextRound)
        refine ⟨by simpa [flood, fresh] using over, relays ++ sent, by simp [flood, fresh, air, ran], ?_, ?_⟩
        · rw [relaysLength] at count
          calc last.length + (relays ++ sent).length
              = last.length + (relays.length + sent.length) := by rw [List.length_append]
            _ = last.length + last.length * (stations.length - 1) *
                  ∑ k ∈ Finset.range ttl, (stations.length - 1) ^ k := by rw [relaysLength, count]
            _ = last.length * ∑ k ∈ Finset.range (ttl + 1), (stations.length - 1) ^ k := by
                  rw [sum_range_succ_pow]; ring
        · intro relay member
          rcases List.mem_append.mp member with early | later
          · simp [Transmission.relaysOgm, ogmKey?, relayed relay early, (nextRound relay early).2]
          · exact relaysOgm relay later

/-- One OGM floods a full mesh.  On a channel where every one of `n` stations
hears every other, the own OGM of a station with `ogm_ttl = T ≥ 1` puts
`1 + (n - 1) + ... + (n - 1)^(T - 1)` transmissions on the air, every one a
copy of it, and after `T` rounds of hearing no copy is left to hear. -/
theorem ogmFlood_fullMesh (net : Network ι)
    (ascii : ∀ i, isAscii (net.nodes i).config.callsign.toList = true)
    {stations : List ι} {origin : ι} (inRange : origin ∈ stations)
    {ttl : Nat} (ttlIs : (net.nodes origin).config.routingConfig.ogmTtl = ttl) (positive : 0 < ttl)
    (ttlByte : ttl < 256) (now : Time) :
    let ticked := net.step zlib (.ogmTick origin)
    let flooded := flood zlib stations now ttl (ticked, ticked.air.drop net.air.length)
    flooded.2 = [] ∧ ∃ sent, flooded.1.air = net.air ++ sent ∧
      sent.length = ∑ k ∈ Finset.range ttl, (stations.length - 1) ^ k ∧
      ∀ copy ∈ sent, ogmKey? copy.frame =
        some ((net.nodes origin).nodeId, (net.nodes origin).nextSeqno.2.toNat) := by
  intro ticked flooded
  obtain ⟨frame, opened, classified⟩ := step_ogmTick_opens zlib net (ascii origin) ttlIs ttlByte
  have tickAir : ticked.air = net.air ++ [⟨origin, frame, false⟩] := opened
  have info := ogmInfo_of_classifyFrame classified
  have tickRound : OgmRound stations ((net.nodes origin).nodeId, (net.nodes origin).nextSeqno.2.toNat) ttl
      [⟨origin, frame, false⟩] := by
    simpa [OgmRound] using ⟨inRange, info⟩
  obtain ⟨over, sent, air, count, relaysOgm⟩ :=
    flood_ogmRound zlib ticked (fun i => by simpa [ticked] using ascii i) now positive tickRound
  refine ⟨by simpa [flooded, tickAir] using over, ⟨origin, frame, false⟩ :: sent, ?_, ?_, ?_⟩
  · simpa [flooded, tickAir] using air
  · simpa [Nat.add_comm] using count
  · refine List.forall_mem_cons.mpr ⟨by simp [ogmKey?, info], fun copy member => ?_⟩
    have relays := relaysOgm copy member
    simp only [Transmission.relaysOgm, Bool.and_eq_true, decide_eq_true_eq] at relays
    exact relays.2

/-- Four fresh stations in range of one another, each with the default
`ogm_ttl` of 5. -/
def fourInRange : Network (Fin 4) :=
  ⟨fun i => MeshNode.lineStation (["N0CALL", "N1CALL", "N2CALL", "N3CALL"].getD i.val "") false, []⟩

theorem ogmFlood_fullMesh_fourInRange :
    (∀ i, isAscii (fourInRange.nodes i).config.callsign.toList = true) ∧
      (0 : Fin 4) ∈ [0, 1, 2, 3] ∧ (fourInRange.nodes 0).config.routingConfig.ogmTtl = (5 : Nat) ∧
      0 < 5 ∧ 5 < 256 ∧
      (let ticked := fourInRange.step MeshNode.storeZlib (.ogmTick 0);
        let flooded := flood MeshNode.storeZlib ([0, 1, 2, 3] : List (Fin 4)) 0 5
          (ticked, ticked.air.drop fourInRange.air.length);
        flooded.2 = [] ∧ ∃ sent, flooded.1.air = fourInRange.air ++ sent ∧
          sent.length = ∑ k ∈ Finset.range 5, (([0, 1, 2, 3] : List (Fin 4)).length - 1) ^ k ∧
          ∀ copy ∈ sent, ogmKey? copy.frame =
            some ((fourInRange.nodes 0).nodeId, (fourInRange.nodes 0).nextSeqno.2.toNat)) :=
  ⟨by decide, by decide, rfl, by decide, by decide,
    ogmFlood_fullMesh MeshNode.storeZlib fourInRange (by decide) (by decide) rfl (by decide) (by decide) 0⟩

/-- With the default `ogm_ttl`, one OGM of four stations in range is 121 frames on the air. -/
example : ∑ k ∈ Finset.range 5, (([0, 1, 2, 3] : List (Fin 4)).length - 1) ^ k = 121 := by decide

/-! ## The routes one flood leaves -/

/-- The event hands some node a copy of the OGM `key`, with any TTL. -/
def CopiesOgm (key : Bytes × Nat) : NetEvent ι → Prop
  | .deliver _ _ frame => ∃ ttl, ogmInfo? frame = some (key.1, key.2, ttl)
  | _ => False

section Routes

variable {key : Bytes × Nat}

/-- A copy of an OGM whose seqno is not above a node's entry for its origin
leaves that entry alone. -/
theorem originators_onKissFrame_of_not_newer {node : MeshNode} (now : Time) {frame : Bytes} {ttl : Nat}
    (carries : ogmInfo? frame = some (key.1, key.2, ttl)) {entry : OriginatorEntry}
    (known : node.routingState.originators key.1 = some entry) (notNewer : key.2 ≤ entry.lastSeqno) :
    (node.onKissFrame zlib now frame).node.routingState.originators key.1 = some entry := by
  obtain ⟨header, prevHop, linkMetric, classified, origin, seqno, -⟩ := classifyFrame_of_ogmInfo carries
  rw [MeshNode.node_onKissFrame, classified]
  dsimp only
  rcases MeshNode.updateOriginator_cases (node.refreshNeighbor now prevHop linkMetric) now header.originId
    header.seqno prevHop linkMetric with ⟨-, newer⟩ | ⟨kept, -⟩
  · have := newer entry (by simpa [origin] using known)
    omega
  · rw [kept, MeshNode.originators_refreshNeighbor, known]

/-- A copy of the OGM handed to any node keeps every entry for its origin that
has its seqno or a greater one. -/
theorem originators_step_of_copiesOgm {net : Network ι} {event : NetEvent ι} (copy : CopiesOgm key event)
    {j : ι} {entry : OriginatorEntry} (known : (net.nodes j).routingState.originators key.1 = some entry)
    (notNewer : key.2 ≤ entry.lastSeqno) :
    ((net.step zlib event).nodes j).routingState.originators key.1 = some entry := by
  cases event with
  | deliver receiver now frame =>
      obtain ⟨ttl, carries⟩ := copy
      simp only [step, nodes_react, Function.update_apply]
      split
      · next same => exact same ▸ originators_onKissFrame_of_not_newer zlib now carries (same ▸ known) notNewer
      · exact known
  | _ => exact copy.elim

/-- A node that knows nothing of an OGM's origin as new as the OGM takes the
entry it carries. -/
theorem originators_onKissFrame_of_newer {node : MeshNode} (now : Time) {frame prevHop : Bytes}
    {header : MeshHeader} {linkMetric : Nat} (classified : classifyFrame frame = .ogm header prevHop linkMetric)
    (older : ∀ entry, node.routingState.originators header.originId = some entry →
      entry.lastSeqno < header.seqno) :
    (node.onKissFrame zlib now frame).node.routingState.originators header.originId =
      some ⟨prevHop, header.seqno, linkMetric, now⟩ := by
  rw [MeshNode.node_onKissFrame, classified]
  dsimp only
  rcases MeshNode.updateOriginator_cases (node.refreshNeighbor now prevHop linkMetric) now header.originId
    header.seqno prevHop linkMetric with ⟨set, -⟩ | ⟨-, entry, known, notNewer⟩
  · simp [set, MeshNode.setOriginator]
  · have := older entry (by simpa using known)
    omega

/-- What every hand-over of a copy of the OGM keeps, a run of them keeps. -/
theorem run_of_copiesOgm (P : Network ι → Prop)
    (preserved : ∀ net event, CopiesOgm key event → P net → P (net.step zlib event))
    {net : Network ι} {events : List (NetEvent ι)} (copies : ∀ event ∈ events, CopiesOgm key event)
    (holds : P net) : P (net.run zlib events) := by
  induction events generalizing net with
  | nil => exact holds
  | cons event events ih =>
      exact ih (fun event mem => copies event (.tail _ mem)) (preserved net event (copies event (.head _)) holds)

/-- Handing one OGM frame to stations one after another: each station that
knew nothing of its origin as new as the OGM ends with the entry it carries,
whatever the others hear. -/
theorem originators_run_deliveries (net : Network ι) {receivers : List ι} (now : Time) {frame prevHop : Bytes}
    {header : MeshHeader} {linkMetric : Nat} (classified : classifyFrame frame = .ogm header prevHop linkMetric)
    {j : ι} (heard : j ∈ receivers)
    (older : ∀ entry, (net.nodes j).routingState.originators header.originId = some entry →
      entry.lastSeqno < header.seqno) :
    ((net.run zlib (receivers.map fun receiver => .deliver receiver now frame)).nodes j).routingState.originators
      header.originId = some ⟨prevHop, header.seqno, linkMetric, now⟩ := by
  have copy : ∀ receiver : ι, CopiesOgm (header.originId, header.seqno) (.deliver receiver now frame) :=
    fun _ => ⟨header.ttl, ogmInfo_of_classifyFrame classified⟩
  induction receivers generalizing net with
  | nil => cases heard
  | cons receiver receivers ih =>
      rw [List.map_cons, run_cons]
      by_cases same : j = receiver
      · subst same
        have taken : ((net.step zlib (.deliver j now frame)).nodes j).routingState.originators header.originId =
            some ⟨prevHop, header.seqno, linkMetric, now⟩ := by
          simpa [step] using originators_onKissFrame_of_newer zlib now classified older
        exact run_of_copiesOgm zlib (fun net => (net.nodes j).routingState.originators header.originId =
            some ⟨prevHop, header.seqno, linkMetric, now⟩)
          (fun _ _ copied kept => originators_step_of_copiesOgm zlib copied kept le_rfl)
          (by simpa using fun receiver _ => copy receiver) taken
      · exact ih _ (List.mem_of_ne_of_mem same heard) (by simpa [step, same] using older)

/-- The rebroadcasts a round of hearing puts on the air are the next round. -/
theorem ogmRound_next (net : Network ι) (ascii : ∀ i, isAscii (net.nodes i).config.callsign.toList = true)
    {stations : List ι} {ttl : Nat} {last : List (Transmission ι)} (round : OgmRound stations key ttl last)
    (now : Time) :
    OgmRound stations key (ttl - 1)
      ((net.run zlib (last.flatMap (hearAll stations now))).air.drop net.air.length) := by
  rcases Nat.lt_or_ge 1 ttl with forwarding | expiring
  · obtain ⟨relays, air, -, relaysRound, -⟩ :=
      run_handsOgm_of_forwarding zlib net ascii forwarding _ (handsOgm_hearAll round now)
    simpa [air] using relaysRound
  · simp [run_handsOgm_of_expiring zlib net expiring _ (handsOgm_hearAll round now), OgmRound]

/-- What every hand-over of a copy of the OGM keeps, the whole flood keeps. -/
theorem flood_induction (P : Network ι → Prop)
    (preserved : ∀ net event, CopiesOgm key event → P net → P (net.step zlib event))
    {stations : List ι} (now : Time) (rounds : Nat) (net : Network ι)
    (ascii : ∀ i, isAscii (net.nodes i).config.callsign.toList = true) {ttl : Nat}
    {last : List (Transmission ι)} (round : OgmRound stations key ttl last) (holds : P net) :
    P (flood zlib stations now rounds (net, last)).1 := by
  induction rounds generalizing net ttl last with
  | zero => exact holds
  | succ rounds ih =>
      let heard := last.flatMap (hearAll stations now)
      have copies : ∀ event ∈ heard, CopiesOgm key event := fun event mem => by
        match event, handsOgm_hearAll round now event mem with
        | .deliver _ _ _, ⟨_, carries⟩ => exact ⟨ttl, carries⟩
      exact ih _ (fun i => by simpa using ascii i) (ogmRound_next zlib net ascii round now)
        (run_of_copiesOgm zlib P preserved copies holds)

end Routes

/-- One OGM flood gives every other station in range that knew nothing newer
of the origin a direct route to it.  Such a station hears the origin's own
frame in the first round, newer than anything it knew of the origin, and
takes it: next hop the origin itself, metric 255, the OGM's seqno, the
round's time.  The copies relayed later carry the same seqno and change
nothing. -/
theorem ogmFlood_directRoutes (net : Network ι)
    (ascii : ∀ i, isAscii (net.nodes i).config.callsign.toList = true) {stations : List ι} {origin : ι}
    (inRange : origin ∈ stations) {ttl : Nat} (ttlIs : (net.nodes origin).config.routingConfig.ogmTtl = ttl)
    (positive : 0 < ttl) (ttlByte : ttl < 256) (now : Time) {j : ι} (member : j ∈ stations)
    (other : j ≠ origin)
    (older : ∀ entry, (net.nodes j).routingState.originators (net.nodes origin).nodeId = some entry →
      entry.lastSeqno < (net.nodes origin).nextSeqno.2.toNat) :
    let ticked := net.step zlib (.ogmTick origin)
    let flooded := flood zlib stations now ttl (ticked, ticked.air.drop net.air.length)
    (flooded.1.nodes j).routingState.originators (net.nodes origin).nodeId =
      some ⟨(net.nodes origin).nodeId, (net.nodes origin).nextSeqno.2.toNat, 255, now⟩ := by
  intro ticked flooded
  obtain ⟨frame, opened, classified⟩ := step_ogmTick_opens zlib net (ascii origin) ttlIs ttlByte
  have tickAir : ticked.air = net.air ++ [⟨origin, frame, false⟩] := opened
  have asciiTicked : ∀ i, isAscii (ticked.nodes i).config.callsign.toList = true := fun i => by
    simpa [ticked] using ascii i
  have tickRound : OgmRound stations ((net.nodes origin).nodeId, (net.nodes origin).nextSeqno.2.toNat) ttl
      [⟨origin, frame, false⟩] := by
    simpa [OgmRound] using ⟨inRange, ogmInfo_of_classifyFrame classified⟩
  -- the first round: station `j` hears the origin's own frame
  have firstRound := originators_run_deliveries zlib ticked now classified
    ((List.mem_erase_of_ne other).mpr member) (by simpa [ticked, step, other] using older)
  obtain ⟨rounds, rfl⟩ : ∃ rounds, ttl = rounds + 1 := ⟨ttl - 1, by omega⟩
  have dropped : ticked.air.drop net.air.length = [⟨origin, frame, false⟩] := by simp [tickAir]
  -- the later rounds hand over copies with the same seqno, which change nothing
  simp only [flooded, dropped, flood_succ]
  exact flood_induction zlib (fun later => (later.nodes j).routingState.originators (net.nodes origin).nodeId =
      some ⟨(net.nodes origin).nodeId, (net.nodes origin).nextSeqno.2.toNat, 255, now⟩)
    (fun _ _ copied kept => originators_step_of_copiesOgm zlib copied kept le_rfl) now rounds _
    (fun i => by simpa using asciiTicked i) (ogmRound_next zlib ticked asciiTicked tickRound now)
    (by simpa [hearAll] using firstRound)

/-- Four stations in range that have never heard each other: after one OGM of
station 0, station 1 routes to it directly. -/
theorem ogmFlood_directRoutes_fourInRange :
    (∀ i, isAscii (fourInRange.nodes i).config.callsign.toList = true) ∧ (0 : Fin 4) ∈ [0, 1, 2, 3] ∧
      (fourInRange.nodes 0).config.routingConfig.ogmTtl = (5 : Nat) ∧ 0 < 5 ∧ 5 < 256 ∧
      (1 : Fin 4) ∈ [0, 1, 2, 3] ∧ (1 : Fin 4) ≠ 0 ∧
      (∀ entry, (fourInRange.nodes 1).routingState.originators (fourInRange.nodes 0).nodeId = some entry →
        entry.lastSeqno < (fourInRange.nodes 0).nextSeqno.2.toNat) ∧
      (let ticked := fourInRange.step MeshNode.storeZlib (.ogmTick 0);
        let flooded := flood MeshNode.storeZlib ([0, 1, 2, 3] : List (Fin 4)) 0 5
          (ticked, ticked.air.drop fourInRange.air.length);
        (flooded.1.nodes 1).routingState.originators (fourInRange.nodes 0).nodeId =
          some ⟨(fourInRange.nodes 0).nodeId, (fourInRange.nodes 0).nextSeqno.2.toNat, 255, 0⟩) :=
  have older : ∀ entry, (fourInRange.nodes 1).routingState.originators (fourInRange.nodes 0).nodeId =
      some entry → entry.lastSeqno < (fourInRange.nodes 0).nextSeqno.2.toNat :=
    fun _ unknown => Option.noConfusion unknown
  ⟨by decide, by decide, rfl, by decide, by decide, by decide, by decide, older,
    @ogmFlood_directRoutes (Fin 4) _ MeshNode.storeZlib fourInRange (by decide) [0, 1, 2, 3] 0 (by decide) 5 rfl
      (by decide) (by decide) 0 1 (by decide) (by decide) older⟩

end Network

end ArdopMeshChat
