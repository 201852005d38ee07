import AxonIbc.Grpc.Packets
import AxonIbc.Grpc.CreateClient

/-!
# Failed reads in the query services

What a query handler answers when a read of the adapter fails.

## What is proved

* `readFault_answersOk` — `client_connections`, `unreceived_packets` and
  `unreceived_acks` answer a failed read with a default and return `Ok`: no
  connections (`unwrap_or_default()`), the packet not received and the packet
  acknowledged (`.ok().flatten()`, which reads a failure as `None`), each contradicting
  what the store holds;
* `clientQueries_ok_reads`, `connectionQueries_ok_reads`, `channelQueries_ok_reads` —
  every other handler answers `Ok` only when its scan and each read of a stored
  record it scanned succeeded.
-/

namespace AxonIbc

/-- The connection `connection-0`. -/
def connection0 : ConnectionId := ⟨"connection-0", by decide⟩

/-- A store holding the connection `connection-0` of client `07-tendermint-0`, and
the receipt and the commitment of packet 1 of `transfer/channel-0`, at height 1. -/
def recordedStore : Store :=
  { Store.empty with
    clientConnections := (∅ : AList _).insert tendermint0 [connection0]
    receipts := (∅ : AList _).insert (transferPort, channel0, 1) ()
    commitments := (∅ : AList _).insert (transferPort, channel0, 1) [1] }

/-- `recordedStore` behind an adapter whose every point read fails. -/
def unavailableAdapter : Adapter :=
  ⟨recordedStore, 1, fun _ => some ⟨"unavailable"⟩, fun _ => none, fun _ => none, true⟩

theorem readFault_answersOk :
    IbcConnectionService.clientConnections unavailableAdapter "07-tendermint-0" = .ok [] ∧
      IbcChannelService.unreceivedPackets unavailableAdapter ⟨"transfer", "channel-0", [1]⟩ =
        .ok ⟨[1], some ⟨0, 1⟩⟩ ∧
      IbcChannelService.unreceivedAcks unavailableAdapter ⟨"transfer", "channel-0", [1]⟩ =
        .ok ⟨[], some ⟨0, 1⟩⟩ ∧
      IbcConnectionService.clientConnections { unavailableAdapter with readFault := fun _ => none }
        "07-tendermint-0" = .ok ["connection-0"] ∧
      IbcChannelService.unreceivedPackets { unavailableAdapter with readFault := fun _ => none }
        ⟨"transfer", "channel-0", [1]⟩ = .ok ⟨[], some ⟨0, 1⟩⟩ ∧
      IbcChannelService.unreceivedAcks { unavailableAdapter with readFault := fun _ => none }
        ⟨"transfer", "channel-0", [1]⟩ = .ok ⟨[1], some ⟨0, 1⟩⟩ := by
  decide

/-- `recordedStore` with the client `07-tendermint-0` of `tendermintMsg` and its
consensus state at height 1, the connection `connection-0`, and the channel
`transfer/channel-0` on it; nothing fails. -/
def listedAdapter : Adapter :=
  ⟨{ recordedStore with
      clientStates := (∅ : AList _).insert tendermint0 tendermintMsg.clientState
      consensusStates := (∅ : AList _).insert (tendermint0, ⟨0, 1⟩) tendermintMsg.consensusState
      connections := (∅ : AList _).insert connection0 ⟨[]⟩
      channels := (∅ : AList _).insert (transferPort, channel0) ⟨[connection0], []⟩ },
    1, fun _ => none, fun _ => none, fun _ => none, true⟩

/-! ### The other handlers: `Ok` only over reads that succeeded

Every other query handler returns a failed read's error (`map_err(..)?`), so an
`Ok` answer is built over a scan and reads that all succeeded. -/

/-- A scan whose error is returned, followed by `k`, returned `Ok` only if the scan did
not fail and `k` did on the paths the prefix matches. -/
theorem Adapter.scan_bind_ok {β : Type} {a : Adapter} {pre : PathPrefix}
    {f : StoreError → Status} {k : List IbcPath → Ret Status β} {r : β}
    (h : Ret.ofExcept (a.getPathsByPrefix pre) f >>= k = .ok r) :
    a.scanFault pre = none ∧ k (a.store.paths.filter pre.matches) = .ok r := by
  obtain ⟨ps, hs, hk⟩ := Ret.bind_eq_ok.1 h
  obtain ⟨hscan, hps⟩ := Adapter.getPathsByPrefix_ok (Ret.ofExcept_eq_ok.1 hs)
  exact ⟨hscan, hps ▸ hk⟩

section Loops

variable {a : Adapter}

theorem IbcClientService.clientStatesLoop_reads :
    ∀ {cs : List ClientId} {r}, IbcClientService.clientStatesLoop a cs = .ok r →
      ∀ c ∈ cs, a.readFault (.clientState c) = none
  | [], _, _ => by simp
  | c :: cs, _, h => by
    simp only [IbcClientService.clientStatesLoop, Ret.bind_eq_ok, Ret.ofExcept_eq_ok] at h
    obtain ⟨_, hf, _, -, _, hrest, -⟩ := h
    exact List.forall_mem_cons.2
      ⟨Adapter.read_ok hf, IbcClientService.clientStatesLoop_reads hrest⟩

theorem IbcClientService.consensusStatesLoop_reads :
    ∀ {ps : List IbcPath} {r}, IbcClientService.consensusStatesLoop a ps = .ok r →
      ∀ p ∈ ps, a.readFault p = none
  | [], _, _ => by simp
  | p :: ps, _, h => by
    cases p
    case clientConsensusState c hgt =>
      simp only [IbcClientService.consensusStatesLoop, Ret.bind_eq_ok, Ret.ofExcept_eq_ok] at h
      obtain ⟨_, hf, _, hrest, -⟩ := h
      exact List.forall_mem_cons.2
        ⟨Adapter.read_ok hf, IbcClientService.consensusStatesLoop_reads hrest⟩
    all_goals cases h

theorem IbcConnectionService.connectionsLoop_reads :
    ∀ {ps : List IbcPath} {r}, IbcConnectionService.connectionsLoop a ps = .ok r →
      ∀ p ∈ ps, a.readFault p = none
  | [], _, _ => by simp
  | p :: ps, _, h => by
    cases p
    case connections c =>
      simp only [IbcConnectionService.connectionsLoop, Ret.bind_eq_ok, Ret.ofExcept_eq_ok] at h
      obtain ⟨_, hf, _, -, _, hrest, -⟩ := h
      exact List.forall_mem_cons.2
        ⟨Adapter.read_ok hf, IbcConnectionService.connectionsLoop_reads hrest⟩
    all_goals cases h

theorem IbcChannelService.channelsLoop_reads :
    ∀ {ps : List IbcPath} {r}, IbcChannelService.channelsLoop a ps = .ok r →
      ∀ p ∈ ps, a.readFault p = none
  | [], _, _ => by simp
  | p :: ps, _, h => by
    cases p
    case channelEnds pc =>
      simp only [IbcChannelService.channelsLoop, Ret.bind_eq_ok, Ret.ofExcept_eq_ok] at h
      obtain ⟨_, hf, _, -, _, hrest, -⟩ := h
      exact List.forall_mem_cons.2
        ⟨Adapter.read_ok hf, IbcChannelService.channelsLoop_reads hrest⟩
    all_goals cases h

/-- `connection_channels` skips a path that is not a channel end's, and reads every other. -/
theorem IbcChannelService.connectionChannelsLoop_reads {conn : ConnectionId} :
    ∀ {ps : List IbcPath} {r}, IbcChannelService.connectionChannelsLoop a conn ps = .ok r →
      ∀ pc, .channelEnds pc ∈ ps → a.readFault (.channelEnds pc) = none
  | [], _, _ => by simp
  | p :: ps, _, h => by
    cases p
    case channelEnds pc =>
      simp only [IbcChannelService.connectionChannelsLoop, Ret.bind_eq_ok,
        Ret.ofExcept_eq_ok] at h
      obtain ⟨_, hf, _, hrest, -⟩ := h
      rintro pc' (_ | ⟨_, hpc'⟩)
      · exact Adapter.read_ok hf
      · exact IbcChannelService.connectionChannelsLoop_reads hrest pc' hpc'
    all_goals
      simp only [IbcChannelService.connectionChannelsLoop] at h
      exact fun pc hpc => IbcChannelService.connectionChannelsLoop_reads h pc
        ((List.mem_cons.1 hpc).resolve_left nofun)

theorem IbcChannelService.packetCommitmentsLoop_reads :
    ∀ {ks : List PacketKey} {r}, IbcChannelService.packetCommitmentsLoop a ks = .ok r →
      ∀ k ∈ ks, a.readFault (.commitments k) = none
  | [], _, _ => by simp
  | k :: ks, _, h => by
    simp only [IbcChannelService.packetCommitmentsLoop, Ret.bind_eq_ok, Ret.ofExcept_eq_ok] at h
    obtain ⟨_, hf, _, -, _, hrest, -⟩ := h
    exact List.forall_mem_cons.2
      ⟨Adapter.read_ok hf, IbcChannelService.packetCommitmentsLoop_reads hrest⟩

theorem IbcChannelService.packetAcknowledgementsLoop_reads :
    ∀ {ks : List PacketKey} {r}, IbcChannelService.packetAcknowledgementsLoop a ks = .ok r →
      ∀ k ∈ ks, a.readFault (.acks k) = none
  | [], _, _ => by simp
  | k :: ks, _, h => by
    simp only [IbcChannelService.packetAcknowledgementsLoop, Ret.bind_eq_ok,
      Ret.ofExcept_eq_ok] at h
    obtain ⟨_, hf, _, hrest, -⟩ := h
    exact List.forall_mem_cons.2
      ⟨Adapter.read_ok hf, IbcChannelService.packetAcknowledgementsLoop_reads hrest⟩

end Loops

/-- **The client queries answer `Ok` only over reads that succeeded**: `client_states`
scanned `"clients"` and read every stored client state, and `consensus_states` scanned
the client's consensus states and read each. -/
theorem clientQueries_ok_reads (a : Adapter) :
    (∀ r, IbcClientService.clientStates a = .ok r →
      a.scanFault .clients = none ∧
        ∀ c, .clientState c ∈ a.store.paths → a.readFault (.clientState c) = none) ∧
    (∀ clientId r, IbcClientService.consensusStates a clientId = .ok r →
      a.scanFault (.consensusStates clientId) = none ∧
        ∀ c hgt, c.val = clientId → .clientConsensusState c hgt ∈ a.store.paths →
          a.readFault (.clientConsensusState c hgt) = none) := by
  constructor
  · intro r h
    obtain ⟨hscan, hl⟩ := Adapter.scan_bind_ok h
    exact ⟨hscan, fun c hc => IbcClientService.clientStatesLoop_reads hl c
      (List.mem_filterMap.2 ⟨_, List.mem_filter.2 ⟨hc, rfl⟩, rfl⟩)⟩
  · intro clientId r h
    obtain ⟨_, -, h⟩ := Ret.bind_eq_ok.1 h
    obtain ⟨hscan, hl⟩ := Adapter.scan_bind_ok h
    exact ⟨hscan, fun c hgt hc hp => IbcClientService.consensusStatesLoop_reads hl _
      (List.mem_filter.2 ⟨hp, beq_iff_eq.2 hc⟩)⟩

theorem clientQueries_ok_reads_listed :
    (listedAdapter.scanFault .clients = none ∧
      ∀ c, .clientState c ∈ listedAdapter.store.paths →
        listedAdapter.readFault (.clientState c) = none) ∧
    (listedAdapter.scanFault (.consensusStates tendermint0.val) = none ∧
      ∀ c hgt, c.val = tendermint0.val → .clientConsensusState c hgt ∈ listedAdapter.store.paths →
        listedAdapter.readFault (.clientConsensusState c hgt) = none) :=
  ⟨(clientQueries_ok_reads listedAdapter).1 [⟨tendermint0.val, some tendermintMsg.clientState⟩]
      (by rfl),
    (clientQueries_ok_reads listedAdapter).2 _ [⟨some ⟨0, 1⟩, some tendermintMsg.consensusState⟩]
      (by rfl)⟩

/-- **The connection queries answer `Ok` only over reads that succeeded**: `connection`
read the connection, and `connections` scanned `"connections"` and read every stored
connection. -/
theorem connectionQueries_ok_reads (a : Adapter) :
    (∀ (c : ConnectionId) r, IbcConnectionService.connection a c.val = .ok r →
      a.readFault (.connections c) = none) ∧
    (∀ r, IbcConnectionService.connections a = .ok r →
      a.scanFault .connections = none ∧
        ∀ c, .connections c ∈ a.store.paths → a.readFault (.connections c) = none) := by
  constructor
  · intro c r h
    simp only [IbcConnectionService.connection, Identifier.fromStr_val, Ret.ofExcept_ok,
      Ret.ok_bind, Ret.ofExcept_eq_ok] at h
    exact Adapter.read_ok h
  · intro r h
    obtain ⟨hscan, hl⟩ := Adapter.scan_bind_ok h
    exact ⟨hscan, fun c hc => IbcConnectionService.connectionsLoop_reads hl _
      (List.mem_filter.2 ⟨hc, rfl⟩)⟩

theorem connectionQueries_ok_reads_listed :
    listedAdapter.readFault (.connections connection0) = none ∧
    (listedAdapter.scanFault .connections = none ∧
      ∀ c, .connections c ∈ listedAdapter.store.paths →
        listedAdapter.readFault (.connections c) = none) :=
  ⟨(connectionQueries_ok_reads listedAdapter).1 connection0 (some ⟨[]⟩) (by rfl),
    (connectionQueries_ok_reads listedAdapter).2 [⟨connection0, ⟨[]⟩⟩] (by rfl)⟩

/-- **The channel queries answer `Ok` only over reads that succeeded**: `channel` read
the channel end; `channels` and `connection_channels` scanned the channel ends and read
every stored one; `packet_commitments` and `packet_acknowledgements` scanned their
records and read every stored one of the channel. -/
theorem channelQueries_ok_reads (a : Adapter) (p : PortId) (c : ChannelId) :
    (∀ r, IbcChannelService.channel a ⟨p.val, c.val⟩ = .ok r →
      a.readFault (.channelEnds (p, c)) = none) ∧
    (∀ r, IbcChannelService.channels a = .ok r →
      a.scanFault .channelEndsPorts = none ∧
        ∀ pc, .channelEnds pc ∈ a.store.paths → a.readFault (.channelEnds pc) = none) ∧
    (∀ (conn : ConnectionId) r, IbcChannelService.connectionChannels a conn.val = .ok r →
      a.scanFault .channelEnds = none ∧
        ∀ pc, .channelEnds pc ∈ a.store.paths → a.readFault (.channelEnds pc) = none) ∧
    (∀ r, IbcChannelService.packetCommitments a ⟨p.val, c.val⟩ = .ok r →
      a.scanFault .commitmentsPorts = none ∧
        ∀ k, .commitments k ∈ a.store.paths → onChannel p c k →
          a.readFault (.commitments k) = none) ∧
    (∀ r, IbcChannelService.packetAcknowledgements a ⟨p.val, c.val⟩ = .ok r →
      a.scanFault .acksPorts = none ∧
        ∀ k, .acks k ∈ a.store.paths → onChannel p c k → a.readFault (.acks k) = none) := by
  refine ⟨fun r h => ?_, fun r h => ?_, fun conn r h => ?_, fun r h => ?_, fun r h => ?_⟩
  · simp only [IbcChannelService.channel, parsePortChannel_val, Ret.ok_bind,
      Ret.ofExcept_eq_ok] at h
    exact Adapter.read_ok h
  · obtain ⟨hscan, hl⟩ := Adapter.scan_bind_ok h
    obtain ⟨_, hl, -⟩ := Ret.bind_eq_ok.1 hl
    exact ⟨hscan, fun pc hc => IbcChannelService.channelsLoop_reads hl _
      (List.mem_filter.2 ⟨hc, rfl⟩)⟩
  · simp only [IbcChannelService.connectionChannels, Identifier.fromStr_val, Ret.ofExcept_ok,
      Ret.ok_bind] at h
    obtain ⟨hscan, hl⟩ := Adapter.scan_bind_ok h
    obtain ⟨_, hl, -⟩ := Ret.bind_eq_ok.1 hl
    exact ⟨hscan, fun pc hc => IbcChannelService.connectionChannelsLoop_reads hl _
      (List.mem_filter.2 ⟨hc, rfl⟩)⟩
  · simp only [IbcChannelService.packetCommitments, parsePortChannel_val, Ret.ok_bind] at h
    obtain ⟨hscan, hl⟩ := Adapter.scan_bind_ok h
    obtain ⟨_, hl, -⟩ := Ret.bind_eq_ok.1 hl
    exact ⟨hscan, fun k hk hon => IbcChannelService.packetCommitmentsLoop_reads hl _
      (List.mem_filterMap.2 ⟨_, List.mem_filter.2 ⟨hk, rfl⟩, if_pos hon⟩)⟩
  · simp only [IbcChannelService.packetAcknowledgements, parsePortChannel_val, Ret.ok_bind] at h
    obtain ⟨hscan, hl⟩ := Adapter.scan_bind_ok h
    obtain ⟨_, hl, -⟩ := Ret.bind_eq_ok.1 hl
    exact ⟨hscan, fun k hk hon => IbcChannelService.packetAcknowledgementsLoop_reads hl _
      (List.mem_filterMap.2 ⟨_, List.mem_filter.2 ⟨hk, rfl⟩, if_pos hon⟩)⟩

theorem channelQueries_ok_reads_listed :
    listedAdapter.readFault (.channelEnds (transferPort, channel0)) = none ∧
    (listedAdapter.scanFault .channelEndsPorts = none ∧
      ∀ pc, .channelEnds pc ∈ listedAdapter.store.paths →
        listedAdapter.readFault (.channelEnds pc) = none) ∧
    (listedAdapter.scanFault .channelEnds = none ∧
      ∀ pc, .channelEnds pc ∈ listedAdapter.store.paths →
        listedAdapter.readFault (.channelEnds pc) = none) ∧
    (listedAdapter.scanFault .commitmentsPorts = none ∧
      ∀ k, .commitments k ∈ listedAdapter.store.paths → onChannel transferPort channel0 k →
        listedAdapter.readFault (.commitments k) = none) ∧
    (listedAdapter.scanFault .acksPorts = none ∧
      ∀ k, .acks k ∈ listedAdapter.store.paths → onChannel transferPort channel0 k →
        listedAdapter.readFault (.acks k) = none) :=
  have h := channelQueries_ok_reads listedAdapter transferPort channel0
  ⟨h.1 (some ⟨[connection0], []⟩) (by rfl),
    h.2.1 ⟨[⟨transferPort, channel0, ⟨[connection0], []⟩⟩], some ⟨0, 1⟩⟩ (by rfl),
    h.2.2.1 connection0 ⟨[⟨transferPort, channel0, ⟨[connection0], []⟩⟩], some ⟨0, 1⟩⟩ (by rfl),
    h.2.2.2.1 ⟨[⟨transferPort.val, channel0.val, 1, [1]⟩], some ⟨0, 1⟩⟩ (by rfl),
    h.2.2.2.2 ⟨[], some ⟨0, 1⟩⟩ (by rfl)⟩

end AxonIbc
