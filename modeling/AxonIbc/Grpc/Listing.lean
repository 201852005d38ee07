import AxonIbc.Grpc.Faults

/-!
# The listing queries of a store whose reads succeed

What `client_states`, `consensus_states`, `connections`, `client_connections`,
`channels` and `connection_channels` answer when no read and no scan fails.

## The model

Each listing handler scans a prefix, keeps the paths of one kind and reads each.
Of the model's store a scan returns the paths of the records stored
(`Store.paths`), so each scan is the keys of one map of the store
(`Store.clientStatePaths` and its siblings), and each loop, run over a map's
entries, reads back exactly those entries (`clientStatesLoop_of_reads` and its
siblings). The `unwrap`s and `expect`s of the loops therefore never panic, and
the paths a loop would panic on never reach it.

## What is proved

* `clientQueries_of_reads` — `client_states` lists every stored client state and
  `consensus_states` of a valid client identifier every stored consensus state of the
  client, in the store's order (a request whose path does not decode is an
  `invalid_argument`, `IbcClientService.consensusStates_of_pathError`);
* `connectionQueries_of_reads` — `connection` answers the stored connection end,
  `connections` lists every stored connection, and `client_connections` the
  client's recorded connections;
* `channelQueries_of_reads` — `channel` answers the stored channel end, `channels`
  lists every stored channel, and `connection_channels` exactly the stored
  channels whose first connection hop is the connection.

Each returns `Ok`: on a store whose reads succeed no listing query panics.

Composed with the keepers' runs (`AxonIbc.Host.Channel`):

* `connectionQueries_run` — after any run of the connection keeper,
  `client_connections` lists exactly the connections recorded for the client before
  the run or stored to it by the run (the reverse index's order is the adapter's, and
  is not stated), and `connection` the end the last `store_connection` wrote;
* `channelQueries_run` — after any run of the channel keeper, `channel` answers the
  end the last `store_channel` wrote, `channels` lists each channel once and with that
  end, `connection_channels` lists it exactly when its first hop is the connection,
  and `get_next_sequence_send` reads the last sequence stored.
-/

namespace AxonIbc

section Reads

variable {a : Adapter}

/-! ### Scans -/

/-- The client-state paths among a scan of `"clients"` are the stored clients. -/
theorem Store.clientStatePaths (s : Store) :
    (s.paths.filter PathPrefix.clients.matches).filterMap clientStatePath = s.clientStates.keys := by
  rw [filterMap_filter_matches _ _ fun x b h => by cases x <;> first | rfl | cases h]
  simp [Store.paths, List.filterMap_append, List.filterMap_map, Function.comp_def,
    clientStatePath, filterMap_none]

/-- A scan of `clients/{client_id}/consensusStates` is the client's stored consensus
states. -/
theorem Store.consensusStatePaths (s : Store) (clientId : String) :
    s.paths.filter (PathPrefix.consensusStates clientId).matches =
      (s.consensusStates.entries.filter fun x => x.1.1.val == clientId).map
        fun x => .clientConsensusState x.1.1 x.1.2 := by
  simp [Store.paths, List.filter_append, List.filter_map, Function.comp_def, PathPrefix.matches,
    AList.keys, List.keys]

/-- A scan of `"connections"` is the stored connections. -/
theorem Store.connectionPaths (s : Store) :
    s.paths.filter PathPrefix.connections.matches =
      s.connections.entries.map fun x => .connections x.1 := by
  simp [Store.paths, List.filter_append, List.filter_map, Function.comp_def, PathPrefix.matches,
    AList.keys, List.keys]

/-- A scan of `"channelEnds/ports"` or of `"channelEnds"` is the stored channels. -/
theorem Store.channelPaths (s : Store) (pre : PathPrefix)
    (hpre : pre = .channelEndsPorts ∨ pre = .channelEnds) :
    s.paths.filter pre.matches = s.channels.entries.map fun x => .channelEnds x.1 := by
  rcases hpre with rfl | rfl <;>
    simp [Store.paths, List.filter_append, List.filter_map, Function.comp_def,
      PathPrefix.matches, AList.keys, List.keys]

/-! ### Loops over a map's entries -/

theorem clientStatesLoop_of_reads (hr : a.ReadsSucceed) :
    ∀ l : List (Σ _ : ClientId, AnyClientState),
      (∀ x ∈ l, a.store.clientStates.lookup x.1 = some x.2) →
      IbcClientService.clientStatesLoop a (l.map Sigma.fst) =
        .ok (l.map fun x => ⟨x.1.val, some x.2⟩)
  | [], _ => rfl
  | x :: l, hl => by
    rw [List.forall_mem_cons] at hl
    simp [IbcClientService.clientStatesLoop, Adapter.getClientState, Adapter.read_of_reads hr,
      hl.1, Ret.unwrap, clientStatesLoop_of_reads hr l hl.2]

theorem consensusStatesLoop_of_reads (hr : a.ReadsSucceed) :
    ∀ l : List (Σ _ : ClientId × Height, AnyConsensusState),
      (∀ x ∈ l, a.store.consensusStates.lookup x.1 = some x.2) →
      IbcClientService.consensusStatesLoop a (l.map fun x => .clientConsensusState x.1.1 x.1.2) =
        .ok (l.map fun x => ⟨some x.1.2, some x.2⟩)
  | [], _ => rfl
  | x :: l, hl => by
    rw [List.forall_mem_cons] at hl
    simp [IbcClientService.consensusStatesLoop, Adapter.getConsensusState,
      Adapter.read_of_reads hr, hl.1, consensusStatesLoop_of_reads hr l hl.2]

theorem connectionsLoop_of_reads (hr : a.ReadsSucceed) :
    ∀ l : List (Σ _ : ConnectionId, ConnectionEnd),
      (∀ x ∈ l, a.store.connections.lookup x.1 = some x.2) →
      IbcConnectionService.connectionsLoop a (l.map fun x => .connections x.1) =
        .ok (l.map fun x => ⟨x.1, x.2⟩)
  | [], _ => rfl
  | x :: l, hl => by
    rw [List.forall_mem_cons] at hl
    simp [IbcConnectionService.connectionsLoop, Adapter.getConnectionEnd,
      Adapter.read_of_reads hr, hl.1, Ret.unwrap, connectionsLoop_of_reads hr l hl.2]

theorem channelsLoop_of_reads (hr : a.ReadsSucceed) :
    ∀ l : List (Σ _ : PortId × ChannelId, ChannelEnd),
      (∀ x ∈ l, a.store.channels.lookup x.1 = some x.2) →
      IbcChannelService.channelsLoop a (l.map fun x => .channelEnds x.1) =
        .ok (l.map fun x => ⟨x.1.1, x.1.2, x.2⟩)
  | [], _ => rfl
  | x :: l, hl => by
    rw [List.forall_mem_cons] at hl
    simp [IbcChannelService.channelsLoop, Adapter.getChannelEnd, Adapter.read_of_reads hr, hl.1,
      Ret.unwrap, channelsLoop_of_reads hr l hl.2]

theorem connectionChannelsLoop_of_reads (hr : a.ReadsSucceed) (conn : ConnectionId) :
    ∀ l : List (Σ _ : PortId × ChannelId, ChannelEnd),
      (∀ x ∈ l, a.store.channels.lookup x.1 = some x.2) →
      IbcChannelService.connectionChannelsLoop a conn (l.map fun x => .channelEnds x.1) =
        .ok ((l.filter fun x => x.2.connectionHops.head? = some conn).map
          fun x => ⟨x.1.1, x.1.2, x.2⟩)
  | [], _ => rfl
  | x :: l, hl => by
    rw [List.forall_mem_cons] at hl
    simp only [IbcChannelService.connectionChannelsLoop, Adapter.getChannelEnd,
      Adapter.read_of_reads hr, hl.1, Ret.ofExcept_ok, Ret.ok_bind,
      connectionChannelsLoop_of_reads hr conn l hl.2, Ret.pure_eq, List.filter_cons]
    by_cases hx : x.2.connectionHops.head? = some conn <;> simp [hx]

/-! ### The handlers -/

/-- **The client queries list the store**: of a store whose reads succeed,
`client_states` returns every stored client with its state, and `consensus_states` of a
valid client identifier every stored consensus state of the client with its height,
each in the store's order. -/
theorem clientQueries_of_reads (hr : a.ReadsSucceed) (clientId : ClientId) :
    IbcClientService.clientStates a =
        .ok (a.store.clientStates.entries.map fun x => ⟨x.1.val, some x.2⟩) ∧
      IbcClientService.consensusStates a clientId.val =
        .ok ((a.store.consensusStates.entries.filter fun x => x.1.1.val == clientId.val).map
          fun x => ⟨some x.1.2, some x.2⟩) := by
  constructor
  · rw [IbcClientService.clientStates, Adapter.getPathsByPrefix_of_reads hr, Ret.ofExcept_ok,
      Ret.ok_bind, Store.clientStatePaths]
    exact clientStatesLoop_of_reads hr _ fun _ hx => AList.mem_lookup_iff.2 hx
  · rw [IbcClientService.consensusStates_valid, Adapter.getPathsByPrefix_of_reads hr,
      Ret.ofExcept_ok, Ret.ok_bind, Store.consensusStatePaths]
    exact consensusStatesLoop_of_reads hr _ fun _ hx =>
      AList.mem_lookup_iff.2 (List.mem_of_mem_filter hx)

theorem clientQueries_of_reads_listed :
    IbcClientService.clientStates listedAdapter =
        .ok (listedAdapter.store.clientStates.entries.map fun x => ⟨x.1.val, some x.2⟩) ∧
      IbcClientService.consensusStates listedAdapter tendermint0.val =
        .ok ((listedAdapter.store.consensusStates.entries.filter
          fun x => x.1.1.val == tendermint0.val).map fun x => ⟨some x.1.2, some x.2⟩) :=
  clientQueries_of_reads ⟨fun _ => rfl, fun _ => rfl⟩ _

theorem connection_of_reads (hr : a.ReadsSucceed) (c : ConnectionId) :
    IbcConnectionService.connection a c.val = .ok (a.store.connections.lookup c) := by
  simp [IbcConnectionService.connection, Adapter.getConnectionEnd, Adapter.read_of_reads hr]

theorem clientConnections_of_reads (hr : a.ReadsSucceed) (cl : ClientId) :
    IbcConnectionService.clientConnections a cl.val =
      .ok (((a.store.clientConnections.lookup cl).getD []).map (·.val)) := by
  simp [IbcConnectionService.clientConnections, Adapter.getConnectionIds,
    Adapter.read_of_reads hr, Except.toOption, Except.map]

/-- **The connection queries list the store**: of a store whose reads succeed,
`connection` answers the stored connection end, `connections` lists every stored
connection in the store's order, and `client_connections` the client's recorded
connections, none recorded being none. -/
theorem connectionQueries_of_reads (hr : a.ReadsSucceed) (c : ConnectionId) (cl : ClientId) :
    IbcConnectionService.connection a c.val = .ok (a.store.connections.lookup c) ∧
      IbcConnectionService.connections a =
        .ok (a.store.connections.entries.map fun x => ⟨x.1, x.2⟩) ∧
      IbcConnectionService.clientConnections a cl.val =
        .ok (((a.store.clientConnections.lookup cl).getD []).map (·.val)) := by
  refine ⟨connection_of_reads hr c, ?_, clientConnections_of_reads hr cl⟩
  rw [IbcConnectionService.connections, Adapter.getPathsByPrefix_of_reads hr, Ret.ofExcept_ok,
    Ret.ok_bind, Store.connectionPaths]
  exact connectionsLoop_of_reads hr _ fun _ hx => AList.mem_lookup_iff.2 hx

theorem connectionQueries_of_reads_listed :
    IbcConnectionService.connection listedAdapter connection0.val =
        .ok (listedAdapter.store.connections.lookup connection0) ∧
      IbcConnectionService.connections listedAdapter =
        .ok (listedAdapter.store.connections.entries.map fun x => ⟨x.1, x.2⟩) ∧
      IbcConnectionService.clientConnections listedAdapter tendermint0.val =
        .ok (((listedAdapter.store.clientConnections.lookup tendermint0).getD []).map (·.val)) :=
  connectionQueries_of_reads ⟨fun _ => rfl, fun _ => rfl⟩ _ _

/-- **The channel queries list the store**: of a store whose reads succeed, `channel`
answers the stored channel end, `channels` lists every stored channel, and
`connection_channels` exactly the stored channels whose first connection hop is the
connection, each in the store's order and at the current height. -/
theorem channel_of_reads (hr : a.ReadsSucceed) (p : PortId) (c : ChannelId) :
    IbcChannelService.channel a ⟨p.val, c.val⟩ = .ok (a.store.channels.lookup (p, c)) := by
  simp [IbcChannelService.channel, parsePortChannel_val, Adapter.getChannelEnd,
    Adapter.read_of_reads hr]

theorem channels_of_reads (hr : a.ReadsSucceed) :
    IbcChannelService.channels a =
      .ok ⟨a.store.channels.entries.map fun x => ⟨x.1.1, x.1.2, x.2⟩, currentRawHeight a⟩ := by
  rw [IbcChannelService.channels, Adapter.getPathsByPrefix_of_reads hr, Ret.ofExcept_ok,
    Ret.ok_bind, Store.channelPaths _ _ (.inl rfl),
    channelsLoop_of_reads hr _ fun _ hx => AList.mem_lookup_iff.2 hx]
  rfl

theorem connectionChannels_of_reads (hr : a.ReadsSucceed) (conn : ConnectionId) :
    IbcChannelService.connectionChannels a conn.val =
      .ok ⟨(a.store.channels.entries.filter fun x => x.2.connectionHops.head? = some conn).map
        fun x => ⟨x.1.1, x.1.2, x.2⟩, currentRawHeight a⟩ := by
  rw [IbcChannelService.connectionChannels, Identifier.fromStr_val, Ret.ofExcept_ok,
    Ret.ok_bind, Adapter.getPathsByPrefix_of_reads hr, Ret.ofExcept_ok, Ret.ok_bind,
    Store.channelPaths _ _ (.inr rfl),
    connectionChannelsLoop_of_reads hr conn _ fun _ hx => AList.mem_lookup_iff.2 hx]
  rfl

theorem channelQueries_of_reads (hr : a.ReadsSucceed) (p : PortId) (c : ChannelId)
    (conn : ConnectionId) :
    IbcChannelService.channel a ⟨p.val, c.val⟩ = .ok (a.store.channels.lookup (p, c)) ∧
      IbcChannelService.channels a =
        .ok ⟨a.store.channels.entries.map fun x => ⟨x.1.1, x.1.2, x.2⟩, currentRawHeight a⟩ ∧
      IbcChannelService.connectionChannels a conn.val =
        .ok ⟨(a.store.channels.entries.filter fun x => x.2.connectionHops.head? = some conn).map
          fun x => ⟨x.1.1, x.1.2, x.2⟩, currentRawHeight a⟩ :=
  ⟨channel_of_reads hr p c, channels_of_reads hr, connectionChannels_of_reads hr conn⟩

theorem channelQueries_of_reads_listed :
    IbcChannelService.channel listedAdapter ⟨transferPort.val, channel0.val⟩ =
        .ok (listedAdapter.store.channels.lookup (transferPort, channel0)) ∧
      IbcChannelService.channels listedAdapter =
        .ok ⟨listedAdapter.store.channels.entries.map fun x => ⟨x.1.1, x.1.2, x.2⟩,
          currentRawHeight listedAdapter⟩ ∧
      IbcChannelService.connectionChannels listedAdapter connection0.val =
        .ok ⟨(listedAdapter.store.channels.entries.filter
            fun x => x.2.connectionHops.head? = some connection0).map
          fun x => ⟨x.1.1, x.1.2, x.2⟩, currentRawHeight listedAdapter⟩ :=
  channelQueries_of_reads ⟨fun _ => rfl, fun _ => rfl⟩ _ _ _

example : IbcChannelService.connectionChannels listedAdapter "connection-0" =
    .ok ⟨[⟨transferPort, channel0, ⟨[connection0], []⟩⟩], some ⟨0, 1⟩⟩ := by
  decide

end Reads

/-! ### The queries over the keepers' runs -/

section Run

variable {ctx : IbcImpl}

/-- **The connection queries read off the run**: after any run of the connection
keeper whose reads and writes succeed, `client_connections` lists exactly the
connections in the client's reverse index, those recorded before the run and those the
run stored to the client, and `connection` answers the end the last `store_connection`
of the connection wrote, or what was recorded before. -/
theorem connectionQueries_run (hr : ctx.adapter.ReadsSucceed) (hw : ctx.adapter.WritesSucceed)
    (ops : List ConnectionOp) (cl : ClientId) (c : ConnectionId) :
    (∃ r, IbcConnectionService.clientConnections (runConnectionOps ctx ops).adapter cl.val = .ok r ∧
      ∀ x, x ∈ r ↔ ∃ conn : ConnectionId, x = conn.val ∧
        (conn ∈ (ctx.adapter.store.clientConnections.lookup cl).getD [] ∨
          .storeConnectionToClient conn cl ∈ ops)) ∧
      IbcConnectionService.connection (runConnectionOps ctx ops).adapter c.val =
        .ok ((ops.filterMap (·.endWrite c)).getLast?.or (ctx.adapter.store.connections.lookup c)) := by
  refine ⟨⟨_, clientConnections_of_reads (runConnectionOps_readsSucceed hr ops) cl, fun x => ?_⟩,
    by rw [connection_of_reads (runConnectionOps_readsSucceed hr ops), connectionEnd_run hw]⟩
  simp only [List.mem_map, ← clientConnectionIndex_run hw, @eq_comm _ x, and_comm]

/-- The connection `connection-0` of client `07-tendermint-0` opened: its end
stored, the client's index updated, the counter increased. -/
def openConnection : List ConnectionOp :=
  [.storeConnection connection0 ⟨[]⟩, .storeConnectionToClient connection0 tendermint0,
    .increaseConnectionCounter]

theorem connectionQueries_run_openConnection :
    (∃ r, IbcConnectionService.clientConnections (runConnectionOps tombstoneCtx openConnection).adapter
        tendermint0.val = .ok r ∧
      ∀ x, x ∈ r ↔ ∃ conn : ConnectionId, x = conn.val ∧
        (conn ∈ (tombstoneCtx.adapter.store.clientConnections.lookup tendermint0).getD [] ∨
          .storeConnectionToClient conn tendermint0 ∈ openConnection)) ∧
      IbcConnectionService.connection (runConnectionOps tombstoneCtx openConnection).adapter
          connection0.val =
        .ok ((openConnection.filterMap (·.endWrite connection0)).getLast?.or
          (tombstoneCtx.adapter.store.connections.lookup connection0)) :=
  connectionQueries_run ⟨fun _ => rfl, fun _ => rfl⟩ (fun _ => rfl) _ _ _

example : IbcConnectionService.clientConnections
    (runConnectionOps tombstoneCtx openConnection).adapter "07-tendermint-0" =
      .ok ["connection-0"] := by
  decide

/-- A channel is among the listed entries of a map exactly when its entry is. -/
theorem mem_identifiedChannels {l : List (Σ _ : PortId × ChannelId, ChannelEnd)} {p : PortId}
    {c : ChannelId} {e : ChannelEnd} :
    (⟨p, c, e⟩ : IdentifiedChannel) ∈ l.map (fun x => ⟨x.1.1, x.1.2, x.2⟩) ↔ ⟨(p, c), e⟩ ∈ l := by
  rw [List.mem_map]
  constructor
  · rintro ⟨⟨⟨_, _⟩, _⟩, hx, ⟨⟩⟩
    exact hx
  · exact fun hx => ⟨_, hx, rfl⟩

/-- **The channel queries read off the run**: after any run of the channel keeper
whose reads and writes succeed, `channel` answers the end the last `store_channel` of
the channel wrote, or what was stored before; `channels` lists each channel once, with
that end; `connection_channels` lists it exactly when that end's first hop is the
connection; and `get_next_sequence_send` reads the last sequence the run stored, or
the one stored before, failing where there is none. -/
theorem channelQueries_run (hr : ctx.adapter.ReadsSucceed) (hw : ctx.adapter.WritesSucceed)
    (ops : List ChannelOp) (p : PortId) (c : ChannelId) (conn : ConnectionId) (e : ChannelEnd)
    (n : Sequence) :
    IbcChannelService.channel (runChannelOps ctx ops).adapter ⟨p.val, c.val⟩ =
        .ok ((ops.filterMap (·.channelWrite (p, c))).getLast?.or
          (ctx.adapter.store.channels.lookup (p, c))) ∧
      (∃ r, IbcChannelService.channels (runChannelOps ctx ops).adapter = .ok r ∧
        (r.channels.map fun x => (x.portId, x.channelId)).Nodup ∧
        (⟨p, c, e⟩ ∈ r.channels ↔ (ops.filterMap (·.channelWrite (p, c))).getLast?.or
          (ctx.adapter.store.channels.lookup (p, c)) = some e)) ∧
      (∃ r, IbcChannelService.connectionChannels (runChannelOps ctx ops).adapter conn.val = .ok r ∧
        (⟨p, c, e⟩ ∈ r.channels ↔ (ops.filterMap (·.channelWrite (p, c))).getLast?.or
          (ctx.adapter.store.channels.lookup (p, c)) = some e ∧ e.connectionHops.head? = some conn)) ∧
      (ChannelReader.getNextSequenceSend (runChannelOps ctx ops) (p, c) = .ok n ↔
        (ops.filterMap (·.seqSendWrite (p, c))).getLast?.or
          (ctx.adapter.store.nextSequenceSend.lookup (p, c)) = some n) := by
  have hr' := readsSucceed_run hr ops
  refine ⟨by rw [channel_of_reads hr', channelEnd_run hw], ⟨_, channels_of_reads hr', ?_, ?_⟩,
    ⟨_, connectionChannels_of_reads hr' conn, ?_⟩, ?_⟩
  · rw [List.map_map]
    exact (runChannelOps ctx ops).adapter.store.channels.nodupKeys
  · rw [mem_identifiedChannels, ← AList.mem_lookup_iff, channelEnd_run hw, Option.mem_def]
  · rw [mem_identifiedChannels, List.mem_filter, ← AList.mem_lookup_iff, channelEnd_run hw,
      Option.mem_def, decide_eq_true_iff]
  · rw [ChannelReader.getNextSequenceSend, requireFound_ok, Adapter.getNextSequenceSend,
      Adapter.read_of_reads hr', nextSequenceSend_run hw, Except.ok.injEq]

/-- The channel `transfer/channel-0` opened on `connection-0`: its end stored, its
first sequence to send stored, the counter increased. -/
def openChannel : List ChannelOp :=
  [.storeChannel (transferPort, channel0) ⟨[connection0], []⟩,
    .storeNextSequenceSend (transferPort, channel0) 1, .increaseChannelCounter]

theorem channelQueries_run_openChannel :
    IbcChannelService.channel (runChannelOps tombstoneCtx openChannel).adapter
        ⟨transferPort.val, channel0.val⟩ =
        .ok ((openChannel.filterMap (·.channelWrite (transferPort, channel0))).getLast?.or
          (tombstoneCtx.adapter.store.channels.lookup (transferPort, channel0))) ∧
      (∃ r, IbcChannelService.channels (runChannelOps tombstoneCtx openChannel).adapter = .ok r ∧
        (r.channels.map fun x => (x.portId, x.channelId)).Nodup ∧
        (⟨transferPort, channel0, ⟨[connection0], []⟩⟩ ∈ r.channels ↔
          (openChannel.filterMap (·.channelWrite (transferPort, channel0))).getLast?.or
            (tombstoneCtx.adapter.store.channels.lookup (transferPort, channel0)) =
              some ⟨[connection0], []⟩)) ∧
      (∃ r, IbcChannelService.connectionChannels (runChannelOps tombstoneCtx openChannel).adapter
          connection0.val = .ok r ∧
        (⟨transferPort, channel0, ⟨[connection0], []⟩⟩ ∈ r.channels ↔
          (openChannel.filterMap (·.channelWrite (transferPort, channel0))).getLast?.or
            (tombstoneCtx.adapter.store.channels.lookup (transferPort, channel0)) =
              some ⟨[connection0], []⟩ ∧
          (ChannelEnd.connectionHops ⟨[connection0], []⟩).head? = some connection0)) ∧
      (ChannelReader.getNextSequenceSend (runChannelOps tombstoneCtx openChannel)
          (transferPort, channel0) = .ok 1 ↔
        (openChannel.filterMap (·.seqSendWrite (transferPort, channel0))).getLast?.or
          (tombstoneCtx.adapter.store.nextSequenceSend.lookup (transferPort, channel0)) = some 1) :=
  channelQueries_run ⟨fun _ => rfl, fun _ => rfl⟩ (fun _ => rfl) _ _ _ _ _ _

example : IbcChannelService.connectionChannels (runChannelOps tombstoneCtx openChannel).adapter
    "connection-0" = .ok ⟨[⟨transferPort, channel0, ⟨[connection0], []⟩⟩], some ⟨0, 1⟩⟩ := by
  decide

end Run

end AxonIbc
