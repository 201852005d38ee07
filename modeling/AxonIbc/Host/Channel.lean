import AxonIbc.Host.Context

/-!
# The host context: connections, ports and channels

The `ConnectionKeeper`, `ConnectionReader`, `PortReader`, `ChannelKeeper` and
`ChannelReader` implementations of `IbcImpl` (`core/ibc/src/lib.rs`), and runs of
the channel keeper and of the connection keeper: any sequence of a keeper's calls,
each leaving the context as the call left it.

## What is proved

Over every run, with every write succeeding:

* `receipt_run` — a packet receipt is present exactly when it was present before or
  the run stores it: receipts are append-only, and storing one twice is storing it
  once;
* `commitment_run`, `acknowledgement_run` — the commitment (acknowledgement) of a
  packet is what the last write to it in the run left, and is untouched by calls on
  other keys or other kinds of record;
* `channelEnd_run`, `nextSequenceSend_run` — likewise a channel's end and its next
  sequence to send, each an instance of `lastWrite_run`: a record that every call
  either sets or leaves holds the last value written;
* `runChannelOps_adapter` — a run changes only the store, so the reads and writes
  that succeeded before still do;
* `connectionEnd_run`, `clientConnectionIndex_run` — a connection end is what the
  last `store_connection` of it wrote, and a connection is in the index of a client
  exactly when it was before the run or the run stored it to the client.

Over every run, whatever its calls return, `keeperCounters_run`: the channel and
connection counters are their initial values plus the increments, capped at
`u64::MAX`; no other call, failed or not, touches them.

## Honest scope

`store_connection_channels` and the router's methods are `todo!()`; the unimplemented
`ChannelReader` methods are `unimplemented!()`: they panic on every call and are
not modelled further (`hash` computes a digest and is not used here).
-/

namespace AxonIbc

/-! ### `ConnectionKeeper` and `ConnectionReader for IbcImpl` -/

/-- `store_connection`. -/
def ConnectionKeeper.storeConnection (ctx : IbcImpl) (c : ConnectionId) (e : ConnectionEnd) :
    Except ConnectionError IbcImpl :=
  ctx.keep (ctx.adapter.setConnectionEnd c e) .implementationSpecific

/-- `store_connection_to_client`. -/
def ConnectionKeeper.storeConnectionToClient (ctx : IbcImpl) (conn : ConnectionId) (c : ClientId) :
    Except ConnectionError IbcImpl :=
  ctx.keep (ctx.adapter.setConnectionToClient conn c) .implementationSpecific

/-- `increase_connection_counter`: `self.conn_counter += 1`. -/
def ConnectionKeeper.increaseConnectionCounter (ctx : IbcImpl) : Option IbcImpl :=
  (checkedSucc ctx.connCounter).map ({ ctx with connCounter := · })

/-- `ConnectionReader::connection_end`. -/
def ConnectionReader.connectionEnd (ctx : IbcImpl) (c : ConnectionId) :
    Except ConnectionError ConnectionEnd :=
  requireFound (ctx.adapter.getConnectionEnd c) .implementationSpecific

/-- `ConnectionReader::client_state`: the client reader's, its error wrapped. -/
def ConnectionReader.clientState (ctx : IbcImpl) (c : ClientId) :
    Except ConnectionError AnyClientState :=
  (ClientReader.clientState ctx c).mapError .ics02Client

/-- `host_current_height`: the client reader's `host_height`. -/
def ConnectionReader.hostCurrentHeight (ctx : IbcImpl) : Option Height := ClientReader.hostHeight ctx

/-- `host_oldest_height`: `Height::new(0, 1).unwrap()`. -/
def ConnectionReader.hostOldestHeight : Option Height := (Height.new 0 1).toOption

/-- `commitment_prefix`: `CommitmentPrefix::try_from(b"ibc".to_vec()).unwrap()`; the
conversion refuses only an empty prefix. -/
def ConnectionReader.commitmentPrefix : Option Bytes :=
  let ibc : Bytes := [0x69, 0x62, 0x63]
  if ibc.isEmpty then none else some ibc

/-- `ConnectionReader::client_consensus_state`. -/
def ConnectionReader.clientConsensusState (ctx : IbcImpl) (c : ClientId) (h : Height) :
    Except ConnectionError AnyConsensusState :=
  (ClientReader.consensusState ctx c h).mapError .ics02Client

/-- `ConnectionReader::host_consensus_state`. -/
def ConnectionReader.hostConsensusState (ctx : IbcImpl) (h : Height) :
    Except ConnectionError AnyConsensusState :=
  (ClientReader.hostConsensusState ctx h).mapError .ics02Client

/-- `connection_counter`. -/
def ConnectionReader.connectionCounter (ctx : IbcImpl) : Except ConnectionError UInt64 :=
  .ok ctx.connCounter

/-- `PortReader::lookup_module_by_port`. -/
def PortReader.lookupModuleByPort (ctx : IbcImpl) (p : PortId) : Except PortError ModuleId :=
  match ctx.portToModuleMap.lookup p with
  | some m => .ok m
  | none => .error (.unknownPort p)

/-! ### `ChannelReader for IbcImpl`, the implemented methods -/

/-- `channel_end`. -/
def ChannelReader.channelEnd (ctx : IbcImpl) (pc : PortId × ChannelId) :
    Except ChannelError ChannelEnd :=
  requireFound (ctx.adapter.getChannelEnd pc) .implementationSpecific

/-- `ChannelReader::connection_end`. -/
def ChannelReader.connectionEnd (ctx : IbcImpl) (c : ConnectionId) :
    Except ChannelError ConnectionEnd :=
  requireFound (ctx.adapter.getConnectionEnd c) .implementationSpecific

/-- `ChannelReader::client_state`, read from the adapter directly. -/
def ChannelReader.clientState (ctx : IbcImpl) (c : ClientId) : Except ChannelError AnyClientState :=
  requireFound (ctx.adapter.getClientState c) .implementationSpecific

/-- `ChannelReader::client_consensus_state`. -/
def ChannelReader.clientConsensusState (ctx : IbcImpl) (c : ClientId) (h : Height) :
    Except ChannelError AnyConsensusState :=
  requireFound (ctx.adapter.getConsensusState c h) .implementationSpecific

/-- `get_next_sequence_send`. -/
def ChannelReader.getNextSequenceSend (ctx : IbcImpl) (pc : PortId × ChannelId) :
    Except ChannelError Sequence :=
  requireFound (ctx.adapter.getNextSequenceSend pc) .implementationSpecific

/-- `ChannelReader::host_height`, the same expression as the client reader's. -/
def ChannelReader.hostHeight (ctx : IbcImpl) : Option Height :=
  (Height.new 0 ctx.adapter.currentHeight).toOption

/-! ### `ChannelKeeper for IbcImpl` -/

/-- `store_packet_commitment`. -/
def ChannelKeeper.storePacketCommitment (ctx : IbcImpl) (k : PacketKey) (c : Bytes) :
    Except ChannelError IbcImpl :=
  ctx.keep (ctx.adapter.setPacketCommitment k c) .implementationSpecific

/-- `delete_packet_commitment`. -/
def ChannelKeeper.deletePacketCommitment (ctx : IbcImpl) (k : PacketKey) :
    Except ChannelError IbcImpl :=
  ctx.keep (ctx.adapter.deletePacketCommitment k) .implementationSpecific

/-- `store_packet_receipt`; a `Receipt` has the one value `Receipt::Ok`. -/
def ChannelKeeper.storePacketReceipt (ctx : IbcImpl) (k : PacketKey) : Except ChannelError IbcImpl :=
  ctx.keep (ctx.adapter.setPacketReceipt k) .implementationSpecific

/-- `store_packet_acknowledgement`. -/
def ChannelKeeper.storePacketAcknowledgement (ctx : IbcImpl) (k : PacketKey) (ack : Bytes) :
    Except ChannelError IbcImpl :=
  ctx.keep (ctx.adapter.setPacketAcknowledgement k ack) .implementationSpecific

/-- `delete_packet_acknowledgement`: `self.store_packet_acknowledgement(key, vec![].into())`. -/
def ChannelKeeper.deletePacketAcknowledgement (ctx : IbcImpl) (k : PacketKey) :
    Except ChannelError IbcImpl :=
  ChannelKeeper.storePacketAcknowledgement ctx k []

/-- `store_channel`. -/
def ChannelKeeper.storeChannel (ctx : IbcImpl) (pc : PortId × ChannelId) (e : ChannelEnd) :
    Except ChannelError IbcImpl :=
  ctx.keep (ctx.adapter.setChannel pc e) .implementationSpecific

/-- `store_next_sequence_send`. -/
def ChannelKeeper.storeNextSequenceSend (ctx : IbcImpl) (pc : PortId × ChannelId) (n : Sequence) :
    Except ChannelError IbcImpl :=
  ctx.keep (ctx.adapter.setNextSequenceSend pc n) .implementationSpecific

/-- `store_next_sequence_recv`. -/
def ChannelKeeper.storeNextSequenceRecv (ctx : IbcImpl) (pc : PortId × ChannelId) (n : Sequence) :
    Except ChannelError IbcImpl :=
  ctx.keep (ctx.adapter.setNextSequenceRecv pc n) .implementationSpecific

/-- `store_next_sequence_ack`. -/
def ChannelKeeper.storeNextSequenceAck (ctx : IbcImpl) (pc : PortId × ChannelId) (n : Sequence) :
    Except ChannelError IbcImpl :=
  ctx.keep (ctx.adapter.setNextSequenceAck pc n) .implementationSpecific

/-- `increase_channel_counter`: `self.channel_counter += 1`. -/
def ChannelKeeper.increaseChannelCounter (ctx : IbcImpl) : Option IbcImpl :=
  (checkedSucc ctx.channelCounter).map ({ ctx with channelCounter := · })

/-! ### Runs of the channel keeper -/

/-- A call of one of the channel keeper's writers. -/
inductive ChannelOp where
  /-- `store_packet_commitment(key, commitment)`. -/
  | storePacketCommitment (k : PacketKey) (c : Bytes)
  /-- `delete_packet_commitment(key)`. -/
  | deletePacketCommitment (k : PacketKey)
  /-- `store_packet_receipt(key, Receipt::Ok)`. -/
  | storePacketReceipt (k : PacketKey)
  /-- `store_packet_acknowledgement(key, ack_commitment)`. -/
  | storePacketAcknowledgement (k : PacketKey) (ack : Bytes)
  /-- `delete_packet_acknowledgement(key)`. -/
  | deletePacketAcknowledgement (k : PacketKey)
  /-- `store_channel((port_id, chan_id), channel_end)`. -/
  | storeChannel (pc : PortId × ChannelId) (e : ChannelEnd)
  /-- `store_next_sequence_send((port_id, chan_id), seq)`. -/
  | storeNextSequenceSend (pc : PortId × ChannelId) (n : Sequence)
  /-- `store_next_sequence_recv((port_id, chan_id), seq)`. -/
  | storeNextSequenceRecv (pc : PortId × ChannelId) (n : Sequence)
  /-- `store_next_sequence_ack((port_id, chan_id), seq)`. -/
  | storeNextSequenceAck (pc : PortId × ChannelId) (n : Sequence)
  /-- `increase_channel_counter()`. -/
  | increaseChannelCounter
  deriving DecidableEq

/-- A keeper call's outcome, with the context it leaves: a failed call wrote nothing. -/
def ofKeep {ε : Type} (ctx : IbcImpl) : Except ε IbcImpl → Ret ε Unit × IbcImpl
  | .ok ctx' => (.ok (), ctx')
  | .error e => (.err e, ctx)

/-- The call, its outcome and the context it leaves. -/
def ChannelOp.call (ctx : IbcImpl) : ChannelOp → Ret ChannelError Unit × IbcImpl
  | .storePacketCommitment k c => ofKeep ctx (ChannelKeeper.storePacketCommitment ctx k c)
  | .deletePacketCommitment k => ofKeep ctx (ChannelKeeper.deletePacketCommitment ctx k)
  | .storePacketReceipt k => ofKeep ctx (ChannelKeeper.storePacketReceipt ctx k)
  | .storePacketAcknowledgement k ack =>
    ofKeep ctx (ChannelKeeper.storePacketAcknowledgement ctx k ack)
  | .deletePacketAcknowledgement k => ofKeep ctx (ChannelKeeper.deletePacketAcknowledgement ctx k)
  | .storeChannel pc e => ofKeep ctx (ChannelKeeper.storeChannel ctx pc e)
  | .storeNextSequenceSend pc n => ofKeep ctx (ChannelKeeper.storeNextSequenceSend ctx pc n)
  | .storeNextSequenceRecv pc n => ofKeep ctx (ChannelKeeper.storeNextSequenceRecv ctx pc n)
  | .storeNextSequenceAck pc n => ofKeep ctx (ChannelKeeper.storeNextSequenceAck ctx pc n)
  | .increaseChannelCounter =>
    match ChannelKeeper.increaseChannelCounter ctx with
    | some ctx' => (.ok (), ctx')
    | none => (.panic, ctx)

/-- The context after a run of calls. -/
def runChannelOps (ctx : IbcImpl) (ops : List ChannelOp) : IbcImpl :=
  ops.foldl (fun c op => (op.call c).2) ctx

theorem runChannelOps_append (ctx : IbcImpl) (ops : List ChannelOp) (op : ChannelOp) :
    runChannelOps ctx (ops ++ [op]) = (op.call (runChannelOps ctx ops)).2 := by
  simp [runChannelOps]

/-- What a call writes to the commitment of `k`: `some c` stores `c`, `none` deletes it. -/
def ChannelOp.commitmentWrite (k : PacketKey) : ChannelOp → Option (Option Bytes)
  | .storePacketCommitment k' c => if k = k' then some (some c) else none
  | .deletePacketCommitment k' => if k = k' then some none else none
  | _ => none

/-- What a call writes to the acknowledgement of `k`; a delete writes the empty one. -/
def ChannelOp.ackWrite (k : PacketKey) : ChannelOp → Option Bytes
  | .storePacketAcknowledgement k' ack => if k = k' then some ack else none
  | .deletePacketAcknowledgement k' => if k = k' then some [] else none
  | _ => none

/-- The end a call stores for the channel `pc`. -/
def ChannelOp.channelWrite (pc : PortId × ChannelId) : ChannelOp → Option ChannelEnd
  | .storeChannel pc' e => if pc = pc' then some e else none
  | _ => none

/-- The sequence a call stores as the next one to send on the channel `pc`. -/
def ChannelOp.seqSendWrite (pc : PortId × ChannelId) : ChannelOp → Option Sequence
  | .storeNextSequenceSend pc' n => if pc = pc' then some n else none
  | _ => none

/-- The store a call leaves when its write succeeds: its setter's record. -/
def ChannelOp.effect (tombstone : Bool) (s : Store) : ChannelOp → Store
  | .storePacketCommitment k c => s.setPacketCommitment k c
  | .deletePacketCommitment k => s.deletePacketCommitment tombstone k
  | .storePacketReceipt k => s.setPacketReceipt k
  | .storePacketAcknowledgement k ack => s.setPacketAcknowledgement k ack
  | .deletePacketAcknowledgement k => s.setPacketAcknowledgement k []
  | .storeChannel pc e => s.setChannel pc e
  | .storeNextSequenceSend pc n => s.setNextSequenceSend pc n
  | .storeNextSequenceRecv pc n => s.setNextSequenceRecv pc n
  | .storeNextSequenceAck pc n => s.setNextSequenceAck pc n
  | .increaseChannelCounter => s

/-- A keeper call over a typed setter changes the adapter's store only: to the setter's
update, unless its write fails. -/
theorem ofKeep_write {ε : Type} (ctx : IbcImpl) (p : IbcPath) (u : Store → Store) (e : ε) :
    (ofKeep ctx (ctx.keep (ctx.adapter.write p u) e)).2.adapter =
      { ctx.adapter with
        store := if (ctx.adapter.writeFault p).isSome then ctx.adapter.store else u ctx.adapter.store } := by
  rw [IbcImpl.keep_write]
  split_ifs <;> rfl

/-- **What a call does to the adapter**: only its store changes, and where no write
fails the store becomes the call's `effect`. -/
theorem ChannelOp.call_adapter (ctx : IbcImpl) (op : ChannelOp) :
    ∃ s, (op.call ctx).2.adapter = { ctx.adapter with store := s } ∧
      (ctx.adapter.WritesSucceed → s = op.effect ctx.adapter.tombstoneDeletes ctx.adapter.store) := by
  cases op
  case increaseChannelCounter =>
    simp only [ChannelOp.call, ChannelKeeper.increaseChannelCounter]
    cases checkedSucc ctx.channelCounter <;> exact ⟨_, rfl, fun _ => rfl⟩
  all_goals exact ⟨_, ofKeep_write ctx _ _ _, fun hw => by simp [hw _, ChannelOp.effect]⟩

/-- Where writes succeed, a call leaves its `effect`. -/
theorem ChannelOp.call_store {ctx : IbcImpl} (hw : ctx.adapter.WritesSucceed) (op : ChannelOp) :
    (op.call ctx).2.adapter.store = op.effect ctx.adapter.tombstoneDeletes ctx.adapter.store := by
  obtain ⟨s, h, hs⟩ := ChannelOp.call_adapter ctx op
  rw [h, hs hw]

/-- **A run changes only the store**: the current height, the fault oracles and the
way the adapter deletes are those it started with. -/
theorem runChannelOps_adapter (ctx : IbcImpl) (ops : List ChannelOp) :
    ∃ s, (runChannelOps ctx ops).adapter = { ctx.adapter with store := s } := by
  induction ops using List.reverseRecOn with
  | nil => exact ⟨_, rfl⟩
  | append_singleton ops op ih =>
    obtain ⟨s, hs⟩ := ih
    obtain ⟨s', hs', -⟩ := ChannelOp.call_adapter (runChannelOps ctx ops) op
    exact ⟨s', by rw [runChannelOps_append, hs', hs]⟩

theorem writesSucceed_run {ctx : IbcImpl} (hw : ctx.adapter.WritesSucceed) (ops : List ChannelOp) :
    (runChannelOps ctx ops).adapter.WritesSucceed := by
  obtain ⟨s, h⟩ := runChannelOps_adapter ctx ops
  rw [h]
  exact hw

theorem readsSucceed_run {ctx : IbcImpl} (hr : ctx.adapter.ReadsSucceed) (ops : List ChannelOp) :
    (runChannelOps ctx ops).adapter.ReadsSucceed := by
  obtain ⟨s, h⟩ := runChannelOps_adapter ctx ops
  rw [h]
  exact hr

/-! ### Receipts, commitments and acknowledgements over a run -/

/-- **Receipts, step**: a call adds the receipt of `k` if it stores it, and
otherwise leaves it as it was. -/
theorem ChannelOp.receipts_effect (tombstone : Bool) (s : Store) (op : ChannelOp) (k : PacketKey) :
    (op.effect tombstone s).receipts.lookup k =
      if op = .storePacketReceipt k then some () else s.receipts.lookup k := by
  cases op <;> simp [ChannelOp.effect, Store.setPacketCommitment, Store.deletePacketCommitment,
    Store.setPacketReceipt, Store.setPacketAcknowledgement, Store.setChannel,
    Store.setNextSequenceSend, Store.setNextSequenceRecv, Store.setNextSequenceAck,
    AList.lookup_insert_ite, eq_comm]

/-- **Commitments, step**: a call writes the commitment of `k` as `commitmentWrite`
says, and otherwise leaves it. -/
theorem ChannelOp.commitments_effect (tombstone : Bool) (s : Store) (op : ChannelOp)
    (k : PacketKey) : (op.effect tombstone s).commitments.lookup k =
      match op.commitmentWrite k with
      | none => s.commitments.lookup k
      | some (some c) => some c
      | some none => if tombstone then some [] else none := by
  cases op <;> simp only [ChannelOp.effect, ChannelOp.commitmentWrite, Store.setPacketCommitment,
    Store.deletePacketCommitment, Store.setPacketReceipt, Store.setPacketAcknowledgement,
    Store.setChannel, Store.setNextSequenceSend, Store.setNextSequenceRecv,
    Store.setNextSequenceAck]
  all_goals split_ifs <;> simp_all [AList.lookup_insert_ite, AList.lookup_erase_ite]

/-- **Acknowledgements, step**. -/
theorem ChannelOp.acks_effect (tombstone : Bool) (s : Store) (op : ChannelOp) (k : PacketKey) :
    (op.effect tombstone s).acks.lookup k = (op.ackWrite k).or (s.acks.lookup k) := by
  cases op <;> simp [ChannelOp.effect, ChannelOp.ackWrite, Store.setPacketCommitment,
    Store.deletePacketCommitment, Store.setPacketReceipt, Store.setPacketAcknowledgement,
    Store.setChannel, Store.setNextSequenceSend, Store.setNextSequenceRecv,
    Store.setNextSequenceAck, AList.lookup_insert_ite]
  all_goals split_ifs <;> rfl

/-- **Channel ends, step**. -/
theorem ChannelOp.channels_effect (tombstone : Bool) (s : Store) (op : ChannelOp)
    (pc : PortId × ChannelId) :
    (op.effect tombstone s).channels.lookup pc = (op.channelWrite pc).or (s.channels.lookup pc) := by
  cases op <;> simp [ChannelOp.effect, ChannelOp.channelWrite, Store.setPacketCommitment,
    Store.deletePacketCommitment, Store.setPacketReceipt, Store.setPacketAcknowledgement,
    Store.setChannel, Store.setNextSequenceSend, Store.setNextSequenceRecv,
    Store.setNextSequenceAck, AList.lookup_insert_ite]
  all_goals split_ifs <;> rfl

/-- **Next sequences to send, step**. -/
theorem ChannelOp.seqSends_effect (tombstone : Bool) (s : Store) (op : ChannelOp)
    (pc : PortId × ChannelId) : (op.effect tombstone s).nextSequenceSend.lookup pc =
      (op.seqSendWrite pc).or (s.nextSequenceSend.lookup pc) := by
  cases op <;> simp [ChannelOp.effect, ChannelOp.seqSendWrite, Store.setPacketCommitment,
    Store.deletePacketCommitment, Store.setPacketReceipt, Store.setPacketAcknowledgement,
    Store.setChannel, Store.setNextSequenceSend, Store.setNextSequenceRecv,
    Store.setNextSequenceAck, AList.lookup_insert_ite]
  all_goals split_ifs <;> rfl

/-- **Last write wins, over a run**: a record of the store that each call either
sets to what `w` says or leaves holds, after any run whose writes succeed, the last
value the run wrote, or, if the run never writes it, what it held. -/
theorem lastWrite_run {β : Type} {ctx : IbcImpl} (hw : ctx.adapter.WritesSucceed)
    (get : Store → Option β) (w : ChannelOp → Option β)
    (hstep : ∀ t s op, get (ChannelOp.effect t s op) = (w op).or (get s)) (ops : List ChannelOp) :
    get (runChannelOps ctx ops).adapter.store = (ops.filterMap w).getLast?.or (get ctx.adapter.store) := by
  induction ops using List.reverseRecOn with
  | nil => simp [runChannelOps]
  | append_singleton ops op ih =>
    rw [runChannelOps_append, ChannelOp.call_store (writesSucceed_run hw ops), hstep, ih,
      List.filterMap_append, List.getLast?_append]
    cases h : w op <;> simp [h]

/-- **Receipts are append-only**: after any run whose writes succeed, the receipt of
`k` is present exactly when it was before or the run stores it. -/
theorem receipt_run {ctx : IbcImpl} (hw : ctx.adapter.WritesSucceed) (ops : List ChannelOp)
    (k : PacketKey) : (runChannelOps ctx ops).adapter.store.receipts.lookup k =
      if ChannelOp.storePacketReceipt k ∈ ops then some () else ctx.adapter.store.receipts.lookup k := by
  induction ops using List.reverseRecOn with
  | nil => simp [runChannelOps]
  | append_singleton ops op ih =>
    rw [runChannelOps_append, ChannelOp.call_store (writesSucceed_run hw ops),
      ChannelOp.receipts_effect, ih]
    by_cases h : ChannelOp.storePacketReceipt k = op
    · subst h; simp
    · simp [h, Ne.symm h]

/-- **Commitments over a run**: the commitment of `k` is what the last write to it
left (a delete: the empty commitment or nothing, as the adapter deletes), or, if the
run never writes it, what it was. -/
theorem commitment_run {ctx : IbcImpl} (hw : ctx.adapter.WritesSucceed) (ops : List ChannelOp)
    (k : PacketKey) : (runChannelOps ctx ops).adapter.store.commitments.lookup k =
      match (ops.filterMap (·.commitmentWrite k)).getLast? with
      | none => ctx.adapter.store.commitments.lookup k
      | some (some c) => some c
      | some none => if ctx.adapter.tombstoneDeletes then some [] else none := by
  induction ops using List.reverseRecOn with
  | nil => simp [runChannelOps]
  | append_singleton ops op ih =>
    obtain ⟨s, hs⟩ := runChannelOps_adapter ctx ops
    rw [runChannelOps_append, ChannelOp.call_store (writesSucceed_run hw ops),
      ChannelOp.commitments_effect, ih, hs, List.filterMap_append, List.getLast?_append]
    rcases h : op.commitmentWrite k with _ | _ | _ <;> simp [h]

/-- **Acknowledgements over a run**: the acknowledgement of `k` is what the last
store or delete of it wrote, or, if the run never writes it, what it was. -/
theorem acknowledgement_run {ctx : IbcImpl} (hw : ctx.adapter.WritesSucceed) (ops : List ChannelOp)
    (k : PacketKey) : (runChannelOps ctx ops).adapter.store.acks.lookup k =
      (ops.filterMap (·.ackWrite k)).getLast?.or (ctx.adapter.store.acks.lookup k) :=
  lastWrite_run hw (·.acks.lookup k) _ (fun t s op => ChannelOp.acks_effect t s op k) ops

/-- **Channel ends over a run**: a channel's end is what the last `store_channel` of
it wrote, or, if the run never stores it, what it was. -/
theorem channelEnd_run {ctx : IbcImpl} (hw : ctx.adapter.WritesSucceed) (ops : List ChannelOp)
    (pc : PortId × ChannelId) : (runChannelOps ctx ops).adapter.store.channels.lookup pc =
      (ops.filterMap (·.channelWrite pc)).getLast?.or (ctx.adapter.store.channels.lookup pc) :=
  lastWrite_run hw (·.channels.lookup pc) _ (fun t s op => ChannelOp.channels_effect t s op pc) ops

/-- **Next sequences to send over a run**: the last one the run stored, or, if it
stores none, what it was. -/
theorem nextSequenceSend_run {ctx : IbcImpl} (hw : ctx.adapter.WritesSucceed)
    (ops : List ChannelOp) (pc : PortId × ChannelId) :
    (runChannelOps ctx ops).adapter.store.nextSequenceSend.lookup pc =
      (ops.filterMap (·.seqSendWrite pc)).getLast?.or
        (ctx.adapter.store.nextSequenceSend.lookup pc) :=
  lastWrite_run hw (·.nextSequenceSend.lookup pc) _
    (fun t s op => ChannelOp.seqSends_effect t s op pc) ops

/-! ### Runs of the connection keeper -/

/-- A call of one of the connection keeper's writers. -/
inductive ConnectionOp where
  /-- `store_connection(connection_id, connection_end)`. -/
  | storeConnection (c : ConnectionId) (e : ConnectionEnd)
  /-- `store_connection_to_client(connection_id, client_id)`. -/
  | storeConnectionToClient (conn : ConnectionId) (c : ClientId)
  /-- `increase_connection_counter()`. -/
  | increaseConnectionCounter
  deriving DecidableEq

/-- The call, its outcome and the context it leaves. -/
def ConnectionOp.call (ctx : IbcImpl) : ConnectionOp → Ret ConnectionError Unit × IbcImpl
  | .storeConnection c e => ofKeep ctx (ConnectionKeeper.storeConnection ctx c e)
  | .storeConnectionToClient conn c =>
    ofKeep ctx (ConnectionKeeper.storeConnectionToClient ctx conn c)
  | .increaseConnectionCounter =>
    match ConnectionKeeper.increaseConnectionCounter ctx with
    | some ctx' => (.ok (), ctx')
    | none => (.panic, ctx)

/-- The context after a run of calls. -/
def runConnectionOps (ctx : IbcImpl) (ops : List ConnectionOp) : IbcImpl :=
  ops.foldl (fun c op => (op.call c).2) ctx

theorem runConnectionOps_append (ctx : IbcImpl) (ops : List ConnectionOp) (op : ConnectionOp) :
    runConnectionOps ctx (ops ++ [op]) = (op.call (runConnectionOps ctx ops)).2 := by
  simp [runConnectionOps]

/-- The end a call writes for the connection `c`. -/
def ConnectionOp.endWrite (c : ConnectionId) : ConnectionOp → Option ConnectionEnd
  | .storeConnection c' e => if c = c' then some e else none
  | _ => none

/-- The store a call leaves when its write succeeds: its setter's record. -/
def ConnectionOp.effect (s : Store) : ConnectionOp → Store
  | .storeConnection c e => s.setConnectionEnd c e
  | .storeConnectionToClient conn c => s.setConnectionToClient conn c
  | .increaseConnectionCounter => s

/-- **What a call does to the adapter**: only its store changes, and where no write
fails the store becomes the call's `effect`. -/
theorem ConnectionOp.call_adapter (ctx : IbcImpl) (op : ConnectionOp) :
    ∃ s, (op.call ctx).2.adapter = { ctx.adapter with store := s } ∧
      (ctx.adapter.WritesSucceed → s = op.effect ctx.adapter.store) := by
  cases op
  case increaseConnectionCounter =>
    simp only [ConnectionOp.call, ConnectionKeeper.increaseConnectionCounter]
    cases checkedSucc ctx.connCounter <;> exact ⟨_, rfl, fun _ => rfl⟩
  all_goals exact ⟨_, ofKeep_write ctx _ _ _, fun hw => by simp [hw _, ConnectionOp.effect]⟩

theorem ConnectionOp.call_store {ctx : IbcImpl} (hw : ctx.adapter.WritesSucceed)
    (op : ConnectionOp) : (op.call ctx).2.adapter.store = op.effect ctx.adapter.store := by
  obtain ⟨s, h, hs⟩ := ConnectionOp.call_adapter ctx op
  rw [h, hs hw]

/-- A run of the connection keeper changes only the store. -/
theorem runConnectionOps_adapter (ctx : IbcImpl) (ops : List ConnectionOp) :
    ∃ s, (runConnectionOps ctx ops).adapter = { ctx.adapter with store := s } := by
  induction ops using List.reverseRecOn with
  | nil => exact ⟨_, rfl⟩
  | append_singleton ops op ih =>
    obtain ⟨s, hs⟩ := ih
    obtain ⟨s', hs', -⟩ := ConnectionOp.call_adapter (runConnectionOps ctx ops) op
    exact ⟨s', by rw [runConnectionOps_append, hs', hs]⟩

theorem runConnectionOps_writesSucceed {ctx : IbcImpl} (hw : ctx.adapter.WritesSucceed)
    (ops : List ConnectionOp) : (runConnectionOps ctx ops).adapter.WritesSucceed := by
  obtain ⟨s, h⟩ := runConnectionOps_adapter ctx ops
  rw [h]
  exact hw

theorem runConnectionOps_readsSucceed {ctx : IbcImpl} (hr : ctx.adapter.ReadsSucceed)
    (ops : List ConnectionOp) : (runConnectionOps ctx ops).adapter.ReadsSucceed := by
  obtain ⟨s, h⟩ := runConnectionOps_adapter ctx ops
  rw [h]
  exact hr

/-- **Connection ends, step**: a call writes the end of `c` as `endWrite` says, and
otherwise leaves it. -/
theorem ConnectionOp.connections_effect (s : Store) (op : ConnectionOp) (c : ConnectionId) :
    (op.effect s).connections.lookup c = (op.endWrite c).or (s.connections.lookup c) := by
  cases op <;> simp [ConnectionOp.effect, ConnectionOp.endWrite, Store.setConnectionEnd,
    Store.setConnectionToClient, AList.lookup_insert_ite]
  split_ifs <;> rfl

/-- **The client index, step**: a connection is in the index of `cl` after a call
exactly when it was before or the call stores it to `cl`. -/
theorem ConnectionOp.clientConnections_effect (s : Store) (op : ConnectionOp) (cl : ClientId)
    (conn : ConnectionId) :
    conn ∈ ((op.effect s).clientConnections.lookup cl).getD [] ↔
      conn ∈ (s.clientConnections.lookup cl).getD [] ∨ op = .storeConnectionToClient conn cl := by
  cases op <;> simp only [ConnectionOp.effect, Store.setConnectionEnd, Store.setConnectionToClient,
    AList.lookup_insert_ite, reduceCtorEq, or_false]
  split_ifs with h
  · subst h
    simp [eq_comm]
  · simp [Ne.symm h]

/-- **Connection ends over a run**: the end of `c` is what the last `store_connection`
of it wrote, or, if the run never writes it, what it was. -/
theorem connectionEnd_run {ctx : IbcImpl} (hw : ctx.adapter.WritesSucceed)
    (ops : List ConnectionOp) (c : ConnectionId) :
    (runConnectionOps ctx ops).adapter.store.connections.lookup c =
      (ops.filterMap (·.endWrite c)).getLast?.or (ctx.adapter.store.connections.lookup c) := by
  induction ops using List.reverseRecOn with
  | nil => simp [runConnectionOps]
  | append_singleton ops op ih =>
    rw [runConnectionOps_append, ConnectionOp.call_store (runConnectionOps_writesSucceed hw ops),
      ConnectionOp.connections_effect, ih, List.filterMap_append, List.getLast?_append]
    cases h : op.endWrite c <;> simp [h]

/-- **The client index over a run**: a connection is in the index of `cl` exactly when
it was before the run or the run stores it to `cl`. -/
theorem clientConnectionIndex_run {ctx : IbcImpl} (hw : ctx.adapter.WritesSucceed)
    (ops : List ConnectionOp) (cl : ClientId) (conn : ConnectionId) :
    conn ∈ ((runConnectionOps ctx ops).adapter.store.clientConnections.lookup cl).getD [] ↔
      conn ∈ (ctx.adapter.store.clientConnections.lookup cl).getD [] ∨
        .storeConnectionToClient conn cl ∈ ops := by
  induction ops using List.reverseRecOn with
  | nil => simp [runConnectionOps]
  | append_singleton ops op ih =>
    rw [runConnectionOps_append, ConnectionOp.call_store (runConnectionOps_writesSucceed hw ops),
      ConnectionOp.clientConnections_effect, ih, List.mem_append, List.mem_singleton, or_assoc,
      @eq_comm _ op]

/-! ### The keepers' counters -/

/-- `self.counter += 1` on a `u64`: one more, or, at `u64::MAX`, a panic that leaves
the counter as it was. -/
theorem checkedSucc_getD (x : UInt64) :
    ((checkedSucc x).getD x).toNat = min (x.toNat + 1) (UInt64.size - 1) := by
  have := x.toNat_lt_size
  unfold checkedSucc
  split_ifs with h
  · rw [Option.getD_some, UInt64.toNat_add_one h]
    omega
  · rw [Option.getD_none]
    omega

/-- A keeper call over the adapter leaves everything but the adapter. -/
theorem ofKeep_keep {ε : Type} (ctx : IbcImpl) (w : Except StoreError Adapter) (e : ε) :
    ∃ a, (ofKeep ctx (ctx.keep w e)).2 = { ctx with adapter := a } := by
  cases w <;> exact ⟨_, rfl⟩

/-- A `u64` counter over a run of calls, each of which either is the increment, adding
one (at `u64::MAX` it panics, leaving the counter), or leaves the counter: the initial
value plus the number of increments, capped at `u64::MAX`. -/
theorem counter_foldl {α : Type} [DecidableEq α] (step : IbcImpl → α → IbcImpl)
    (cnt : IbcImpl → UInt64) (inc : α)
    (hstep : ∀ c op, (cnt (step c op)).toNat =
      if op = inc then min ((cnt c).toNat + 1) (UInt64.size - 1) else (cnt c).toNat) :
    ∀ (ctx : IbcImpl) (ops : List α),
      (cnt (ops.foldl step ctx)).toNat = min ((cnt ctx).toNat + ops.count inc) (UInt64.size - 1)
  | ctx, [] => by
    have := (cnt ctx).toNat_lt_size
    simp only [List.foldl_nil, List.count_nil]
    omega
  | ctx, op :: ops => by
    rw [List.foldl_cons, counter_foldl step cnt inc hstep _ ops, hstep, List.count_cons]
    by_cases h : op = inc
    · simp only [h, if_true, beq_self_eq_true]
      generalize UInt64.size - 1 = m
      omega
    · simp only [h, if_false, beq_iff_eq, Nat.add_zero]

theorem ChannelOp.call_channelCounter (ctx : IbcImpl) (op : ChannelOp) :
    (op.call ctx).2.channelCounter.toNat =
      if op = .increaseChannelCounter then min (ctx.channelCounter.toNat + 1) (UInt64.size - 1)
      else ctx.channelCounter.toNat := by
  cases op
  case increaseChannelCounter =>
    rw [if_pos rfl, ← checkedSucc_getD]
    simp only [ChannelOp.call, ChannelKeeper.increaseChannelCounter]
    cases checkedSucc ctx.channelCounter <;> rfl
  all_goals
    rw [if_neg nofun]
    exact congrArg (fun c => c.channelCounter.toNat) (ofKeep_keep ctx _ _).choose_spec

theorem ConnectionOp.call_connCounter (ctx : IbcImpl) (op : ConnectionOp) :
    (op.call ctx).2.connCounter.toNat =
      if op = .increaseConnectionCounter then min (ctx.connCounter.toNat + 1) (UInt64.size - 1)
      else ctx.connCounter.toNat := by
  cases op
  case increaseConnectionCounter =>
    rw [if_pos rfl, ← checkedSucc_getD]
    simp only [ConnectionOp.call, ConnectionKeeper.increaseConnectionCounter]
    cases checkedSucc ctx.connCounter <;> rfl
  all_goals
    rw [if_neg nofun]
    exact congrArg (fun c => c.connCounter.toNat) (ofKeep_keep ctx _ _).choose_spec

/-- **The keepers' counters only go up**: after any run of the channel keeper (the
connection keeper), whatever each call returned, the channel (connection) counter is
its initial value plus the number of `increase_channel_counter`
(`increase_connection_counter`) calls, capped at `u64::MAX`, where the call panics. -/
theorem keeperCounters_run (ctx : IbcImpl) (chOps : List ChannelOp)
    (connOps : List ConnectionOp) :
    (runChannelOps ctx chOps).channelCounter.toNat =
        min (ctx.channelCounter.toNat + chOps.count .increaseChannelCounter) (UInt64.size - 1) ∧
      (runConnectionOps ctx connOps).connCounter.toNat =
        min (ctx.connCounter.toNat + connOps.count .increaseConnectionCounter) (UInt64.size - 1) :=
  ⟨counter_foldl (fun c (op : ChannelOp) => (op.call c).2) (·.channelCounter) _
      ChannelOp.call_channelCounter ctx chOps,
    counter_foldl (fun c (op : ConnectionOp) => (op.call c).2) (·.connCounter) _
      ConnectionOp.call_connCounter ctx connOps⟩

end AxonIbc
