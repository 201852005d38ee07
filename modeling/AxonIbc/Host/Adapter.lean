import Mathlib.Data.List.AList
import AxonIbc.Ibc.Path

/-!
# The commitment store adapter

Every record of the host chain's IBC state lives behind an adapter (`IbcAdapter`
for the query services, `IbcContext` for the host context): point reads at the
pending height, prefix scans, the current height, and typed setters. The traits
and their implementation are outside `src/`; the adapter is modelled from the
spec (§4.2): a path-addressed store whose pending state the reads observe, with
each read, scan and write able to fail.

## The model

`Store` keeps one finite map per kind of record, keyed by the path's identifiers.
`Adapter` adds the current height and three fault oracles: which reads, which
scans and which writes fail, and with what error. A failed write leaves the store
as it was. Whether `delete_packet_commitment` removes the record or writes an
empty commitment (the tombstone convention of spec §9) is the adapter's choice,
`tombstoneDeletes`; everything below holds for both.

A scan returns the stored paths the prefix matches, kind by kind.
-/

namespace AxonIbc

/-- An error of the adapter, with its message. -/
structure StoreError where
  /-- The text a `Status` built from it carries. -/
  message : String
  deriving DecidableEq, Repr

/-- The records of the store, one map per kind. -/
structure Store where
  /-- `clients/{id}/clientType`. -/
  clientTypes : AList (fun _ : ClientId => ClientType)
  /-- `clients/{id}/clientState`. -/
  clientStates : AList (fun _ : ClientId => AnyClientState)
  /-- `clients/{id}/consensusStates/{height}`. -/
  consensusStates : AList (fun _ : ClientId × Height => AnyConsensusState)
  /-- `clients/{id}/connections`. -/
  clientConnections : AList (fun _ : ClientId => List ConnectionId)
  /-- `connections/{id}`. -/
  connections : AList (fun _ : ConnectionId => ConnectionEnd)
  /-- `channelEnds/ports/{port}/channels/{channel}`. -/
  channels : AList (fun _ : PortId × ChannelId => ChannelEnd)
  /-- `nextSequenceSend/ports/{port}/channels/{channel}`. -/
  nextSequenceSend : AList (fun _ : PortId × ChannelId => Sequence)
  /-- `nextSequenceRecv/ports/{port}/channels/{channel}`. -/
  nextSequenceRecv : AList (fun _ : PortId × ChannelId => Sequence)
  /-- `nextSequenceAck/ports/{port}/channels/{channel}`. -/
  nextSequenceAck : AList (fun _ : PortId × ChannelId => Sequence)
  /-- `commitments/ports/{port}/channels/{channel}/sequences/{seq}`. -/
  commitments : AList (fun _ : PacketKey => Bytes)
  /-- `receipts/ports/{port}/channels/{channel}/sequences/{seq}`. -/
  receipts : AList (fun _ : PacketKey => Unit)
  /-- `acks/ports/{port}/channels/{channel}/sequences/{seq}`. -/
  acks : AList (fun _ : PacketKey => Bytes)

/-- The store of a chain with no IBC state. -/
def Store.empty : Store := ⟨∅, ∅, ∅, ∅, ∅, ∅, ∅, ∅, ∅, ∅, ∅, ∅⟩

/-- Every stored path, kind by kind. -/
def Store.paths (s : Store) : List IbcPath :=
  s.clientTypes.keys.map .clientType ++ s.clientStates.keys.map .clientState ++
    s.consensusStates.keys.map (fun k => .clientConsensusState k.1 k.2) ++
    s.clientConnections.keys.map .clientConnections ++ s.connections.keys.map .connections ++
    s.channels.keys.map .channelEnds ++ s.nextSequenceSend.keys.map .seqSends ++
    s.nextSequenceRecv.keys.map .seqRecvs ++ s.nextSequenceAck.keys.map .seqAcks ++
    s.commitments.keys.map .commitments ++ s.acks.keys.map .acks ++
    s.receipts.keys.map .receipts

/-- The adapter: the pending state of the store, the chain's current height, and
what fails. -/
structure Adapter where
  /-- The records, at the pending height. -/
  store : Store
  /-- `get_current_height()` / `current_height()`. -/
  currentHeight : UInt64
  /-- The reads that fail, with their error. -/
  readFault : IbcPath → Option StoreError
  /-- The scans that fail. -/
  scanFault : PathPrefix → Option StoreError
  /-- The writes that fail. -/
  writeFault : IbcPath → Option StoreError
  /-- `delete_packet_commitment` writes an empty commitment rather than removing it. -/
  tombstoneDeletes : Bool

/-- No read and no scan fails. -/
def Adapter.ReadsSucceed (a : Adapter) : Prop :=
  (∀ p, a.readFault p = none) ∧ ∀ pre, a.scanFault pre = none

/-- No write fails. -/
def Adapter.WritesSucceed (a : Adapter) : Prop := ∀ p, a.writeFault p = none

/-- A lookup after an insert, as a case on the key. -/
theorem AList.lookup_insert_ite {α β : Type} [DecidableEq α] (s : AList (fun _ : α => β))
    (a a' : α) (b : β) : (s.insert a' b).lookup a = if a = a' then some b else s.lookup a := by
  split_ifs with h
  · subst h; exact AList.lookup_insert s
  · exact AList.lookup_insert_ne h

/-- A lookup after an erase, as a case on the key. -/
theorem AList.lookup_erase_ite {α β : Type} [DecidableEq α] (s : AList (fun _ : α => β))
    (a a' : α) : (s.erase a').lookup a = if a = a' then none else s.lookup a := by
  split_ifs with h
  · subst h; exact AList.lookup_erase a s
  · exact AList.lookup_erase_ne h

/-! ### Reads -/

/-- Modelled from the spec: a point read at the pending height (`get(Pending, path)`),
the record found at `p`, unless reading `p` fails. -/
def Adapter.read {α : Type} (a : Adapter) (p : IbcPath) (found : Option α) :
    Except StoreError (Option α) :=
  match a.readFault p with
  | some e => .error e
  | none => .ok found

/-- Modelled from the spec: `get_paths_by_prefix(prefix)`, the stored paths the prefix
matches, kind by kind, unless the scan fails. -/
def Adapter.getPathsByPrefix (a : Adapter) (pre : PathPrefix) : Except StoreError (List IbcPath) :=
  match a.scanFault pre with
  | some e => .error e
  | none => .ok (a.store.paths.filter pre.matches)

/-- Modelled from the spec: `get_client_type(client_id)`, a point read. -/
def Adapter.getClientType (a : Adapter) (c : ClientId) : Except StoreError (Option ClientType) :=
  a.read (.clientType c) (a.store.clientTypes.lookup c)

/-- Modelled from the spec: `get_client_state`, a point read. -/
def Adapter.getClientState (a : Adapter) (c : ClientId) : Except StoreError (Option AnyClientState) :=
  a.read (.clientState c) (a.store.clientStates.lookup c)

/-- Modelled from the spec: `get_consensus_state`, a point read. -/
def Adapter.getConsensusState (a : Adapter) (c : ClientId) (h : Height) :
    Except StoreError (Option AnyConsensusState) :=
  a.read (.clientConsensusState c h) (a.store.consensusStates.lookup (c, h))

/-- Modelled from the spec: `get_connection_ids`, the client's entry of the reverse
client-to-connections index; none recorded is the empty list. -/
def Adapter.getConnectionIds (a : Adapter) (c : ClientId) : Except StoreError (List ConnectionId) :=
  (a.read (.clientConnections c) (a.store.clientConnections.lookup c)).map (·.getD [])

/-- Modelled from the spec: `get_connection_end`, a point read. -/
def Adapter.getConnectionEnd (a : Adapter) (c : ConnectionId) :
    Except StoreError (Option ConnectionEnd) :=
  a.read (.connections c) (a.store.connections.lookup c)

/-- Modelled from the spec: `get_channel_end`, a point read. -/
def Adapter.getChannelEnd (a : Adapter) (pc : PortId × ChannelId) :
    Except StoreError (Option ChannelEnd) :=
  a.read (.channelEnds pc) (a.store.channels.lookup pc)

/-- Modelled from the spec: `get_next_sequence_send`, a point read. -/
def Adapter.getNextSequenceSend (a : Adapter) (pc : PortId × ChannelId) :
    Except StoreError (Option Sequence) :=
  a.read (.seqSends pc) (a.store.nextSequenceSend.lookup pc)

/-- Modelled from the spec: `get_packet_commitment`, a point read. -/
def Adapter.getPacketCommitment (a : Adapter) (k : PacketKey) : Except StoreError (Option Bytes) :=
  a.read (.commitments k) (a.store.commitments.lookup k)

/-- Modelled from the spec: `get_acknowledgement_commitment`, a point read. -/
def Adapter.getAcknowledgementCommitment (a : Adapter) (k : PacketKey) :
    Except StoreError (Option Bytes) :=
  a.read (.acks k) (a.store.acks.lookup k)

/-- Modelled from the spec: `get_opt` on a `ReceiptsPath`, a point read. -/
def Adapter.getReceipt (a : Adapter) (k : PacketKey) : Except StoreError (Option Unit) :=
  a.read (.receipts k) (a.store.receipts.lookup k)

/-! ### Writes -/

/-- Modelled from the spec: a typed setter, the store updated, unless writing `p` fails,
which leaves the adapter unchanged. -/
def Adapter.write (a : Adapter) (p : IbcPath) (update : Store → Store) : Except StoreError Adapter :=
  match a.writeFault p with
  | some e => .error e
  | none => .ok { a with store := update a.store }

/-! The records each setter writes, modelled from the spec: a setter records its value
under its path, replacing what was there. -/

/-- Modelled from the spec: the client type of `c` recorded. -/
def Store.setClientType (s : Store) (c : ClientId) (t : ClientType) : Store :=
  { s with clientTypes := s.clientTypes.insert c t }

/-- Modelled from the spec: the client state of `c` recorded. -/
def Store.setClientState (s : Store) (c : ClientId) (cs : AnyClientState) : Store :=
  { s with clientStates := s.clientStates.insert c cs }

/-- Modelled from the spec: the consensus state of `c` at `h` recorded. -/
def Store.setConsensusState (s : Store) (c : ClientId) (h : Height) (cs : AnyConsensusState) :
    Store :=
  { s with consensusStates := s.consensusStates.insert (c, h) cs }

/-- Modelled from the spec: `set_client_type`, a typed setter. -/
def Adapter.setClientType (a : Adapter) (c : ClientId) (t : ClientType) : Except StoreError Adapter :=
  a.write (.clientType c) (·.setClientType c t)

/-- Modelled from the spec: `set_client_state`, a typed setter. -/
def Adapter.setClientState (a : Adapter) (c : ClientId) (cs : AnyClientState) :
    Except StoreError Adapter :=
  a.write (.clientState c) (·.setClientState c cs)

/-- Modelled from the spec: `set_consensus_state`, a typed setter. -/
def Adapter.setConsensusState (a : Adapter) (c : ClientId) (h : Height) (cs : AnyConsensusState) :
    Except StoreError Adapter :=
  a.write (.clientConsensusState c h) (·.setConsensusState c h cs)

/-- Modelled from the spec: the connection end of `c` recorded. -/
def Store.setConnectionEnd (s : Store) (c : ConnectionId) (e : ConnectionEnd) : Store :=
  { s with connections := s.connections.insert c e }

/-- Modelled from the spec: the connection `conn` added to the reverse index of client `c`
("a reverse client→connections index"). Neither the spec nor the repository fixes the
index's order, or whether a connection stored twice is listed twice: appending is the
model's choice, and what is proved of the index is stated by membership. -/
def Store.setConnectionToClient (s : Store) (conn : ConnectionId) (c : ClientId) : Store :=
  { s with clientConnections :=
      s.clientConnections.insert c ((s.clientConnections.lookup c).getD [] ++ [conn]) }

/-- Modelled from the spec: the channel end of `pc` recorded. -/
def Store.setChannel (s : Store) (pc : PortId × ChannelId) (e : ChannelEnd) : Store :=
  { s with channels := s.channels.insert pc e }

/-- Modelled from the spec: the next send sequence of `pc` recorded. -/
def Store.setNextSequenceSend (s : Store) (pc : PortId × ChannelId) (n : Sequence) : Store :=
  { s with nextSequenceSend := s.nextSequenceSend.insert pc n }

/-- Modelled from the spec: the next receive sequence of `pc` recorded. -/
def Store.setNextSequenceRecv (s : Store) (pc : PortId × ChannelId) (n : Sequence) : Store :=
  { s with nextSequenceRecv := s.nextSequenceRecv.insert pc n }

/-- Modelled from the spec: the next acknowledgement sequence of `pc` recorded. -/
def Store.setNextSequenceAck (s : Store) (pc : PortId × ChannelId) (n : Sequence) : Store :=
  { s with nextSequenceAck := s.nextSequenceAck.insert pc n }

/-- Modelled from the spec: the commitment of `k` recorded. -/
def Store.setPacketCommitment (s : Store) (k : PacketKey) (c : Bytes) : Store :=
  { s with commitments := s.commitments.insert k c }

/-- Modelled from the spec: the commitment of `k` deleted, an empty one written
(`tombstone`), or the record removed. -/
def Store.deletePacketCommitment (s : Store) (tombstone : Bool) (k : PacketKey) : Store :=
  { s with commitments := if tombstone then s.commitments.insert k [] else s.commitments.erase k }

/-- Modelled from the spec: the receipt of `k` recorded. -/
def Store.setPacketReceipt (s : Store) (k : PacketKey) : Store :=
  { s with receipts := s.receipts.insert k () }

/-- Modelled from the spec: the acknowledgement of `k` recorded. -/
def Store.setPacketAcknowledgement (s : Store) (k : PacketKey) (ack : Bytes) : Store :=
  { s with acks := s.acks.insert k ack }

/-- Modelled from the spec: `set_connection_end`, a typed setter. -/
def Adapter.setConnectionEnd (a : Adapter) (c : ConnectionId) (e : ConnectionEnd) :
    Except StoreError Adapter :=
  a.write (.connections c) (·.setConnectionEnd c e)

/-- Modelled from the spec: `set_connection_to_client`, a typed setter. -/
def Adapter.setConnectionToClient (a : Adapter) (conn : ConnectionId) (c : ClientId) :
    Except StoreError Adapter :=
  a.write (.clientConnections c) (·.setConnectionToClient conn c)

/-- Modelled from the spec: `set_channel`, a typed setter. -/
def Adapter.setChannel (a : Adapter) (pc : PortId × ChannelId) (e : ChannelEnd) :
    Except StoreError Adapter :=
  a.write (.channelEnds pc) (·.setChannel pc e)

/-- Modelled from the spec: `set_next_sequence_send`, a typed setter. -/
def Adapter.setNextSequenceSend (a : Adapter) (pc : PortId × ChannelId) (n : Sequence) :
    Except StoreError Adapter :=
  a.write (.seqSends pc) (·.setNextSequenceSend pc n)

/-- Modelled from the spec: `set_next_sequence_recv`, a typed setter. -/
def Adapter.setNextSequenceRecv (a : Adapter) (pc : PortId × ChannelId) (n : Sequence) :
    Except StoreError Adapter :=
  a.write (.seqRecvs pc) (·.setNextSequenceRecv pc n)

/-- Modelled from the spec: `set_next_sequence_ack`, a typed setter. -/
def Adapter.setNextSequenceAck (a : Adapter) (pc : PortId × ChannelId) (n : Sequence) :
    Except StoreError Adapter :=
  a.write (.seqAcks pc) (·.setNextSequenceAck pc n)

/-- Modelled from the spec: `set_packet_commitment`, a typed setter. -/
def Adapter.setPacketCommitment (a : Adapter) (k : PacketKey) (c : Bytes) :
    Except StoreError Adapter :=
  a.write (.commitments k) (·.setPacketCommitment k c)

/-- Modelled from the spec: `delete_packet_commitment`, as the adapter deletes. -/
def Adapter.deletePacketCommitment (a : Adapter) (k : PacketKey) : Except StoreError Adapter :=
  a.write (.commitments k) (·.deletePacketCommitment a.tombstoneDeletes k)

/-- Modelled from the spec: `set_packet_receipt`, a typed setter. -/
def Adapter.setPacketReceipt (a : Adapter) (k : PacketKey) : Except StoreError Adapter :=
  a.write (.receipts k) (·.setPacketReceipt k)

/-- Modelled from the spec: `set_packet_acknowledgement`, a typed setter. -/
def Adapter.setPacketAcknowledgement (a : Adapter) (k : PacketKey) (ack : Bytes) :
    Except StoreError Adapter :=
  a.write (.acks k) (·.setPacketAcknowledgement k ack)

/-- A write changes nothing but the store. -/
theorem Adapter.write_ok {a a' : Adapter} {p : IbcPath} {u : Store → Store}
    (h : a.write p u = .ok a') : a' = { a with store := u a.store } := by
  unfold Adapter.write at h
  split at h <;> simp_all

/-- A write fails exactly when writing its path fails. -/
theorem Adapter.write_error {a : Adapter} {p : IbcPath} {u : Store → Store} {e : StoreError} :
    a.write p u = .error e ↔ a.writeFault p = some e := by
  unfold Adapter.write
  split <;> simp_all

/-- Where no write fails, a write is the update. -/
@[simp] theorem Adapter.write_of_none {a : Adapter} {p : IbcPath} {u : Store → Store}
    (h : a.writeFault p = none) : a.write p u = .ok { a with store := u a.store } := by
  simp [Adapter.write, h]

/-- Where no read fails, a read finds the record. -/
@[simp] theorem Adapter.read_of_none {α : Type} {a : Adapter} {p : IbcPath} {found : Option α}
    (h : a.readFault p = none) : a.read p found = .ok found := by
  simp [Adapter.read, h]

/-- A read that returned did not fail. -/
theorem Adapter.read_ok {α : Type} {a : Adapter} {p : IbcPath} {found v : Option α}
    (h : a.read p found = .ok v) : a.readFault p = none := by
  unfold Adapter.read at h
  split at h <;> simp_all

/-- A scan that returned did not fail, and returned the stored paths its prefix matches. -/
theorem Adapter.getPathsByPrefix_ok {a : Adapter} {pre : PathPrefix} {ps : List IbcPath}
    (h : a.getPathsByPrefix pre = .ok ps) :
    a.scanFault pre = none ∧ ps = a.store.paths.filter pre.matches := by
  unfold Adapter.getPathsByPrefix at h
  split at h <;> simp_all

end AxonIbc
