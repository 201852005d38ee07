import AxonIbc.Host.Channel

/-!
# The query services

The read-only RPC handlers of `core/ibc/src/grpc.rs`: `IbcClientService`,
`IbcConnectionService` and `IbcChannelService`, each over the adapter.

## The model

A handler returns `Ok(response)`, an error `Status`, or panics (`Ret Status _`).
`?` is the bind of `Ret`; `map_err(Status::data_loss)` and `map_err(Status::internal)`
turn an adapter error into a `Status` carrying its message; an `unwrap` or `expect`
on `None`, and `panic!("unexpected path")`, are panics. A `for` loop over the paths
of a scan is a recursion over the list, one read per path, in the scan's order.

The request's identifiers are the protobuf strings and are parsed as the handler
parses them; `consensus_states` decodes the path it formats from its request
(`pathTryFrom`, modelled from the spec). A response keeps the fields the handler computes; the constant ones
(`pagination: None`, `proof: vec![]`, `proof_height: None`) are left out.
-/

namespace AxonIbc

/-! ### Statuses and the handler monad -/

/-- `tonic::Code`, the codes the handlers return. -/
inductive Code where
  /-- `invalid_argument`. -/
  | invalidArgument
  /-- `data_loss`. -/
  | dataLoss
  /-- `internal`. -/
  | internal
  deriving DecidableEq, Repr

/-- `tonic::Status`: a code and a message. -/
structure Status where
  /-- The code. -/
  code : Code
  /-- The message. -/
  message : String
  deriving DecidableEq, Repr

/-- `Status::invalid_argument(message)`. -/
def Status.invalidArgument (m : String) : Status := ⟨.invalidArgument, m⟩

/-- `Status::data_loss`, applied to an adapter error. -/
def Status.dataLoss (e : StoreError) : Status := ⟨.dataLoss, e.message⟩

/-- `Status::internal`, applied to an adapter error. -/
def Status.internal (e : StoreError) : Status := ⟨.internal, e.message⟩

instance {ε : Type} : Monad (Ret ε) where
  pure := .ok
  bind x f := match x with
    | .ok a => f a
    | .err e => .err e
    | .panic => .panic

@[simp] theorem Ret.pure_eq {ε α : Type} (a : α) : (pure a : Ret ε α) = .ok a := rfl

@[simp] theorem Ret.ok_bind {ε α β : Type} (a : α) (f : α → Ret ε β) : (Ret.ok a >>= f) = f a := rfl

@[simp] theorem Ret.err_bind {ε α β : Type} (e : ε) (f : α → Ret ε β) :
    (Ret.err e >>= f) = .err e := rfl

@[simp] theorem Ret.panic_bind {ε α β : Type} (f : α → Ret ε β) : (Ret.panic >>= f) = .panic := rfl

/-- `r.map_err(f)?`: an error of `r` returned as `f` makes it. -/
def Ret.ofExcept {ε δ α : Type} (r : Except δ α) (f : δ → ε) : Ret ε α :=
  match r with
  | .ok a => .ok a
  | .error e => .err (f e)

/-- `x.unwrap()` or `x.expect(..)` on an `Option`. -/
def Ret.unwrap {ε α : Type} : Option α → Ret ε α
  | some a => .ok a
  | none => .panic

@[simp] theorem Ret.ofExcept_ok {ε δ α : Type} (a : α) (f : δ → ε) :
    Ret.ofExcept (.ok a) f = .ok a := rfl

@[simp] theorem Ret.ofExcept_error {ε δ α : Type} (e : δ) (f : δ → ε) :
    (Ret.ofExcept (.error e) f : Ret ε α) = .err (f e) := rfl

/-- A bind returned `Ok` exactly when its first computation did and the rest did on its
value. -/
theorem Ret.bind_eq_ok {ε α β : Type} {x : Ret ε α} {f : α → Ret ε β} {b : β} :
    x >>= f = .ok b ↔ ∃ a, x = .ok a ∧ f a = .ok b := by
  cases x <;> simp

theorem Ret.ofExcept_eq_ok {ε δ α : Type} {r : Except δ α} {f : δ → ε} {a : α} :
    Ret.ofExcept r f = .ok a ↔ r = .ok a := by
  cases r <;> simp

/-! ### Requests and responses -/

/-- `RawHeight`, as the responses report the chain's height. -/
abbrev RawHeight := Height

/-- `Some(RawHeight { revision_number: CHAIN_REVISION_NUMBER, revision_height: current_height() })`. -/
def currentRawHeight (a : Adapter) : Option RawHeight := some ⟨0, a.currentHeight⟩

/-- `IdentifiedClientState`. -/
structure IdentifiedClientState where
  /-- `client_id`. -/
  clientId : String
  /-- `client_state`. -/
  clientState : Option AnyClientState
  deriving DecidableEq

/-- `ConsensusStateWithHeight`. -/
structure ConsensusStateWithHeight where
  /-- `height`. -/
  height : Option RawHeight
  /-- `consensus_state`. -/
  consensusState : Option AnyConsensusState
  deriving DecidableEq

/-- `IdentifiedConnection`. -/
structure IdentifiedConnection where
  /-- `id`. -/
  id : ConnectionId
  /-- The connection end. -/
  connectionEnd : ConnectionEnd
  deriving DecidableEq

/-- `IdentifiedChannel`. -/
structure IdentifiedChannel where
  /-- `port_id`. -/
  portId : PortId
  /-- `channel_id`. -/
  channelId : ChannelId
  /-- The channel end. -/
  channelEnd : ChannelEnd
  deriving DecidableEq

/-- `PacketState`. -/
structure PacketState where
  /-- `port_id`. -/
  portId : String
  /-- `channel_id`. -/
  channelId : String
  /-- `sequence`. -/
  sequence : UInt64
  /-- `data`. -/
  data : Bytes
  deriving DecidableEq, Repr

/-- A request naming a channel: `port_id` and `channel_id`. -/
structure ChannelRequest where
  /-- `port_id`. -/
  portId : String
  /-- `channel_id`. -/
  channelId : String

/-- A request naming a channel and sequences: `QueryUnreceivedPacketsRequest`
(`packet_commitment_sequences`) and `QueryUnreceivedAcksRequest` (`packet_ack_sequences`). -/
structure SequencesRequest where
  /-- `port_id`. -/
  portId : String
  /-- `channel_id`. -/
  channelId : String
  /-- The sequences to check. -/
  sequences : List UInt64

/-- A response listing packets: `commitments` or `acknowledgements`, and `height`. -/
structure PacketStatesResponse where
  /-- The packets. -/
  packets : List PacketState
  /-- `height`. -/
  height : Option RawHeight
  deriving DecidableEq, Repr

/-- A response listing sequences: `sequences` and `height`. -/
structure SequencesResponse where
  /-- `sequences`. -/
  sequences : List UInt64
  /-- `height`. -/
  height : Option RawHeight
  deriving DecidableEq, Repr

/-- A response listing channels: `channels` and `height`. -/
structure ChannelsResponse where
  /-- `channels`. -/
  channels : List IdentifiedChannel
  /-- `height`. -/
  height : Option RawHeight
  deriving DecidableEq

/-- The port and channel of a request, parsed as the channel handlers parse them. -/
def parsePortChannel (portId channelId : String) : Ret Status (PortId × ChannelId) := do
  let p ← Ret.ofExcept (Identifier.fromStr portId) fun _ => Status.invalidArgument "invalid port id"
  let c ← Ret.ofExcept (Identifier.fromStr channelId) fun _ =>
    Status.invalidArgument "invalid channel id"
  return (p, c)

/-! ### `IbcClientService` -/

/-- The closure `client_state_paths`: a client-state path's client. -/
def clientStatePath : IbcPath → Option ClientId
  | .clientState c => some c
  | _ => none

/-- The loop of `client_states`: each client state read, and unwrapped. -/
def IbcClientService.clientStatesLoop (a : Adapter) :
    List ClientId → Ret Status (List IdentifiedClientState)
  | [] => pure []
  | c :: cs => do
    let found ← Ret.ofExcept (a.getClientState c) Status.dataLoss
    let state ← Ret.unwrap found
    let rest ← IbcClientService.clientStatesLoop a cs
    return ⟨c.val, some state⟩ :: rest

/-- `client_states`: scan `"clients"`, keep the client-state paths, read each. -/
def IbcClientService.clientStates (a : Adapter) : Ret Status (List IdentifiedClientState) := do
  let keys ← Ret.ofExcept (a.getPathsByPrefix .clients) Status.internal
  IbcClientService.clientStatesLoop a (keys.filterMap clientStatePath)

/-- The loop of `consensus_states`: a path that is not a consensus state's panics. -/
def IbcClientService.consensusStatesLoop (a : Adapter) :
    List IbcPath → Ret Status (List ConsensusStateWithHeight)
  | [] => pure []
  | .clientConsensusState c h :: ps => do
    let cs ← Ret.ofExcept (a.getConsensusState c h) Status.dataLoss
    let rest ← IbcClientService.consensusStatesLoop a ps
    return ⟨some h, cs⟩ :: rest
  | _ :: _ => .panic

/-- `consensus_states`: decode `clients/{client_id}/consensusStates` as a path (an
`invalid_argument` if it does not decode), scan it, read each. -/
def IbcClientService.consensusStates (a : Adapter) (clientId : String) :
    Ret Status (List ConsensusStateWithHeight) := do
  let _ ← Ret.ofExcept (pathTryFrom (consensusStatesText clientId)) Status.invalidArgument
  let keys ← Ret.ofExcept (a.getPathsByPrefix (.consensusStates clientId)) Status.internal
  IbcClientService.consensusStatesLoop a keys

/-- Of a valid client identifier the path decodes, and `consensus_states` scans. -/
theorem IbcClientService.consensusStates_valid (a : Adapter) (c : ClientId) :
    IbcClientService.consensusStates a c.val = (do
      let keys ← Ret.ofExcept (a.getPathsByPrefix (.consensusStates c.val)) Status.internal
      IbcClientService.consensusStatesLoop a keys) := by
  rw [IbcClientService.consensusStates, pathTryFrom_consensusStates]
  rfl

/-- Of a text whose path does not decode, `consensus_states` is an `invalid_argument`,
before any scan or read. -/
theorem IbcClientService.consensusStates_of_pathError (a : Adapter) {clientId text : String}
    (h : pathTryFrom (consensusStatesText clientId) = .error text) :
    IbcClientService.consensusStates a clientId = .err (Status.invalidArgument text) := by
  rw [IbcClientService.consensusStates, h]
  rfl

example (a : Adapter) : IbcClientService.consensusStates a "" =
    .err (Status.invalidArgument "clients//consensusStates") :=
  IbcClientService.consensusStates_of_pathError a
    (by rw [pathTryFrom, if_neg (by decide)]; exact congrArg _ (by decide))

/-! ### `IbcConnectionService` -/

/-- `connection`. -/
def IbcConnectionService.connection (a : Adapter) (connectionId : String) :
    Ret Status (Option ConnectionEnd) := do
  let c ← Ret.ofExcept (Identifier.fromStr connectionId) fun _ =>
    Status.invalidArgument "invalid connection id"
  Ret.ofExcept (a.getConnectionEnd c) Status.dataLoss

/-- The loop of `connections`: each connection end read and unwrapped; a path that is
not a connection's panics. -/
def IbcConnectionService.connectionsLoop (a : Adapter) :
    List IbcPath → Ret Status (List IdentifiedConnection)
  | [] => pure []
  | .connections c :: ps => do
    let found ← Ret.ofExcept (a.getConnectionEnd c) Status.dataLoss
    let e ← Ret.unwrap found
    let rest ← IbcConnectionService.connectionsLoop a ps
    return ⟨c, e⟩ :: rest
  | _ :: _ => .panic

/-- `connections`: scan `"connections"`, read each (the response's `height` is `None`). -/
def IbcConnectionService.connections (a : Adapter) : Ret Status (List IdentifiedConnection) := do
  let keys ← Ret.ofExcept (a.getPathsByPrefix .connections) Status.internal
  IbcConnectionService.connectionsLoop a keys

/-- `client_connections`: `get_connection_ids(..).await.unwrap_or_default()`, as strings. -/
def IbcConnectionService.clientConnections (a : Adapter) (clientId : String) :
    Ret Status (List String) := do
  let c ← Ret.ofExcept (Identifier.fromStr clientId) fun e => Status.invalidArgument e.display
  return ((a.getConnectionIds c).toOption.getD []).map (·.val)

/-! ### `IbcChannelService` -/

/-- `channel`. -/
def IbcChannelService.channel (a : Adapter) (req : ChannelRequest) :
    Ret Status (Option ChannelEnd) := do
  let pc ← parsePortChannel req.portId req.channelId
  Ret.ofExcept (a.getChannelEnd pc) Status.dataLoss

/-- The loop of `channels`: each channel end read and `expect`ed; a path that is not a
channel end's panics. -/
def IbcChannelService.channelsLoop (a : Adapter) : List IbcPath → Ret Status (List IdentifiedChannel)
  | [] => pure []
  | .channelEnds pc :: ps => do
    let found ← Ret.ofExcept (a.getChannelEnd pc) Status.dataLoss
    let e ← Ret.unwrap found
    let rest ← IbcChannelService.channelsLoop a ps
    return ⟨pc.1, pc.2, e⟩ :: rest
  | _ :: _ => .panic

/-- `channels`: scan `"channelEnds/ports"`, read each. -/
def IbcChannelService.channels (a : Adapter) : Ret Status ChannelsResponse := do
  let keys ← Ret.ofExcept (a.getPathsByPrefix .channelEndsPorts) Status.internal
  let channels ← IbcChannelService.channelsLoop a keys
  return ⟨channels, currentRawHeight a⟩

/-- The loop of `connection_channels`: the channel ends found whose first connection hop
is the connection; other paths are skipped. -/
def IbcChannelService.connectionChannelsLoop (a : Adapter) (conn : ConnectionId) :
    List IbcPath → Ret Status (List IdentifiedChannel)
  | [] => pure []
  | .channelEnds pc :: ps => do
    let found ← Ret.ofExcept (a.getChannelEnd pc) Status.dataLoss
    let rest ← IbcChannelService.connectionChannelsLoop a conn ps
    return match found with
      | some e => if e.connectionHops.head? = some conn then ⟨pc.1, pc.2, e⟩ :: rest else rest
      | none => rest
  | _ :: ps => IbcChannelService.connectionChannelsLoop a conn ps

/-- `connection_channels`: scan `"channelEnds"`, keep the channels of the connection. -/
def IbcChannelService.connectionChannels (a : Adapter) (connection : String) :
    Ret Status ChannelsResponse := do
  let conn ← Ret.ofExcept (Identifier.fromStr connection) fun _ =>
    Status.invalidArgument "invalid connection id"
  let keys ← Ret.ofExcept (a.getPathsByPrefix .channelEnds) Status.internal
  let channels ← IbcChannelService.connectionChannelsLoop a conn keys
  return ⟨channels, currentRawHeight a⟩

/-- The closure `matching_commitment_paths`: a commitment path of the channel. -/
def matchingCommitmentPath (p : PortId) (c : ChannelId) : IbcPath → Option PacketKey
  | .commitments k => if k.1 = p ∧ k.2.1 = c then some k else none
  | _ => none

/-- The closure `matching_ack_paths`: an acknowledgement path of the channel. -/
def matchingAckPath (p : PortId) (c : ChannelId) : IbcPath → Option PacketKey
  | .acks k => if k.1 = p ∧ k.2.1 = c then some k else none
  | _ => none

/-- A packet's `PacketState`. -/
def PacketState.ofKey (k : PacketKey) (data : Bytes) : PacketState := ⟨k.1.val, k.2.1.val, k.2.2, data⟩

/-- The loop of `packet_commitments`: each commitment read and unwrapped; an empty one
is dropped. -/
def IbcChannelService.packetCommitmentsLoop (a : Adapter) : List PacketKey → Ret Status (List PacketState)
  | [] => pure []
  | k :: ks => do
    let found ← Ret.ofExcept (a.getPacketCommitment k) Status.dataLoss
    let data ← Ret.unwrap found
    let rest ← IbcChannelService.packetCommitmentsLoop a ks
    return if data.isEmpty then rest else PacketState.ofKey k data :: rest

/-- `packet_commitments`: scan `"commitments/ports"`, keep the channel's, read each. -/
def IbcChannelService.packetCommitments (a : Adapter) (req : ChannelRequest) :
    Ret Status PacketStatesResponse := do
  let (p, c) ← parsePortChannel req.portId req.channelId
  let paths ← Ret.ofExcept (a.getPathsByPrefix .commitmentsPorts) Status.internal
  let packets ← IbcChannelService.packetCommitmentsLoop a (paths.filterMap (matchingCommitmentPath p c))
  return ⟨packets, currentRawHeight a⟩

/-- The loop of `packet_acknowledgements`: an acknowledgement not found, or empty, is
dropped. -/
def IbcChannelService.packetAcknowledgementsLoop (a : Adapter) :
    List PacketKey → Ret Status (List PacketState)
  | [] => pure []
  | k :: ks => do
    let found ← Ret.ofExcept (a.getAcknowledgementCommitment k) Status.dataLoss
    let rest ← IbcChannelService.packetAcknowledgementsLoop a ks
    return match found with
      | some data => if data.isEmpty then rest else PacketState.ofKey k data :: rest
      | none => rest

/-- `packet_acknowledgements`: scan `"acks/ports"`, keep the channel's, read each. -/
def IbcChannelService.packetAcknowledgements (a : Adapter) (req : ChannelRequest) :
    Ret Status PacketStatesResponse := do
  let (p, c) ← parsePortChannel req.portId req.channelId
  let paths ← Ret.ofExcept (a.getPathsByPrefix .acksPorts) Status.internal
  let packets ← IbcChannelService.packetAcknowledgementsLoop a (paths.filterMap (matchingAckPath p c))
  return ⟨packets, currentRawHeight a⟩

/-- `unreceived_packets`: the sequences whose receipt `get_opt(..).ok().flatten()` is
`None`. -/
def IbcChannelService.unreceivedPackets (a : Adapter) (req : SequencesRequest) :
    Ret Status SequencesResponse := do
  let (p, c) ← parsePortChannel req.portId req.channelId
  let unreceived := req.sequences.filter fun s => ((a.getReceipt (p, c, s)).toOption.join).isNone
  return ⟨unreceived, currentRawHeight a⟩

/-- `unreceived_acks`: the sequences whose commitment
`get_packet_commitment(..).ok().flatten()` is `Some`. -/
def IbcChannelService.unreceivedAcks (a : Adapter) (req : SequencesRequest) :
    Ret Status SequencesResponse := do
  let (p, c) ← parsePortChannel req.portId req.channelId
  let unreceived := req.sequences.filter fun s =>
    ((a.getPacketCommitment (p, c, s)).toOption.join).isSome
  return ⟨unreceived, currentRawHeight a⟩

end AxonIbc
