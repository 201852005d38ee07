import AxonIbc.Ibc.Identifier

/-!
# Store paths

The keys of the commitment store: the variants of the ibc crate's `ics24_host::Path`
that the host context writes and the query services read, and the prefixes the
services scan with `get_paths_by_prefix`.

## The model

A path is typed: decoding a stored key back into its variant (`path.try_into()` in
the services) is the identity here, which is the round trip the crate's `Path`
promises. A prefix is one of the strings the services build; `PathPrefix.matches`
says which paths the string is a prefix of once rendered. The rendered forms are

    clients/{client_id}/clientType
    clients/{client_id}/clientState
    clients/{client_id}/consensusStates/{epoch}-{height}
    clients/{client_id}/connections
    connections/{connection_id}
    channelEnds/ports/{port_id}/channels/{channel_id}
    nextSequenceSend/ports/{port_id}/channels/{channel_id}   (and Recv, Ack)
    commitments/ports/{port_id}/channels/{channel_id}/sequences/{sequence}
    acks/ports/{port_id}/channels/{channel_id}/sequences/{sequence}
    receipts/ports/{port_id}/channels/{channel_id}/sequences/{sequence}

and an identifier holds no `/` (`Identifier.valid_data`), so a prefix such as
`clients/{c}/consensusStates` selects exactly the consensus states of client `c`.

A handler that formats a path from a request's text decodes it with `Path::try_from`
(`pathTryFrom`), which rejects a string of no recognised shape; the text of a valid
client identifier always decodes (`pathTryFrom_consensusStates`).

## Honest scope

`Path` is the `protocol` crate's type, outside the repository, and its decoding is
modelled from the spec: a recognised shape is a `/`-separated list of non-empty
segments of identifier characters.
-/

namespace AxonIbc

/-- The key of one record of a packet: `(PortId, ChannelId, Sequence)`. -/
abbrev PacketKey := PortId × ChannelId × Sequence

/-- `ics24_host::Path`, the variants the code uses. -/
inductive IbcPath where
  /-- `ClientTypePath(client_id)`. -/
  | clientType (clientId : ClientId)
  /-- `ClientStatePath(client_id)`. -/
  | clientState (clientId : ClientId)
  /-- `ClientConsensusStatePath { client_id, epoch, height }`. -/
  | clientConsensusState (clientId : ClientId) (height : Height)
  /-- `ClientConnectionsPath(client_id)`. -/
  | clientConnections (clientId : ClientId)
  /-- `ConnectionsPath(connection_id)`. -/
  | connections (connectionId : ConnectionId)
  /-- `ChannelEndsPath(port_id, channel_id)`. -/
  | channelEnds (portChannel : PortId × ChannelId)
  /-- `SeqSendsPath(port_id, channel_id)`. -/
  | seqSends (portChannel : PortId × ChannelId)
  /-- `SeqRecvsPath(port_id, channel_id)`. -/
  | seqRecvs (portChannel : PortId × ChannelId)
  /-- `SeqAcksPath(port_id, channel_id)`. -/
  | seqAcks (portChannel : PortId × ChannelId)
  /-- `CommitmentsPath { port_id, channel_id, sequence }`. -/
  | commitments (key : PacketKey)
  /-- `AcksPath { port_id, channel_id, sequence }`. -/
  | acks (key : PacketKey)
  /-- `ReceiptsPath { port_id, channel_id, sequence }`. -/
  | receipts (key : PacketKey)
  deriving DecidableEq

/-- The prefixes the query services scan. -/
inductive PathPrefix where
  /-- `"clients"`. -/
  | clients
  /-- `format!("clients/{}/consensusStates", client_id)`, for the request's text. -/
  | consensusStates (clientId : String)
  /-- `"connections"`. -/
  | connections
  /-- `"channelEnds/ports"`. -/
  | channelEndsPorts
  /-- `"channelEnds"`. -/
  | channelEnds
  /-- `"commitments/ports"`. -/
  | commitmentsPorts
  /-- `"acks/ports"`. -/
  | acksPorts
  deriving DecidableEq

/-- The prefix's text is a prefix of the path's text. -/
def PathPrefix.matches : PathPrefix → IbcPath → Bool
  | .clients, .clientType _ | .clients, .clientState _ | .clients, .clientConsensusState _ _
  | .clients, .clientConnections _ => true
  | .consensusStates c, .clientConsensusState id _ => id.val == c
  | .connections, .connections _ => true
  | .channelEndsPorts, .channelEnds _ | .channelEnds, .channelEnds _ => true
  | .commitmentsPorts, .commitments _ => true
  | .acksPorts, .acks _ => true
  | _, _ => false

/-! ### Paths a handler builds from a request -/

/-- A segment of a path: non-empty, of identifier characters. -/
def validSegment (seg : List Char) : Bool := !seg.isEmpty && seg.all validIdentifierChar

/-- Modelled from the spec: `Path::try_from(text)` for a text a handler formats from a
request, which fails on a string of no recognised shape. A recognised shape is taken to
be a `/`-separated list of non-empty segments of identifier characters. The error
carries the rejected text; the crate's `Debug` rendering of it is left out. -/
def pathTryFrom (text : String) : Except String Unit :=
  if (text.data.splitOn '/').all validSegment then .ok () else .error text

/-- `format!("clients/{}/consensusStates", client_id)`. -/
def consensusStatesText (clientId : String) : String := "clients/" ++ clientId ++ "/consensusStates"

/-- The text formatted from a valid client identifier's splits into its three segments. -/
theorem consensusStatesText_splitOn {min max : Nat} (c : Identifier min max) :
    (consensusStatesText c.val).data.splitOn '/' = ["clients".data, c.val.data, "consensusStates".data] := by
  have h : (consensusStatesText c.val).data =
      ['/'].intercalate ["clients".data, c.val.data, "consensusStates".data] := by
    simp [consensusStatesText, String.append, List.intercalate]
  rw [h, List.splitOn_intercalate _ _ _ (List.cons_ne_nil _ _)]
  simp only [List.mem_cons, List.mem_singleton, List.not_mem_nil, or_false, forall_eq_or_imp,
    forall_eq]
  exact ⟨by decide, c.valid_data.2.1, by decide⟩

/-- **The consensus-states prefix of a valid client identifier decodes.** -/
theorem pathTryFrom_consensusStates {min max : Nat} (c : Identifier min max) :
    pathTryFrom (consensusStatesText c.val) = .ok () := by
  obtain ⟨hne, -, hall⟩ := c.valid_data
  rw [pathTryFrom, consensusStatesText_splitOn, if_pos]
  simp [validSegment, hne, hall]
  decide

end AxonIbc
