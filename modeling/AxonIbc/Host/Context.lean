import AxonIbc.Host.Adapter

/-!
# The host context: clients

`IbcImpl` (`core/ibc/src/lib.rs`) is the host chain's context: the adapter, the
client, connection and channel counters, the port routing table, and three maps
kept only in memory (processed times and heights of client updates, and the
host's own consensus states, keyed by height). This module models the struct,
its `ClientReader` and `ClientKeeper` implementations, and the two default
methods of the ibc crate's traits that `create_client` reaches through them:
`ClientReader::host_timestamp` and `ClientKeeper::store_client_result`.

## The model

A method on `&self` is a function of the context. A method on `&mut self` returns
the new context on `Ok`; each keeper method makes one adapter write, and a write
that fails leaves everything as it was. `store_client_result` makes several, each
followed by `?`, so it returns its outcome together with the context as it leaves
it: what was written before a failing write stays written. A panic (an `unwrap`
on an error, an `expect`, an overflowing `+= 1`) is an outcome of its own; a
function that can panic but otherwise returns a value returns an `Option`.

Most readers and writers of the impl block are one pattern over different adapter
calls (`match adapter.get_x(..) { Ok(Some(v)) => Ok(v), _ => Err(..) }`, and
`match adapter.set_x(..) { Ok(_) => Ok(()), Err(_) => Err(..) }`): `requireFound`
and `IbcImpl.keep` are those patterns, and each method is one of them applied to
its own adapter call.
-/

namespace AxonIbc

/-- `ModuleId`: the name of an application module. -/
structure ModuleId where
  /-- The name. -/
  val : String
  deriving DecidableEq, Repr

/-- `IbcImpl<Adapter, Router>`. The router is the empty `IbcRouter`, whose methods
are `todo!()`. -/
structure IbcImpl where
  /-- `adapter`. -/
  adapter : Adapter
  /-- `client_counter`. -/
  clientCounter : UInt64
  /-- `channel_counter`. -/
  channelCounter : UInt64
  /-- `conn_counter`. -/
  connCounter : UInt64
  /-- `port_to_module_map`. -/
  portToModuleMap : AList (fun _ : PortId => ModuleId)
  /-- `client_processed_times`. -/
  clientProcessedTimes : AList (fun _ : ClientId × Height => Timestamp)
  /-- `client_processed_heights`. -/
  clientProcessedHeights : AList (fun _ : ClientId × Height => Height)
  /-- `consensus_states`: the host's own consensus states, by revision height. -/
  consensusStates : AList (fun _ : UInt64 => ConsensusState)

/-- How a call that may panic ends, when it does not return a value of type `α`:
`Ok`, `Err e`, or a panic. -/
inductive Ret (ε α : Type) where
  /-- It returned `Ok(a)`. -/
  | ok (a : α)
  /-- It returned `Err(e)`. -/
  | err (e : ε)
  /-- It panicked. -/
  | panic
  deriving DecidableEq, Repr

/-! ### Errors -/

/-- `ics02_client::error::Error`, the variants the code builds. -/
inductive ClientError where
  /-- `implementation_specific()`. -/
  | implementationSpecific
  /-- `missing_local_consensus_state(height)`. -/
  | missingLocalConsensusState (height : Height)
  /-- `missing_raw_client_state()`. -/
  | missingRawClientState
  /-- `raw_client_and_consensus_state_types_mismatch(state_type, consensus_type)`. -/
  | rawClientAndConsensusStateTypesMismatch (stateType consensusType : ClientType)
  deriving DecidableEq, Repr

/-- `ics03_connection::error::Error`. -/
inductive ConnectionError where
  /-- `implementation_specific()`. -/
  | implementationSpecific
  /-- `ics02_client(e)`. -/
  | ics02Client (e : ClientError)
  deriving DecidableEq, Repr

/-- `ics04_channel::error::Error`. -/
inductive ChannelError where
  /-- `implementation_specific()`. -/
  | implementationSpecific
  deriving DecidableEq, Repr

/-- `ics05_port::error::Error`. -/
inductive PortError where
  /-- `unknown_port(port_id)`. -/
  | unknownPort (portId : PortId)
  deriving DecidableEq

/-! ### The two patterns -/

/-- `match r { Ok(Some(v)) => Ok(v), _ => Err(e) }`: a record the reader requires. -/
def requireFound {ε α : Type} (r : Except StoreError (Option α)) (e : ε) : Except ε α :=
  match r with
  | .ok (some v) => .ok v
  | _ => .error e

/-- `match adapter.set_x(..) { Ok(_) => Ok(()), Err(_) => Err(e) }` on `&mut self`. -/
def IbcImpl.keep {ε : Type} (ctx : IbcImpl) (w : Except StoreError Adapter) (e : ε) :
    Except ε IbcImpl :=
  match w with
  | .ok a => .ok { ctx with adapter := a }
  | .error _ => .error e

theorem requireFound_ok {ε α : Type} {r : Except StoreError (Option α)} {e : ε} {v : α} :
    requireFound r e = .ok v ↔ r = .ok (some v) := by
  unfold requireFound
  split <;> simp_all

/-- A keeper method changes the adapter only, and only when the adapter's write
succeeds; otherwise it leaves the context as it was. -/
theorem IbcImpl.keep_ok {ε : Type} {ctx ctx' : IbcImpl} {w : Except StoreError Adapter} {e : ε} :
    ctx.keep w e = .ok ctx' ↔ ∃ a, w = .ok a ∧ ctx' = { ctx with adapter := a } := by
  unfold IbcImpl.keep
  split <;> simp_all [eq_comm]

/-- The context with the adapter's store replaced. -/
def IbcImpl.withStore (ctx : IbcImpl) (s : Store) : IbcImpl :=
  { ctx with adapter := { ctx.adapter with store := s } }

/-- A keeper method over a typed setter: the setter's update, unless its write fails. -/
theorem IbcImpl.keep_write {ε : Type} (ctx : IbcImpl) (p : IbcPath) (u : Store → Store) (e : ε) :
    ctx.keep (ctx.adapter.write p u) e =
      if (ctx.adapter.writeFault p).isSome then .error e else .ok (ctx.withStore (u ctx.adapter.store)) := by
  unfold IbcImpl.keep Adapter.write
  cases ctx.adapter.writeFault p <;> rfl

/-! ### `ClientReader for IbcImpl` -/

/-- `client_type`. -/
def ClientReader.clientType (ctx : IbcImpl) (c : ClientId) : Except ClientError ClientType :=
  requireFound (ctx.adapter.getClientType c) .implementationSpecific

/-- `client_state`. -/
def ClientReader.clientState (ctx : IbcImpl) (c : ClientId) : Except ClientError AnyClientState :=
  requireFound (ctx.adapter.getClientState c) .implementationSpecific

/-- `consensus_state`. -/
def ClientReader.consensusState (ctx : IbcImpl) (c : ClientId) (h : Height) :
    Except ClientError AnyConsensusState :=
  requireFound (ctx.adapter.getConsensusState c h) .implementationSpecific

/-- `host_height`: `Height::new(0, adapter.get_current_height()).unwrap()`, which
panics at height `0`. -/
def ClientReader.hostHeight (ctx : IbcImpl) : Option Height :=
  (Height.new 0 ctx.adapter.currentHeight).toOption

/-- `host_consensus_state(height)`: the cached state at `height.revision_height()`. -/
def ClientReader.hostConsensusState (ctx : IbcImpl) (h : Height) :
    Except ClientError AnyConsensusState :=
  match ctx.consensusStates.lookup h.revisionHeight with
  | some cs => .ok ⟨.tendermint, cs⟩
  | none => .error (.missingLocalConsensusState h)

/-- `pending_host_consensus_state`: the host consensus state at `host_height().increment()`. -/
def ClientReader.pendingHostConsensusState (ctx : IbcImpl) :
    Option (Except ClientError AnyConsensusState) := do
  let h ← ClientReader.hostHeight ctx
  let pending ← h.increment
  return ClientReader.hostConsensusState ctx pending

/-- `client_counter`. -/
def ClientReader.clientCounter (ctx : IbcImpl) : Except ClientError UInt64 := .ok ctx.clientCounter

/-- `host_timestamp`, the ibc crate's default:
`self.pending_host_consensus_state().expect("host must have pending consensus state").timestamp()`. -/
def ClientReader.hostTimestamp (ctx : IbcImpl) : Option Timestamp :=
  match ClientReader.pendingHostConsensusState ctx with
  | some (.ok cs) => some cs.state.timestamp
  | _ => none

/-! ### `ClientKeeper for IbcImpl` -/

/-- `store_client_type`. -/
def ClientKeeper.storeClientType (ctx : IbcImpl) (c : ClientId) (t : ClientType) :
    Except ClientError IbcImpl :=
  ctx.keep (ctx.adapter.setClientType c t) .implementationSpecific

/-- `store_client_state`. -/
def ClientKeeper.storeClientState (ctx : IbcImpl) (c : ClientId) (cs : AnyClientState) :
    Except ClientError IbcImpl :=
  ctx.keep (ctx.adapter.setClientState c cs) .implementationSpecific

/-- `store_consensus_state`. -/
def ClientKeeper.storeConsensusState (ctx : IbcImpl) (c : ClientId) (h : Height)
    (cs : AnyConsensusState) : Except ClientError IbcImpl :=
  ctx.keep (ctx.adapter.setConsensusState c h cs) .implementationSpecific

/-- `increase_client_counter`: `self.client_counter += 1`, which panics past `u64::MAX`. -/
def ClientKeeper.increaseClientCounter (ctx : IbcImpl) : Option IbcImpl :=
  (checkedSucc ctx.clientCounter).map ({ ctx with clientCounter := · })

/-- `store_update_time`: an insert into `client_processed_times`; always `Ok`. -/
def ClientKeeper.storeUpdateTime (ctx : IbcImpl) (c : ClientId) (h : Height) (t : Timestamp) :
    Except ClientError IbcImpl :=
  .ok { ctx with clientProcessedTimes := ctx.clientProcessedTimes.insert (c, h) t }

/-- `store_update_height`: an insert into `client_processed_heights`; always `Ok`. -/
def ClientKeeper.storeUpdateHeight (ctx : IbcImpl) (c : ClientId) (h hostHeight : Height) :
    Except ClientError IbcImpl :=
  .ok { ctx with clientProcessedHeights := ctx.clientProcessedHeights.insert (c, h) hostHeight }

/-! ### `store_client_result` -/

/-- `ics02_client::handler::create_client::Result`: what `create_client` asks the
context to store. -/
structure CreateResult where
  /-- `client_id`. -/
  clientId : ClientId
  /-- `client_type`. -/
  clientType : ClientType
  /-- `client_state`. -/
  clientState : AnyClientState
  /-- `consensus_state`. -/
  consensusState : AnyConsensusState
  /-- `processed_time`. -/
  processedTime : Timestamp
  /-- `processed_height`. -/
  processedHeight : Height

/-- `store_client_result(ClientResult::Create(res))`, the ibc crate's default method:
the client type, the client state and the consensus state at the client state's
latest height, each with `?`; then `increase_client_counter()`; then the update
time and height. What was written before a failing write stays written. -/
def ClientKeeper.storeClientResult (ctx : IbcImpl) (res : CreateResult) :
    Ret ClientError Unit × IbcImpl :=
  match ClientKeeper.storeClientType ctx res.clientId res.clientType with
  | .error e => (.err e, ctx)
  | .ok ctx₁ =>
  match ClientKeeper.storeClientState ctx₁ res.clientId res.clientState with
  | .error e => (.err e, ctx₁)
  | .ok ctx₂ =>
  match ClientKeeper.storeConsensusState ctx₂ res.clientId res.clientState.latestHeight
      res.consensusState with
  | .error e => (.err e, ctx₂)
  | .ok ctx₃ =>
  match ClientKeeper.increaseClientCounter ctx₃ with
  | none => (.panic, ctx₃)
  | some ctx₄ =>
  match ClientKeeper.storeUpdateTime ctx₄ res.clientId res.clientState.latestHeight
      res.processedTime with
  | .error e => (.err e, ctx₄)
  | .ok ctx₅ =>
  match ClientKeeper.storeUpdateHeight ctx₅ res.clientId res.clientState.latestHeight
      res.processedHeight with
  | .error e => (.err e, ctx₅)
  | .ok ctx₆ => (.ok (), ctx₆)

/-- **What `store_client_result` does**, write by write: an error at one of the
three adapter writes leaves the writes before it in place and the counter as it
was; after all three, `increase_client_counter` panics at `u64::MAX`, or the
counter goes up by one and the update indices are recorded. -/
theorem ClientKeeper.storeClientResult_eq (ctx : IbcImpl) (res : CreateResult) :
    ClientKeeper.storeClientResult ctx res =
      let c := res.clientId
      let h := res.clientState.latestHeight
      let s₁ := ctx.adapter.store.setClientType c res.clientType
      let s₂ := s₁.setClientState c res.clientState
      let s₃ := s₂.setConsensusState c h res.consensusState
      if (ctx.adapter.writeFault (.clientType c)).isSome then (.err .implementationSpecific, ctx)
      else if (ctx.adapter.writeFault (.clientState c)).isSome then
        (.err .implementationSpecific, ctx.withStore s₁)
      else if (ctx.adapter.writeFault (.clientConsensusState c h)).isSome then
        (.err .implementationSpecific, ctx.withStore s₂)
      else if ctx.clientCounter.toNat + 1 < UInt64.size then
        (.ok (), { ctx.withStore s₃ with
          clientCounter := ctx.clientCounter + 1
          clientProcessedTimes := ctx.clientProcessedTimes.insert (c, h) res.processedTime
          clientProcessedHeights := ctx.clientProcessedHeights.insert (c, h) res.processedHeight })
      else (.panic, ctx.withStore s₃) := by
  simp only [ClientKeeper.storeClientResult, ClientKeeper.storeClientType,
    ClientKeeper.storeClientState, ClientKeeper.storeConsensusState, Adapter.setClientType,
    Adapter.setClientState, Adapter.setConsensusState, IbcImpl.keep_write,
    ClientKeeper.increaseClientCounter, checkedSucc]
  split_ifs with h₁ h₂ h₃ hc <;> simp_all [IbcImpl.withStore, ClientKeeper.storeUpdateTime,
    ClientKeeper.storeUpdateHeight]
  rw [if_neg (by omega)]

/-- The three outcomes of `store_client_result`: an error of one of the three adapter
writes, with the writes before it in place; `Ok`, with the counter one higher and the
update indices recorded; or the panic of `increase_client_counter` at `u64::MAX`. -/
theorem ClientKeeper.storeClientResult_cases (ctx : IbcImpl) (res : CreateResult) :
    let c := res.clientId
    let h := res.clientState.latestHeight
    let s₁ := ctx.adapter.store.setClientType c res.clientType
    let s₂ := s₁.setClientState c res.clientState
    let s₃ := s₂.setConsensusState c h res.consensusState
    let r := ClientKeeper.storeClientResult ctx res
    (r.1 = .err .implementationSpecific ∧
        (r.2 = ctx ∨ r.2 = ctx.withStore s₁ ∨ r.2 = ctx.withStore s₂)) ∨
      (r.1 = .ok () ∧ ctx.clientCounter.toNat + 1 < UInt64.size ∧
        r.2 = { ctx.withStore s₃ with
          clientCounter := ctx.clientCounter + 1
          clientProcessedTimes := ctx.clientProcessedTimes.insert (c, h) res.processedTime
          clientProcessedHeights := ctx.clientProcessedHeights.insert (c, h) res.processedHeight }) ∨
      (r.1 = .panic ∧ r.2 = ctx.withStore s₃) := by
  rw [ClientKeeper.storeClientResult_eq]
  dsimp only
  split_ifs with h₁ h₂ h₃ hc
  · exact .inl ⟨rfl, .inl rfl⟩
  · exact .inl ⟨rfl, .inr (.inl rfl)⟩
  · exact .inl ⟨rfl, .inr (.inr rfl)⟩
  · exact .inr (.inl ⟨rfl, hc, rfl⟩)
  · exact .inr (.inr ⟨rfl, rfl⟩)

end AxonIbc
