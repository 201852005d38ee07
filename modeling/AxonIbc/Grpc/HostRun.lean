import AxonIbc.Grpc.CreateClient

/-!
# The clients over runs of the host

One context serves every caller of the host: `create_client` requests, under the
context's write lock, and the channel and connection keepers, which the node's IBC
handlers call through the same context. This module runs any sequence of such calls,
each with whatever outcome the adapter's faults and the host's state give it, and
proves what holds of the client records in every state a run reaches.

## The model

`HostOp` is one call: a `create_client` of a raw message, or a call of the channel
or of the connection keeper. `runHost` applies the calls one after the other to the
service (the context with its lock's poison flag). Calls under the write lock are
serialised, so a run of them is every interleaving the lock allows; the concurrent
model of `AxonIbc.Grpc.Concurrent` shows the same for `create_client` alone.

## What is proved

* `createClient_cases` (in `AxonIbc.Grpc.CreateClient`) says everything one
  `create_client` can do to the service; `ChannelOp.call_keepsClients` and
  `ConnectionOp.call_keepsClients` that the keepers never touch a client record or
  the client counter;
* `clientRecords_run` — **the client invariant holds over every run**: a client state
  is stored only under a stored client type, a consensus state only under a stored
  client state, every stored client type is the one its identifier names, and, while
  the lock is not poisoned, every client with a consensus state was allocated from a
  counter value below the current one;
* `clientRecords_frozen` — hence **a client with a consensus state is frozen**: no
  later run, whatever its calls return, changes its client type, its client state or
  any of its consensus states. The identifier a later `create_client` allocates is
  never one of a complete client, even though, as `createClient_err` shows, it may be
  one of a client left half-written by an earlier failed request;
* `poisoned_run` — **a poisoned lock is poisoned for good**: after a request panics
  under the write guard, no run changes a client record or the client counter again,
  and every later `create_client` panics.

## Honest scope

The invariant speaks of the store's client records and the client counter. The
processed times and heights live in the context's own memory and are not part of it;
neither is any environment that replaces the adapter, as `Cfg.step`'s `setAdapter`
does, since that may write anything.
-/

namespace AxonIbc

/-! ### Calls on the host context -/

/-- One call on the host context. -/
inductive HostOp where
  /-- `IbcClientMsgService::create_client` of a raw message. -/
  | createClient (raw : MsgCreateClient)
  /-- A call of the channel keeper. -/
  | channel (op : ChannelOp)
  /-- A call of the connection keeper. -/
  | connection (op : ConnectionOp)

/-- The service after the call. -/
def HostOp.apply (svc : IbcClientMsgService) : HostOp → IbcClientMsgService
  | .createClient raw => (svc.createClient raw).2
  | .channel op => { svc with ctx := (op.call svc.ctx).2 }
  | .connection op => { svc with ctx := (op.call svc.ctx).2 }

/-- The service after a run of calls. -/
def runHost (svc : IbcClientMsgService) (ops : List HostOp) : IbcClientMsgService :=
  ops.foldl HostOp.apply svc

/-! ### The keepers leave the clients -/

/-- `ctx'` holds the client records and the client counter of `ctx`. -/
def IbcImpl.KeepsClients (ctx ctx' : IbcImpl) : Prop :=
  ctx'.adapter.store.clientTypes = ctx.adapter.store.clientTypes ∧
    ctx'.adapter.store.clientStates = ctx.adapter.store.clientStates ∧
    ctx'.adapter.store.consensusStates = ctx.adapter.store.consensusStates ∧
    ctx'.clientCounter = ctx.clientCounter

/-- A keeper call over a typed setter: the setter's update, unless its write fails. -/
theorem ofKeep_write_eq {ε : Type} (ctx : IbcImpl) (p : IbcPath) (u : Store → Store) (e : ε) :
    (ofKeep ctx (ctx.keep (ctx.adapter.write p u) e)).2 =
      if (ctx.adapter.writeFault p).isSome then ctx else ctx.withStore (u ctx.adapter.store) := by
  rw [IbcImpl.keep_write]
  split_ifs <;> rfl

/-- A keeper call over a setter of another kind of record keeps the clients. -/
theorem keepsClients_ofKeep {ε : Type} (ctx : IbcImpl) (p : IbcPath) (u : Store → Store) (e : ε)
    (hu : ∀ s, (u s).clientTypes = s.clientTypes ∧ (u s).clientStates = s.clientStates ∧
      (u s).consensusStates = s.consensusStates) :
    ctx.KeepsClients (ofKeep ctx (ctx.keep (ctx.adapter.write p u) e)).2 := by
  rw [ofKeep_write_eq]
  split_ifs
  · exact ⟨rfl, rfl, rfl, rfl⟩
  · obtain ⟨h₁, h₂, h₃⟩ := hu ctx.adapter.store
    exact ⟨h₁, h₂, h₃, rfl⟩

theorem ChannelOp.call_keepsClients (ctx : IbcImpl) (op : ChannelOp) :
    ctx.KeepsClients (op.call ctx).2 := by
  cases op
  case increaseChannelCounter =>
    simp only [ChannelOp.call, ChannelKeeper.increaseChannelCounter]
    cases checkedSucc ctx.channelCounter <;> exact ⟨rfl, rfl, rfl, rfl⟩
  all_goals exact keepsClients_ofKeep ctx _ _ _ fun _ => ⟨rfl, rfl, rfl⟩

theorem ConnectionOp.call_keepsClients (ctx : IbcImpl) (op : ConnectionOp) :
    ctx.KeepsClients (op.call ctx).2 := by
  cases op
  case increaseConnectionCounter =>
    simp only [ConnectionOp.call, ConnectionKeeper.increaseConnectionCounter]
    cases checkedSucc ctx.connCounter <;> exact ⟨rfl, rfl, rfl, rfl⟩
  all_goals exact keepsClients_ofKeep ctx _ _ _ fun _ => ⟨rfl, rfl, rfl⟩

/-! ### The client invariant -/

/-- The client records of a store hang together. -/
structure Store.ClientsLinked (s : Store) : Prop where
  /-- A client state is stored only under a stored client type. -/
  typeOfState : ∀ id ∈ s.clientStates, id ∈ s.clientTypes
  /-- A consensus state is stored only under a stored client state. -/
  stateOfConsensus : ∀ k ∈ s.consensusStates, k.1 ∈ s.clientStates
  /-- The stored type of a client is the type its identifier names. -/
  typeNamed : ∀ id t, s.clientTypes.lookup id = some t → ∃ n, ClientId.new t n = .ok id

/-- **The client invariant** of the service. -/
structure ClientRecords (svc : IbcClientMsgService) : Prop where
  /-- The store's client records hang together. -/
  linked : svc.ctx.adapter.store.ClientsLinked
  /-- While the lock is not poisoned, a client with a consensus state was allocated
  from a counter value below the current one. -/
  completeBelow : svc.poisoned = false → ∀ k ∈ svc.ctx.adapter.store.consensusStates,
    ∃ t n, ClientId.new t n = .ok k.1 ∧ n.toNat < svc.ctx.clientCounter.toNat

/-- A service with no client record satisfies the invariant. -/
theorem clientRecords_of_empty {svc : IbcClientMsgService}
    (ht : svc.ctx.adapter.store.clientTypes = ∅) (hs : svc.ctx.adapter.store.clientStates = ∅)
    (hc : svc.ctx.adapter.store.consensusStates = ∅) : ClientRecords svc where
  linked :=
    ⟨fun id h => by simp [hs] at h, fun k h => by simp [hc] at h, fun id t h => by simp [ht] at h⟩
  completeBelow _ k h := by simp [hc] at h

/-- The invariant reads only the client records, the counter and the poison flag. -/
theorem ClientRecords.of_keepsClients {svc svc' : IbcClientMsgService} (h : ClientRecords svc)
    (hk : svc.ctx.KeepsClients svc'.ctx) (hp : svc'.poisoned = svc.poisoned) :
    ClientRecords svc' := by
  obtain ⟨ht, hs, hc, hn⟩ := hk
  obtain ⟨⟨h₁, h₂, h₃⟩, h₄⟩ := h
  refine ⟨⟨?_, ?_, ?_⟩, ?_⟩
  · rw [hs, ht]; exact h₁
  · rw [hc, hs]; exact h₂
  · rw [ht]; exact h₃
  · rw [hp, hc, hn]; exact h₄

/-! ### What `create_client` writes keeps the records linked -/

section Writes

variable {s : Store} {id : ClientId}

theorem Store.ClientsLinked.setClientType (h : s.ClientsLinked) (t : ClientType)
    (hn : ∃ n, ClientId.new t n = .ok id) : (s.setClientType id t).ClientsLinked where
  typeOfState id' h' := (AList.mem_insert _).2 (.inr (h.typeOfState id' h'))
  stateOfConsensus := h.stateOfConsensus
  typeNamed id' t' h' := by
    rw [Store.setClientType, AList.lookup_insert_ite] at h'
    split_ifs at h' with he
    · cases h'
      exact he ▸ hn
    · exact h.typeNamed id' t' h'

theorem Store.ClientsLinked.setClientState (h : s.ClientsLinked) (cs : AnyClientState)
    (hid : id ∈ s.clientTypes) : (s.setClientState id cs).ClientsLinked where
  typeOfState id' h' := by
    rcases (AList.mem_insert _).1 h' with rfl | h'
    · exact hid
    · exact h.typeOfState id' h'
  stateOfConsensus k h' := (AList.mem_insert _).2 (.inr (h.stateOfConsensus k h'))
  typeNamed := h.typeNamed

theorem Store.ClientsLinked.setConsensusState (h : s.ClientsLinked) (hgt : Height)
    (cs : AnyConsensusState) (hid : id ∈ s.clientStates) :
    (s.setConsensusState id hgt cs).ClientsLinked where
  typeOfState := h.typeOfState
  stateOfConsensus k h' := by
    rcases (AList.mem_insert _).1 h' with rfl | h'
    · exact hid
    · exact h.stateOfConsensus k h'
  typeNamed := h.typeNamed

end Writes

/-- **`create_client` keeps the invariant**, whatever it returns. -/
theorem ClientRecords.createClient {svc : IbcClientMsgService} (h : ClientRecords svc)
    (raw : MsgCreateClient) : ClientRecords (svc.createClient raw).2 := by
  rcases createClient_cases svc raw with hs | hs | ⟨msg, id, hp, -, hid, hs⟩
  · rw [hs]; exact h
  · rw [hs]; exact ⟨h.linked, nofun⟩
  have l₁ := h.linked.setClientType msg.clientState.clientType ⟨_, hid⟩
  have l₂ := l₁.setClientState msg.clientState ((AList.mem_insert _).2 (.inl rfl))
  have l₃ := l₂.setConsensusState msg.clientState.latestHeight msg.consensusState
    ((AList.mem_insert _).2 (.inl rfl))
  rcases hs with hs | hs | hs | ⟨t, hh, hc, hs⟩ <;> rw [hs]
  · exact ⟨l₁, fun _ => h.completeBelow hp⟩
  · exact ⟨l₂, fun _ => h.completeBelow hp⟩
  · exact ⟨l₃, nofun⟩
  · refine ⟨l₃, fun _ k hk => ?_⟩
    rw [show (svc.ctx.clientCounter + 1).toNat = svc.ctx.clientCounter.toNat + 1 from
      UInt64.toNat_add_one hc]
    rcases (AList.mem_insert _).1 hk with rfl | hk
    · exact ⟨_, _, hid, Nat.lt_succ_self _⟩
    · obtain ⟨t', n, hn, hlt⟩ := h.completeBelow hp k hk
      exact ⟨t', n, hn, Nat.lt_succ_of_lt hlt⟩

/-- **Every call keeps the invariant.** -/
theorem ClientRecords.apply {svc : IbcClientMsgService} (h : ClientRecords svc) :
    ∀ op : HostOp, ClientRecords (op.apply svc)
  | .createClient raw => h.createClient raw
  | .channel op => h.of_keepsClients (ChannelOp.call_keepsClients svc.ctx op) rfl
  | .connection op => h.of_keepsClients (ConnectionOp.call_keepsClients svc.ctx op) rfl

/-- **The client invariant over every run**: from a service that satisfies it, every
run of `create_client` requests and keeper calls, whatever each returns, reaches a
service that satisfies it. -/
theorem clientRecords_run {svc : IbcClientMsgService} (h : ClientRecords svc) (ops : List HostOp) :
    ClientRecords (runHost svc ops) := by
  induction ops generalizing svc with
  | nil => exact h
  | cons op ops ih => exact ih (h.apply op)

theorem clientRecords_run_hostCtx :
    ClientRecords (runHost ⟨hostCtx, false⟩
      [.createClient tendermintMsg.toRaw, .channel .increaseChannelCounter]) :=
  clientRecords_run (clientRecords_of_empty rfl rfl rfl) _

/-! ### Complete clients are frozen -/

/-- Two stores hold the same records of client `id`. -/
def Store.SameClient (s s' : Store) (id : ClientId) : Prop :=
  s'.clientTypes.lookup id = s.clientTypes.lookup id ∧
    s'.clientStates.lookup id = s.clientStates.lookup id ∧
    ∀ hgt, s'.consensusStates.lookup (id, hgt) = s.consensusStates.lookup (id, hgt)

section Same

variable {s s' s'' : Store} {id : ClientId}

theorem Store.SameClient.trans (h : s.SameClient s' id) (h' : s'.SameClient s'' id) :
    s.SameClient s'' id :=
  ⟨h'.1.trans h.1, h'.2.1.trans h.2.1, fun hgt => (h'.2.2 hgt).trans (h.2.2 hgt)⟩

/-- What `create_client` writes under another identifier leaves the client. -/
theorem Store.sameClient_writes {id' : ClientId} (hne : id ≠ id') (t : ClientType)
    (cs : AnyClientState) (hgt : Height) (cons : AnyConsensusState) :
    let s₁ := s.setClientType id' t
    let s₂ := s₁.setClientState id' cs
    s.SameClient s₁ id ∧ s.SameClient s₂ id ∧
      s.SameClient (s₂.setConsensusState id' hgt cons) id := by
  have hne' : ∀ h', (id, h') ≠ (id', hgt) := fun _ he => hne (Prod.mk.inj he).1
  have h₁ : s.SameClient (s.setClientType id' t) id :=
    ⟨AList.lookup_insert_ne hne, rfl, fun _ => rfl⟩
  have h₂ : (s.setClientType id' t).SameClient ((s.setClientType id' t).setClientState id' cs) id :=
    ⟨rfl, AList.lookup_insert_ne hne, fun _ => rfl⟩
  exact ⟨h₁, h₁.trans h₂,
    (h₁.trans h₂).trans ⟨rfl, rfl, fun h' => AList.lookup_insert_ne (hne' h')⟩⟩

end Same

/-- **A `create_client` never touches a complete client**: under the invariant, the
identifier it allocates is not that of a client with a consensus state. -/
theorem ClientRecords.createClient_same {svc : IbcClientMsgService} (h : ClientRecords svc)
    {id : ClientId} {hgt : Height} (hc : (id, hgt) ∈ svc.ctx.adapter.store.consensusStates)
    (raw : MsgCreateClient) :
    svc.ctx.adapter.store.SameClient (svc.createClient raw).2.ctx.adapter.store id := by
  rcases createClient_cases svc raw with hs | hs | ⟨msg, id', hp, -, hid, hs⟩
  · rw [hs]; exact ⟨rfl, rfl, fun _ => rfl⟩
  · rw [hs]; exact ⟨rfl, rfl, fun _ => rfl⟩
  obtain ⟨t, n, hn, hlt⟩ := h.completeBelow hp _ hc
  have hne : id ≠ id' := by
    rintro rfl
    exact absurd (congrArg UInt64.toNat (ClientId.new_inj hn hid).2) (Nat.ne_of_lt hlt)
  obtain ⟨h₁, h₂, h₃⟩ := @Store.sameClient_writes svc.ctx.adapter.store _ _ hne
    msg.clientState.clientType msg.clientState msg.clientState.latestHeight msg.consensusState
  rcases hs with hs | hs | hs | ⟨_, _, -, hs⟩ <;> rw [hs]
  exacts [h₁, h₂, h₃, h₃]

/-- A call never touches a complete client. -/
theorem ClientRecords.apply_same {svc : IbcClientMsgService} (h : ClientRecords svc)
    {id : ClientId} {hgt : Height} (hc : (id, hgt) ∈ svc.ctx.adapter.store.consensusStates) :
    ∀ op : HostOp, svc.ctx.adapter.store.SameClient (op.apply svc).ctx.adapter.store id
  | .createClient raw => h.createClient_same hc raw
  | .channel op => by
    obtain ⟨ht, hs, hcs, -⟩ := ChannelOp.call_keepsClients svc.ctx op
    exact ⟨congrArg _ ht, congrArg _ hs, fun _ => congrArg _ hcs⟩
  | .connection op => by
    obtain ⟨ht, hs, hcs, -⟩ := ConnectionOp.call_keepsClients svc.ctx op
    exact ⟨congrArg _ ht, congrArg _ hs, fun _ => congrArg _ hcs⟩

/-- `hostCtx` after its first `create_client`, which stores `07-tendermint-0`. -/
def createdHost : IbcClientMsgService :=
  HostOp.apply ⟨hostCtx, false⟩ (.createClient tendermintMsg.toRaw)

/-- The second request is given `07-tendermint-1`. -/
example : ((runHost createdHost [.createClient tendermintMsg.toRaw]).ctx.adapter.store.clientStates.keys.map
    (·.val)) = ["07-tendermint-1", "07-tendermint-0"] := by
  decide

/-! ### A poisoned lock -/

theorem IbcImpl.KeepsClients.trans {ctx ctx' ctx'' : IbcImpl} (h : ctx.KeepsClients ctx')
    (h' : ctx'.KeepsClients ctx'') : ctx.KeepsClients ctx'' :=
  ⟨h'.1.trans h.1, h'.2.1.trans h.2.1, h'.2.2.1.trans h.2.2.1, h'.2.2.2.trans h.2.2.2⟩

/-- A call on a poisoned service leaves it poisoned, and keeps the clients. -/
theorem HostOp.apply_poisoned {svc : IbcClientMsgService} (hp : svc.poisoned = true) :
    ∀ op : HostOp, (op.apply svc).poisoned = true ∧ svc.ctx.KeepsClients (op.apply svc).ctx
  | .createClient raw => by
    rw [HostOp.apply, createClient_of_poisoned hp]
    exact ⟨hp, rfl, rfl, rfl, rfl⟩
  | .channel op => ⟨hp, ChannelOp.call_keepsClients svc.ctx op⟩
  | .connection op => ⟨hp, ConnectionOp.call_keepsClients svc.ctx op⟩

/-- **A poisoned lock is poisoned for good**: once a request has panicked under the
write guard, no run of the host clears the poison or changes a client record or the
client counter, and every `create_client` after the run panics. -/
theorem poisoned_run {svc : IbcClientMsgService} (hp : svc.poisoned = true) (ops : List HostOp) :
    (runHost svc ops).poisoned = true ∧ svc.ctx.KeepsClients (runHost svc ops).ctx ∧
      ∀ raw, ((runHost svc ops).createClient raw).1 = .panic := by
  suffices h : (runHost svc ops).poisoned = true ∧ svc.ctx.KeepsClients (runHost svc ops).ctx from
    ⟨h.1, h.2, fun raw => by rw [createClient_of_poisoned h.1]⟩
  induction ops generalizing svc with
  | nil => exact ⟨hp, rfl, rfl, rfl, rfl⟩
  | cons op ops ih =>
    obtain ⟨hp', hk⟩ := HostOp.apply_poisoned hp op
    obtain ⟨hp'', hk'⟩ := ih hp'
    exact ⟨hp'', hk.trans hk'⟩

/-- `hostCtx` behind a poisoned lock. -/
def poisonedHost : IbcClientMsgService := ⟨hostCtx, true⟩

theorem poisoned_run_poisonedHost :
    (runHost poisonedHost [.createClient tendermintMsg.toRaw, .channel .increaseChannelCounter]).poisoned =
        true ∧
      poisonedHost.ctx.KeepsClients
        (runHost poisonedHost [.createClient tendermintMsg.toRaw, .channel .increaseChannelCounter]).ctx ∧
      ∀ raw, ((runHost poisonedHost
        [.createClient tendermintMsg.toRaw, .channel .increaseChannelCounter]).createClient raw).1 = .panic :=
  poisoned_run rfl _

end AxonIbc
