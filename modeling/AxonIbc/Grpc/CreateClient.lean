import AxonIbc.Grpc.Query

/-!
# `create_client`

`IbcClientMsgService::create_client` (`core/ibc/src/grpc.rs`): parse the message,
take the context's write lock, build the client's identifier from
`client_counter`, read the host's timestamp and height, and hand the result to
`store_client_result`.

## The model

The service holds the context behind an `RwLock`; `IbcClientMsgService` is the
context together with the lock's poison flag. `write().unwrap()` panics on a
poisoned lock, and a panic while the guard is held poisons it, for good: the
`Drop` of the guard sets the flag and nothing in the code clears it. A panic before
the lock is taken (the `unwrap` of `MsgCreateAnyClient::try_from`) poisons nothing.

`createClientLocked` is what runs under the lock, from `client_counter()` to
`store_client_result`, returning the identifier it built on `Ok`; the handler's
response (`MsgCreateClientResponse {}`) carries none, and the events and log lines
it emits into a local `HandlerOutput` are dropped, so they are not modelled.

## What is proved

* `createClientLocked_ok`, `createClientLocked_counter` — the locked part either
  returns `Ok` with the identifier `ClientId::new(type, counter)` and the counter
  one higher, or leaves the counter as it was;
* `createClient_ok` — a `create_client` that returns `Ok` stored the client's type,
  state and consensus state under that identifier, raised the counter by one and
  recorded the host's timestamp and height for the client, and
  `createClient_readBack` — the context's client readers then return them;
* `createClient_err` — a `create_client` that returns an error `Status` leaves the
  counter unchanged, and the store as it was or with the client type, or the type
  and the client state, recorded under the identifier that counter gives, and
  `createClient_partialWrite` is such a run;
* `createClient_poisonsLock` — with the host's consensus-state cache empty (nothing
  in the repository fills it), `create_client` panics under the lock, after which
  every `create_client` panics.

## Honest scope

A raw `Any` state is its decoded state or `None` (missing or not decodable); the
signer is not read by anything modelled and is left out. `try_from` is the ibc
crate's: it requires both states and the same client type for them.
-/

namespace AxonIbc

/-! ### Messages -/

/-- `MsgCreateClient` as received: each `Any` decoded to its state, or `none`. -/
structure MsgCreateClient where
  /-- `client_state`. -/
  clientState : Option AnyClientState
  /-- `consensus_state`. -/
  consensusState : Option AnyConsensusState
  deriving DecidableEq

/-- `MsgCreateAnyClient`: the parsed message, whose two states are of one client type. -/
structure MsgCreateAnyClient where
  /-- `client_state`. -/
  clientState : AnyClientState
  /-- `consensus_state`. -/
  consensusState : AnyConsensusState
  /-- `MsgCreateAnyClient::new` refuses states of different client types. -/
  typesAgree : clientState.clientType = consensusState.clientType

/-- `MsgCreateAnyClient::try_from(raw)`. The crate reports a missing consensus state
with the error of a missing client state, `missing_raw_client_state`. -/
def MsgCreateAnyClient.tryFrom (raw : MsgCreateClient) : Except ClientError MsgCreateAnyClient :=
  match raw.clientState, raw.consensusState with
  | none, _ => .error .missingRawClientState
  | some _, none => .error .missingRawClientState
  | some cs, some cons =>
    if h : cs.clientType = cons.clientType then .ok ⟨cs, cons, h⟩
    else .error (.rawClientAndConsensusStateTypesMismatch cs.clientType cons.clientType)

/-- The raw form of a parsed message. -/
def MsgCreateAnyClient.toRaw (msg : MsgCreateAnyClient) : MsgCreateClient :=
  ⟨some msg.clientState, some msg.consensusState⟩

@[simp] theorem MsgCreateAnyClient.tryFrom_toRaw (msg : MsgCreateAnyClient) :
    MsgCreateAnyClient.tryFrom msg.toRaw = .ok msg := by
  simp [MsgCreateAnyClient.tryFrom, MsgCreateAnyClient.toRaw, msg.typesAgree]

/-! ### The handler -/

/-- The `ClientResult::Create` the handler builds. -/
def CreateResult.ofMsg (id : ClientId) (msg : MsgCreateAnyClient) (t : Timestamp) (h : Height) :
    CreateResult :=
  ⟨id, msg.clientState.clientType, msg.clientState, msg.consensusState, t, h⟩

/-- `ctx.store_client_result(result).map_err(|_v| Status::invalid_argument("store_client_result"))?`,
with the identifier the request built on `Ok`. -/
def storeResultStatus (id : ClientId) : Ret ClientError Unit → Ret Status ClientId
  | .ok () => .ok id
  | .err _ => .err (Status.invalidArgument "store_client_result")
  | .panic => .panic

/-- What `create_client` runs while it holds the write lock: the counter, the
identifier, `host_timestamp()`, `host_height()`, and `store_client_result`. -/
def createClientLocked (ctx : IbcImpl) (msg : MsgCreateAnyClient) : Ret Status ClientId × IbcImpl :=
  match ClientReader.clientCounter ctx with
  | .error _ => (.panic, ctx)
  | .ok idCounter =>
  match ClientId.new msg.clientState.clientType idCounter with
  | .error _ => (.panic, ctx)
  | .ok clientId =>
  match ClientReader.hostTimestamp ctx with
  | none => (.panic, ctx)
  | some processedTime =>
  match ClientReader.hostHeight ctx with
  | none => (.panic, ctx)
  | some processedHeight =>
  let (r, ctx') := ClientKeeper.storeClientResult ctx
    (CreateResult.ofMsg clientId msg processedTime processedHeight)
  (storeResultStatus clientId r, ctx')

/-- `IbcClientMsgService`: the context behind its `RwLock`, and whether the lock is
poisoned. -/
structure IbcClientMsgService where
  /-- The context. -/
  ctx : IbcImpl
  /-- A thread panicked while holding the write guard. -/
  poisoned : Bool

/-- `create_client`: its outcome, and the service it leaves. -/
def IbcClientMsgService.createClient (svc : IbcClientMsgService) (raw : MsgCreateClient) :
    Ret Status Unit × IbcClientMsgService :=
  match MsgCreateAnyClient.tryFrom raw with
  | .error _ => (.panic, svc)
  | .ok msg =>
    if svc.poisoned then (.panic, svc)
    else
      match createClientLocked svc.ctx msg with
      | (.ok _, ctx') => (.ok (), ⟨ctx', false⟩)
      | (.err e, ctx') => (.err e, ⟨ctx', false⟩)
      | (.panic, ctx') => (.panic, ⟨ctx', true⟩)

/-! ### What the locked part does -/

@[simp] theorem IbcImpl.withStore_clientCounter (ctx : IbcImpl) (s : Store) :
    (ctx.withStore s).clientCounter = ctx.clientCounter := rfl

/-- What the locked part can do: panic, writing nothing, when `host_timestamp` or
`host_height` would; or hand `store_client_result` the result for
`ClientId::new(type, counter)` and return its outcome. -/
theorem createClientLocked_cases (ctx : IbcImpl) (msg : MsgCreateAnyClient) :
    createClientLocked ctx msg = (.panic, ctx) ∨
      ∃ id t hh, ClientId.new msg.clientState.clientType ctx.clientCounter = .ok id ∧
        ClientReader.hostTimestamp ctx = some t ∧ ClientReader.hostHeight ctx = some hh ∧
        createClientLocked ctx msg =
          (storeResultStatus id (ClientKeeper.storeClientResult ctx (CreateResult.ofMsg id msg t hh)).1,
            (ClientKeeper.storeClientResult ctx (CreateResult.ofMsg id msg t hh)).2) := by
  obtain ⟨id, hid, -⟩ := ClientId.new_ok msg.clientState.clientType ctx.clientCounter
  simp only [createClientLocked, ClientReader.clientCounter, hid]
  rcases ClientReader.hostTimestamp ctx with _ | t
  · exact .inl rfl
  rcases ClientReader.hostHeight ctx with _ | hh
  · exact .inl rfl
  exact .inr ⟨id, t, hh, rfl, rfl, rfl, rfl⟩

theorem storeResultStatus_eq_ok {id id' : ClientId} {r : Ret ClientError Unit} :
    storeResultStatus id r = .ok id' ↔ r = .ok () ∧ id = id' := by
  cases r <;> simp [storeResultStatus]

/-- What an `Ok` of the locked part wrote: the client's type, state and consensus
state under `ClientId::new(type, counter)`, the counter one higher without overflow,
and the host's timestamp and height as the client's processed time and height. -/
theorem createClientLocked_ok_ctx {ctx ctx' : IbcImpl} {msg : MsgCreateAnyClient} {id : ClientId}
    (h : createClientLocked ctx msg = (.ok id, ctx')) :
    ClientId.new msg.clientState.clientType ctx.clientCounter = .ok id ∧
    ∃ t hh, ClientReader.hostTimestamp ctx = some t ∧ ClientReader.hostHeight ctx = some hh ∧
      ctx.clientCounter.toNat + 1 < UInt64.size ∧
      let hgt := msg.clientState.latestHeight
      ctx' = { ctx.withStore (((ctx.adapter.store.setClientType id msg.clientState.clientType).setClientState
          id msg.clientState).setConsensusState id hgt msg.consensusState) with
        clientCounter := ctx.clientCounter + 1
        clientProcessedTimes := ctx.clientProcessedTimes.insert (id, hgt) t
        clientProcessedHeights := ctx.clientProcessedHeights.insert (id, hgt) hh } := by
  rcases createClientLocked_cases ctx msg with hp | ⟨id', t, hh, hid, ht, hhh, heq⟩
  · cases hp.symm.trans h
  obtain ⟨h₁, rfl⟩ := Prod.mk.inj (heq.symm.trans h)
  obtain ⟨hr, rfl⟩ := storeResultStatus_eq_ok.1 h₁
  rcases ClientKeeper.storeClientResult_cases ctx (CreateResult.ofMsg id' msg t hh) with
    ⟨he, -⟩ | ⟨-, hc, hctx⟩ | ⟨hp, -⟩
  · cases he.symm.trans hr
  · exact ⟨hid, t, hh, ht, hhh, hc, hctx⟩
  · cases hp.symm.trans hr

/-- **An `Ok` of the locked part** is `ClientId::new(type, counter)`, and the counter
one higher. -/
theorem createClientLocked_ok {ctx ctx' : IbcImpl} {msg : MsgCreateAnyClient} {id : ClientId}
    (h : createClientLocked ctx msg = (.ok id, ctx')) :
    ClientId.new msg.clientState.clientType ctx.clientCounter = .ok id ∧
      ctx'.clientCounter.toNat = ctx.clientCounter.toNat + 1 := by
  obtain ⟨hid, -, -, -, -, hc, rfl⟩ := createClientLocked_ok_ctx h
  exact ⟨hid, UInt64.toNat_add_one hc⟩

/-- **Any other outcome of the locked part leaves the counter.** -/
theorem createClientLocked_counter {ctx ctx' : IbcImpl} {msg : MsgCreateAnyClient}
    {r : Ret Status ClientId} (h : createClientLocked ctx msg = (r, ctx')) (hr : ∀ id, r ≠ .ok id) :
    ctx'.clientCounter = ctx.clientCounter := by
  rcases createClientLocked_cases ctx msg with hp | ⟨id, t, hh, -, -, -, heq⟩
  · obtain ⟨-, rfl⟩ := Prod.mk.inj (hp.symm.trans h)
    rfl
  obtain ⟨h₁, rfl⟩ := Prod.mk.inj (heq.symm.trans h)
  rcases ClientKeeper.storeClientResult_cases ctx (CreateResult.ofMsg id msg t hh) with
    ⟨-, hs | hs | hs⟩ | ⟨hok, -⟩ | ⟨-, hs⟩
  · simp [hs]
  · simp [hs]
  · simp [hs]
  · exact absurd (h₁.symm.trans (by rw [hok]; rfl)) (hr id)
  · simp [hs]

/-- **An error of the locked part** is `store_client_result`'s: the writes before the
failing one stay, under the identifier `ClientId::new(type, counter)`. -/
theorem createClientLocked_err {ctx ctx' : IbcImpl} {msg : MsgCreateAnyClient} {e : Status}
    (h : createClientLocked ctx msg = (.err e, ctx')) :
    e = Status.invalidArgument "store_client_result" ∧
      ∃ id, ClientId.new msg.clientState.clientType ctx.clientCounter = .ok id ∧
        let s₁ := ctx.adapter.store.setClientType id msg.clientState.clientType
        (ctx' = ctx ∨ ctx' = ctx.withStore s₁ ∨ ctx' = ctx.withStore (s₁.setClientState id msg.clientState)) := by
  rcases createClientLocked_cases ctx msg with hp | ⟨id, t, hh, hid, -, -, heq⟩
  · cases hp.symm.trans h
  obtain ⟨h₁, rfl⟩ := Prod.mk.inj (heq.symm.trans h)
  rcases ClientKeeper.storeClientResult_cases ctx (CreateResult.ofMsg id msg t hh) with
    ⟨he, hs⟩ | ⟨hok, -⟩ | ⟨hp, -⟩
  · rw [he] at h₁
    cases h₁
    exact ⟨rfl, id, hid, hs⟩
  · rw [hok] at h₁
    cases h₁
  · rw [hp] at h₁
    cases h₁

/-! ### What `create_client` returns -/

/-- An outcome of `create_client` other than a panic is the locked part's, run on a
parsed message under an unpoisoned lock, which it leaves unpoisoned. -/
theorem createClient_locked {svc svc' : IbcClientMsgService} {raw : MsgCreateClient}
    {r : Ret Status Unit} (h : svc.createClient raw = (r, svc')) (hr : r ≠ .panic) :
    svc'.poisoned = false ∧ ∃ msg r', MsgCreateAnyClient.tryFrom raw = .ok msg ∧
      createClientLocked svc.ctx msg = (r', svc'.ctx) ∧ r = (fun _ => ()) <$> r' := by
  unfold IbcClientMsgService.createClient at h
  split at h
  · exact absurd (Prod.mk.inj h).1.symm hr
  · rename_i msg hm
    split at h
    · exact absurd (Prod.mk.inj h).1.symm hr
    · rcases hl : createClientLocked svc.ctx msg with ⟨_ | _ | _, ctx'⟩ <;>
        simp only [hl, Prod.mk.injEq] at h <;> obtain ⟨rfl, rfl⟩ := h
      · exact ⟨rfl, msg, _, hm, hl, rfl⟩
      · exact ⟨rfl, msg, _, hm, hl, rfl⟩
      · exact absurd rfl hr

/-- **A failed `create_client` does not advance the counter**: an error `Status` is
`store_client_result`'s, the lock is not poisoned, `client_counter` is unchanged,
and the store is as it was, or holds the client type, or the client type and the
client state, under `ClientId::new(type, counter)` — the identifier the next
request of that client type is given. -/
theorem createClient_err {svc svc' : IbcClientMsgService} {raw : MsgCreateClient} {e : Status}
    (h : svc.createClient raw = (.err e, svc')) :
    e = Status.invalidArgument "store_client_result" ∧ svc'.poisoned = false ∧
      svc'.ctx.clientCounter = svc.ctx.clientCounter ∧
      ∃ msg id, MsgCreateAnyClient.tryFrom raw = .ok msg ∧
        ClientId.new msg.clientState.clientType svc.ctx.clientCounter = .ok id ∧
        let s₁ := svc.ctx.adapter.store.setClientType id msg.clientState.clientType
        (svc'.ctx = svc.ctx ∨ svc'.ctx = svc.ctx.withStore s₁ ∨
          svc'.ctx = svc.ctx.withStore (s₁.setClientState id msg.clientState)) := by
  obtain ⟨hp, msg, r', hm, hl, hr⟩ := createClient_locked h nofun
  cases r' <;> cases hr
  obtain ⟨he, id, hid, hs⟩ := createClientLocked_err hl
  exact ⟨he, hp, createClientLocked_counter hl nofun, msg, id, hm, hid, hs⟩

/-- **A `create_client` that returns `Ok` stored the client**: the lock is not
poisoned, the identifier is `ClientId::new(type, counter)`, the store holds the
client's type, its state and its consensus state at the state's latest height under
it, the counter is one higher, without overflow, and the host's timestamp and height
are recorded as the client's processed time and height. -/
theorem createClient_ok {svc svc' : IbcClientMsgService} {raw : MsgCreateClient}
    (h : svc.createClient raw = (.ok (), svc')) :
    svc'.poisoned = false ∧
      ∃ msg id t hh, MsgCreateAnyClient.tryFrom raw = .ok msg ∧
        ClientId.new msg.clientState.clientType svc.ctx.clientCounter = .ok id ∧
        ClientReader.hostTimestamp svc.ctx = some t ∧ ClientReader.hostHeight svc.ctx = some hh ∧
        svc.ctx.clientCounter.toNat + 1 < UInt64.size ∧
        let hgt := msg.clientState.latestHeight
        svc'.ctx = { svc.ctx.withStore (((svc.ctx.adapter.store.setClientType id
            msg.clientState.clientType).setClientState id msg.clientState).setConsensusState id hgt
            msg.consensusState) with
          clientCounter := svc.ctx.clientCounter + 1
          clientProcessedTimes := svc.ctx.clientProcessedTimes.insert (id, hgt) t
          clientProcessedHeights := svc.ctx.clientProcessedHeights.insert (id, hgt) hh } := by
  obtain ⟨hp, msg, r', hm, hl, hr⟩ := createClient_locked h nofun
  cases r' <;> cases hr
  obtain ⟨hid, t, hh, ht, hhh, hc, hctx⟩ := createClientLocked_ok_ctx hl
  exact ⟨hp, msg, _, t, hh, hm, hid, ht, hhh, hc, hctx⟩

/-- **A created client reads back**: after a `create_client` that returned `Ok`, over
an adapter whose reads succeed, the context's `client_type`, `client_state` and
`consensus_state` at the state's latest height return the message's, under the
identifier `ClientId::new(type, counter)`: the client is registered with a consensus
state. -/
theorem createClient_readBack {svc svc' : IbcClientMsgService} {raw : MsgCreateClient}
    (h : svc.createClient raw = (.ok (), svc')) (hr : svc.ctx.adapter.ReadsSucceed) :
    ∃ msg id, MsgCreateAnyClient.tryFrom raw = .ok msg ∧
      ClientId.new msg.clientState.clientType svc.ctx.clientCounter = .ok id ∧
      ClientReader.clientType svc'.ctx id = .ok msg.clientState.clientType ∧
      ClientReader.clientState svc'.ctx id = .ok msg.clientState ∧
      ClientReader.consensusState svc'.ctx id msg.clientState.latestHeight = .ok msg.consensusState := by
  obtain ⟨-, msg, r', hm, hl, hr'⟩ := createClient_locked h nofun
  cases r' <;> cases hr'
  obtain ⟨hid, _, _, -, -, -, hctx⟩ := createClientLocked_ok_ctx hl
  refine ⟨msg, _, hm, hid, ?_⟩
  simp only [hctx, ClientReader.clientType, ClientReader.clientState, ClientReader.consensusState,
    Adapter.getClientType, Adapter.getClientState, Adapter.getConsensusState, IbcImpl.withStore,
    Adapter.read, hr.1, Store.setClientType, Store.setClientState,
    Store.setConsensusState, AList.lookup_insert, requireFound, and_self]

/-- **What `create_client` can do to the service**, whatever it returns: nothing;
poison the lock, writing nothing; or, under an unpoisoned lock and for the identifier
`ClientId::new(type, counter)`, record the client type, or the type and the client
state (an error), all three records and poison the lock (the panic of the counter's
increment at `u64::MAX`), or all three with the counter one higher and the processed
time and height recorded (`Ok`). -/
theorem createClient_cases (svc : IbcClientMsgService) (raw : MsgCreateClient) :
    let svc' := (svc.createClient raw).2
    svc' = svc ∨ svc' = { svc with poisoned := true } ∨
      ∃ msg id, svc.poisoned = false ∧ MsgCreateAnyClient.tryFrom raw = .ok msg ∧
        ClientId.new msg.clientState.clientType svc.ctx.clientCounter = .ok id ∧
        let hgt := msg.clientState.latestHeight
        let s₁ := svc.ctx.adapter.store.setClientType id msg.clientState.clientType
        let s₂ := s₁.setClientState id msg.clientState
        let s₃ := s₂.setConsensusState id hgt msg.consensusState
        (svc' = ⟨svc.ctx.withStore s₁, false⟩ ∨ svc' = ⟨svc.ctx.withStore s₂, false⟩ ∨
          svc' = ⟨svc.ctx.withStore s₃, true⟩ ∨
          ∃ t hh, svc.ctx.clientCounter.toNat + 1 < UInt64.size ∧
            svc' = ⟨{ svc.ctx.withStore s₃ with
              clientCounter := svc.ctx.clientCounter + 1
              clientProcessedTimes := svc.ctx.clientProcessedTimes.insert (id, hgt) t
              clientProcessedHeights := svc.ctx.clientProcessedHeights.insert (id, hgt) hh }, false⟩) := by
  obtain ⟨ctx, p⟩ := svc
  dsimp only
  unfold IbcClientMsgService.createClient
  split
  · exact .inl rfl
  rename_i msg hm
  cases p
  case true => exact .inl rfl
  rw [if_neg Bool.false_ne_true]
  rcases createClientLocked_cases ctx msg with hl | ⟨id, t, hh, hid, -, -, hl⟩
  · rw [hl]; exact .inr (.inl rfl)
  rw [hl]
  rcases ClientKeeper.storeClientResult_cases ctx (CreateResult.ofMsg id msg t hh) with
    ⟨he, hs | hs | hs⟩ | ⟨hok, hc, hs⟩ | ⟨hpn, hs⟩
  · rw [he, hs]; exact .inl rfl
  · rw [he, hs]; exact .inr (.inr ⟨msg, id, rfl, hm, hid, .inl rfl⟩)
  · rw [he, hs]; exact .inr (.inr ⟨msg, id, rfl, hm, hid, .inr (.inl rfl)⟩)
  · rw [hok, hs]; exact .inr (.inr ⟨msg, id, rfl, hm, hid, .inr (.inr (.inr ⟨t, hh, hc, rfl⟩))⟩)
  · rw [hpn, hs]; exact .inr (.inr ⟨msg, id, rfl, hm, hid, .inr (.inr (.inl rfl))⟩)

/-- **A poisoned lock fails every later request**: `write().unwrap()` panics. -/
theorem createClient_of_poisoned {svc : IbcClientMsgService} (h : svc.poisoned = true)
    (raw : MsgCreateClient) : svc.createClient raw = (.panic, svc) := by
  unfold IbcClientMsgService.createClient
  split <;> simp [h]

/-- With no cached host consensus state, `host_timestamp` panics. -/
theorem hostTimestamp_of_empty (ctx : IbcImpl) :
    ClientReader.hostTimestamp { ctx with consensusStates := ∅ } = none := by
  simp only [ClientReader.hostTimestamp, ClientReader.pendingHostConsensusState,
    ClientReader.hostConsensusState, AList.lookup_empty]
  split
  · simp_all [Option.bind_eq_some]
  · rfl

/-- The locked part panics, writing nothing, when `host_timestamp` panics. -/
theorem createClientLocked_of_hostTimestamp {ctx : IbcImpl} (h : ClientReader.hostTimestamp ctx = none)
    (msg : MsgCreateAnyClient) : createClientLocked ctx msg = (.panic, ctx) := by
  rcases createClientLocked_cases ctx msg with hp | ⟨_, _, _, -, ht, -⟩
  · exact hp
  · cases h.symm.trans ht

/-- **`create_client` poisons its lock**: for every context whose host
consensus-state cache is empty, as nothing in the repository ever fills it, the
first `create_client` of any well-formed message panics while it holds the write
lock, and from then on every `create_client`, of any message, panics. -/
theorem createClient_poisonsLock (ctx : IbcImpl) (msg : MsgCreateAnyClient) (raw : MsgCreateClient) :
    let svc : IbcClientMsgService := ⟨{ ctx with consensusStates := ∅ }, false⟩
    svc.createClient msg.toRaw = (.panic, { svc with poisoned := true }) ∧
      ({ svc with poisoned := true } : IbcClientMsgService).createClient raw =
        (.panic, { svc with poisoned := true }) := by
  refine ⟨?_, createClient_of_poisoned rfl raw⟩
  simp [IbcClientMsgService.createClient, createClientLocked_of_hostTimestamp (hostTimestamp_of_empty ctx)]

/-! ### A request whose client-state write fails -/

/-- The client `07-tendermint-0`. -/
def tendermint0 : ClientId := ⟨"07-tendermint-0", by decide⟩

/-- A Tendermint client whose latest height is 1, with its consensus state. -/
def tendermintMsg : MsgCreateAnyClient :=
  ⟨⟨.tendermint, ⟨0, 1⟩, []⟩, ⟨.tendermint, ⟨5, []⟩⟩, rfl⟩

/-- A context at height 1 with the host's pending consensus state cached, and the
counter at 0, over an empty store; nothing fails. -/
def hostCtx : IbcImpl :=
  ⟨⟨Store.empty, 1, fun _ => none, fun _ => none, fun _ => none, true⟩,
    0, 0, 0, ∅, ∅, ∅, (∅ : AList _).insert 2 ⟨7, []⟩⟩

/-- `hostCtx`, whose adapter fails to write the client state of `07-tendermint-0`. -/
def clientStateFaultCtx : IbcImpl :=
  { hostCtx with adapter := { hostCtx.adapter with
      writeFault := fun p => if p = .clientState tendermint0 then some ⟨"disk full"⟩ else none } }

/-- The request fails with the client type of `07-tendermint-0` written and the
counter still at 0; once the write succeeds again, the next request is given
`07-tendermint-0` too, and writes over it. -/
theorem createClient_partialWrite :
    let r := IbcClientMsgService.createClient ⟨clientStateFaultCtx, false⟩ tendermintMsg.toRaw
    let healed : IbcClientMsgService :=
      ⟨{ r.2.ctx with adapter := { r.2.ctx.adapter with writeFault := fun _ => none } }, r.2.poisoned⟩
    r.1 = .err (Status.invalidArgument "store_client_result") ∧
      r.2.ctx.clientCounter = clientStateFaultCtx.clientCounter ∧
      clientStateFaultCtx.adapter.store.clientTypes.lookup tendermint0 = none ∧
      r.2.ctx.adapter.store.clientTypes.lookup tendermint0 = some .tendermint ∧
      (createClientLocked healed.ctx tendermintMsg).1 = .ok tendermint0 := by
  dsimp only
  decide

theorem createClient_err_of_clientStateFault :
    ∃ e svc', IbcClientMsgService.createClient ⟨clientStateFaultCtx, false⟩ tendermintMsg.toRaw =
        (.err e, svc') ∧
      e = Status.invalidArgument "store_client_result" ∧ svc'.poisoned = false ∧
      svc'.ctx.clientCounter = clientStateFaultCtx.clientCounter := by
  have h : IbcClientMsgService.createClient ⟨clientStateFaultCtx, false⟩ tendermintMsg.toRaw =
      (.err (Status.invalidArgument "store_client_result"),
        (IbcClientMsgService.createClient ⟨clientStateFaultCtx, false⟩ tendermintMsg.toRaw).2) :=
    Prod.ext (by decide) rfl
  obtain ⟨he, hp, hc, -⟩ := createClient_err h
  exact ⟨_, _, h, he, hp, hc⟩

/-! ### A request that succeeds -/

theorem createClient_ok_hostCtx :
    ∃ svc', IbcClientMsgService.createClient ⟨hostCtx, false⟩ tendermintMsg.toRaw = (.ok (), svc') ∧
      svc'.poisoned = false ∧
      ∃ msg id t hh, MsgCreateAnyClient.tryFrom tendermintMsg.toRaw = .ok msg ∧
        ClientId.new msg.clientState.clientType hostCtx.clientCounter = .ok id ∧
        ClientReader.hostTimestamp hostCtx = some t ∧ ClientReader.hostHeight hostCtx = some hh := by
  have h : IbcClientMsgService.createClient ⟨hostCtx, false⟩ tendermintMsg.toRaw =
      (.ok (), (IbcClientMsgService.createClient ⟨hostCtx, false⟩ tendermintMsg.toRaw).2) :=
    Prod.ext (by decide) rfl
  obtain ⟨hp, msg, id, t, hh, hm, hid, ht, hhh, -⟩ := createClient_ok h
  exact ⟨_, h, hp, msg, id, t, hh, hm, hid, ht, hhh⟩

theorem createClient_readBack_hostCtx :
    ∃ svc', IbcClientMsgService.createClient ⟨hostCtx, false⟩ tendermintMsg.toRaw = (.ok (), svc') ∧
      ∃ msg id, MsgCreateAnyClient.tryFrom tendermintMsg.toRaw = .ok msg ∧
        ClientId.new msg.clientState.clientType hostCtx.clientCounter = .ok id ∧
        ClientReader.clientType svc'.ctx id = .ok msg.clientState.clientType ∧
        ClientReader.clientState svc'.ctx id = .ok msg.clientState ∧
        ClientReader.consensusState svc'.ctx id msg.clientState.latestHeight =
          .ok msg.consensusState := by
  have h : IbcClientMsgService.createClient ⟨hostCtx, false⟩ tendermintMsg.toRaw =
      (.ok (), (IbcClientMsgService.createClient ⟨hostCtx, false⟩ tendermintMsg.toRaw).2) :=
    Prod.ext (by decide) rfl
  have hr : (IbcClientMsgService.mk hostCtx false).ctx.adapter.ReadsSucceed :=
    ⟨fun _ => rfl, fun _ => rfl⟩
  have hread := createClient_readBack h hr
  exact ⟨_, h, hread⟩

example : (IbcClientMsgService.createClient ⟨hostCtx, false⟩ tendermintMsg.toRaw).2.ctx.adapter.store.clientStates.lookup
    tendermint0 = some tendermintMsg.clientState := by
  decide

end AxonIbc
