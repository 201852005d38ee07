import Mathlib.Data.List.Forall2
import AxonIbc.Grpc.HostRun
import AxonIbc.Grpc.Listing

/-!
# The listing queries beside a running host

The query services do not take the context's lock: they read the adapter directly,
one call at a time, and between two of their calls any number of the host's calls
may run (`create_client` requests and the keepers' calls of `AxonIbc.Grpc.HostRun`).
A query so observes each of its reads at the instant of the read, not one snapshot of
the whole store.

## The model

`loopDuring loop svc runs xs` runs the iterations of a listing handler's loop, one
per element of `xs`, and before the `i`-th the host runs the `i`-th run of `runs`;
reads past the last run see the state it left. An iteration is the handler's own loop
on one element. The `...During` handlers (`clientStatesDuring`, `consensusStatesDuring`,
`connectionsDuring`, `channelsDuring`, `connectionChannelsDuring`,
`packetCommitmentsDuring`, `packetAcknowledgementsDuring`) are the listing handlers with
the scan at `svc` and their loop run so, and `unreceivedPacketsDuring` reads the receipt
of each sequence of its request so; with no run between the reads they are the handlers
themselves (`handlersDuring_nil`).

## What is proved

* `hostRun_keeps` — no run of the host removes a client state, a consensus state, a
  connection, a channel, a receipt or an acknowledgement, nor, on an adapter that deletes by
  writing an empty commitment, a commitment; and a run changes only the adapter's store;
* `loopDuring_ok`, `loopDuring_map` — a loop that is a fold of its iterations, each of
  which returns at every instant of the run, returns, listing in order each element's
  result at some instant;
* `listings_during` — hence **under every interleaving of the host's calls with its
  reads, `client_states`, `connections` and `channels` return `Ok`**: none of their
  `unwrap`s and `expect`s panics, and they list, in the scan's order, each record
  stored at the scan, with its value at some instant after it;
* `keyedListings_during` — the same of `consensus_states` of a valid client
  identifier and of `connection_channels`; the latter decides whether a channel is on
  the connection by its end as read, not as scanned;
* `packetCommitments_during` — on an adapter whose deletes write an empty commitment,
  `packet_commitments` returns `Ok` under every interleaving, listing each commitment
  of the channel scanned with its bytes at some instant, the empty ones dropped. On an
  adapter that removes the record it panics when a delete falls between the scan and
  the read (`packetCommitments_deleteBetween`);
* `packetAcknowledgements_during` — `packet_acknowledgements` returns `Ok` under every
  interleaving on every adapter whose reads succeed: `delete_packet_acknowledgement`
  writes an empty acknowledgement, so no scanned record goes missing;
* `unreceivedPackets_during` — `unreceived_packets` reports each sequence by its
  receipt at some instant of the run, and never reports as unreceived a sequence
  whose receipt was stored when the query began.

## Honest scope

A host call is one step here. The keepers' calls each make one adapter write, but a
`create_client` makes three, and a read the adapter serves between two of them is not
modelled. Each of those writes only adds a record, so a read there sees no record
removed either.
-/

namespace AxonIbc

/-! ### What a run of the host keeps -/

theorem AList.mem_insert_of_mem {α β : Type} [DecidableEq α] {l : AList (fun _ : α => β)}
    {a a' : α} {b : β} (h : a ∈ l) : a ∈ l.insert a' b :=
  (AList.mem_insert _).2 (.inr h)

theorem runHost_append (svc : IbcClientMsgService) (ops ops' : List HostOp) :
    runHost svc (ops ++ ops') = runHost (runHost svc ops) ops' :=
  List.foldl_append _ _ _ _

/-- `s'` keeps every client state, consensus state, connection, channel, receipt and
acknowledgement of `s`, and, where deletes write an empty commitment, every commitment. -/
structure Store.Keeps (tombstone : Bool) (s s' : Store) : Prop where
  /-- No client state is removed. -/
  clientStates : ∀ c ∈ s.clientStates, c ∈ s'.clientStates
  /-- No consensus state is removed. -/
  consensusStates : ∀ k ∈ s.consensusStates, k ∈ s'.consensusStates
  /-- No connection is removed. -/
  connections : ∀ c ∈ s.connections, c ∈ s'.connections
  /-- No channel is removed. -/
  channels : ∀ pc ∈ s.channels, pc ∈ s'.channels
  /-- No commitment is removed, where deletes write an empty one. -/
  commitments : tombstone = true → ∀ k ∈ s.commitments, k ∈ s'.commitments
  /-- No receipt is removed. -/
  receipts : ∀ k ∈ s.receipts, k ∈ s'.receipts
  /-- No acknowledgement is removed: `delete_packet_acknowledgement` writes an empty one. -/
  acks : ∀ k ∈ s.acks, k ∈ s'.acks

section Keeps

variable {t : Bool} {s s' s'' : Store}

theorem Store.Keeps.refl : s.Keeps t s where
  clientStates _ h := h
  consensusStates _ h := h
  connections _ h := h
  channels _ h := h
  commitments _ _ h := h
  receipts _ h := h
  acks _ h := h

theorem Store.Keeps.trans (h : s.Keeps t s') (h' : s'.Keeps t s'') : s.Keeps t s'' where
  clientStates c hc := h'.clientStates c (h.clientStates c hc)
  consensusStates k hk := h'.consensusStates k (h.consensusStates k hk)
  connections c hc := h'.connections c (h.connections c hc)
  channels pc hc := h'.channels pc (h.channels pc hc)
  commitments ht k hk := h'.commitments ht k (h.commitments ht k hk)
  receipts k hk := h'.receipts k (h.receipts k hk)
  acks k hk := h'.acks k (h.acks k hk)

end Keeps

/-- A channel-keeper call's `effect` keeps the store's records. -/
theorem ChannelOp.effect_keeps (t : Bool) (s : Store) (op : ChannelOp) : s.Keeps t (op.effect t s) := by
  cases op
  case storePacketCommitment =>
    exact { (.refl : s.Keeps t s) with commitments := fun _ _ h => AList.mem_insert_of_mem h }
  case deletePacketCommitment =>
    refine { (.refl : s.Keeps t s) with commitments := fun ht _ h => ?_ }
    simp only [ChannelOp.effect, Store.deletePacketCommitment, ht, if_true]
    exact AList.mem_insert_of_mem h
  case storePacketReceipt =>
    exact { (.refl : s.Keeps t s) with receipts := fun _ h => AList.mem_insert_of_mem h }
  case storePacketAcknowledgement | deletePacketAcknowledgement =>
    exact { (.refl : s.Keeps t s) with acks := fun _ h => AList.mem_insert_of_mem h }
  case storeChannel =>
    exact { (.refl : s.Keeps t s) with channels := fun _ h => AList.mem_insert_of_mem h }
  all_goals exact { (.refl : s.Keeps t s) with }

/-- A connection-keeper call's `effect` keeps the store's records. -/
theorem ConnectionOp.effect_keeps (t : Bool) (s : Store) (op : ConnectionOp) : s.Keeps t (op.effect s) := by
  cases op
  case storeConnection =>
    exact { (.refl : s.Keeps t s) with connections := fun _ h => AList.mem_insert_of_mem h }
  all_goals exact { (.refl : s.Keeps t s) with }

/-- A keeper call over a typed setter leaves the store, or applies the setter. -/
theorem ofKeep_write_store {ε : Type} (ctx : IbcImpl) (p : IbcPath) (u : Store → Store) (e : ε) :
    (ofKeep ctx (ctx.keep (ctx.adapter.write p u) e)).2.adapter.store = ctx.adapter.store ∨
      (ofKeep ctx (ctx.keep (ctx.adapter.write p u) e)).2.adapter.store = u ctx.adapter.store := by
  rw [ofKeep_write]
  split_ifs
  exacts [.inl rfl, .inr rfl]

/-- A call that leaves the store, or applies an effect that keeps the records, keeps them. -/
theorem Store.Keeps.of_cases {t : Bool} {s s' e : Store} (h : s' = s ∨ s' = e)
    (he : s.Keeps t e) : s.Keeps t s' := by
  rcases h with rfl | rfl
  exacts [.refl, he]

theorem ChannelOp.call_keeps (ctx : IbcImpl) (op : ChannelOp) :
    ∃ s, (op.call ctx).2.adapter = { ctx.adapter with store := s } ∧
      ctx.adapter.store.Keeps ctx.adapter.tombstoneDeletes s := by
  obtain ⟨s, hs, -⟩ := ChannelOp.call_adapter ctx op
  refine ⟨s, hs, .of_cases ?_ (ChannelOp.effect_keeps _ _ op)⟩
  rw [show s = (op.call ctx).2.adapter.store by rw [hs]]
  cases op
  case increaseChannelCounter =>
    simp only [ChannelOp.call, ChannelKeeper.increaseChannelCounter]
    cases checkedSucc ctx.channelCounter <;> exact .inl rfl
  all_goals exact ofKeep_write_store ctx _ _ _

theorem ConnectionOp.call_keeps (ctx : IbcImpl) (op : ConnectionOp) :
    ∃ s, (op.call ctx).2.adapter = { ctx.adapter with store := s } ∧
      ctx.adapter.store.Keeps ctx.adapter.tombstoneDeletes s := by
  obtain ⟨s, hs, -⟩ := ConnectionOp.call_adapter ctx op
  refine ⟨s, hs, .of_cases ?_ (ConnectionOp.effect_keeps _ _ op)⟩
  rw [show s = (op.call ctx).2.adapter.store by rw [hs]]
  cases op
  case increaseConnectionCounter =>
    simp only [ConnectionOp.call, ConnectionKeeper.increaseConnectionCounter]
    cases checkedSucc ctx.connCounter <;> exact .inl rfl
  all_goals exact ofKeep_write_store ctx _ _ _

/-- `create_client` keeps the store's records: it only adds client records. -/
theorem createClient_keeps (svc : IbcClientMsgService) (raw : MsgCreateClient) :
    ∃ s, (svc.createClient raw).2.ctx.adapter = { svc.ctx.adapter with store := s } ∧
      svc.ctx.adapter.store.Keeps svc.ctx.adapter.tombstoneDeletes s := by
  rcases createClient_cases svc raw with hs | hs | ⟨msg, id, -, -, -, hs⟩
  · exact ⟨_, by rw [hs], .refl⟩
  · exact ⟨_, by rw [hs], .refl⟩
  have hk : svc.ctx.adapter.store.Keeps svc.ctx.adapter.tombstoneDeletes
      (((svc.ctx.adapter.store.setClientType id msg.clientState.clientType).setClientState id
        msg.clientState).setConsensusState id msg.clientState.latestHeight msg.consensusState) :=
    { (.refl : svc.ctx.adapter.store.Keeps _ _) with
      clientStates := fun _ h => AList.mem_insert_of_mem h
      consensusStates := fun _ h => AList.mem_insert_of_mem h }
  rcases hs with hs | hs | hs | ⟨_, _, -, hs⟩ <;> refine ⟨_, by rw [hs]; rfl, ?_⟩
  · exact { (.refl : svc.ctx.adapter.store.Keeps _ _) with }
  · exact { hk with consensusStates := fun _ h => h }
  all_goals exact hk

/-- A call changes only the adapter's store, and keeps its records. -/
theorem HostOp.apply_keeps (svc : IbcClientMsgService) :
    ∀ op : HostOp, ∃ s, (op.apply svc).ctx.adapter = { svc.ctx.adapter with store := s } ∧
      svc.ctx.adapter.store.Keeps svc.ctx.adapter.tombstoneDeletes s
  | .createClient raw => createClient_keeps svc raw
  | .channel op => ChannelOp.call_keeps svc.ctx op
  | .connection op => ConnectionOp.call_keeps svc.ctx op

/-- **A run of the host keeps what the listings read**: it changes only the adapter's
store, and removes no client state, connection or channel, nor, where deletes write an
empty commitment, any commitment. -/
theorem hostRun_keeps (svc : IbcClientMsgService) (ops : List HostOp) :
    ∃ s, (runHost svc ops).ctx.adapter = { svc.ctx.adapter with store := s } ∧
      svc.ctx.adapter.store.Keeps svc.ctx.adapter.tombstoneDeletes s := by
  induction ops generalizing svc with
  | nil => exact ⟨_, rfl, .refl⟩
  | cons op ops ih =>
    obtain ⟨s, hs, hk⟩ := HostOp.apply_keeps svc op
    obtain ⟨s', hs', hk'⟩ := ih (op.apply svc)
    rw [hs] at hs' hk'
    exact ⟨s', hs', hk.trans hk'⟩

/-! ### A loop beside the host -/

/-- A listing handler's loop with the host running beside it: before the read of each
element the host runs the next run of `runs`; once `runs` is spent, the remaining reads
see the state the last run left. An iteration is the handler's loop on one element. -/
def loopDuring {α β : Type} (loop : Adapter → List α → Ret Status (List β)) :
    IbcClientMsgService → List (List HostOp) → List α → Ret Status (List β)
  | _, _, [] => pure []
  | svc, [], xs => loop svc.ctx.adapter xs
  | svc, ops :: runs, x :: xs => do
    let y ← loop (runHost svc ops).ctx.adapter [x]
    let ys ← loopDuring loop (runHost svc ops) runs xs
    return y ++ ys

theorem loopDuring_cons {α β : Type} (loop : Adapter → List α → Ret Status (List β))
    (svc : IbcClientMsgService) (ops : List HostOp) (runs : List (List HostOp)) (x : α)
    (xs : List α) :
    loopDuring loop svc (ops :: runs) (x :: xs) =
      (loop (runHost svc ops).ctx.adapter [x] >>= fun y =>
        loopDuring loop (runHost svc ops) runs xs >>= fun ys => pure (y ++ ys)) :=
  rfl

/-- The service once the host has made the first `k` runs of `runs`. -/
def hostAt (svc : IbcClientMsgService) (runs : List (List HostOp)) (k : Nat) : IbcClientMsgService :=
  runHost svc (runs.take k).flatten

/-- A loop is the fold of its iterations: it reads the elements one at a time, and
concatenates what each iteration returns. -/
def IsFoldOfReads {α β : Type} (loop : Adapter → List α → Ret Status (List β)) : Prop :=
  (∀ a, loop a [] = pure []) ∧
    ∀ a x xs, loop a (x :: xs) = (loop a [x] >>= fun y => loop a xs >>= fun ys => pure (y ++ ys))

section Loop

variable {α β : Type} {loop : Adapter → List α → Ret Status (List β)}

/-- With no run beside it, the loop is the handler's own. -/
theorem loopDuring_nil (hf : IsFoldOfReads loop) (svc : IbcClientMsgService) (xs : List α) :
    loopDuring loop svc [] xs = loop svc.ctx.adapter xs := by
  cases xs
  · exact (hf.1 _).symm
  · rfl

/-- A fold of iterations that each return, returns. -/
theorem IsFoldOfReads.ok (hf : IsFoldOfReads loop) {a : Adapter} {R : α → List β → Prop} :
    ∀ xs : List α, (∀ x ∈ xs, ∃ y, loop a [x] = .ok y ∧ R x y) →
      ∃ ys, loop a xs = .ok ys.flatten ∧ List.Forall₂ R xs ys
  | [], _ => ⟨[], hf.1 a, .nil⟩
  | x :: xs, h => by
    obtain ⟨y, hy, hR⟩ := h x (.head _)
    obtain ⟨ys, hys, hF⟩ := hf.ok xs fun x' hx' => h x' (.tail _ hx')
    exact ⟨y :: ys, by rw [hf.2, hy, Ret.ok_bind, hys, Ret.ok_bind]; rfl, .cons hR hF⟩

theorem hostAt_cons (svc : IbcClientMsgService) (ops : List HostOp) (runs : List (List HostOp))
    (k : Nat) : hostAt (runHost svc ops) runs k = hostAt svc (ops :: runs) (k + 1) := by
  simp only [hostAt, List.take_succ_cons, List.flatten_cons, runHost_append]

/-- **A loop beside the host returns** when each of its iterations returns at every
instant of the run: it lists, in order, each element's result at some instant. -/
theorem loopDuring_ok (hf : IsFoldOfReads loop) (R : α → List β → IbcClientMsgService → Prop) :
    ∀ (svc : IbcClientMsgService) (runs : List (List HostOp)) (xs : List α),
      (∀ k ≤ runs.length, ∀ x ∈ xs, ∃ y,
        loop (hostAt svc runs k).ctx.adapter [x] = .ok y ∧ R x y (hostAt svc runs k)) →
      ∃ ys, loopDuring loop svc runs xs = .ok ys.flatten ∧
        List.Forall₂ (fun x y => ∃ k ≤ runs.length, R x y (hostAt svc runs k)) xs ys
  | _, runs, [], _ => ⟨[], by cases runs <;> rfl, .nil⟩
  | svc, [], x :: xs, h => by
    obtain ⟨ys, hys, hF⟩ := hf.ok (x :: xs) fun x' hx' => h 0 le_rfl x' hx'
    exact ⟨ys, hys, hF.imp fun _ _ hR => ⟨0, le_rfl, hR⟩⟩
  | svc, ops :: runs, x :: xs, h => by
    have h₁ : hostAt svc (ops :: runs) 1 = runHost svc ops := by
      rw [hostAt, List.take_succ_cons, List.take_zero, List.flatten_cons, List.flatten_nil,
        List.append_nil]
    obtain ⟨y, hy, hR⟩ := h 1 (Nat.le_add_left 1 runs.length) x (.head _)
    rw [h₁] at hy hR
    obtain ⟨ys, hys, hF⟩ := loopDuring_ok hf R (runHost svc ops) runs xs fun k hk x' hx' => by
      rw [hostAt_cons]
      exact h (k + 1) (Nat.succ_le_succ hk) x' (.tail _ hx')
    refine ⟨y :: ys, by rw [loopDuring_cons, hy, Ret.ok_bind, hys, Ret.ok_bind]; rfl,
      .cons ⟨1, Nat.le_add_left 1 runs.length, h₁ ▸ hR⟩ ?_⟩
    exact hF.imp fun _ _ ⟨k, hk, hR'⟩ =>
      ⟨k + 1, Nat.succ_le_succ hk, hostAt_cons svc ops runs k ▸ hR'⟩

/-- Where each iteration returns one element, the listing is those elements. -/
theorem forall₂_flatten_singletons {γ δ : Type} {P : γ → δ → Prop} :
    ∀ {xs : List γ} {ys : List (List δ)},
      List.Forall₂ (fun x y => ∃ z, y = [z] ∧ P x z) xs ys → List.Forall₂ P xs ys.flatten
  | _, _, .nil => .nil
  | _, _, .cons ⟨_, rfl, hz⟩ h => .cons hz (forall₂_flatten_singletons h)

/-- A loop over the paths of a list of keys lists, in order, each key's result at some
instant, when each iteration returns at every instant. -/
theorem loopDuring_map {γ : Type} {path : γ → α} (hf : IsFoldOfReads loop)
    (hpath : Function.Injective path) (R : γ → List β → IbcClientMsgService → Prop)
    (svc : IbcClientMsgService) (runs : List (List HostOp)) (keys : List γ)
    (h : ∀ k ≤ runs.length, ∀ c ∈ keys, ∃ y,
      loop (hostAt svc runs k).ctx.adapter [path c] = .ok y ∧ R c y (hostAt svc runs k)) :
    ∃ ys, loopDuring loop svc runs (keys.map path) = .ok ys.flatten ∧
      List.Forall₂ (fun c y => ∃ k ≤ runs.length, R c y (hostAt svc runs k)) keys ys := by
  obtain ⟨ys, hys, hF⟩ := loopDuring_ok hf (fun p y t => ∃ c, p = path c ∧ R c y t)
    svc runs (keys.map path) fun k hk p hp => by
      obtain ⟨c, hc, rfl⟩ := List.mem_map.1 hp
      obtain ⟨y, hy, hR⟩ := h k hk c hc
      exact ⟨y, hy, c, rfl, hR⟩
  rw [List.forall₂_map_left_iff] at hF
  exact ⟨ys, hys, hF.imp fun c _ ⟨k, hk, c', hc, hR⟩ => ⟨k, hk, hpath hc ▸ hR⟩⟩

/-- Where each read returns the key's one record, the listing is one record per key. -/
theorem loopDuring_map_singletons {γ : Type} {path : γ → α} (hf : IsFoldOfReads loop)
    (hpath : Function.Injective path) (R : γ → β → IbcClientMsgService → Prop)
    (svc : IbcClientMsgService) (runs : List (List HostOp)) (keys : List γ)
    (h : ∀ k ≤ runs.length, ∀ c ∈ keys, ∃ x,
      loop (hostAt svc runs k).ctx.adapter [path c] = .ok [x] ∧ R c x (hostAt svc runs k)) :
    ∃ r, loopDuring loop svc runs (keys.map path) = .ok r ∧
      List.Forall₂ (fun c x => ∃ k ≤ runs.length, R c x (hostAt svc runs k)) keys r := by
  obtain ⟨ys, hys, hF⟩ := loopDuring_map hf hpath (fun c y t => ∃ x, y = [x] ∧ R c x t)
    svc runs keys fun k hk c hc =>
      (h k hk c hc).elim fun x ⟨hx, hR⟩ => ⟨[x], hx, x, rfl, hR⟩
  exact ⟨ys.flatten, hys, forall₂_flatten_singletons
    (hF.imp fun _ _ ⟨k, hk, x, hy, hR⟩ => ⟨x, hy, k, hk, hR⟩)⟩

end Loop

/-- What a run of the host reaches keeps the service's adapter, with a store that keeps
the records. -/
theorem hostAt_keeps (svc : IbcClientMsgService) (runs : List (List HostOp)) (k : Nat) :
    ∃ s, (hostAt svc runs k).ctx.adapter = { svc.ctx.adapter with store := s } ∧
      svc.ctx.adapter.store.Keeps svc.ctx.adapter.tombstoneDeletes s :=
  hostRun_keeps svc _

/-! ### The loops are folds of their reads -/

theorem clientStatesLoop_fold : IsFoldOfReads IbcClientService.clientStatesLoop := by
  refine ⟨fun _ => rfl, fun a c cs => ?_⟩
  simp only [IbcClientService.clientStatesLoop]
  cases Ret.ofExcept (a.getClientState c) Status.dataLoss with
  | ok found => cases found <;> cases IbcClientService.clientStatesLoop a cs <;> rfl
  | err e => rfl
  | panic => rfl

theorem connectionsLoop_fold : IsFoldOfReads IbcConnectionService.connectionsLoop := by
  refine ⟨fun _ => rfl, fun a p ps => ?_⟩
  cases p
  case connections c =>
    simp only [IbcConnectionService.connectionsLoop]
    cases Ret.ofExcept (a.getConnectionEnd c) Status.dataLoss with
    | ok found => cases found <;> cases IbcConnectionService.connectionsLoop a ps <;> rfl
    | err e => rfl
    | panic => rfl
  all_goals rfl

theorem channelsLoop_fold : IsFoldOfReads IbcChannelService.channelsLoop := by
  refine ⟨fun _ => rfl, fun a p ps => ?_⟩
  cases p
  case channelEnds pc =>
    simp only [IbcChannelService.channelsLoop]
    cases Ret.ofExcept (a.getChannelEnd pc) Status.dataLoss with
    | ok found => cases found <;> cases IbcChannelService.channelsLoop a ps <;> rfl
    | err e => rfl
    | panic => rfl
  all_goals rfl

theorem packetCommitmentsLoop_fold : IsFoldOfReads IbcChannelService.packetCommitmentsLoop := by
  refine ⟨fun _ => rfl, fun a k ks => ?_⟩
  simp only [IbcChannelService.packetCommitmentsLoop]
  cases Ret.ofExcept (a.getPacketCommitment k) Status.dataLoss with
  | ok found =>
    cases found
    · rfl
    · rename_i d
      cases IbcChannelService.packetCommitmentsLoop a ks <;>
        simp only [Ret.unwrap, Ret.ok_bind, Ret.err_bind, Ret.panic_bind] <;> split_ifs <;> rfl
  | err e => rfl
  | panic => rfl

theorem consensusStatesLoop_fold : IsFoldOfReads IbcClientService.consensusStatesLoop := by
  refine ⟨fun _ => rfl, fun a p ps => ?_⟩
  cases p
  case clientConsensusState c h =>
    simp only [IbcClientService.consensusStatesLoop]
    cases Ret.ofExcept (a.getConsensusState c h) Status.dataLoss <;>
      cases IbcClientService.consensusStatesLoop a ps <;> rfl
  all_goals rfl

theorem connectionChannelsLoop_fold (conn : ConnectionId) :
    IsFoldOfReads fun a => IbcChannelService.connectionChannelsLoop a conn := by
  refine ⟨fun _ => rfl, fun a p ps => ?_⟩
  cases p
  case channelEnds pc =>
    simp only [IbcChannelService.connectionChannelsLoop]
    cases Ret.ofExcept (a.getChannelEnd pc) Status.dataLoss with
    | ok found =>
      cases IbcChannelService.connectionChannelsLoop a conn ps <;> cases found <;> try rfl
      all_goals simp only [Ret.ok_bind]; split_ifs <;> rfl
    | err e => rfl
    | panic => rfl
  all_goals
    simp only [IbcChannelService.connectionChannelsLoop]
    cases IbcChannelService.connectionChannelsLoop a conn ps <;> rfl

theorem packetAcknowledgementsLoop_fold :
    IsFoldOfReads IbcChannelService.packetAcknowledgementsLoop := by
  refine ⟨fun _ => rfl, fun a k ks => ?_⟩
  simp only [IbcChannelService.packetAcknowledgementsLoop]
  cases Ret.ofExcept (a.getAcknowledgementCommitment k) Status.dataLoss with
  | ok found =>
    cases IbcChannelService.packetAcknowledgementsLoop a ks <;> cases found <;> try rfl
    all_goals simp only [Ret.ok_bind]; split_ifs <;> rfl
  | err e => rfl
  | panic => rfl

/-- The filter of `unreceived_packets` on a list of sequences: those whose receipt, read
with a failed read taken for none, is absent. An iteration reads one receipt. -/
def unreceivedPacketsFilter (p : PortId) (c : ChannelId) (a : Adapter) (seqs : List UInt64) :
    Ret Status (List UInt64) :=
  pure (seqs.filter fun s => ((a.getReceipt (p, c, s)).toOption.join).isNone)

theorem unreceivedPacketsFilter_fold (p : PortId) (c : ChannelId) :
    IsFoldOfReads (unreceivedPacketsFilter p c) := by
  refine ⟨fun _ => rfl, fun a s ss => ?_⟩
  simp only [unreceivedPacketsFilter, List.filter_cons, List.filter_nil]
  split <;> rfl

/-! ### The handlers beside the host -/

/-- `client_states` with the host running beside it: the scan sees `svc`, and before
each read the host makes the next run of `runs`. -/
def IbcClientService.clientStatesDuring (svc : IbcClientMsgService) (runs : List (List HostOp)) :
    Ret Status (List IdentifiedClientState) := do
  let keys ← Ret.ofExcept (svc.ctx.adapter.getPathsByPrefix .clients) Status.internal
  loopDuring IbcClientService.clientStatesLoop svc runs (keys.filterMap clientStatePath)

/-- `connections` with the host running beside it. -/
def IbcConnectionService.connectionsDuring (svc : IbcClientMsgService)
    (runs : List (List HostOp)) : Ret Status (List IdentifiedConnection) := do
  let keys ← Ret.ofExcept (svc.ctx.adapter.getPathsByPrefix .connections) Status.internal
  loopDuring IbcConnectionService.connectionsLoop svc runs keys

/-- `channels` with the host running beside it; the height is read after the loop. -/
def IbcChannelService.channelsDuring (svc : IbcClientMsgService) (runs : List (List HostOp)) :
    Ret Status ChannelsResponse := do
  let keys ← Ret.ofExcept (svc.ctx.adapter.getPathsByPrefix .channelEndsPorts) Status.internal
  let channels ← loopDuring IbcChannelService.channelsLoop svc runs keys
  return ⟨channels, currentRawHeight (runHost svc runs.flatten).ctx.adapter⟩

/-- `packet_commitments` with the host running beside it. -/
def IbcChannelService.packetCommitmentsDuring (svc : IbcClientMsgService) (req : ChannelRequest)
    (runs : List (List HostOp)) : Ret Status PacketStatesResponse := do
  let (p, c) ← parsePortChannel req.portId req.channelId
  let paths ← Ret.ofExcept (svc.ctx.adapter.getPathsByPrefix .commitmentsPorts) Status.internal
  let packets ← loopDuring IbcChannelService.packetCommitmentsLoop svc runs
    (paths.filterMap (matchingCommitmentPath p c))
  return ⟨packets, currentRawHeight (runHost svc runs.flatten).ctx.adapter⟩

/-- `consensus_states` with the host running beside it. -/
def IbcClientService.consensusStatesDuring (svc : IbcClientMsgService) (clientId : String)
    (runs : List (List HostOp)) : Ret Status (List ConsensusStateWithHeight) := do
  let _ ← Ret.ofExcept (pathTryFrom (consensusStatesText clientId)) Status.invalidArgument
  let keys ← Ret.ofExcept (svc.ctx.adapter.getPathsByPrefix (.consensusStates clientId))
    Status.internal
  loopDuring IbcClientService.consensusStatesLoop svc runs keys

/-- `connection_channels` with the host running beside it. -/
def IbcChannelService.connectionChannelsDuring (svc : IbcClientMsgService) (connection : String)
    (runs : List (List HostOp)) : Ret Status ChannelsResponse := do
  let conn ← Ret.ofExcept (Identifier.fromStr connection) fun _ =>
    Status.invalidArgument "invalid connection id"
  let keys ← Ret.ofExcept (svc.ctx.adapter.getPathsByPrefix .channelEnds) Status.internal
  let channels ← loopDuring (fun a => IbcChannelService.connectionChannelsLoop a conn) svc runs keys
  return ⟨channels, currentRawHeight (runHost svc runs.flatten).ctx.adapter⟩

/-- `packet_acknowledgements` with the host running beside it. -/
def IbcChannelService.packetAcknowledgementsDuring (svc : IbcClientMsgService)
    (req : ChannelRequest) (runs : List (List HostOp)) : Ret Status PacketStatesResponse := do
  let (p, c) ← parsePortChannel req.portId req.channelId
  let paths ← Ret.ofExcept (svc.ctx.adapter.getPathsByPrefix .acksPorts) Status.internal
  let packets ← loopDuring IbcChannelService.packetAcknowledgementsLoop svc runs
    (paths.filterMap (matchingAckPath p c))
  return ⟨packets, currentRawHeight (runHost svc runs.flatten).ctx.adapter⟩

/-- `unreceived_packets` with the host running beside it: each sequence's receipt is
read at its own instant. -/
def IbcChannelService.unreceivedPacketsDuring (svc : IbcClientMsgService)
    (req : SequencesRequest) (runs : List (List HostOp)) : Ret Status SequencesResponse := do
  let (p, c) ← parsePortChannel req.portId req.channelId
  let unreceived ← loopDuring (unreceivedPacketsFilter p c) svc runs req.sequences
  return ⟨unreceived, currentRawHeight (runHost svc runs.flatten).ctx.adapter⟩

/-- With no run beside them, the handlers are the handlers of `AxonIbc.Grpc.Query`. -/
theorem handlersDuring_nil (svc : IbcClientMsgService) (clientId connection : String)
    (req : ChannelRequest) (sreq : SequencesRequest) :
    IbcClientService.clientStatesDuring svc [] = IbcClientService.clientStates svc.ctx.adapter ∧
      IbcClientService.consensusStatesDuring svc clientId [] =
        IbcClientService.consensusStates svc.ctx.adapter clientId ∧
      IbcConnectionService.connectionsDuring svc [] =
        IbcConnectionService.connections svc.ctx.adapter ∧
      IbcChannelService.channelsDuring svc [] = IbcChannelService.channels svc.ctx.adapter ∧
      IbcChannelService.connectionChannelsDuring svc connection [] =
        IbcChannelService.connectionChannels svc.ctx.adapter connection ∧
      IbcChannelService.packetCommitmentsDuring svc req [] =
        IbcChannelService.packetCommitments svc.ctx.adapter req ∧
      IbcChannelService.packetAcknowledgementsDuring svc req [] =
        IbcChannelService.packetAcknowledgements svc.ctx.adapter req ∧
      IbcChannelService.unreceivedPacketsDuring svc sreq [] =
        IbcChannelService.unreceivedPackets svc.ctx.adapter sreq := by
  refine ⟨?_, ?_, ?_, ?_, ?_, ?_, ?_, ?_⟩ <;> simp only [IbcClientService.clientStatesDuring,
    IbcClientService.clientStates, IbcClientService.consensusStatesDuring,
    IbcClientService.consensusStates, IbcConnectionService.connectionsDuring,
    IbcConnectionService.connections, IbcChannelService.channelsDuring, IbcChannelService.channels,
    IbcChannelService.connectionChannelsDuring, IbcChannelService.connectionChannels,
    IbcChannelService.packetCommitmentsDuring, IbcChannelService.packetCommitments,
    IbcChannelService.packetAcknowledgementsDuring, IbcChannelService.packetAcknowledgements,
    loopDuring_nil clientStatesLoop_fold, loopDuring_nil consensusStatesLoop_fold,
    loopDuring_nil connectionsLoop_fold, loopDuring_nil channelsLoop_fold,
    loopDuring_nil (connectionChannelsLoop_fold _), loopDuring_nil packetCommitmentsLoop_fold,
    loopDuring_nil packetAcknowledgementsLoop_fold, IbcChannelService.unreceivedPacketsDuring,
    IbcChannelService.unreceivedPackets, loopDuring_nil (unreceivedPacketsFilter_fold _ _),
    unreceivedPacketsFilter] <;> rfl

/-- At every instant of the run the reads still succeed, and the store keeps the
records it had at the scan. -/
theorem hostAt_reads {svc : IbcClientMsgService} (hr : svc.ctx.adapter.ReadsSucceed)
    (runs : List (List HostOp)) (k : Nat) :
    (hostAt svc runs k).ctx.adapter.ReadsSucceed ∧
      svc.ctx.adapter.store.Keeps svc.ctx.adapter.tombstoneDeletes (hostAt svc runs k).ctx.adapter.store := by
  obtain ⟨s, hs, hk⟩ := hostAt_keeps svc runs k
  rw [hs]
  exact ⟨hr, hk⟩

/-- The store is found at every key it keeps. -/
theorem AList.exists_lookup_of_mem {α β : Type} [DecidableEq α] {l : AList (fun _ : α => β)} {a : α}
    (h : a ∈ l) : ∃ b, l.lookup a = some b :=
  Option.isSome_iff_exists.1 (AList.lookup_isSome.2 h)

/-- A scan that maps each stored entry's key maps the store's keys. -/
theorem AList.entries_map_fst {α β γ : Type} [DecidableEq α] (l : AList (fun _ : α => β))
    (f : α → γ) : l.entries.map (fun x => f x.1) = l.keys.map f :=
  (List.map_map _ _ _).symm

/-- `client_states` beside the host lists each client state of the scan. -/
theorem clientStatesDuring_of_reads {svc : IbcClientMsgService} (hr : svc.ctx.adapter.ReadsSucceed)
    (runs : List (List HostOp)) :
    ∃ r, IbcClientService.clientStatesDuring svc runs = .ok r ∧
      List.Forall₂ (fun c x => ∃ k ≤ runs.length, ∃ st,
          (hostAt svc runs k).ctx.adapter.store.clientStates.lookup c = some st ∧
            x = ⟨c.val, some st⟩)
        svc.ctx.adapter.store.clientStates.keys r := by
  obtain ⟨r, hr', hF⟩ := loopDuring_map_singletons clientStatesLoop_fold Function.injective_id
    (fun c x t => ∃ st, t.ctx.adapter.store.clientStates.lookup c = some st ∧ x = ⟨c.val, some st⟩)
    svc runs svc.ctx.adapter.store.clientStates.keys fun k _ c hc => by
      obtain ⟨hr', hk⟩ := hostAt_reads hr runs k
      obtain ⟨st, hst⟩ := AList.exists_lookup_of_mem (hk.clientStates c (AList.mem_keys.2 hc))
      exact ⟨_, clientStatesLoop_of_reads hr' [⟨c, st⟩] (by simpa using hst), st, hst, rfl⟩
  refine ⟨r, ?_, hF⟩
  rw [IbcClientService.clientStatesDuring, Adapter.getPathsByPrefix_of_reads hr, Ret.ofExcept_ok,
    Ret.ok_bind, Store.clientStatePaths, ← hr', List.map_id]

/-- `connections` beside the host lists each connection of the scan. -/
theorem connectionsDuring_of_reads {svc : IbcClientMsgService} (hr : svc.ctx.adapter.ReadsSucceed)
    (runs : List (List HostOp)) :
    ∃ r, IbcConnectionService.connectionsDuring svc runs = .ok r ∧
      List.Forall₂ (fun c x => ∃ k ≤ runs.length, ∃ e,
          (hostAt svc runs k).ctx.adapter.store.connections.lookup c = some e ∧ x = ⟨c, e⟩)
        svc.ctx.adapter.store.connections.keys r := by
  obtain ⟨r, hr', hF⟩ := loopDuring_map_singletons connectionsLoop_fold
    (fun _ _ => IbcPath.connections.inj)
    (fun c x t => ∃ e, t.ctx.adapter.store.connections.lookup c = some e ∧ x = ⟨c, e⟩)
    svc runs svc.ctx.adapter.store.connections.keys fun k _ c hc => by
      obtain ⟨hr', hk⟩ := hostAt_reads hr runs k
      obtain ⟨e, he⟩ := AList.exists_lookup_of_mem (hk.connections c (AList.mem_keys.2 hc))
      exact ⟨_, connectionsLoop_of_reads hr' [⟨c, e⟩] (by simpa using he), e, he, rfl⟩
  refine ⟨r, ?_, hF⟩
  rw [IbcConnectionService.connectionsDuring, Adapter.getPathsByPrefix_of_reads hr,
    Ret.ofExcept_ok, Ret.ok_bind, Store.connectionPaths, AList.entries_map_fst, hr']

/-- `channels` beside the host lists each channel of the scan, and the height of the
adapter the scan saw. -/
theorem channelsDuring_of_reads {svc : IbcClientMsgService} (hr : svc.ctx.adapter.ReadsSucceed)
    (runs : List (List HostOp)) :
    ∃ r, IbcChannelService.channelsDuring svc runs = .ok ⟨r, currentRawHeight svc.ctx.adapter⟩ ∧
      List.Forall₂ (fun pc x => ∃ k ≤ runs.length, ∃ e,
          (hostAt svc runs k).ctx.adapter.store.channels.lookup pc = some e ∧ x = ⟨pc.1, pc.2, e⟩)
        svc.ctx.adapter.store.channels.keys r := by
  obtain ⟨r, hr', hF⟩ := loopDuring_map_singletons channelsLoop_fold (fun _ _ => IbcPath.channelEnds.inj)
    (fun pc x t => ∃ e, t.ctx.adapter.store.channels.lookup pc = some e ∧ x = ⟨pc.1, pc.2, e⟩)
    svc runs svc.ctx.adapter.store.channels.keys fun k _ pc hpc => by
      obtain ⟨hr', hk⟩ := hostAt_reads hr runs k
      obtain ⟨e, he⟩ := AList.exists_lookup_of_mem (hk.channels pc (AList.mem_keys.2 hpc))
      exact ⟨_, channelsLoop_of_reads hr' [⟨pc, e⟩] (by simpa using he), e, he, rfl⟩
  obtain ⟨s, hs, -⟩ := hostRun_keeps svc runs.flatten
  refine ⟨r, ?_, hF⟩
  rw [IbcChannelService.channelsDuring, Adapter.getPathsByPrefix_of_reads hr, Ret.ofExcept_ok,
    Ret.ok_bind, Store.channelPaths _ _ (.inl rfl), AList.entries_map_fst, hr', Ret.ok_bind, hs]
  rfl

/-- **The listings beside a running host**: over an adapter whose reads succeed, under
every interleaving of the host's calls (`create_client` requests and keeper calls,
whatever each returns) with their reads, `client_states`, `connections` and `channels`
return `Ok` — none of their `unwrap`s and `expect`s panics — and list, in the scan's
order, each client state, connection and channel stored at the scan, each with its
value at some instant of the run. -/
theorem listings_during {svc : IbcClientMsgService} (hr : svc.ctx.adapter.ReadsSucceed)
    (runs : List (List HostOp)) :
    (∃ r, IbcClientService.clientStatesDuring svc runs = .ok r ∧
      List.Forall₂ (fun c x => ∃ k ≤ runs.length, ∃ st,
          (hostAt svc runs k).ctx.adapter.store.clientStates.lookup c = some st ∧
            x = ⟨c.val, some st⟩)
        svc.ctx.adapter.store.clientStates.keys r) ∧
    (∃ r, IbcConnectionService.connectionsDuring svc runs = .ok r ∧
      List.Forall₂ (fun c x => ∃ k ≤ runs.length, ∃ e,
          (hostAt svc runs k).ctx.adapter.store.connections.lookup c = some e ∧ x = ⟨c, e⟩)
        svc.ctx.adapter.store.connections.keys r) ∧
    (∃ r, IbcChannelService.channelsDuring svc runs = .ok ⟨r, currentRawHeight svc.ctx.adapter⟩ ∧
      List.Forall₂ (fun pc x => ∃ k ≤ runs.length, ∃ e,
          (hostAt svc runs k).ctx.adapter.store.channels.lookup pc = some e ∧ x = ⟨pc.1, pc.2, e⟩)
        svc.ctx.adapter.store.channels.keys r) :=
  ⟨clientStatesDuring_of_reads hr runs, connectionsDuring_of_reads hr runs,
    channelsDuring_of_reads hr runs⟩

/-- `listedAdapter` behind the host's context, its lock not poisoned. -/
def listedHost : IbcClientMsgService := ⟨{ hostCtx with adapter := listedAdapter }, false⟩

/-- Beside a listing: the end of `transfer/channel-0` rewritten before the first read,
then a client created before the second. -/
def besideRuns : List (List HostOp) :=
  [[.channel (.storeChannel (transferPort, channel0) ⟨[connection0], [1]⟩)],
    [.createClient tendermintMsg.toRaw]]

theorem listings_during_listedHost :
    (∃ r, IbcClientService.clientStatesDuring listedHost besideRuns = .ok r ∧
      List.Forall₂ (fun c x => ∃ k ≤ besideRuns.length, ∃ st,
          (hostAt listedHost besideRuns k).ctx.adapter.store.clientStates.lookup c = some st ∧
            x = ⟨c.val, some st⟩)
        listedHost.ctx.adapter.store.clientStates.keys r) ∧
    (∃ r, IbcConnectionService.connectionsDuring listedHost besideRuns = .ok r ∧
      List.Forall₂ (fun c x => ∃ k ≤ besideRuns.length, ∃ e,
          (hostAt listedHost besideRuns k).ctx.adapter.store.connections.lookup c = some e ∧
            x = ⟨c, e⟩)
        listedHost.ctx.adapter.store.connections.keys r) ∧
    (∃ r, IbcChannelService.channelsDuring listedHost besideRuns =
        .ok ⟨r, currentRawHeight listedHost.ctx.adapter⟩ ∧
      List.Forall₂ (fun pc x => ∃ k ≤ besideRuns.length, ∃ e,
          (hostAt listedHost besideRuns k).ctx.adapter.store.channels.lookup pc = some e ∧
            x = ⟨pc.1, pc.2, e⟩)
        listedHost.ctx.adapter.store.channels.keys r) :=
  listings_during ⟨fun _ => rfl, fun _ => rfl⟩ besideRuns

/-- `channels` reads the end as the rewrite left it, not as the scan found it. -/
example : IbcChannelService.channelsDuring listedHost besideRuns =
    .ok ⟨[⟨transferPort, channel0, ⟨[connection0], [1]⟩⟩], some ⟨0, 1⟩⟩ := by
  decide

/-- One key's packet read, where the key is stored. -/
theorem filterMap_packetStateOf_singleton {f : PacketKey → Option Bytes} {k : PacketKey}
    {d : Bytes} (hd : f k = some d) :
    [k].filterMap (fun k => packetStateOf k (f k)) = (packetStateOf k (some d)).toList := by
  rw [List.filterMap_cons, List.filterMap_nil, hd]
  cases packetStateOf k (some d) <;> rfl

/-- **`packet_commitments` beside a running host**, over an adapter whose reads succeed
and whose deletes write an empty commitment: under every interleaving of the host's
calls with its reads it returns `Ok` — its `unwrap` never panics — and lists, in the
scan's order, each commitment of the channel stored at the scan with its bytes at some
instant of the run, dropped where they are empty. -/
theorem packetCommitments_during {svc : IbcClientMsgService} (hr : svc.ctx.adapter.ReadsSucceed)
    (htomb : svc.ctx.adapter.tombstoneDeletes = true) (p : PortId) (c : ChannelId)
    (runs : List (List HostOp)) :
    ∃ ys, IbcChannelService.packetCommitmentsDuring svc ⟨p.val, c.val⟩ runs =
        .ok ⟨ys.flatten, currentRawHeight svc.ctx.adapter⟩ ∧
      List.Forall₂ (fun k y => ∃ j ≤ runs.length, ∃ d,
          (hostAt svc runs j).ctx.adapter.store.commitments.lookup k = some d ∧
            y = (packetStateOf k (some d)).toList)
        (svc.ctx.adapter.store.commitments.keys.filter (onChannel p c)) ys := by
  obtain ⟨ys, hys, hF⟩ := loopDuring_ok packetCommitmentsLoop_fold
    (fun k y t => ∃ d, t.ctx.adapter.store.commitments.lookup k = some d ∧
      y = (packetStateOf k (some d)).toList)
    svc runs (svc.ctx.adapter.store.commitments.keys.filter (onChannel p c)) fun j _ k hk => by
      obtain ⟨hr', hkeep⟩ := hostAt_reads hr runs j
      have hmem := hkeep.commitments htomb k (AList.mem_keys.2 (List.mem_filter.1 hk).1)
      obtain ⟨d, hd⟩ := AList.exists_lookup_of_mem hmem
      exact ⟨_, packetCommitmentsLoop_of_reads hr' [k] (by simpa using hmem), d, hd,
        filterMap_packetStateOf_singleton hd⟩
  obtain ⟨s, hs, -⟩ := hostRun_keeps svc runs.flatten
  refine ⟨ys, ?_, hF⟩
  rw [IbcChannelService.packetCommitmentsDuring, parsePortChannel_val, Ret.ok_bind]
  dsimp only
  rw [Adapter.getPathsByPrefix_of_reads hr, Ret.ofExcept_ok, Ret.ok_bind, Store.commitmentPaths, hys,
    Ret.ok_bind, hs]
  rfl

/-- Packet 1 of `transfer/channel-0` acknowledged beside a listing: its commitment
deleted before the first read. -/
def ackBeside : List (List HostOp) := [[.channel (.deletePacketCommitment (transferPort, channel0, 1))]]

theorem packetCommitments_during_ackBeside :
    ∃ ys, IbcChannelService.packetCommitmentsDuring listedHost ⟨transferPort.val, channel0.val⟩
        ackBeside = .ok ⟨ys.flatten, currentRawHeight listedHost.ctx.adapter⟩ ∧
      List.Forall₂ (fun k y => ∃ j ≤ ackBeside.length, ∃ d,
          (hostAt listedHost ackBeside j).ctx.adapter.store.commitments.lookup k = some d ∧
            y = (packetStateOf k (some d)).toList)
        (listedHost.ctx.adapter.store.commitments.keys.filter (onChannel transferPort channel0)) ys :=
  packetCommitments_during ⟨fun _ => rfl, fun _ => rfl⟩ rfl transferPort channel0 ackBeside

/-- The commitment deleted beside the listing is not listed. -/
example : IbcChannelService.packetCommitmentsDuring listedHost ⟨"transfer", "channel-0"⟩ ackBeside =
    .ok ⟨[], some ⟨0, 1⟩⟩ := by
  decide

/-! ### The keyed listings and the acknowledgements -/

/-- `consensus_states` of a valid client identifier beside the host lists each consensus
state of the client stored at the scan. -/
theorem consensusStatesDuring_of_reads {svc : IbcClientMsgService}
    (hr : svc.ctx.adapter.ReadsSucceed) (clientId : ClientId) (runs : List (List HostOp)) :
    ∃ r, IbcClientService.consensusStatesDuring svc clientId.val runs = .ok r ∧
      List.Forall₂ (fun k x => ∃ j ≤ runs.length, ∃ cs,
          (hostAt svc runs j).ctx.adapter.store.consensusStates.lookup k = some cs ∧
            x = ⟨some k.2, some cs⟩)
        (svc.ctx.adapter.store.consensusStates.keys.filter fun k => k.1.val == clientId.val) r := by
  have hpath : Function.Injective fun k : ClientId × Height => IbcPath.clientConsensusState k.1 k.2 :=
    fun _ _ h => Prod.ext (IbcPath.clientConsensusState.inj h).1 (IbcPath.clientConsensusState.inj h).2
  obtain ⟨r, hr', hF⟩ := loopDuring_map_singletons consensusStatesLoop_fold hpath
    (fun k x t => ∃ cs, t.ctx.adapter.store.consensusStates.lookup k = some cs ∧
      x = ⟨some k.2, some cs⟩)
    svc runs (svc.ctx.adapter.store.consensusStates.keys.filter fun k => k.1.val == clientId.val)
    fun j _ k hk => by
      obtain ⟨hr', hkeep⟩ := hostAt_reads hr runs j
      obtain ⟨cs, hcs⟩ := AList.exists_lookup_of_mem
        (hkeep.consensusStates k (AList.mem_keys.2 (List.mem_filter.1 hk).1))
      exact ⟨_, consensusStatesLoop_of_reads hr' [⟨k, cs⟩] (by simpa using hcs), cs, hcs, rfl⟩
  have hkeys : (svc.ctx.adapter.store.consensusStates.entries.filter
        fun x => x.1.1.val == clientId.val).map (fun x => IbcPath.clientConsensusState x.1.1 x.1.2) =
      (svc.ctx.adapter.store.consensusStates.keys.filter fun k => k.1.val == clientId.val).map
        fun k => IbcPath.clientConsensusState k.1 k.2 := by
    rw [AList.keys, List.keys, List.filter_map, List.map_map]
    rfl
  refine ⟨r, ?_, hF⟩
  rw [IbcClientService.consensusStatesDuring, pathTryFrom_consensusStates, Ret.ofExcept_ok,
    Ret.ok_bind, Adapter.getPathsByPrefix_of_reads hr, Ret.ofExcept_ok, Ret.ok_bind,
    Store.consensusStatePaths, hkeys, hr']

/-- `connection_channels` beside the host lists each channel of the scan whose end, read
at some instant, has the connection as its first hop. -/
theorem connectionChannelsDuring_of_reads {svc : IbcClientMsgService}
    (hr : svc.ctx.adapter.ReadsSucceed) (conn : ConnectionId) (runs : List (List HostOp)) :
    ∃ ys, IbcChannelService.connectionChannelsDuring svc conn.val runs =
        .ok ⟨ys.flatten, currentRawHeight svc.ctx.adapter⟩ ∧
      List.Forall₂ (fun pc y => ∃ j ≤ runs.length, ∃ e,
          (hostAt svc runs j).ctx.adapter.store.channels.lookup pc = some e ∧
            y = if e.connectionHops.head? = some conn then [⟨pc.1, pc.2, e⟩] else [])
        svc.ctx.adapter.store.channels.keys ys := by
  obtain ⟨ys, hys, hF⟩ := loopDuring_map (connectionChannelsLoop_fold conn)
    (fun _ _ => IbcPath.channelEnds.inj)
    (fun pc y t => ∃ e, t.ctx.adapter.store.channels.lookup pc = some e ∧
      y = if e.connectionHops.head? = some conn then [⟨pc.1, pc.2, e⟩] else [])
    svc runs svc.ctx.adapter.store.channels.keys fun j _ pc hpc => by
      obtain ⟨hr', hk⟩ := hostAt_reads hr runs j
      obtain ⟨e, he⟩ := AList.exists_lookup_of_mem (hk.channels pc (AList.mem_keys.2 hpc))
      refine ⟨_, connectionChannelsLoop_of_reads hr' conn [⟨pc, e⟩] (by simpa using he), e, he, ?_⟩
      simp only [List.filter_cons, List.filter_nil, decide_eq_true_eq]
      split_ifs <;> rfl
  obtain ⟨s, hs, -⟩ := hostRun_keeps svc runs.flatten
  refine ⟨ys, ?_, hF⟩
  rw [IbcChannelService.connectionChannelsDuring, Identifier.fromStr_val, Ret.ofExcept_ok,
    Ret.ok_bind, Adapter.getPathsByPrefix_of_reads hr, Ret.ofExcept_ok, Ret.ok_bind,
    Store.channelPaths _ _ (.inr rfl), AList.entries_map_fst, hys, Ret.ok_bind, hs]
  rfl

/-- **The keyed listings beside a running host**: over an adapter whose reads succeed,
under every interleaving of the host's calls with their reads, `consensus_states` of a
valid client identifier and `connection_channels` of a connection return `Ok`. The first
lists, in the scan's order, each consensus state of the client stored at the scan, with
its value at some instant of the run; the second keeps each channel of the scan whose
end, as read at some instant of the run, has the connection as its first hop. -/
theorem keyedListings_during {svc : IbcClientMsgService} (hr : svc.ctx.adapter.ReadsSucceed)
    (clientId : ClientId) (conn : ConnectionId) (runs : List (List HostOp)) :
    (∃ r, IbcClientService.consensusStatesDuring svc clientId.val runs = .ok r ∧
      List.Forall₂ (fun k x => ∃ j ≤ runs.length, ∃ cs,
          (hostAt svc runs j).ctx.adapter.store.consensusStates.lookup k = some cs ∧
            x = ⟨some k.2, some cs⟩)
        (svc.ctx.adapter.store.consensusStates.keys.filter fun k => k.1.val == clientId.val) r) ∧
    ∃ ys, IbcChannelService.connectionChannelsDuring svc conn.val runs =
        .ok ⟨ys.flatten, currentRawHeight svc.ctx.adapter⟩ ∧
      List.Forall₂ (fun pc y => ∃ j ≤ runs.length, ∃ e,
          (hostAt svc runs j).ctx.adapter.store.channels.lookup pc = some e ∧
            y = if e.connectionHops.head? = some conn then [⟨pc.1, pc.2, e⟩] else [])
        svc.ctx.adapter.store.channels.keys ys :=
  ⟨consensusStatesDuring_of_reads hr clientId runs, connectionChannelsDuring_of_reads hr conn runs⟩

theorem keyedListings_during_listedHost :
    (∃ r, IbcClientService.consensusStatesDuring listedHost tendermint0.val besideRuns = .ok r ∧
      List.Forall₂ (fun k x => ∃ j ≤ besideRuns.length, ∃ cs,
          (hostAt listedHost besideRuns j).ctx.adapter.store.consensusStates.lookup k = some cs ∧
            x = ⟨some k.2, some cs⟩)
        (listedHost.ctx.adapter.store.consensusStates.keys.filter
          fun k => k.1.val == tendermint0.val) r) ∧
    ∃ ys, IbcChannelService.connectionChannelsDuring listedHost connection0.val besideRuns =
        .ok ⟨ys.flatten, currentRawHeight listedHost.ctx.adapter⟩ ∧
      List.Forall₂ (fun pc y => ∃ j ≤ besideRuns.length, ∃ e,
          (hostAt listedHost besideRuns j).ctx.adapter.store.channels.lookup pc = some e ∧
            y = if e.connectionHops.head? = some connection0 then [⟨pc.1, pc.2, e⟩] else [])
        listedHost.ctx.adapter.store.channels.keys ys :=
  keyedListings_during ⟨fun _ => rfl, fun _ => rfl⟩ tendermint0 connection0 besideRuns

/-- A channel moved off the connection between the scan and its read is not listed,
though the scan found it there. -/
example : IbcChannelService.connectionChannelsDuring listedHost "connection-0"
    [[.channel (.storeChannel (transferPort, channel0) ⟨[], []⟩)]] = .ok ⟨[], some ⟨0, 1⟩⟩ := by
  decide

/-- **`packet_acknowledgements` beside a running host**, over any adapter whose reads
succeed: under every interleaving of the host's calls with its reads it returns `Ok`,
and lists, in the scan's order, each acknowledgement of the channel stored at the scan
with its bytes at some instant of the run, dropped where they are empty. No record it
scanned goes missing, since `delete_packet_acknowledgement` writes an empty
acknowledgement; unlike `packet_commitments`, this holds also where deletes remove. -/
theorem packetAcknowledgements_during {svc : IbcClientMsgService}
    (hr : svc.ctx.adapter.ReadsSucceed) (p : PortId) (c : ChannelId) (runs : List (List HostOp)) :
    ∃ ys, IbcChannelService.packetAcknowledgementsDuring svc ⟨p.val, c.val⟩ runs =
        .ok ⟨ys.flatten, currentRawHeight svc.ctx.adapter⟩ ∧
      List.Forall₂ (fun k y => ∃ j ≤ runs.length, ∃ d,
          (hostAt svc runs j).ctx.adapter.store.acks.lookup k = some d ∧
            y = (packetStateOf k (some d)).toList)
        (svc.ctx.adapter.store.acks.keys.filter (onChannel p c)) ys := by
  obtain ⟨ys, hys, hF⟩ := loopDuring_ok packetAcknowledgementsLoop_fold
    (fun k y t => ∃ d, t.ctx.adapter.store.acks.lookup k = some d ∧
      y = (packetStateOf k (some d)).toList)
    svc runs (svc.ctx.adapter.store.acks.keys.filter (onChannel p c)) fun j _ k hk => by
      obtain ⟨hr', hkeep⟩ := hostAt_reads hr runs j
      obtain ⟨d, hd⟩ := AList.exists_lookup_of_mem
        (hkeep.acks k (AList.mem_keys.2 (List.mem_filter.1 hk).1))
      exact ⟨_, packetAcknowledgementsLoop_of_reads hr' [k], d, hd,
        filterMap_packetStateOf_singleton hd⟩
  obtain ⟨s, hs, -⟩ := hostRun_keeps svc runs.flatten
  refine ⟨ys, ?_, hF⟩
  rw [IbcChannelService.packetAcknowledgementsDuring, parsePortChannel_val, Ret.ok_bind]
  dsimp only
  rw [Adapter.getPathsByPrefix_of_reads hr, Ret.ofExcept_ok, Ret.ok_bind, Store.ackPaths, hys,
    Ret.ok_bind, hs]
  rfl

/-- `listedHost` with the acknowledgement of packet 1 of `transfer/channel-0` stored, over
an adapter whose deletes remove. -/
def ackedHost : IbcClientMsgService :=
  ⟨{ hostCtx with
      adapter := { listedAdapter with
        store := { listedAdapter.store with acks := (∅ : AList _).insert (transferPort, channel0, 1) [1] }
        tombstoneDeletes := false } }, false⟩

/-- The acknowledgement of packet 1 deleted before the first read. -/
def ackDeleteBeside : List (List HostOp) :=
  [[.channel (.deletePacketAcknowledgement (transferPort, channel0, 1))]]

theorem packetAcknowledgements_during_ackDeleteBeside :
    ∃ ys, IbcChannelService.packetAcknowledgementsDuring ackedHost
        ⟨transferPort.val, channel0.val⟩ ackDeleteBeside =
          .ok ⟨ys.flatten, currentRawHeight ackedHost.ctx.adapter⟩ ∧
      List.Forall₂ (fun k y => ∃ j ≤ ackDeleteBeside.length, ∃ d,
          (hostAt ackedHost ackDeleteBeside j).ctx.adapter.store.acks.lookup k = some d ∧
            y = (packetStateOf k (some d)).toList)
        (ackedHost.ctx.adapter.store.acks.keys.filter (onChannel transferPort channel0)) ys :=
  packetAcknowledgements_during ⟨fun _ => rfl, fun _ => rfl⟩ transferPort channel0 ackDeleteBeside

/-- The acknowledgement deleted beside the listing is read empty and dropped, where the
commitment deleted so on this adapter makes `packet_commitments` panic. -/
example : IbcChannelService.packetAcknowledgementsDuring ackedHost ⟨"transfer", "channel-0"⟩
      ackDeleteBeside = .ok ⟨[], some ⟨0, 1⟩⟩ ∧
    IbcChannelService.packetCommitmentsDuring ackedHost ⟨"transfer", "channel-0"⟩ ackBeside =
      .panic := by
  decide

/-! ### Receipts -/

/-- One sequence's receipt read, where reads succeed. -/
theorem unreceivedPacketsFilter_of_reads {a : Adapter} (hr : a.ReadsSucceed) (p : PortId)
    (c : ChannelId) (s : UInt64) :
    unreceivedPacketsFilter p c a [s] =
      .ok (if (a.store.receipts.lookup (p, c, s)).isNone then [s] else []) := by
  simp only [unreceivedPacketsFilter, Adapter.getReceipt, Adapter.read_of_reads hr,
    Except.toOption, List.filter_cons, List.filter_nil]
  rfl

/-- What every iteration's result satisfies, the listing does. -/
theorem forall₂_flatten_forall {γ δ : Type} {R : γ → List δ → Prop} {P : δ → Prop}
    (hR : ∀ x y, R x y → ∀ z ∈ y, P z) :
    ∀ {xs : List γ} {ys : List (List δ)}, List.Forall₂ R xs ys → ∀ z ∈ ys.flatten, P z
  | _, _, .nil => fun _ h => absurd h (List.not_mem_nil _)
  | _, _, .cons h hs => fun z hz =>
    (List.mem_append.1 hz).elim (hR _ _ h z) (forall₂_flatten_forall hR hs z)

/-- **`unreceived_packets` beside a running host**, over an adapter whose reads
succeed: under every interleaving of the host's calls with its reads it returns `Ok`,
reporting each sequence of the request by its receipt at some instant of the run.
No call removes a receipt, so it never reports as unreceived a sequence whose
receipt was stored when the query began. -/
theorem unreceivedPackets_during {svc : IbcClientMsgService} (hr : svc.ctx.adapter.ReadsSucceed)
    (p : PortId) (c : ChannelId) (seqs : List UInt64) (runs : List (List HostOp)) :
    ∃ ys, IbcChannelService.unreceivedPacketsDuring svc ⟨p.val, c.val, seqs⟩ runs =
        .ok ⟨ys.flatten, currentRawHeight svc.ctx.adapter⟩ ∧
      List.Forall₂ (fun s y => ∃ j ≤ runs.length,
          y = if ((hostAt svc runs j).ctx.adapter.store.receipts.lookup (p, c, s)).isNone then [s]
            else [])
        seqs ys ∧
      ∀ s ∈ ys.flatten, (p, c, s) ∉ svc.ctx.adapter.store.receipts := by
  obtain ⟨ys, hys, hF⟩ := loopDuring_ok (unreceivedPacketsFilter_fold p c)
    (fun s y t => y = if (t.ctx.adapter.store.receipts.lookup (p, c, s)).isNone then [s] else [])
    svc runs seqs fun j _ s _ =>
      ⟨_, unreceivedPacketsFilter_of_reads (hostAt_reads hr runs j).1 p c s, rfl⟩
  refine ⟨ys, ?_, hF, forall₂_flatten_forall ?_ hF⟩
  · obtain ⟨st, hst, -⟩ := hostRun_keeps svc runs.flatten
    rw [IbcChannelService.unreceivedPacketsDuring, parsePortChannel_val, Ret.ok_bind]
    dsimp only
    rw [hys, Ret.ok_bind, hst]
    rfl
  · rintro s y ⟨j, -, rfl⟩ s' hs' hmem
    have hkept := (hostAt_reads hr runs j).2.receipts _ hmem
    split_ifs at hs' with hn
    · obtain rfl := List.mem_singleton.1 hs'
      rw [Option.isNone_iff_eq_none, AList.lookup_eq_none] at hn
      exact hn hkept
    · exact List.not_mem_nil _ hs'

/-- `hostCtx` behind `listedAdapter`, whose store holds the receipt of packet 1 of
`transfer/channel-0`. -/
theorem unreceivedPackets_during_listedHost :
    ∃ ys, IbcChannelService.unreceivedPacketsDuring listedHost
        ⟨transferPort.val, channel0.val, [1, 2]⟩ besideRuns =
          .ok ⟨ys.flatten, currentRawHeight listedHost.ctx.adapter⟩ ∧
      List.Forall₂ (fun s y => ∃ j ≤ besideRuns.length,
          y = if ((hostAt listedHost besideRuns j).ctx.adapter.store.receipts.lookup
            (transferPort, channel0, s)).isNone then [s] else [])
        [1, 2] ys ∧
      ∀ s ∈ ys.flatten, (transferPort, channel0, s) ∉ listedHost.ctx.adapter.store.receipts :=
  unreceivedPackets_during ⟨fun _ => rfl, fun _ => rfl⟩ transferPort channel0 [1, 2] besideRuns

/-- A receipt stored beside the query is seen by the reads after it. -/
example : IbcChannelService.unreceivedPacketsDuring listedHost ⟨"transfer", "channel-0", [1, 2, 3]⟩
    [[], [.channel (.storePacketReceipt (transferPort, channel0, 3))]] = .ok ⟨[2], some ⟨0, 1⟩⟩ := by
  decide

end AxonIbc
