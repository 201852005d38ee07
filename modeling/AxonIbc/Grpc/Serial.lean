import AxonIbc.Grpc.Concurrent
import AxonIbc.Grpc.HostRun

/-!
# Concurrent `create_client` requests are serialisable

The concurrent model of `AxonIbc.Grpc.Concurrent` runs `create_client` requests on
their own tasks against one `Arc<RwLock<Ctx>>`, with the adapter changing at any step.
This module states what the lock is for: whatever the schedule, the service ends as a
sequential run leaves it, and that run is read off the schedule itself. It handles each
request that has returned once, alone, at the step the request returned at, and
replaces the adapter at each step the environment replaced it, in the schedule's order;
every request has the answer the sequential handler gives it.

## The model

`Serial.run raws` is the sequential service. `SerialOp.request i` runs
`IbcClientMsgService.createClient` on the `i`-th message from start to end and records
its answer; `SerialOp.setAdapter` replaces the adapter. `Cfg.runLog` runs a schedule
and collects its sequential run, step by step (`Action.logged`): a step adds the
request it moves if the request returns at it (parsing a bad message, finding the
lock poisoned, or releasing the lock), and the adapter it installs if it is one. Its
configuration is the schedule's (`Cfg.runLog_fst`).

## What is proved

* `Serializes.step`, `Serializes.run` — every schedule reaches a configuration whose
  service and answers are those of the sequential run it logged. A request's own run
  leaves the service as its step does, and every other step leaves the service and
  the answers as they are;
* `createClient_serializable` — hence, from the initial configuration: the logged run
  handles each request once, replaces the adapter exactly as the schedule did, and
  ends where the schedule ends;
* `clientRecords_concurrent` — the client invariant of `AxonIbc.Grpc.HostRun` holds in
  every configuration the concurrent requests reach, as long as no adapter is replaced:
  a request's release of the lock leaves the service as the sequential handler does.
-/

namespace AxonIbc

/-! ### The sequential service -/

/-- One step of a sequential run. -/
inductive SerialOp where
  /-- Request `i` handled from start to end, alone. -/
  | request (i : Nat)
  /-- The adapter becomes `a`. -/
  | setAdapter (a : Adapter)

/-- The request a step handles. -/
def SerialOp.index? : SerialOp → Option Nat
  | .request i => some i
  | .setAdapter _ => none

/-- The adapter a step installs. -/
def SerialOp.adapter? : SerialOp → Option Adapter
  | .request _ => none
  | .setAdapter a => some a

/-- The sequential service: the service, and each request's answer once it has one. -/
structure Serial where
  /-- The context and the lock's poison flag. -/
  svc : IbcClientMsgService
  /-- The answer of each request. -/
  answers : List (Option (Ret Status Unit))

/-- No request handled yet. -/
def Serial.init (svc : IbcClientMsgService) (raws : List MsgCreateClient) : Serial :=
  ⟨svc, raws.map fun _ => none⟩

/-- One step of the sequential run of the requests `raws`. -/
def Serial.step (raws : List MsgCreateClient) (s : Serial) : SerialOp → Serial
  | .request i =>
    match raws[i]? with
    | some raw => ⟨(s.svc.createClient raw).2, s.answers.set i (some (s.svc.createClient raw).1)⟩
    | none => s
  | .setAdapter a => ⟨{ s.svc with ctx := { s.svc.ctx with adapter := a } }, s.answers⟩

/-- A sequential run. -/
def Serial.run (raws : List MsgCreateClient) (s : Serial) (ops : List SerialOp) : Serial :=
  ops.foldl (Serial.step raws) s

theorem Serial.run_append_singleton (raws : List MsgCreateClient) (s : Serial)
    (ops : List SerialOp) (op : SerialOp) :
    Serial.run raws s (ops ++ [op]) = (Serial.run raws s ops).step raws op :=
  List.foldl_append _ _ _ _

/-! ### The sequential handler at the steps a request returns at -/

theorem createClient_of_tryFrom_error {svc : IbcClientMsgService} {raw : MsgCreateClient}
    {e : ClientError} (h : MsgCreateAnyClient.tryFrom raw = .error e) :
    svc.createClient raw = (.panic, svc) := by
  unfold IbcClientMsgService.createClient
  rw [h]

/-- On a lock that is not poisoned, the handler of a message that parses runs the locked
part, and answers as the request that releases the lock does. -/
theorem createClient_of_locked {svc : IbcClientMsgService} {raw : MsgCreateClient}
    {msg : MsgCreateAnyClient} (hm : MsgCreateAnyClient.tryFrom raw = .ok msg)
    (hp : svc.poisoned = false) (v : UInt64) :
    ∃ r, svc.createClient raw = (r, ⟨(createClientLocked svc.ctx msg).2,
        (createClientLocked svc.ctx msg).1.isPanic⟩) ∧
      (Phase.ofLocked msg v (createClientLocked svc.ctx msg).1).returned = some r := by
  unfold IbcClientMsgService.createClient
  rw [hm]
  simp only [hp, Bool.false_eq_true, if_false]
  rcases createClientLocked svc.ctx msg with ⟨_ | _ | _, _⟩ <;> exact ⟨_, rfl, rfl⟩

/-! ### The schedule's sequential run -/

/-- The request `i` of the sequential run, if it has returned in `c`. -/
def Cfg.answered (c : Cfg) (i : Nat) : List SerialOp :=
  if (c.reqs[i]?.bind Phase.returned).isSome then [.request i] else []

/-- What a step adds to the sequential run, given the configuration it reaches: the
request it moves, if the request has returned there, or the adapter it installs. -/
def Action.logged (c' : Cfg) : Action → List SerialOp
  | .parse i | .acquire i | .release i => c'.answered i
  | .setAdapter a => [.setAdapter a]

/-- The adapter a step installs. -/
def Action.adapter? : Action → Option Adapter
  | .setAdapter a => some a
  | _ => none

/-- A schedule's run with the sequential run it logs, step by step. -/
def Cfg.runLog (c : Cfg) : List Action → Option (Cfg × List SerialOp)
  | [] => some (c, [])
  | a :: as => (c.step a).bind fun c' => (c'.runLog as).map fun r => (r.1, a.logged c' ++ r.2)

/-- Forgetting the log gives the schedule's run. -/
theorem Cfg.runLog_fst (c : Cfg) (acts : List Action) :
    (c.runLog acts).map Prod.fst = c.run acts := by
  induction acts generalizing c with
  | nil => rfl
  | cons a as ih =>
    simp only [Cfg.runLog, Cfg.run]
    cases c.step a with
    | none => rfl
    | some c' => rw [Option.some_bind, Option.some_bind, ← ih, Option.map_map]; rfl

/-- The log's adapter replacements are the schedule's, in its order. -/
theorem Action.logged_adapters (c' : Cfg) (a : Action) :
    (a.logged c').filterMap SerialOp.adapter? = a.adapter?.toList := by
  have hreq (i : Nat) : (c'.answered i).filterMap SerialOp.adapter? = [] := by
    unfold Cfg.answered
    split <;> rfl
  cases a <;> first | rfl | exact hreq _

theorem Cfg.runLog_adapters {c c' : Cfg} {acts : List Action} {ops : List SerialOp}
    (h : c.runLog acts = some (c', ops)) :
    ops.filterMap SerialOp.adapter? = acts.filterMap Action.adapter? := by
  induction acts generalizing c ops with
  | nil => cases h; rfl
  | cons a as ih =>
    obtain ⟨c₁, -, h₂⟩ := Option.bind_eq_some.1 h
    obtain ⟨⟨_, log⟩, h₃, h₄⟩ := Option.map_eq_some'.1 h₂
    cases h₄
    rw [List.filterMap_append, Action.logged_adapters, ih h₃, List.filterMap_cons]
    cases a.adapter? <;> rfl

/-! ### The invariant -/

/-- A request's phase agrees with its message `raw`: it holds `raw`, or what `raw`
parses to. -/
def Phase.Of (raw : MsgCreateClient) : Phase → Prop
  | .received r => r = raw
  | .waiting msg | .holding msg _ => MsgCreateAnyClient.tryFrom raw = .ok msg
  | .created .. | .failed _ => True

/-- **The invariant**: the phases agree with the messages, and the sequential run `ops`
handles each request that returned once, and leaves the service and every answer as
they are. -/
structure Serializes (svc0 : IbcClientMsgService) (raws : List MsgCreateClient) (c : Cfg)
    (ops : List SerialOp) : Prop where
  /-- Each request's phase agrees with its message. -/
  phases : ∀ {i : Nat} {p : Phase}, c.reqs[i]? = some p → ∃ raw, raws[i]? = some raw ∧ p.Of raw
  /-- No request is handled twice. -/
  nodup : (ops.filterMap SerialOp.index?).Nodup
  /-- Each request handled has returned. -/
  returned : ∀ i ∈ ops.filterMap SerialOp.index?, ∃ p, c.reqs[i]? = some p ∧ p.returned.isSome
  /-- The sequential run ends where the configuration is. -/
  serial : (Serial.init svc0 raws).run raws ops = ⟨c.svc, c.reqs.map Phase.returned⟩

theorem serializes_init (svc : IbcClientMsgService) (raws : List MsgCreateClient) :
    Serializes svc raws (Cfg.init svc raws) [] where
  phases h := by
    rw [Cfg.init, List.getElem?_map, Option.map_eq_some'] at h
    obtain ⟨raw, hr, rfl⟩ := h
    exact ⟨raw, hr, rfl⟩
  nodup := List.nodup_nil
  returned := nofun
  serial := by
    rw [Serial.run, List.foldl_nil, Serial.init, Cfg.init, List.map_map]
    rfl

/-! ### The invariant, step by step -/

theorem set_self_of_getElem? {α : Type} {l : List α} {i : Nat} {a : α} (h : l[i]? = some a) :
    l.set i a = l := by
  refine List.ext_getElem? fun j => ?_
  by_cases hij : i = j
  · subst hij
    rw [List.getElem?_set_self', h]
    rfl
  · rw [List.getElem?_set_ne hij]

/-- A phase with an answer agrees with every message. -/
theorem Phase.of_returned {q : Phase} (h : q.returned.isSome) (raw : MsgCreateClient) : q.Of raw := by
  cases q <;> simp_all [Phase.returned, Phase.Of]

/-- The log of a step that sets request `i`'s phase to `q`: the request, if `q` is an
answer. -/
theorem Cfg.answered_set {reqs : List Phase} {i : Nat} (hi : i < reqs.length) (q : Phase)
    (svc : IbcClientMsgService) (holder : Option Nat) :
    Cfg.answered ⟨svc, holder, reqs.set i q⟩ i = if q.returned.isSome then [.request i] else [] := by
  rw [Cfg.answered, List.getElem?_set_self hi, Option.some_bind]

section Steps

variable {svc0 : IbcClientMsgService} {raws : List MsgCreateClient} {c : Cfg} {ops : List SerialOp}

/-- A request with no answer yet is not in the sequential run. -/
theorem ne_of_unanswered
    (hret : ∀ j ∈ ops.filterMap SerialOp.index?, ∃ p, c.reqs[j]? = some p ∧ p.returned.isSome)
    {i : Nat} {p : Phase} (hp : c.reqs[i]? = some p) (hpr : p.returned = none) :
    ∀ j ∈ ops.filterMap SerialOp.index?, i ≠ j := by
  rintro j hj rfl
  obtain ⟨p', hp', hs⟩ := hret i hj
  rw [hp, Option.some.injEq] at hp'
  subst hp'
  simp [hpr] at hs

/-- Setting a request's phase to one that agrees with its message keeps the phases. -/
theorem Serializes.phases_set (hc : Serializes svc0 raws c ops) {i : Nat} {p q : Phase}
    (hp : c.reqs[i]? = some p) (hq : ∀ raw, p.Of raw → q.Of raw) {j : Nat} {r : Phase}
    (hr : (c.reqs.set i q)[j]? = some r) : ∃ raw, raws[j]? = some raw ∧ r.Of raw := by
  by_cases hij : i = j
  · subst hij
    rw [List.getElem?_set_self', hp, Option.map_eq_map, Option.map_some', Option.some.injEq] at hr
    subst hr
    obtain ⟨raw, hraw, hpo⟩ := hc.phases hp
    exact ⟨raw, hraw, hq raw hpo⟩
  · exact hc.phases (by rwa [List.getElem?_set_ne hij] at hr)

/-- **A request returning**, at a step that leaves the service as the sequential handler of
its message leaves it, keeps the invariant: the sequential run handles it next. -/
theorem Serializes.finish (hc : Serializes svc0 raws c ops) {i : Nat} {p q : Phase}
    {raw : MsgCreateClient} {r : Ret Status Unit} {svc' : IbcClientMsgService}
    (hp : c.reqs[i]? = some p) (hpr : p.returned = none) (hraw : raws[i]? = some raw)
    (hcc : c.svc.createClient raw = (r, svc')) (hq : q.returned = some r) (holder : Option Nat) :
    Serializes svc0 raws ⟨svc', holder, c.reqs.set i q⟩
      (ops ++ Cfg.answered ⟨svc', holder, c.reqs.set i q⟩ i) := by
  have hne := ne_of_unanswered hc.returned hp hpr
  have hlen : i < c.reqs.length := (List.getElem?_eq_some_iff.1 hp).1
  rw [Cfg.answered_set hlen, hq, Option.isSome_some, if_pos rfl]
  refine ⟨hc.phases_set hp fun raw _ => Phase.of_returned (by simp [hq]) raw, ?_, fun j hj => ?_, ?_⟩
  · rw [List.filterMap_append]
    show (_ ++ [i]).Nodup
    rw [← List.concat_eq_append]
    exact hc.nodup.concat fun hi => hne i hi rfl
  · rw [List.filterMap_append, List.mem_append] at hj
    rcases hj with hj | hj
    · obtain ⟨p', hp', hs⟩ := hc.returned j hj
      exact ⟨p', by rwa [List.getElem?_set_ne (hne j hj)], hs⟩
    · obtain rfl : j = i := List.mem_singleton.1 hj
      exact ⟨q, List.getElem?_set_self hlen, by simp [hq]⟩
  · rw [Serial.run_append_singleton, hc.serial]
    simp only [Serial.step, hraw, hcc, List.map_set, hq]

/-- **A step no request returns at** (parsing a good message, taking the free lock) leaves
the service and every answer, and keeps the invariant. -/
theorem Serializes.quiet (hc : Serializes svc0 raws c ops) {i : Nat} {p q : Phase}
    (hp : c.reqs[i]? = some p) (hpr : p.returned = none) (hqr : q.returned = none)
    (hq : ∀ raw, p.Of raw → q.Of raw) (holder : Option Nat) :
    Serializes svc0 raws ⟨c.svc, holder, c.reqs.set i q⟩
      (ops ++ Cfg.answered ⟨c.svc, holder, c.reqs.set i q⟩ i) := by
  have hne := ne_of_unanswered hc.returned hp hpr
  have hnone : (c.reqs.map Phase.returned)[i]? = some none := by
    rw [List.getElem?_map, hp, Option.map_some', hpr]
  rw [Cfg.answered_set (List.getElem?_eq_some_iff.1 hp).1, hqr, Option.isSome_none,
    if_neg Bool.false_ne_true, List.append_nil]
  refine ⟨hc.phases_set hp hq, hc.nodup, fun j hj => ?_, ?_⟩
  · obtain ⟨p', hp', hs⟩ := hc.returned j hj
    exact ⟨p', by rwa [List.getElem?_set_ne (hne j hj)], hs⟩
  · rw [hc.serial, List.map_set, hqr, set_self_of_getElem? hnone]

/-- **The environment replacing the adapter** keeps the invariant: the sequential run
replaces it too. -/
theorem Serializes.setAdapter (hc : Serializes svc0 raws c ops) (ad : Adapter) :
    Serializes svc0 raws { c with svc := { c.svc with ctx := { c.svc.ctx with adapter := ad } } }
      (ops ++ [.setAdapter ad]) := by
  have hidx : (ops ++ [SerialOp.setAdapter ad]).filterMap SerialOp.index? =
      ops.filterMap SerialOp.index? := by
    rw [List.filterMap_append]
    exact List.append_nil _
  refine ⟨hc.phases, hidx ▸ hc.nodup, hidx ▸ hc.returned, ?_⟩
  rw [Serial.run_append_singleton, hc.serial]
  rfl

variable {c0 : Nat}

/-- **Every step keeps the invariant**, where the lock's invariant holds, with what the
step logs appended to the sequential run. -/
theorem Serializes.step (hc : Serializes svc0 raws c ops) (hinv : Inv c0 c) {c' : Cfg}
    {a : Action} (h : c.step a = some c') : Serializes svc0 raws c' (ops ++ a.logged c') := by
  cases a with
  | parse i =>
    simp only [Cfg.step] at h
    split at h
    · rename_i raw hr
      obtain ⟨raw', hraw, hof⟩ := hc.phases hr
      cases hof
      cases Option.some.inj h
      cases hm : MsgCreateAnyClient.tryFrom raw with
      | ok msg => exact hc.quiet hr (by rfl) (by rfl) (fun _ h => h ▸ hm) _
      | error e => exact hc.finish hr (by rfl) hraw (createClient_of_tryFrom_error hm) (by rfl) _
    · cases h
  | acquire i =>
    simp only [Cfg.step] at h
    split at h
    · rename_i msg hr _
      obtain ⟨raw, hraw, -⟩ := hc.phases hr
      split_ifs at h with hp <;> cases Option.some.inj h
      · exact hc.finish hr (by rfl) hraw (createClient_of_poisoned hp raw) (by rfl) _
      · exact hc.quiet hr (by rfl) (by rfl) (fun _ h => by exact h) _
    · cases h
  | release i =>
    simp only [Cfg.step] at h
    split at h
    · rename_i msg v hr
      split_ifs at h with hh
      cases Option.some.inj h
      obtain ⟨raw, hraw, hm⟩ := hc.phases hr
      obtain ⟨-, -, hp⟩ := hinv.holder hh
      obtain ⟨r, hcc, hq⟩ := createClient_of_locked hm hp v
      exact hc.finish hr (by rfl) hraw hcc hq none
    · cases h
  | setAdapter ad =>
    cases Option.some.inj h
    exact hc.setAdapter ad

/-- **Every schedule keeps the invariant**, with its log appended to the sequential run. -/
theorem Serializes.run (hc : Serializes svc0 raws c ops) (hinv : Inv c0 c) {acts : List Action}
    {c' : Cfg} {log : List SerialOp} (h : c.runLog acts = some (c', log)) :
    Serializes svc0 raws c' (ops ++ log) := by
  induction acts generalizing c ops log with
  | nil =>
    cases h
    rw [List.append_nil]
    exact hc
  | cons a as ih =>
    obtain ⟨c₁, h₁, h₂⟩ := Option.bind_eq_some.1 h
    obtain ⟨⟨_, log'⟩, h₃, h₄⟩ := Option.map_eq_some'.1 h₂
    cases h₄
    rw [← List.append_assoc]
    exact ih (hc.step hinv h₁) (hinv.step h₁) h₃

end Steps

/-! ### Any number of requests, any interleaving -/

/-- **Concurrent requests are serialisable**: under every schedule of any number of
`create_client` requests, with the adapter changing at any step, the schedule logs a
sequential run that replaces the adapter exactly as the schedule did and in its order,
handles each request at the step it returned at, each once, and ends with the service
and every answer as the schedule ends. -/
theorem createClient_serializable (svc : IbcClientMsgService) (raws : List MsgCreateClient)
    {acts : List Action} {c : Cfg} (h : (Cfg.init svc raws).run acts = some c) :
    ∃ ops : List SerialOp, (Cfg.init svc raws).runLog acts = some (c, ops) ∧
      ops.filterMap SerialOp.adapter? = acts.filterMap Action.adapter? ∧
      (ops.filterMap SerialOp.index?).Nodup ∧
      (Serial.init svc raws).run raws ops = ⟨c.svc, c.reqs.map Phase.returned⟩ := by
  rw [← Cfg.runLog_fst, Option.map_eq_some'] at h
  obtain ⟨⟨_, ops⟩, hlog, rfl⟩ := h
  have hs := (serializes_init svc raws).run (inv_init svc raws) hlog
  exact ⟨ops, hlog, Cfg.runLog_adapters hlog, hs.nodup, hs.serial⟩

/-- Two requests for Tendermint clients, the second served first; while it holds the lock
the adapter starts failing the client-state write, and recovers before the first takes
the lock. -/
def writeFaultUnderLock : List Action :=
  [.parse 0, .parse 1, .acquire 1, .setAdapter clientStateFaultCtx.adapter, .release 1,
    .setAdapter hostCtx.adapter, .acquire 0, .release 0]

theorem createClient_serializable_writeFaultUnderLock :
    let c := ((Cfg.init ⟨hostCtx, false⟩ [tendermintMsg.toRaw, tendermintMsg.toRaw]).run
      writeFaultUnderLock).getD (Cfg.init ⟨hostCtx, false⟩ [])
    ∃ ops : List SerialOp,
      (Cfg.init ⟨hostCtx, false⟩ [tendermintMsg.toRaw, tendermintMsg.toRaw]).runLog
        writeFaultUnderLock = some (c, ops) ∧
      ops.filterMap SerialOp.adapter? = writeFaultUnderLock.filterMap Action.adapter? ∧
      (ops.filterMap SerialOp.index?).Nodup ∧
      (Serial.init ⟨hostCtx, false⟩ [tendermintMsg.toRaw, tendermintMsg.toRaw]).run
        [tendermintMsg.toRaw, tendermintMsg.toRaw] ops = ⟨c.svc, c.reqs.map Phase.returned⟩ := by
  intro c
  exact @createClient_serializable ⟨hostCtx, false⟩ [tendermintMsg.toRaw, tendermintMsg.toRaw]
    writeFaultUnderLock c rfl

/-- The logged run: the fault, the second request (which fails), the recovery, the
first request (which is given `07-tendermint-0`). -/
example : ((Cfg.init ⟨hostCtx, false⟩ [tendermintMsg.toRaw, tendermintMsg.toRaw]).runLog
    writeFaultUnderLock).map (fun r => (r.2.map SerialOp.index?, r.1.svc.ctx.clientCounter)) =
    some ([none, some 1, none, some 0], 1) := by
  decide

/-! ### The client invariant under concurrent requests -/

/-- A step that replaces no adapter keeps the client invariant. -/
theorem ClientRecords.cfgStep {svc0 : IbcClientMsgService} {raws : List MsgCreateClient}
    {c0 : Nat} {c c' : Cfg} {a : Action} {ops : List SerialOp} (hr : ClientRecords c.svc)
    (hs : Serializes svc0 raws c ops)
    (hinv : Inv c0 c) (h : c.step a = some c') (ha : ∀ ad, a ≠ .setAdapter ad) :
    ClientRecords c'.svc := by
  cases a with
  | parse i =>
    simp only [Cfg.step] at h
    split at h <;> cases h
    exact hr
  | acquire i =>
    simp only [Cfg.step] at h
    split at h
    · split_ifs at h <;> cases h <;> exact hr
    · cases h
  | release i =>
    simp only [Cfg.step] at h
    split at h
    · rename_i msg v hh
      split_ifs at h with hholder
      cases h
      obtain ⟨raw, -, hm⟩ := hs.phases hh
      obtain ⟨-, -, hp⟩ := hinv.holder hholder
      obtain ⟨r, hcc, -⟩ := createClient_of_locked hm hp v
      have hcr := hr.createClient raw
      rwa [hcc] at hcr
    · cases h
  | setAdapter ad => exact absurd rfl (ha ad)

/-- A schedule that replaces no adapter keeps the client invariant. -/
theorem ClientRecords.cfgRun {svc0 : IbcClientMsgService} {raws : List MsgCreateClient}
    {c0 : Nat} {c c' : Cfg} {acts : List Action} {ops : List SerialOp} (hr : ClientRecords c.svc)
    (hs : Serializes svc0 raws c ops) (hinv : Inv c0 c)
    (hset : ∀ a ∈ acts, ∀ ad, a ≠ .setAdapter ad) (h : c.run acts = some c') :
    ClientRecords c'.svc := by
  induction acts generalizing c ops with
  | nil => exact Option.some.inj h ▸ hr
  | cons a as ih =>
    obtain ⟨c₁, h₁, h₂⟩ := Option.bind_eq_some.1 h
    exact ih (hr.cfgStep hs hinv h₁ (hset a (.head _))) (hs.step hinv h₁) (hinv.step h₁)
      (fun a' ha' => hset a' (.tail _ ha')) h₂

/-- **The client invariant under concurrent requests**: from a service where it holds,
every schedule of `create_client` requests that replaces no adapter reaches a service
where it holds. -/
theorem clientRecords_concurrent {svc : IbcClientMsgService} (h0 : ClientRecords svc)
    (raws : List MsgCreateClient) {acts : List Action} {c : Cfg}
    (hset : ∀ a ∈ acts, ∀ ad, a ≠ .setAdapter ad) (h : (Cfg.init svc raws).run acts = some c) :
    ClientRecords c.svc :=
  ClientRecords.cfgRun h0 (serializes_init svc raws) (inv_init svc raws) hset h

/-- Two requests for Tendermint clients, the second served first, the adapter left alone. -/
def secondServedFirst : List Action :=
  [.parse 0, .parse 1, .acquire 1, .release 1, .acquire 0, .release 0]

theorem clientRecords_concurrent_secondServedFirst :
    let c := ((Cfg.init ⟨hostCtx, false⟩ [tendermintMsg.toRaw, tendermintMsg.toRaw]).run
      secondServedFirst).getD (Cfg.init ⟨hostCtx, false⟩ [])
    ClientRecords c.svc := by
  intro c
  exact @clientRecords_concurrent ⟨hostCtx, false⟩ (clientRecords_of_empty rfl rfl rfl)
    [tendermintMsg.toRaw, tendermintMsg.toRaw] secondServedFirst c
    (fun _ ha ad he => by simp [secondServedFirst, he] at ha) rfl

end AxonIbc
