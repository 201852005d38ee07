import AxonIbc.Grpc.CreateClient

/-!
# Concurrent `create_client`

`IbcClientMsgService` serves every request on its own task against one context,
`Arc<RwLock<Ctx>>`. This module runs any number of `create_client` requests under
any interleaving, with the adapter changing between any two steps, and proves that
the client counter and the identifiers come out as if the requests had run one at
a time.

## The model

A configuration is the service (context and poison flag), the request holding the
write lock, and the phase of each request. A request parses its message
(`try_from(..).unwrap()`, outside the lock), waits for the lock, takes it (or panics
on a poisoned lock), runs the locked part of the handler (`createClientLocked`) and
releases the lock, poisoning it if the locked part panicked. The environment may
replace the adapter at any step: its store, its height, which reads and writes
fail. The scheduler picks the next step (`Action`); `Cfg.step` is partial, and a
schedule whose step is not enabled does not run.

The locked part is one step: while the guard is held no other request can touch
the context, and its adapter calls see one adapter. Every pattern of failing
writes is still a possible adapter, since the fault oracle is arbitrary per path.

The phase of a request that holds the lock records, as ghost state, the value of
`client_counter` when it took the lock; a request that returned `Ok` keeps that
value and the identifier it built.

## What is proved

* `Inv.step`, `Inv.run` — the invariant holds of every configuration a schedule
  reaches: the counter is its initial value plus the number of requests that
  returned `Ok`, only the lock's holder holds it, the holder took it at the current
  counter, and the requests that returned `Ok` took the lock at distinct counters
  below the current one;
* `createClient_concurrent` — hence the identifiers of the requests that returned
  `Ok` are `ClientId::new(type, counter at acquisition)`, pairwise distinct, and
  the counter at the end counts them.

`AxonIbc.Grpc.Serial` relates every schedule to the sequential handler
`IbcClientMsgService.createClient`.
-/

namespace AxonIbc

/-! ### Requests and configurations -/

/-- Where a `create_client` request is. -/
inductive Phase where
  /-- Received, not yet parsed. -/
  | received (raw : MsgCreateClient)
  /-- Parsed; waiting for the write lock. -/
  | waiting (msg : MsgCreateAnyClient)
  /-- Holding the write lock, taken when the counter was `acquired`. -/
  | holding (msg : MsgCreateAnyClient) (acquired : UInt64)
  /-- Returned `Ok`, having built `id` under the lock taken at `acquired`. -/
  | created (msg : MsgCreateAnyClient) (acquired : UInt64) (id : ClientId)
  /-- Returned an error `Status`, or panicked. -/
  | failed (r : Ret Status Unit)

/-- The request returned `Ok`. -/
def Phase.isCreated : Phase → Bool
  | .created .. => true
  | _ => false

/-- The request holds the lock or returned `Ok`: the phases the invariant speaks of. -/
def Phase.isActive : Phase → Bool
  | .holding .. | .created .. => true
  | _ => false

/-- What the request returned, once it has. -/
def Phase.returned : Phase → Option (Ret Status Unit)
  | .created .. => some (.ok ())
  | .failed r => some r
  | _ => none

/-- The phase a request ends in when the locked part returned `r`. -/
def Phase.ofLocked (msg : MsgCreateAnyClient) (acquired : UInt64) : Ret Status ClientId → Phase
  | .ok id => .created msg acquired id
  | .err e => .failed (.err e)
  | .panic => .failed .panic

/-- The call panicked. -/
def Ret.isPanic {ε α : Type} : Ret ε α → Bool
  | .panic => true
  | _ => false

/-- The service with its requests in flight. -/
structure Cfg where
  /-- The context and the lock's poison flag. -/
  svc : IbcClientMsgService
  /-- The request holding the write lock. -/
  holder : Option Nat
  /-- The requests. -/
  reqs : List Phase

/-- Requests received by a service, none of them started. -/
def Cfg.init (svc : IbcClientMsgService) (raws : List MsgCreateClient) : Cfg :=
  ⟨svc, none, raws.map .received⟩

/-- A step the scheduler can take. -/
inductive Action where
  /-- Request `i` parses its message. -/
  | parse (i : Nat)
  /-- Request `i` takes the free write lock. -/
  | acquire (i : Nat)
  /-- Request `i`, holding the lock, runs the locked part and releases the lock. -/
  | release (i : Nat)
  /-- The adapter becomes `a`. -/
  | setAdapter (a : Adapter)

/-- **One step**, if the scheduler's choice is enabled. -/
def Cfg.step (c : Cfg) : Action → Option Cfg
  | .parse i =>
    match c.reqs[i]? with
    | some (.received raw) =>
      some { c with reqs := c.reqs.set i <|
        match MsgCreateAnyClient.tryFrom raw with
        | .ok msg => .waiting msg
        | .error _ => .failed .panic }
    | _ => none
  | .acquire i =>
    match c.reqs[i]?, c.holder with
    | some (.waiting msg), none =>
      if c.svc.poisoned then some { c with reqs := c.reqs.set i (.failed .panic) }
      else some { c with holder := some i, reqs := c.reqs.set i (.holding msg c.svc.ctx.clientCounter) }
    | _, _ => none
  | .release i =>
    match c.reqs[i]? with
    | some (.holding msg v) =>
      if c.holder = some i then
        let (r, ctx') := createClientLocked c.svc.ctx msg
        some ⟨⟨ctx', r.isPanic⟩, none, c.reqs.set i (Phase.ofLocked msg v r)⟩
      else none
    | _ => none
  | .setAdapter a => some { c with svc := { c.svc with ctx := { c.svc.ctx with adapter := a } } }

/-- The configuration a schedule reaches, if every step of it is enabled. -/
def Cfg.run (c : Cfg) : List Action → Option Cfg
  | [] => some c
  | a :: as => (c.step a).bind (·.run as)

/-! ### What a step can do -/

/-- **Every step** moves a request that neither holds the lock nor returned `Ok`
without touching the context or the lock, takes the free unpoisoned lock at the
current counter, runs the holder's locked part and frees the lock, or replaces the
adapter. -/
theorem Cfg.step_cases {c c' : Cfg} {a : Action} (h : c.step a = some c') :
    (∃ i p q, c.reqs[i]? = some p ∧ p.isActive = false ∧ q.isActive = false ∧
      c' = { c with reqs := c.reqs.set i q }) ∨
    (∃ i msg, c.reqs[i]? = some (.waiting msg) ∧ c.holder = none ∧ c.svc.poisoned = false ∧
      c' = { c with holder := some i, reqs := c.reqs.set i (.holding msg c.svc.ctx.clientCounter) }) ∨
    (∃ i msg v, c.reqs[i]? = some (.holding msg v) ∧ c.holder = some i ∧
      c' = ⟨⟨(createClientLocked c.svc.ctx msg).2, (createClientLocked c.svc.ctx msg).1.isPanic⟩,
        none, c.reqs.set i (Phase.ofLocked msg v (createClientLocked c.svc.ctx msg).1)⟩) ∨
    (∃ ad, c' = { c with svc := { c.svc with ctx := { c.svc.ctx with adapter := ad } } }) := by
  cases a with
  | parse i =>
    simp only [Cfg.step] at h
    split at h
    · rename_i raw hr
      refine .inl ⟨i, _, _, hr, rfl, ?_, (Option.some.inj h).symm⟩
      split <;> rfl
    · cases h
  | acquire i =>
    simp only [Cfg.step] at h
    split at h
    · rename_i msg hr hh
      split_ifs at h with hp
      · exact .inl ⟨i, _, .failed .panic, hr, rfl, rfl, (Option.some.inj h).symm⟩
      · exact .inr (.inl ⟨i, msg, hr, hh, by simpa using hp, (Option.some.inj h).symm⟩)
    · cases h
  | release i =>
    simp only [Cfg.step] at h
    split at h
    · rename_i msg v hr
      split_ifs at h with hh
      exact .inr (.inr (.inl ⟨i, msg, v, hr, hh, (Option.some.inj h).symm⟩))
    · cases h
  | setAdapter ad => exact .inr (.inr (.inr ⟨ad, (Option.some.inj h).symm⟩))

/-! ### The invariant -/

/-- **The invariant**, for a service whose counter started at `c0`. -/
structure Inv (c0 : Nat) (c : Cfg) : Prop where
  /-- The counter is its initial value plus one per request that returned `Ok`. -/
  counter : c.svc.ctx.clientCounter.toNat = c0 + c.reqs.countP Phase.isCreated
  /-- The holder holds the lock, taken at the current counter, and it is not poisoned. -/
  holder : ∀ {i : Nat}, c.holder = some i →
    ∃ msg, c.reqs[i]? = some (.holding msg c.svc.ctx.clientCounter) ∧ c.svc.poisoned = false
  /-- Only the holder holds the lock. -/
  holding : ∀ {i : Nat} {msg : MsgCreateAnyClient} {v : UInt64},
    c.reqs[i]? = some (.holding msg v) → c.holder = some i
  /-- A request that returned `Ok` built `ClientId::new(type, counter at acquisition)`,
  and that counter is below the current one. -/
  created : ∀ {i : Nat} {msg : MsgCreateAnyClient} {v : UInt64} {id : ClientId},
    c.reqs[i]? = some (.created msg v id) →
    ClientId.new msg.clientState.clientType v = .ok id ∧ v.toNat < c.svc.ctx.clientCounter.toNat
  /-- Two requests that returned `Ok` took the lock at different counters. -/
  distinct : ∀ {i j : Nat} {msg msg' : MsgCreateAnyClient} {v v' : UInt64} {id id' : ClientId},
    i ≠ j → c.reqs[i]? = some (.created msg v id) →
    c.reqs[j]? = some (.created msg' v' id') → v ≠ v'

theorem inv_init (svc : IbcClientMsgService) (raws : List MsgCreateClient) :
    Inv svc.ctx.clientCounter.toNat (Cfg.init svc raws) where
  counter := by simp [Cfg.init, List.countP_eq_zero, Phase.isCreated]
  holder h := by cases h
  holding h := by simp [Cfg.init] at h
  created h := by simp [Cfg.init] at h
  distinct _ h := by simp [Cfg.init] at h

/-! ### The invariant, transition by transition -/

theorem Phase.isCreated_of_isActive {p : Phase} (h : p.isActive = false) : p.isCreated = false := by
  cases p <;> simp_all [Phase.isActive, Phase.isCreated]

/-- A request whose phase was set to `q`, read back as another phase `r`, is another
request, which had `r` before. -/
theorem getElem?_set_of_ne {l : List Phase} {i j : Nat} {q r : Phase}
    (h : (l.set i q)[j]? = some r) (hne : q ≠ r) : i ≠ j ∧ l[j]? = some r := by
  by_cases hij : i = j
  · subst hij
    simp only [List.getElem?_set_self', Option.map_eq_map, Option.map_eq_some',
      Function.const_apply] at h
    obtain ⟨_, -, rfl⟩ := h
    exact absurd rfl hne
  · exact ⟨hij, by rwa [List.getElem?_set_ne hij] at h⟩

theorem getElem?_set_active {l : List Phase} {i j : Nat} {q r : Phase} (hq : q.isActive = false)
    (h : (l.set i q)[j]? = some r) (hr : r.isActive = true) : i ≠ j ∧ l[j]? = some r :=
  getElem?_set_of_ne h fun e => by simp [e, hr] at hq

/-- Setting request `i`'s phase from `p` to `q` counts the requests that returned
`Ok` as before, less `p`'s, plus `q`'s. -/
theorem countP_set_phase {l : List Phase} {i : Nat} {p : Phase} (q : Phase) (h : l[i]? = some p) :
    (l.set i q).countP Phase.isCreated =
      l.countP Phase.isCreated - (if p.isCreated then 1 else 0) + (if q.isCreated then 1 else 0) := by
  obtain ⟨hi, rfl⟩ := List.getElem?_eq_some_iff.1 h
  exact List.countP_set _ l i q hi

variable {c0 : Nat} {c : Cfg}

/-- **A request moving between phases the invariant does not speak of** keeps it. -/
theorem Inv.idle (hc : Inv c0 c) {i : Nat} {p q : Phase} (hp : c.reqs[i]? = some p)
    (hpa : p.isActive = false) (hqa : q.isActive = false) :
    Inv c0 { c with reqs := c.reqs.set i q } where
  counter := by
    rw [countP_set_phase q hp, Phase.isCreated_of_isActive hpa, Phase.isCreated_of_isActive hqa]
    simpa using hc.counter
  holder := fun {j} hj => by
    obtain ⟨msg, hm, hpois⟩ := hc.holder hj
    have hij : i ≠ j := by
      rintro rfl
      rw [hm, Option.some.injEq] at hp
      simp [← hp, Phase.isActive] at hpa
    exact ⟨msg, by rwa [List.getElem?_set_ne hij], hpois⟩
  holding hj := hc.holding (getElem?_set_active hqa hj rfl).2
  created hj := hc.created (getElem?_set_active hqa hj rfl).2
  distinct hne hj hk :=
    hc.distinct hne (getElem?_set_active hqa hj rfl).2 (getElem?_set_active hqa hk rfl).2

/-- **Taking the free, unpoisoned lock** at the current counter keeps the invariant. -/
theorem Inv.acquire (hc : Inv c0 c) {i : Nat} {msg : MsgCreateAnyClient}
    (hw : c.reqs[i]? = some (.waiting msg)) (hfree : c.holder = none) (hpois : c.svc.poisoned = false) :
    Inv c0 { c with holder := some i, reqs := c.reqs.set i (.holding msg c.svc.ctx.clientCounter) } where
  counter := by
    rw [countP_set_phase _ hw]
    simpa [Phase.isCreated] using hc.counter
  holder := fun {j} hj => by
    obtain rfl : i = j := Option.some.inj hj
    exact ⟨msg, List.getElem?_set_self (List.getElem?_eq_some_iff.1 hw).1, hpois⟩
  holding := fun {j} _ _ hj => by
    by_cases hij : i = j
    · exact congrArg some hij
    · rw [List.getElem?_set_ne hij] at hj
      simp [hc.holding hj] at hfree
  created hj := hc.created (getElem?_set_of_ne hj nofun).2
  distinct hne hj hk := hc.distinct hne (getElem?_set_of_ne hj nofun).2 (getElem?_set_of_ne hk nofun).2

/-- **Releasing the lock after `Ok`**: the holder, which took the lock at the current
counter, ends with the identifier that counter gives, and the counter goes up by
one. -/
theorem Inv.releaseOk (hc : Inv c0 c) {i : Nat} {msg : MsgCreateAnyClient} {id : ClientId}
    {ctx' : IbcImpl} (hh : c.reqs[i]? = some (.holding msg c.svc.ctx.clientCounter))
    (hholder : c.holder = some i)
    (hid : ClientId.new msg.clientState.clientType c.svc.ctx.clientCounter = .ok id)
    (hcount : ctx'.clientCounter.toNat = c.svc.ctx.clientCounter.toNat + 1) (b : Bool) :
    Inv c0 ⟨⟨ctx', b⟩, none, c.reqs.set i (.created msg c.svc.ctx.clientCounter id)⟩ where
  counter := by
    rw [hcount, countP_set_phase _ hh, hc.counter]
    simp [Phase.isCreated]
    omega
  holder h := by cases h
  holding hj := by
    obtain ⟨hij, hj⟩ := getElem?_set_of_ne hj nofun
    exact absurd (Option.some.inj ((hc.holding hj).symm.trans hholder)) (Ne.symm hij)
  created := fun {j} _ _ _ hj => by
    have hi := (List.getElem?_eq_some_iff.1 hh).1
    by_cases hij : i = j
    · subst hij
      rw [List.getElem?_set_self hi, Option.some.injEq, Phase.created.injEq] at hj
      obtain ⟨rfl, rfl, rfl⟩ := hj
      exact ⟨hid, by dsimp only; omega⟩
    · rw [List.getElem?_set_ne hij] at hj
      obtain ⟨h₁, h₂⟩ := hc.created hj
      exact ⟨h₁, by dsimp only; omega⟩
  distinct := fun {j k} _ _ _ _ _ _ hne hj hk => by
    have hi := (List.getElem?_eq_some_iff.1 hh).1
    have old : ∀ {l m v' id'}, i ≠ l → (c.reqs.set i (.created msg c.svc.ctx.clientCounter id))[l]? =
        some (.created m v' id') → c.reqs[l]? = some (.created m v' id') := fun hil h => by
      rwa [List.getElem?_set_ne hil] at h
    by_cases hij : i = j
    · subst hij
      rw [List.getElem?_set_self hi, Option.some.injEq, Phase.created.injEq] at hj
      obtain ⟨-, rfl, -⟩ := hj
      rintro rfl
      exact Nat.lt_irrefl _ (hc.created (old hne hk)).2
    · by_cases hik : i = k
      · subst hik
        rw [List.getElem?_set_self hi, Option.some.injEq, Phase.created.injEq] at hk
        obtain ⟨-, rfl, -⟩ := hk
        rintro rfl
        exact Nat.lt_irrefl _ (hc.created (old hij hj)).2
      · exact hc.distinct hne (old hij hj) (old hik hk)

/-- **Releasing the lock after an error or a panic**: the holder ends in a phase the
invariant does not speak of, and the counter is as it was. -/
theorem Inv.releaseFailed (hc : Inv c0 c) {i : Nat} {msg : MsgCreateAnyClient} {v : UInt64}
    (hh : c.reqs[i]? = some (.holding msg v)) (hholder : c.holder = some i) {q : Phase}
    (hq : q.isActive = false) {ctx' : IbcImpl} (hcount : ctx'.clientCounter = c.svc.ctx.clientCounter)
    (b : Bool) : Inv c0 ⟨⟨ctx', b⟩, none, c.reqs.set i q⟩ where
  counter := by
    rw [hcount, countP_set_phase q hh, Phase.isCreated_of_isActive hq]
    simpa [Phase.isCreated] using hc.counter
  holder h := by cases h
  holding hj := by
    obtain ⟨hij, hj⟩ := getElem?_set_active hq hj rfl
    exact absurd (Option.some.inj ((hc.holding hj).symm.trans hholder)) (Ne.symm hij)
  created hj := hcount ▸ hc.created (getElem?_set_active hq hj rfl).2
  distinct hne hj hk :=
    hc.distinct hne (getElem?_set_active hq hj rfl).2 (getElem?_set_active hq hk rfl).2

/-- **Running the locked part and releasing the lock** keeps the invariant. -/
theorem Inv.release (hc : Inv c0 c) {i : Nat} {msg : MsgCreateAnyClient} {v : UInt64}
    (hh : c.reqs[i]? = some (.holding msg v)) (hholder : c.holder = some i) :
    Inv c0 ⟨⟨(createClientLocked c.svc.ctx msg).2, (createClientLocked c.svc.ctx msg).1.isPanic⟩,
      none, c.reqs.set i (Phase.ofLocked msg v (createClientLocked c.svc.ctx msg).1)⟩ := by
  obtain ⟨msg₀, hm, -⟩ := hc.holder hholder
  obtain ⟨-, rfl⟩ : msg = msg₀ ∧ v = c.svc.ctx.clientCounter := by simpa [hh] using hm
  rcases hres : createClientLocked c.svc.ctx msg with ⟨_ | e | _, ctx'⟩
  · obtain ⟨hid, hcount⟩ := createClientLocked_ok hres
    exact hc.releaseOk hh hholder hid hcount _
  all_goals exact hc.releaseFailed hh hholder (by rfl) (createClientLocked_counter hres nofun) _

/-- **The environment replacing the adapter** keeps the invariant. -/
theorem Inv.setAdapter (hc : Inv c0 c) (ad : Adapter) :
    Inv c0 { c with svc := { c.svc with ctx := { c.svc.ctx with adapter := ad } } } :=
  ⟨hc.1, hc.2, hc.3, hc.4, hc.5⟩

/-- **Every step keeps the invariant.** -/
theorem Inv.step (hc : Inv c0 c) {c' : Cfg} {a : Action} (h : c.step a = some c') : Inv c0 c' := by
  rcases Cfg.step_cases h with ⟨i, p, q, hp, hpa, hqa, rfl⟩ | ⟨i, msg, hw, hfree, hpois, rfl⟩ |
    ⟨i, msg, v, hh, hholder, rfl⟩ | ⟨ad, rfl⟩
  · exact hc.idle hp hpa hqa
  · exact hc.acquire hw hfree hpois
  · exact hc.release hh hholder
  · exact hc.setAdapter ad

/-- **Every schedule keeps the invariant.** -/
theorem Inv.run (hc : Inv c0 c) {acts : List Action} {c' : Cfg} (h : c.run acts = some c') :
    Inv c0 c' := by
  induction acts generalizing c with
  | nil => exact Option.some.inj h ▸ hc
  | cons a as ih =>
    obtain ⟨c₁, h₁, h₂⟩ := Option.bind_eq_some.1 h
    exact ih (hc.step h₁) h₂

/-! ### Any number of requests, any interleaving -/

/-- **No identifier reused, no increment lost or doubled**: under every schedule of
any number of `create_client` requests, with the adapter changing at any step, each
request that returned `Ok` built `ClientId::new(type, counter when it took the
lock)`, their identifiers are pairwise distinct, and the counter is its initial
value plus their number. -/
theorem createClient_concurrent (svc : IbcClientMsgService) (raws : List MsgCreateClient)
    (acts : List Action) {c : Cfg} (h : (Cfg.init svc raws).run acts = some c) :
    c.svc.ctx.clientCounter.toNat = svc.ctx.clientCounter.toNat + c.reqs.countP Phase.isCreated ∧
      (∀ {i : Nat} {msg : MsgCreateAnyClient} {v : UInt64} {id : ClientId},
        c.reqs[i]? = some (.created msg v id) → ClientId.new msg.clientState.clientType v = .ok id) ∧
      (∀ {i j : Nat} {msg msg' : MsgCreateAnyClient} {v v' : UInt64} {id id' : ClientId}, i ≠ j →
        c.reqs[i]? = some (.created msg v id) → c.reqs[j]? = some (.created msg' v' id') →
          id ≠ id') := by
  have hc := (inv_init svc raws).run h
  refine ⟨hc.counter, fun hi => (hc.created hi).1, fun hne hi hj hid => ?_⟩
  subst hid
  exact hc.distinct hne hi hj (ClientId.new_inj (hc.created hi).1 (hc.created hj).1).2

/-- Two requests for Tendermint clients, the second served first. -/
def secondFirst : List Action :=
  [.parse 0, .parse 1, .acquire 1, .release 1, .acquire 0, .release 0]

theorem createClient_concurrent_secondFirst :
    let c := ((Cfg.init ⟨hostCtx, false⟩ [tendermintMsg.toRaw, tendermintMsg.toRaw]).run
      secondFirst).getD (Cfg.init ⟨hostCtx, false⟩ [])
    c.svc.ctx.clientCounter.toNat = hostCtx.clientCounter.toNat + c.reqs.countP Phase.isCreated ∧
      (∀ {i : Nat} {msg : MsgCreateAnyClient} {v : UInt64} {id : ClientId},
        c.reqs[i]? = some (.created msg v id) → ClientId.new msg.clientState.clientType v = .ok id) ∧
      (∀ {i j : Nat} {msg msg' : MsgCreateAnyClient} {v v' : UInt64} {id id' : ClientId}, i ≠ j →
        c.reqs[i]? = some (.created msg v id) → c.reqs[j]? = some (.created msg' v' id') →
          id ≠ id') := by
  intro c
  exact @createClient_concurrent ⟨hostCtx, false⟩ [tendermintMsg.toRaw, tendermintMsg.toRaw]
    secondFirst c rfl

example : ((Cfg.init ⟨hostCtx, false⟩ [tendermintMsg.toRaw, tendermintMsg.toRaw]).run
    secondFirst).map (fun c => (c.reqs.map Phase.returned, c.svc.ctx.clientCounter)) =
      some ([some (.ok ()), some (.ok ())], 2) := by
  decide

end AxonIbc
