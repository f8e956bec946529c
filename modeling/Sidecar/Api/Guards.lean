import Sidecar.Api.Address

/-!
# What the address routes ask of the datastore

Model of the checks the nine handlers of `createAddressRouter` (`api/routes/address.ts:59-471`)
make before they call the datastore: the address of the path is a valid principal, and the page
size is parsed by `parseLimitQuery` with the route's bound (`MAX_TX_PER_REQUEST`,
`MAX_ASSETS_PER_REQUEST`, `MAX_STX_INBOUND_PER_REQUEST`, lines 33-50).

* `DbCall.address?` is the address a call is about, `DbCall.limit?` the page size it asks for,
  and `DbCall.maxLimit` the bound of the route that makes it.
* `parseLimitQuery` is in `pagination.ts`, which is not under `src/`: the results assume what it
  promises, that a limit it returns is at most its `maxItems` (`Helpers.LimitsBounded`).
* `Handler.Guarded valid m s`: every datastore call of the run of `m` from the state `s` keeps
  its bound and is about an address `valid` accepts. It is proved combinator by combinator
  (`guarded_bind`, `guarded_ite`, `guarded_query`, ...), so each handler's proof only splits
  where the handler reads a value: the address check, the parsed limit, the block height.

Results:
* `createAddressRouter_guarded`: for every request and every answer of the datastore, with
  helpers whose `parseLimitQuery` keeps its bound, every datastore call of every route asks for
  at most the route's bound, and every call of a route other than `/:address/mempool` is about a
  valid principal. The mempool route checks its address with `isValidC32Address` and calls the
  datastore even when the check fails (`getMempool_invalid_address`).
-/

namespace Sidecar.Api

/-- The address a datastore call is about, if it names one. -/
def DbCall.address? : DbCall → Option String
  | .getCurrentBlockHeight | .getTxFromDataStore _ => none
  | .getStxBalanceAtBlock stxAddress _ | .getTokenOfferingLocked stxAddress _
  | .getFungibleTokenBalances stxAddress _ | .getNonFungibleTokenCounts stxAddress _
  | .getAddressTxs stxAddress .. | .getAddressTxsWithStxTransfers stxAddress ..
  | .getAddressAssetEvents stxAddress .. | .getInboundTransfers stxAddress ..
  | .getAddressNFTEvent stxAddress .. | .getAddressNonces stxAddress => some stxAddress
  | .getMempoolTxList _ _ address _ => some address

/-- The page size a datastore call asks for, if it pages. -/
def DbCall.limit? : DbCall → Option Int
  | .getAddressTxs _ limit _ _ | .getAddressTxsWithStxTransfers _ limit _ _
  | .getAddressAssetEvents _ limit _ _ | .getInboundTransfers _ limit _ _ _
  | .getAddressNFTEvent _ limit _ _ | .getMempoolTxList _ limit _ _ => some limit
  | _ => none

/-- The bound of the route that makes a paging call. -/
def DbCall.maxLimit : DbCall → Int
  | .getAddressAssetEvents .. | .getAddressNFTEvent .. => MAX_ASSETS_PER_REQUEST
  | .getInboundTransfers .. => MAX_STX_INBOUND_PER_REQUEST
  | _ => MAX_TX_PER_REQUEST

/-- A call asks for at most its route's bound. -/
def DbCall.withinBound (call : DbCall) : Bool :=
  call.limit?.all fun limit => decide (limit ≤ call.maxLimit)

/-- An effect that, if it calls the datastore, asks for at most the route's bound about an
address that `valid` accepts. -/
def Effect.guarded (valid : String → Bool) : Effect → Bool
  | .db call => call.withinBound && call.address?.all valid
  | .send .. => true

/-- What `parseLimitQuery` promises: a limit it returns is at most its `maxItems`. -/
def Helpers.LimitsBounded (h : Helpers) : Prop :=
  ∀ maxItems errorMsg arg limit,
    h.parseLimitQuery maxItems errorMsg arg = .ok limit → limit ≤ maxItems

/-- Every effect of the run of `m` from the state `s` is guarded. -/
def Handler.Guarded {α : Type} (valid : String → Bool) (m : Handler α) (s : Bool) : Prop :=
  ∀ e ∈ (m.run s).effects, e.guarded valid = true

/-! ## Guarded runs, combinator by combinator -/

namespace Handler

variable {α β : Type} {valid : String → Bool} {s : Bool}

theorem guarded_of_nil {m : Handler α} (hm : (m.run s).effects = []) : m.Guarded valid s :=
  fun _ he => absurd (hm ▸ he) (List.not_mem_nil _)

@[simp] theorem guarded_pure (a : α) : (pure a : Handler α).Guarded valid s := guarded_of_nil rfl

@[simp] theorem guarded_throw (e : HandlerError) : (throw e : Handler α).Guarded valid s :=
  guarded_of_nil rfl

/-- A response is guarded, sent or thrown. -/
@[simp] theorem guarded_send (status : Nat) (body : Body) : (send status body).Guarded valid s := by
  cases s
  · intro _ he
    rw [run_send_false, List.mem_singleton] at he
    rw [he]
    rfl
  · exact guarded_of_nil rfl

@[simp] theorem guarded_query (call : DbCall) (a : α) :
    (query call a).Guarded valid s ↔ (Effect.db call).guarded valid = true :=
  ⟨fun hm => hm _ (List.mem_singleton_self _), fun hc _ he => (List.mem_singleton.1 he) ▸ hc⟩

@[simp] theorem guarded_orThrow (x : Except String α) : (orThrow x).Guarded valid s := by
  cases x <;> exact guarded_of_nil rfl

/-- A bind is guarded when its first run is, and so is the continuation from every value and
state that run reaches. -/
@[simp] theorem guarded_bind (m : Handler α) (f : α → Handler β) :
    (m >>= f).Guarded valid s ↔
      m.Guarded valid s ∧ ∀ a s', (m.run s).result = .ok (a, s') → (f a).Guarded valid s' := by
  simp only [Guarded, StateT.run_bind, AsyncRun.bind_effects, List.mem_append]
  cases (m.run s).result with
  | error e => simp
  | ok p =>
    obtain ⟨a, s'⟩ := p
    simp [or_imp, forall_and]

@[simp] theorem guarded_ite (c : Prop) [Decidable c] (t e : Handler α) :
    (if c then t else e).Guarded valid s ↔ (c → t.Guarded valid s) ∧ (¬c → e.Guarded valid s) := by
  split_ifs with hc <;> simp [hc]

end Handler

open Handler

variable (h : Helpers) (db : Db)

/-! ## Each handler -/

variable {s : Bool}

@[simp] theorem isUnanchoredRequest_guarded (valid : String → Bool) (req : Request) :
    (isUnanchoredRequest h req).Guarded valid s := by
  rcases isUnanchoredRequest_cases h req with ⟨_, hu⟩ | ⟨_, hu⟩ <;> simp [hu]

@[simp] theorem txQueryArgs_guarded (valid : String → Bool) (req : Request) :
    (txQueryArgs h req).Guarded valid s := by
  rcases txQueryArgs_cases h req with ⟨_, ha⟩ | ⟨_, ha⟩ <;> simp [ha]

@[simp] theorem getTxsFromDataStore_guarded (valid : String → Bool) (txIds : List String) :
    (getTxsFromDataStore db txIds).Guarded valid s := by
  obtain ⟨queried, heff, -⟩ := getTxsFromDataStore_run db txIds s
  intro e he
  rw [heff] at he
  obtain ⟨txId, -, rfl⟩ := List.mem_map.1 he
  rfl

theorem parseLimit_le {h : Helpers} (hlim : h.LimitsBounded) {maxItems : Int} {arg : QueryArg}
    {limit : Int} (hl : parseLimit h maxItems arg = .ok limit) : limit ≤ maxItems :=
  hlim _ _ _ _ hl

section Guarded

attribute [local simp] Effect.guarded DbCall.withinBound DbCall.limit? DbCall.address?
  DbCall.maxLimit dbCall Option.forall

variable {h}

theorem getStx_guarded (req : Request) : (getStx h db req).Guarded h.isValidPrincipal s := by
  cases hv : h.isValidPrincipal req.address <;> cases hc : db.getCurrentBlockHeight <;>
    simp [getStx, hv, hc]

theorem getBalances_guarded (req : Request) :
    (getBalances h db req).Guarded h.isValidPrincipal s := by
  cases hv : h.isValidPrincipal req.address <;> cases hc : db.getCurrentBlockHeight <;>
    simp [getBalances, hv, hc]

theorem getAssets_guarded (hlim : h.LimitsBounded) (req : Request) :
    (getAssets h req).Guarded h.isValidPrincipal s := by
  cases hv : h.isValidPrincipal req.address
  · simp [getAssets, hv]
  cases hl : parseAssetsQueryLimit h (req.arg "limit" 20)
  · simp [getAssets, hv, hl]
  simp [getAssets, hv, hl, parseLimit_le hlim hl]

theorem getStxInbound_guarded (hlim : h.LimitsBounded) (chainId : Int) (req : Request) :
    (getStxInbound h chainId req).Guarded h.isValidPrincipal s := by
  cases hv : h.isValidPrincipal req.address
  · simp [getStxInbound, hv]
  cases hl : parseStxInboundLimit h (req.arg "limit" 20)
  · simp [getStxInbound, hv, hl]
  simp [getStxInbound, hv, hl, parseLimit_le hlim hl]

theorem getNftEvents_guarded (hlim : h.LimitsBounded) (req : Request) :
    (getNftEvents h req).Guarded h.isValidPrincipal s := by
  cases hv : h.isValidPrincipal req.address
  · simp [getNftEvents, hv]
  cases hl : parseAssetsQueryLimit h (req.arg "limit" 20)
  · simp [getNftEvents, hv, hl]
  simp [getNftEvents, hv, hl, parseLimit_le hlim hl]

/-- The mempool route keeps the bound, whatever the address. -/
theorem getMempool_guarded (hlim : h.LimitsBounded) (req : Request) :
    (getMempool h req).Guarded (fun _ => true) s := by
  cases hl : parseTxQueryLimit h (req.arg "limit" MAX_TX_PER_REQUEST)
  · simp [getMempool, hl]
  simp [getMempool, hl, parseLimit_le hlim hl]

theorem getNonces_guarded (req : Request) : (getNonces h req).Guarded h.isValidPrincipal s := by
  cases hv : h.isValidPrincipal req.address <;> simp [getNonces, hv]

end Guarded

/-- The two transaction lists, for a listing call that keeps the bound on a valid address. -/
theorem getAddressTxList_guarded {h : Helpers} (hlim : h.LimitsBounded)
    (list : String → Int → Int → TxArgs → DbCall) (hlist : ∀ a l o args, l ≤ MAX_TX_PER_REQUEST →
      h.isValidPrincipal a = true → (Effect.db (list a l o args)).guarded h.isValidPrincipal = true)
    (listed : String → Int → Int → TxArgs → List String) (req : Request) :
    (getAddressTxList h db list listed req).Guarded h.isValidPrincipal s := by
  cases hv : h.isValidPrincipal req.address
  · simp [getAddressTxList, hv]
  cases hl : parseTxQueryLimit h (req.arg "limit" 20)
  · simp [getAddressTxList, hv, hl, Option.forall]
  have hb : _ ≤ MAX_TX_PER_REQUEST := parseLimit_le hlim hl
  simp [getAddressTxList, hv, hl, Option.forall, hlist _ _ _ _ hb hv]

/-- The calls of a run whose every effect is guarded keep the bound and are about valid
addresses. -/
theorem db_mem_guarded {α : Type} {valid : String → Bool} {m : Handler α} (hm : m.Guarded valid s)
    {call : DbCall} (hc : .db call ∈ (m.run s).effects) :
    call.withinBound = true ∧ call.address?.all valid = true := by
  simpa [Effect.guarded] using hm _ hc

/-- **The routes ask the datastore only for what they checked.** For every request and every
answer of the datastore, with helpers whose `parseLimitQuery` keeps its bound, every datastore
call of every route of `createAddressRouter` asks for at most the route's bound, and every call
of a route other than `/:address/mempool` is about a valid principal. -/
theorem createAddressRouter_guarded (chainId : Int) (hlim : h.LimitsBounded) :
    ∀ route ∈ createAddressRouter h db chainId, ∀ req call,
      .db call ∈ ((route.2 req).run false).effects → call.withinBound = true ∧
        (route.1 ≠ "/:address/mempool" → call.address?.all h.isValidPrincipal = true) := by
  have hlist : ∀ (list : String → Int → Int → TxArgs → DbCall),
      (∀ a l o args, list a l o args = .getAddressTxs a l o args) ∨
        (∀ a l o args, list a l o args = .getAddressTxsWithStxTransfers a l o args) →
      ∀ a l o args, l ≤ MAX_TX_PER_REQUEST → h.isValidPrincipal a = true →
        (Effect.db (list a l o args)).guarded h.isValidPrincipal = true := by
    rintro list (hl | hl) a l o args hb hv <;>
      simp [hl, Effect.guarded, DbCall.withinBound, DbCall.limit?, DbCall.address?, DbCall.maxLimit,
        hb, hv]
  have of_guarded : ∀ {path : String} {m : Handler Unit} {call : DbCall},
      m.Guarded h.isValidPrincipal false → .db call ∈ (m.run false).effects →
        call.withinBound = true ∧
          (path ≠ "/:address/mempool" → call.address?.all h.isValidPrincipal = true) :=
    fun hm hc => (db_mem_guarded hm hc).imp_right fun hv _ => hv
  simp only [createAddressRouter, List.mem_cons, List.not_mem_nil, or_false]
  rintro _ (rfl | rfl | rfl | rfl | rfl | rfl | rfl | rfl | rfl) req call hc
  · exact of_guarded (getStx_guarded db req) hc
  · exact of_guarded (getBalances_guarded db req) hc
  · exact of_guarded
      (getAddressTxList_guarded db hlim _ (hlist _ (.inl fun _ _ _ _ => rfl)) _ req) hc
  · exact of_guarded
      (getAddressTxList_guarded db hlim _ (hlist _ (.inr fun _ _ _ _ => rfl)) _ req) hc
  · exact of_guarded (getAssets_guarded hlim req) hc
  · exact of_guarded (getStxInbound_guarded hlim chainId req) hc
  · exact of_guarded (getNftEvents_guarded hlim req) hc
  · exact ⟨(db_mem_guarded (getMempool_guarded hlim req) hc).1, fun hne => absurd rfl hne⟩
  · exact of_guarded (getNonces_guarded req) hc

/-- `plainHelpers` with `parseLimitQuery` as `pagination.ts` has it: the limit, given or the
route's default, read by `parsePagingQueryInput` and checked against `maxItems`. -/
def checkedHelpers : Helpers :=
  { plainHelpers with
    parseLimitQuery := fun maxItems errorMsg arg =>
      match plainHelpers.parsePagingQueryInput arg with
      | .ok limit => if limit ≤ maxItems then .ok limit else .error errorMsg
      | .error e => .error e }

theorem checkedHelpers_limitsBounded : checkedHelpers.LimitsBounded := by
  intro maxItems errorMsg arg limit hl
  simp only [checkedHelpers] at hl
  split at hl
  · split_ifs at hl with hle
    cases hl
    exact hle
  · cases hl

/-- A route that does call the datastore, with its default page size. -/
example : ((getAssets checkedHelpers ⟨"SP1", []⟩).run false).effects =
    [.db (.getAddressAssetEvents "SP1" 20 0 false), .send 200 .result] := rfl

theorem checked_routes_guarded :
    checkedHelpers.LimitsBounded ∧
      ∀ route ∈ createAddressRouter checkedHelpers emptyDb 0, ∀ req call,
        .db call ∈ ((route.2 req).run false).effects → call.withinBound = true ∧
          (route.1 ≠ "/:address/mempool" →
            call.address?.all checkedHelpers.isValidPrincipal = true) :=
  ⟨checkedHelpers_limitsBounded,
    createAddressRouter_guarded checkedHelpers emptyDb 0 checkedHelpers_limitsBounded⟩

end Sidecar.Api
