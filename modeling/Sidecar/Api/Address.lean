import Sidecar.Async

/-!
# The address routes (`api/routes/address.ts`)

Model of the nine handlers `createAddressRouter` registers, as what a client and the datastore
see of them: the datastore calls each makes, with their arguments, and the responses it sends,
with their status and error text.

* A handler runs in `Handler`, an `AsyncRun` of its effects with `res.headersSent` as its state;
  Express starts it with no response sent (`run false`). Its promise settles with a value, or
  rejects with the `Error` a helper threw or with `ERR_HTTP_HEADERS_SENT`. A rejection goes to
  Express's error middleware, which is not under `src/`; it is not a response of the handler.
* `send` is `res.status(status).json(body)`. Once a response was sent, `res.json` throws
  `ERR_HTTP_HEADERS_SENT` when it sets the `Content-Type` header, so a second response is
  never sent: the handler rejects there instead.
* `Helpers` holds what the handlers call and `src/` does not define: the address checks and
  `getSendManyContract` of `helpers.ts`, `parseLimitQuery` and `parsePagingQueryInput` of
  `pagination.ts`, the reading of the `unanchored` parameter in `query-helpers.ts`, JavaScript's
  `parseInt`, `isProdEnv` and `validate`. `isUnanchoredRequest` answers `400` itself on a value
  it does not read as a boolean, and returns none.
* `Db` answers the calls whose answers a handler reads: the current block height, the ids of the
  transactions an address query lists, and whether `getTxFromDataStore` finds a transaction. The
  bodies of successful responses are not modelled (`Body.result`).
* `Lawful` is the law of the routes: a run sends at most one response, tries no response after
  it, and answers `400` only when it called no datastore method.

Results:
* `createAddressRouter_lawful`: every route but `/:address/mempool` is lawful for every request,
  every answer of the datastore and every behaviour of the helpers;
* `getMempool_invalid_address`: the mempool route answers `400` for an invalid address without
  returning, then queries the mempool, and its second response throws `ERR_HTTP_HEADERS_SENT`:
  the handler rejects after a datastore call that followed its `400`.
-/

namespace Sidecar.Api

/-! ## Effects and the handler monad -/

/-- The `args` of a transaction list query: a `height` filter, or the `unanchored` flag. -/
inductive TxArgs
  | height (height : Int)
  | includeUnanchored (includeUnanchored : Bool)
  deriving DecidableEq, Repr

/-- A call of a `DataStore` method, with its arguments. -/
inductive DbCall
  | getCurrentBlockHeight
  | getStxBalanceAtBlock (stxAddress : String) (blockHeight : Int)
  | getTokenOfferingLocked (stxAddress : String) (blockHeight : Int)
  | getFungibleTokenBalances (stxAddress : String) (includeUnanchored : Bool)
  | getNonFungibleTokenCounts (stxAddress : String) (includeUnanchored : Bool)
  | getAddressTxs (stxAddress : String) (limit offset : Int) (args : TxArgs)
  | getAddressTxsWithStxTransfers (stxAddress : String) (limit offset : Int) (args : TxArgs)
  | getTxFromDataStore (txId : String)
  | getAddressAssetEvents (stxAddress : String) (limit offset : Int) (includeUnanchored : Bool)
  | getInboundTransfers (stxAddress : String) (limit offset : Int) (sendManyContractId : String)
      (args : TxArgs)
  | getAddressNFTEvent (stxAddress : String) (limit offset : Int) (includeUnanchored : Bool)
  | getMempoolTxList (offset limit : Int) (address : String) (includeUnanchored : Bool)
  | getAddressNonces (stxAddress : String)
  deriving DecidableEq, Repr

/-- A response body: `{ error }`, or the result object of a successful request. -/
inductive Body
  | error (message : String)
  | result
  deriving DecidableEq, Repr

/-- What a handler does that the client or the datastore sees. -/
inductive Effect
  /-- A call of a `DataStore` method. -/
  | db (call : DbCall)
  /-- `res.status(status).json(body)`; `res.json(body)` is status 200. -/
  | send (status : Nat) (body : Body)
  deriving DecidableEq, Repr

/-- What a handler's promise rejects with: the `Error` a helper threw, with its message, or
Node's `ERR_HTTP_HEADERS_SENT`, which a response after the first throws. -/
inductive HandlerError
  | thrown (message : String)
  | headersSent
  deriving DecidableEq, Repr

/-- A run of an async route handler (`Sidecar.AsyncRun`), with `res.headersSent` as its state. -/
abbrev Handler : Type → Type := StateT Bool (AsyncRun Effect HandlerError)

namespace Handler

variable {α β : Type}

/-- `res.status(status).json(body)`: the response, or, once a response was sent, the
`ERR_HTTP_HEADERS_SENT` that `res.json` throws when it sets the `Content-Type` header. -/
def send (status : Nat) (body : Body) : Handler Unit := fun headersSent =>
  if headersSent then throw .headersSent else ⟨[.send status body], .ok ((), true)⟩

/-- `await db.method(...)`, answered `answer`. -/
def query (call : DbCall) (answer : α) : Handler α := fun headersSent =>
  ⟨[.db call], .ok (answer, headersSent)⟩

/-- `await db.method(...)` whose answer the handler does not read. -/
def dbCall (call : DbCall) : Handler Unit := query call ()

/-- The value a helper returns, or the `Error` it throws. -/
def orThrow : Except String α → Handler α
  | .ok a => pure a
  | .error message => throw (.thrown message)

@[simp] theorem run_throw (e : HandlerError) (s : Bool) :
    (throw e : Handler α).run s = ⟨[], .error e⟩ := rfl

@[simp] theorem run_send_false (status : Nat) (body : Body) :
    (send status body).run false = ⟨[.send status body], .ok ((), true)⟩ := rfl

@[simp] theorem run_send_true (status : Nat) (body : Body) :
    (send status body).run true = ⟨[], .error .headersSent⟩ := rfl

@[simp] theorem run_query (call : DbCall) (answer : α) (s : Bool) :
    (query call answer).run s = ⟨[.db call], .ok (answer, s)⟩ := rfl

@[simp] theorem orThrow_ok (a : α) : (orThrow (.ok a) : Handler α) = pure a := rfl

@[simp] theorem orThrow_error (message : String) :
    (orThrow (.error message) : Handler α) = throw (.thrown message) := rfl

end Handler

open Handler

/-! ## The response law -/

/-- A response. -/
def Effect.isSend : Effect → Bool
  | .send .. => true
  | .db _ => false

/-- A datastore call. -/
def Effect.isDb : Effect → Bool
  | .db _ => true
  | .send .. => false

/-- A `400` response. -/
def Effect.isBadRequest : Effect → Bool
  | .send 400 _ => true
  | _ => false

/-- **The response law** of a run: at most one response, no response tried after it, and a
`400` only from a run that called no datastore method. -/
def Lawful {α : Type} (r : AsyncRun Effect HandlerError α) : Bool :=
  decide (r.effects.countP Effect.isSend ≤ 1) && !(r.result matches .error .headersSent) &&
    !(r.effects.any Effect.isBadRequest && r.effects.any Effect.isDb)

/-! ## What the handlers call -/

/-- A paging query argument: the string the request gave, or the handler's default. -/
inductive QueryArg
  | given (value : String)
  | default (value : Int)
  deriving DecidableEq, Repr

/-- A request: the address of the route's path, and the query parameters. -/
structure Request where
  /-- `req.params['stx_address']`, or `req.params['address']` on the mempool route. -/
  address : String
  /-- `req.query`, each parameter with its value. -/
  query : List (String × String)
  deriving DecidableEq, Repr

/-- `req.query[name] ?? default`. -/
def Request.arg (req : Request) (name : String) (default : Int) : QueryArg :=
  match req.query.lookup name with
  | some value => .given value
  | none => .default default

/-- The helpers the handlers call that `src/` does not define. -/
structure Helpers where
  isValidPrincipal : String → Bool
  isValidC32Address : String → Bool
  /-- `getSendManyContract(chainId)`. -/
  getSendManyContract : Int → Option String
  /-- `parseLimitQuery({ maxItems, errorMsg })(limit)`: the limit, or the message it throws. -/
  parseLimitQuery : Int → String → QueryArg → Except String Int
  /-- `parsePagingQueryInput(offset)`: the offset, or the message it throws. -/
  parsePagingQueryInput : QueryArg → Except String Int
  /-- The `unanchored` parameter of the query as `isUnanchoredRequest` reads it: a boolean, or
  the message of the `400` it answers with. -/
  unanchoredParam : List (String × String) → Except String Bool
  /-- `parseInt(s, 10)`, none for `NaN`. -/
  parseInt : String → Option Int
  isProdEnv : Bool
  /-- `validate(schemaPath, response)`: nothing, or the message it throws. -/
  validate : String → Except String Unit

/-- The datastore's answers that the handlers read. -/
structure Db where
  getCurrentBlockHeight : Option Int
  /-- The `tx_id` of each result of `getAddressTxs`. -/
  getAddressTxs : String → Int → Int → TxArgs → List String
  /-- The `tx.tx_id` of each result of `getAddressTxsWithStxTransfers`. -/
  getAddressTxsWithStxTransfers : String → Int → Int → TxArgs → List String
  /-- Whether `getTxFromDataStore` finds the transaction. -/
  txFound : String → Bool

def MAX_TX_PER_REQUEST : Int := 50
def MAX_ASSETS_PER_REQUEST : Int := 50
def MAX_STX_INBOUND_PER_REQUEST : Int := 500

variable (h : Helpers) (db : Db)

/-- `parseLimitQuery` with the bound of a route and its message. -/
def parseLimit (maxItems : Int) : QueryArg → Except String Int :=
  h.parseLimitQuery maxItems ("`limit` must be equal to or less than " ++ toString maxItems)

/-- `parseTxQueryLimit`. -/
def parseTxQueryLimit : QueryArg → Except String Int := parseLimit h MAX_TX_PER_REQUEST

/-- `parseAssetsQueryLimit`. -/
def parseAssetsQueryLimit : QueryArg → Except String Int := parseLimit h MAX_ASSETS_PER_REQUEST

/-- `parseStxInboundLimit`. -/
def parseStxInboundLimit : QueryArg → Except String Int :=
  parseLimit h MAX_STX_INBOUND_PER_REQUEST

/-- `isUnanchoredRequest(req, res, next)`: the flag, or, after answering `400`, none. -/
def isUnanchoredRequest (req : Request) : Handler (Option Bool) :=
  match h.unanchoredParam req.query with
  | .ok includeUnanchored => pure (some includeUnanchored)
  | .error message => do
    send 400 (.error message)
    pure none

/-- The `args` of the three transaction lists: the `height` filter when the query has one, the
`unanchored` flag otherwise; none once the handler has answered. -/
def txQueryArgs (req : Request) : Handler (Option TxArgs) :=
  match req.query.lookup "height" with
  | some value =>
    match h.parseInt value with
    | none => do
      send 400 (.error ("height is not a valid integer: " ++ value))
      pure none
    | some heightFilter =>
      if heightFilter < 1 then do
        send 400 (.error ("height is not a positive integer: " ++ toString heightFilter))
        pure none
      else pure (some (.height heightFilter))
  | none => do
    let some includeUnanchored ← isUnanchoredRequest h req | pure none
    pure (some (.includeUnanchored includeUnanchored))

/-- The answer to an invalid `stx_address`. -/
def invalidStxAddress (stxAddress : String) : Body :=
  .error ("invalid STX address \"" ++ stxAddress ++ "\"")

/-! ## The handlers -/

/-- `GET /:stx_address/stx`. -/
def getStx (req : Request) : Handler Unit := do
  let stxAddress := req.address
  if !h.isValidPrincipal stxAddress then
    send 400 (invalidStxAddress stxAddress)
    return
  let some currentBlockHeight ← query .getCurrentBlockHeight db.getCurrentBlockHeight
    | send 500 (.error "no current block")
  dbCall (.getStxBalanceAtBlock stxAddress currentBlockHeight)
  dbCall (.getTokenOfferingLocked stxAddress currentBlockHeight)
  send 200 .result

/-- `GET /:stx_address/balances`. -/
def getBalances (req : Request) : Handler Unit := do
  let stxAddress := req.address
  if !h.isValidPrincipal stxAddress then
    send 400 (invalidStxAddress stxAddress)
    return
  let some includeUnanchored ← isUnanchoredRequest h req | return
  let some currentBlockHeight ← query .getCurrentBlockHeight db.getCurrentBlockHeight
    | send 500 (.error "no current block")
  dbCall (.getStxBalanceAtBlock stxAddress currentBlockHeight)
  dbCall (.getTokenOfferingLocked stxAddress currentBlockHeight)
  dbCall (.getFungibleTokenBalances stxAddress includeUnanchored)
  dbCall (.getNonFungibleTokenCounts stxAddress includeUnanchored)
  send 200 .result

/-- The message of the `Error` the transaction lists throw when a listed transaction is not
found. -/
def txNotFound : String := "unexpected tx not found -- fix tx enumeration query"

/-- `Bluebird.mapSeries` of `getTxFromDataStore` over the listed transactions. -/
def getTxsFromDataStore (txIds : List String) : Handler Unit :=
  txIds.forM fun txId => do
    let found ← query (.getTxFromDataStore txId) (db.txFound txId)
    if !found then throw (.thrown txNotFound)

/-- `GET /:stx_address/transactions` and `/transactions_with_transfers`, which differ only in
the datastore method that lists the address's transactions. -/
def getAddressTxList (list : String → Int → Int → TxArgs → DbCall)
    (listed : String → Int → Int → TxArgs → List String) (req : Request) : Handler Unit := do
  let stxAddress := req.address
  if !h.isValidPrincipal stxAddress then
    send 400 (invalidStxAddress stxAddress)
    return
  let some args ← txQueryArgs h req | return
  let limit ← orThrow (parseTxQueryLimit h (req.arg "limit" 20))
  let offset ← orThrow (h.parsePagingQueryInput (req.arg "offset" 0))
  let txIds ← query (list stxAddress limit offset args) (listed stxAddress limit offset args)
  getTxsFromDataStore db txIds
  send 200 .result

/-- `GET /:stx_address/transactions`. -/
def getTransactions : Request → Handler Unit :=
  getAddressTxList h db .getAddressTxs db.getAddressTxs

/-- `GET /:stx_address/transactions_with_transfers`. -/
def getTransactionsWithTransfers : Request → Handler Unit :=
  getAddressTxList h db .getAddressTxsWithStxTransfers db.getAddressTxsWithStxTransfers

/-- `GET /:stx_address/assets`. -/
def getAssets (req : Request) : Handler Unit := do
  let stxAddress := req.address
  if !h.isValidPrincipal stxAddress then
    send 400 (invalidStxAddress stxAddress)
    return
  let some includeUnanchored ← isUnanchoredRequest h req | return
  let limit ← orThrow (parseAssetsQueryLimit h (req.arg "limit" 20))
  let offset ← orThrow (h.parsePagingQueryInput (req.arg "offset" 0))
  dbCall (.getAddressAssetEvents stxAddress limit offset includeUnanchored)
  send 200 .result

/-- `GET /:stx_address/stx_inbound`; its `catch` logs and rethrows. -/
def getStxInbound (chainId : Int) (req : Request) : Handler Unit := do
  let stxAddress := req.address
  let sendManyContractId := (h.getSendManyContract chainId).getD ""
  if sendManyContractId == "" || !h.isValidPrincipal sendManyContractId then
    send 500 (.error "Send many contract ID not properly configured")
    return
  if !h.isValidPrincipal stxAddress then
    send 400 (invalidStxAddress stxAddress)
    return
  let limit ← orThrow (parseStxInboundLimit h (req.arg "limit" 20))
  let offset ← orThrow (h.parsePagingQueryInput (req.arg "offset" 0))
  let some args ← txQueryArgs h req | return
  dbCall (.getInboundTransfers stxAddress limit offset sendManyContractId args)
  send 200 .result

/-- `GET /:stx_address/nft_events`. -/
def getNftEvents (req : Request) : Handler Unit := do
  let stxAddress := req.address
  if !h.isValidPrincipal stxAddress then
    send 400 (invalidStxAddress stxAddress)
    return
  let limit ← orThrow (parseAssetsQueryLimit h (req.arg "limit" 20))
  let offset ← orThrow (h.parsePagingQueryInput (req.arg "offset" 0))
  let some includeUnanchored ← isUnanchoredRequest h req | return
  dbCall (.getAddressNFTEvent stxAddress limit offset includeUnanchored)
  send 200 .result

/-- The schema `getMempool` validates its response against outside production. -/
def mempoolSchemaPath : String :=
  "@stacks/stacks-blockchain-api-types/api/transaction/get-mempool-transactions.schema.json"

/-- `GET /:address/mempool`. The answer to an invalid address does not return. -/
def getMempool (req : Request) : Handler Unit := do
  let limit ← orThrow (parseTxQueryLimit h (req.arg "limit" MAX_TX_PER_REQUEST))
  let offset ← orThrow (h.parsePagingQueryInput (req.arg "offset" 0))
  let address := req.address
  if !h.isValidC32Address address then
    send 400 (.error ("Invalid query parameter for \"" ++ address ++ "\""))
  let some includeUnanchored ← isUnanchoredRequest h req | return
  dbCall (.getMempoolTxList offset limit address includeUnanchored)
  if !h.isProdEnv then
    orThrow (h.validate mempoolSchemaPath)
  send 200 .result

/-- `GET /:stx_address/nonces`. -/
def getNonces (req : Request) : Handler Unit := do
  let stxAddress := req.address
  if !h.isValidPrincipal stxAddress then
    send 400 (invalidStxAddress stxAddress)
    return
  dbCall (.getAddressNonces stxAddress)
  send 200 .result

/-- `createAddressRouter(db, chainId)`: each path it registers, with its handler. -/
def createAddressRouter (chainId : Int) : List (String × (Request → Handler Unit)) :=
  [("/:stx_address/stx", getStx h db),
    ("/:stx_address/balances", getBalances h db),
    ("/:stx_address/transactions", getTransactions h db),
    ("/:stx_address/transactions_with_transfers", getTransactionsWithTransfers h db),
    ("/:stx_address/assets", getAssets h),
    ("/:stx_address/stx_inbound", getStxInbound h chainId),
    ("/:stx_address/nft_events", getNftEvents h),
    ("/:address/mempool", getMempool h),
    ("/:stx_address/nonces", getNonces h)]

/-! ## Every route but the mempool's is lawful -/

/-- `isUnanchoredRequest` returns the flag and does nothing else, or answers `400` and returns
none. -/
theorem isUnanchoredRequest_cases (req : Request) :
    (∃ b, isUnanchoredRequest h req = pure (some b)) ∨
      ∃ message, isUnanchoredRequest h req = (do send 400 (.error message); pure none) := by
  unfold isUnanchoredRequest
  split
  · exact .inl ⟨_, rfl⟩
  · exact .inr ⟨_, rfl⟩

/-- The `args` of a transaction list are returned with nothing else done, or the handler has
answered `400` and none is returned. -/
theorem txQueryArgs_cases (req : Request) :
    (∃ args, txQueryArgs h req = pure (some args)) ∨
      ∃ body, txQueryArgs h req = (do send 400 body; pure none) := by
  unfold txQueryArgs
  split
  · split
    · exact .inr ⟨_, rfl⟩
    · split
      · exact .inr ⟨_, rfl⟩
      · exact .inl ⟨_, rfl⟩
  · rcases isUnanchoredRequest_cases h req with ⟨_, hu⟩ | ⟨_, hu⟩ <;> rw [hu]
    · exact .inl ⟨_, rfl⟩
    · exact .inr ⟨_, funext fun s => by cases s <;> rfl⟩

/-- The loop over the listed transactions calls the datastore and nothing else, keeps the state,
and rejects only with `txNotFound`. -/
theorem getTxsFromDataStore_run (txIds : List String) (s : Bool) :
    ∃ queried : List String, ((getTxsFromDataStore db txIds).run s).effects =
        queried.map (fun txId => .db (.getTxFromDataStore txId)) ∧
      (((getTxsFromDataStore db txIds).run s).result = .ok ((), s) ∨
        ((getTxsFromDataStore db txIds).run s).result = .error (.thrown txNotFound)) := by
  induction txIds with
  | nil => exact ⟨[], rfl, .inl rfl⟩
  | cons txId txIds ih =>
    obtain ⟨queried, heff, hres⟩ := ih
    cases hf : db.txFound txId
    · exact ⟨[txId], by simp [getTxsFromDataStore, hf], .inr (by simp [getTxsFromDataStore, hf])⟩
    · refine ⟨txId :: queried, ?_, ?_⟩
      · simpa [getTxsFromDataStore, hf] using heff
      · simpa [getTxsFromDataStore, hf] using hres

section Lawful

/-! Each branch of a handler is run by `simp only`, with the handler unfolded and its tests
replaced by their outcomes, and the law of the run it leaves is then evaluated by `rfl`. -/

theorem getStx_lawful (req : Request) : Lawful ((getStx h db req).run false) = true := by
  cases hv : h.isValidPrincipal req.address <;> cases hc : db.getCurrentBlockHeight <;>
    simp only [getStx, hv, hc] <;> rfl

theorem getBalances_lawful (req : Request) : Lawful ((getBalances h db req).run false) = true := by
  cases hv : h.isValidPrincipal req.address
  · simp only [getBalances, hv]; rfl
  obtain ⟨_, hu⟩ | ⟨_, hu⟩ := isUnanchoredRequest_cases h req
  · cases hc : db.getCurrentBlockHeight <;> simp only [getBalances, hv, hu, hc] <;> rfl
  · simp only [getBalances, hv, hu]; rfl

theorem getAddressTxList_lawful (list : String → Int → Int → TxArgs → DbCall)
    (listed : String → Int → Int → TxArgs → List String) (req : Request) :
    Lawful ((getAddressTxList h db list listed req).run false) = true := by
  cases hv : h.isValidPrincipal req.address
  · simp only [getAddressTxList, hv]; rfl
  obtain ⟨args, ha⟩ | ⟨_, ha⟩ := txQueryArgs_cases h req
  · cases hl : parseTxQueryLimit h (req.arg "limit" 20)
    case error => simp only [getAddressTxList, hv, ha, hl]; rfl
    case ok limit =>
    cases ho : h.parsePagingQueryInput (req.arg "offset" 0)
    case error => simp only [getAddressTxList, hv, ha, hl, ho]; rfl
    case ok offset =>
    -- the listed transactions are looked up one by one, with no response in between
    obtain ⟨queried, heff, hr | hr⟩ :=
      getTxsFromDataStore_run db (listed req.address limit offset args) false <;>
      simp [Lawful, Effect.isSend, Effect.isDb, Effect.isBadRequest, getAddressTxList, hv, ha, hl,
        ho, heff, hr, Function.comp_def]
  · simp only [getAddressTxList, hv, ha]; rfl

theorem getAssets_lawful (req : Request) : Lawful ((getAssets h req).run false) = true := by
  cases hv : h.isValidPrincipal req.address
  · simp only [getAssets, hv]; rfl
  obtain ⟨_, hu⟩ | ⟨_, hu⟩ := isUnanchoredRequest_cases h req
  · cases hl : parseAssetsQueryLimit h (req.arg "limit" 20)
    · simp only [getAssets, hv, hu, hl]; rfl
    cases ho : h.parsePagingQueryInput (req.arg "offset" 0) <;>
      simp only [getAssets, hv, hu, hl, ho] <;> rfl
  · simp only [getAssets, hv, hu]; rfl

theorem getStxInbound_lawful (chainId : Int) (req : Request) :
    Lawful ((getStxInbound h chainId req).run false) = true := by
  cases hs : ((h.getSendManyContract chainId).getD "" == "" ||
      !h.isValidPrincipal ((h.getSendManyContract chainId).getD ""))
  case true => simp only [getStxInbound, hs]; rfl
  cases hv : h.isValidPrincipal req.address
  · simp only [getStxInbound, hs, hv]; rfl
  cases hl : parseStxInboundLimit h (req.arg "limit" 20)
  · simp only [getStxInbound, hs, hv, hl]; rfl
  cases ho : h.parsePagingQueryInput (req.arg "offset" 0)
  · simp only [getStxInbound, hs, hv, hl, ho]; rfl
  rcases txQueryArgs_cases h req with ⟨_, ha⟩ | ⟨_, ha⟩ <;>
    simp only [getStxInbound, hs, hv, hl, ho, ha] <;> rfl

theorem getNftEvents_lawful (req : Request) : Lawful ((getNftEvents h req).run false) = true := by
  cases hv : h.isValidPrincipal req.address
  · simp only [getNftEvents, hv]; rfl
  cases hl : parseAssetsQueryLimit h (req.arg "limit" 20)
  · simp only [getNftEvents, hv, hl]; rfl
  cases ho : h.parsePagingQueryInput (req.arg "offset" 0)
  · simp only [getNftEvents, hv, hl, ho]; rfl
  rcases isUnanchoredRequest_cases h req with ⟨_, hu⟩ | ⟨_, hu⟩ <;>
    simp only [getNftEvents, hv, hl, ho, hu] <;> rfl

theorem getNonces_lawful (req : Request) : Lawful ((getNonces h req).run false) = true := by
  cases hv : h.isValidPrincipal req.address <;> simp only [getNonces, hv] <;> rfl

end Lawful

/-- **Every route but the mempool's is lawful**: for every request, whatever the datastore
answers and whatever the helpers do, it sends at most one response, tries no response after it,
and answers `400` only when it called no datastore method. -/
theorem createAddressRouter_lawful (chainId : Int) :
    ∀ route ∈ createAddressRouter h db chainId, route.1 ≠ "/:address/mempool" →
      ∀ req, Lawful ((route.2 req).run false) = true := by
  simp only [createAddressRouter, List.mem_cons, List.not_mem_nil, or_false]
  rintro _ (rfl | rfl | rfl | rfl | rfl | rfl | rfl | rfl | rfl) hne req
  · exact getStx_lawful h db req
  · exact getBalances_lawful h db req
  · exact getAddressTxList_lawful h db _ _ req
  · exact getAddressTxList_lawful h db _ _ req
  · exact getAssets_lawful h req
  · exact getStxInbound_lawful h chainId req
  · exact getNftEvents_lawful h req
  · exact absurd rfl hne
  · exact getNonces_lawful h req

/-! ## The mempool route answers an invalid address and goes on -/

/-- **An invalid address on the mempool route.** When the paging arguments parse, the address is
no c32 address and the `unanchored` parameter is read, the handler answers `400`, does not
return, and queries the mempool; its second response (outside production, once `validate`
passes) throws `ERR_HTTP_HEADERS_SENT`, and the handler rejects. -/
theorem getMempool_invalid_address {req : Request} {limit offset : Int}
    {includeUnanchored : Bool}
    (hlimit : parseTxQueryLimit h (req.arg "limit" MAX_TX_PER_REQUEST) = .ok limit)
    (hoffset : h.parsePagingQueryInput (req.arg "offset" 0) = .ok offset)
    (haddress : h.isValidC32Address req.address = false)
    (hunanchored : h.unanchoredParam req.query = .ok includeUnanchored)
    (hvalidate : h.isProdEnv = false → h.validate mempoolSchemaPath = .ok ()) :
    ((getMempool h req).run false).effects =
        [.send 400 (.error ("Invalid query parameter for \"" ++ req.address ++ "\"")),
          .db (.getMempoolTxList offset limit req.address includeUnanchored)] ∧
      ((getMempool h req).run false).result = .error .headersSent := by
  cases hp : h.isProdEnv
  · simp only [getMempool, isUnanchoredRequest, hlimit, hoffset, haddress, hunanchored, hp,
      hvalidate hp]
    exact ⟨rfl, rfl⟩
  · simp only [getMempool, isUnanchoredRequest, hlimit, hoffset, haddress, hunanchored, hp]
    exact ⟨rfl, rfl⟩

/-- Helpers for running the handlers: an address is valid when it starts with `S`, a given paging
argument is read as an integer (a limit within its bound), `unanchored` is true when given,
`parseInt` is `String.toInt?`, there is a send-many contract, and the environment is production. -/
def plainHelpers : Helpers where
  isValidPrincipal address := address.front == 'S'
  isValidC32Address address := address.front == 'S'
  getSendManyContract _ := some "SP000000000000000000002Q6VF78.send-many-memo"
  parseLimitQuery maxItems errorMsg
    | .given value => match value.toInt? with
      | some limit => if limit ≤ maxItems then .ok limit else .error errorMsg
      | none => .error errorMsg
    | .default limit => .ok limit
  parsePagingQueryInput
    | .given value => match value.toInt? with
      | some offset => .ok offset
      | none => .error value
    | .default offset => .ok offset
  unanchoredParam query := .ok (query.lookup "unanchored").isSome
  parseInt := String.toInt?
  isProdEnv := true
  validate _ := .ok ()

/-- A datastore with no block and no transaction. -/
def emptyDb : Db := ⟨none, fun _ _ _ _ => [], fun _ _ _ _ => [], fun _ => false⟩

theorem stx_route_lawful :
    ("/:stx_address/stx", getStx plainHelpers emptyDb) ∈
        createAddressRouter plainHelpers emptyDb 0 ∧
      "/:stx_address/stx" ≠ "/:address/mempool" ∧
      Lawful ((getStx plainHelpers emptyDb ⟨"SP1", []⟩).run false) = true :=
  ⟨List.mem_cons_self _ _, by decide,
    createAddressRouter_lawful plainHelpers emptyDb 0 _ (List.mem_cons_self _ _) (by decide) _⟩

theorem mempool_rejects_after_400 :
    ("/:address/mempool", getMempool plainHelpers) ∈ createAddressRouter plainHelpers emptyDb 0 ∧
    ((getMempool plainHelpers ⟨"invalid", []⟩).run false).effects =
      [.send 400 (.error "Invalid query parameter for \"invalid\""),
        .db (.getMempoolTxList 0 50 "invalid" false)] ∧
    ((getMempool plainHelpers ⟨"invalid", []⟩).run false).result = .error .headersSent ∧
    Lawful ((getMempool plainHelpers ⟨"invalid", []⟩).run false) = false := by
  have hrun : ((getMempool plainHelpers ⟨"invalid", []⟩).run false).effects =
        [.send 400 (.error "Invalid query parameter for \"invalid\""),
          .db (.getMempoolTxList 0 50 "invalid" false)] ∧
      ((getMempool plainHelpers ⟨"invalid", []⟩).run false).result = .error .headersSent :=
    getMempool_invalid_address plainHelpers (by rfl) (by rfl) (by rfl) (by rfl)
      fun hp => absurd hp (by decide)
  refine ⟨by simp [createAddressRouter], hrun.1, hrun.2, ?_⟩
  simp [Lawful, hrun.1, hrun.2]

end Sidecar.Api
