import Sidecar.Datastore.PgStore
import Mathlib.Data.List.Dedup
import Mathlib.Data.List.Sort

/-!
# The read path of `PgDataStore` (`postgres-store.ts:558-1338`)

Model of the queries behind the balance and list routes: `getBlocks`, `getTxList`,
`getBlockTxs`, `getTxEvents`, `getAddressTxs`, `getAddressAssetEvents`, `getStxBalance`,
`getFungibleTokenBalances` and `getNonFungibleTokenCounts`, and the row parsers
`parseBlockQueryResult` and `parseTxQueryResult`.

* `SELECT … WHERE p` is `filter p`. `ORDER BY` is `sqlOrderBy`, a stable sort on its keys, which
  fixes one of the orders SQL allows among ties. `LIMIT l OFFSET o` is `sqlPage l o`, with the
  non-negative numbers the routes pass.
* `sum(…)` is `sqlSum`: `NULL` (`none`) over no row. `GROUP BY k` is `groupBy`: one row per
  value of `k`. `FULL JOIN … USING (k)` is `fullJoin`: the rows of both sides paired by `k`, with
  `NULL` where one side has none.
* A JavaScript `Map` built from rows is the list of its entries; the rows' keys are distinct
  (`assetTotals_keys_nodup`), so each becomes one entry.
* A `throw` while the rows are parsed rejects the query (`Except`).
* `getBlockTxs` and `getTxEvents` sort in JavaScript (`jsSort`, `jsSortHoles`), on the rows in the
  order the `SELECT` returned them; the model's `SELECT` returns the table's order, and a store
  whose table holds the rows in another order stands for another order of the same rows.
  `getTxEvents` preallocates `new Array(n)`, a list of `n` holes, and writes each event at a
  cursor (`jsSet`, which extends the array with holes past its end as JavaScript does).

* `getBlock`, `getTx` and `getSmartContract` read one row by key with
  `ORDER BY canonical DESC, block_height DESC LIMIT 1`: the shared `selectLatest`, each lookup
  applied to its own table, key column and parser.

The faucet statements are in `Sidecar.Datastore.Faucet`.
-/

namespace Sidecar.Datastore

/-! ## SQL -/

section Sql

variable {α : Type}

/-- `LIMIT limit OFFSET offset`. -/
def sqlPage (limit offset : Nat) (rows : List α) : List α :=
  (rows.drop offset).take limit

/-- `ORDER BY`: the rows sorted stably by `le`. -/
def sqlOrderBy (le : α → α → Bool) (rows : List α) : List α :=
  rows.insertionSort fun a b => le a b

/-- `sum(x)`: `NULL` over no row. -/
def sqlSum (xs : List Int) : Option Int :=
  if xs.isEmpty then none else some xs.sum

/-- `SELECT k, agg(…) … GROUP BY k`: one row per value of the key. -/
def groupBy (key : α → String) (agg : List α → Int) (rows : List α) : List (String × Int) :=
  (rows.map key).dedup.map fun k => (k, agg (rows.filter fun r => key r = k))

/-- `SELECT coalesce(credit.k, debit.k), credit.total, debit.total FROM credit FULL JOIN debit
USING (k)`. -/
def fullJoin (credit debit : List (String × Int)) : List (String × Option Int × Option Int) :=
  credit.map (fun c => (c.1, some c.2, debit.lookup c.1)) ++
    (debit.filter fun d => (credit.lookup d.1).isNone).map fun d => (d.1, none, some d.2)

theorem sqlOrderBy_perm (le : α → α → Bool) (rows : List α) : (sqlOrderBy le rows).Perm rows :=
  List.perm_insertionSort _ rows

@[simp] theorem mem_sqlOrderBy {le : α → α → Bool} {rows : List α} {x : α} :
    x ∈ sqlOrderBy le rows ↔ x ∈ rows :=
  (sqlOrderBy_perm le rows).mem_iff

@[simp] theorem length_sqlOrderBy (le : α → α → Bool) (rows : List α) :
    (sqlOrderBy le rows).length = rows.length :=
  (sqlOrderBy_perm le rows).length_eq

@[simp] theorem sqlSum_getD (xs : List Int) : (sqlSum xs).getD 0 = xs.sum := by
  unfold sqlSum
  split_ifs with h
  · rw [List.isEmpty_iff.1 h]; rfl
  · rfl

end Sql

/-! ## Parsing rows -/

section Parse

variable (env : Env)

/-- `parseBlockQueryResult`. -/
def parseBlockQueryResult (row : BlockQueryResult) : DbBlock where
  block_hash := env.bufferToHexPrefixString row.block_hash
  index_block_hash := env.bufferToHexPrefixString row.index_block_hash
  parent_index_block_hash := env.bufferToHexPrefixString row.parent_index_block_hash
  parent_block_hash := env.bufferToHexPrefixString row.parent_block_hash
  parent_microblock := env.bufferToHexPrefixString row.parent_microblock
  block_height := row.block_height
  burn_block_time := row.burn_block_time
  canonical := row.canonical

/-- `BigInt(x)` of a column that may be `NULL`. -/
def bigInt : Option Int → Except DbError Int
  | some x => .ok x
  | none => .error .bigIntOfNull

/-- `parseTxQueryResult`: the required columns, then the payload columns of the row's
`type_id`; any other `type_id` throws. -/
def parseTxQueryResult (result : Row TxColumns) : Except DbError DbTx :=
  let tx : DbTx :=
    { tx_id := env.bufferToHexPrefixString result.cols.tx_id
      tx_index := result.cols.tx_index
      index_block_hash := env.bufferToHexPrefixString result.index_block_hash
      block_hash := env.bufferToHexPrefixString result.cols.block_hash
      block_height := result.cols.block_height
      burn_block_time := result.cols.burn_block_time
      type_id := result.cols.type_id
      status := result.cols.status
      canonical := result.canonical
      post_conditions := result.cols.post_conditions
      fee_rate := result.cols.fee_rate
      sponsored := result.cols.sponsored
      sender_address := result.cols.sender_address
      origin_hash_mode := result.cols.origin_hash_mode
      token_transfer_recipient_address := none
      token_transfer_amount := none
      token_transfer_memo := none
      smart_contract_contract_id := none
      smart_contract_source_code := none
      contract_call_contract_id := none
      contract_call_function_name := none
      contract_call_function_args := none
      poison_microblock_header_1 := none
      poison_microblock_header_2 := none
      coinbase_payload := none }
  if tx.type_id = DbTxTypeId.TokenTransfer then
    (bigInt result.cols.token_transfer_amount).map fun amount =>
      { tx with
        token_transfer_recipient_address := result.cols.token_transfer_recipient_address
        token_transfer_amount := some amount
        token_transfer_memo := result.cols.token_transfer_memo }
  else if tx.type_id = DbTxTypeId.SmartContract then
    .ok { tx with
      smart_contract_contract_id := result.cols.smart_contract_contract_id
      smart_contract_source_code := result.cols.smart_contract_source_code }
  else if tx.type_id = DbTxTypeId.ContractCall then
    .ok { tx with
      contract_call_contract_id := result.cols.contract_call_contract_id
      contract_call_function_name := result.cols.contract_call_function_name
      contract_call_function_args := result.cols.contract_call_function_args.map env.byteaBufferArray }
  else if tx.type_id = DbTxTypeId.PoisonMicroblock then
    .ok { tx with
      poison_microblock_header_1 := result.cols.poison_microblock_header_1
      poison_microblock_header_2 := result.cols.poison_microblock_header_2 }
  else if tx.type_id = DbTxTypeId.Coinbase then
    .ok { tx with coinbase_payload := result.cols.coinbase_payload }
  else .error (.unexpectedTxType tx.type_id)

end Parse

/-! ## Lookups by key -/

/-- `ORDER BY canonical DESC, block_height DESC`. -/
def latestOrder {α : Type} (canonical : α → Bool) (height : α → Int) (a b : α) : Bool :=
  (canonical a && !canonical b) || (canonical a == canonical b && decide (height b ≤ height a))

/-- `… ORDER BY canonical DESC, block_height DESC LIMIT 1`: the row read, if there is one. -/
def selectLatest {α : Type} (canonical : α → Bool) (height : α → Int) (rows : List α) :
    Option α :=
  (sqlPage 1 0 (sqlOrderBy (latestOrder canonical height) rows)).head?

section Lookups

variable (env : Env) (S : Store)

/-- `getBlock`: the block with the `block_hash`, or none for `{ found: false }`. -/
def getBlock (blockHash : String) : Option DbBlock :=
  (selectLatest (·.canonical) (·.block_height)
    (S.blocks.filter fun b => b.block_hash == env.hexToBuffer blockHash)).map
      (parseBlockQueryResult env)

/-- `getTx`: the transaction with the `tx_id`, or none for `{ found: false }`; the row's parser
may throw. -/
def getTx (txId : String) : Except DbError (Option DbTx) :=
  match selectLatest (·.canonical) (·.cols.block_height)
      (S.txs.filter fun r => r.cols.tx_id == env.hexToBuffer txId) with
  | none => .ok none
  | some row => (parseTxQueryResult env row).map some

/-- `getSmartContract`: the contract with the `contract_id`, or none for `{ found: false }`. -/
def getSmartContract (contractId : String) : Option DbSmartContract :=
  (selectLatest (·.canonical) (·.cols.block_height)
    (S.smart_contracts.filter fun r => r.cols.contract_id == contractId)).map fun row =>
      { tx_id := env.bufferToHexPrefixString row.cols.tx_id
        canonical := row.canonical
        contract_id := row.cols.contract_id
        block_height := row.cols.block_height
        source_code := row.cols.source_code
        abi := row.cols.abi }

end Lookups

/-! ## Lists with a total -/

/-- `{ results, total }`. -/
structure QueryPage (α : Type) where
  results : List α
  total : Nat

/-- `ORDER BY block_height DESC, tx_index DESC`. -/
def txOrder (a b : Row TxColumns) : Bool :=
  b.cols.block_height < a.cols.block_height ||
    (b.cols.block_height == a.cols.block_height && b.cols.tx_index ≤ a.cols.tx_index)

section Lists

variable (env : Env) (S : Store)

/-- `getBlocks`: the canonical blocks, highest first, and their count. -/
def getBlocks (limit offset : Nat) : QueryPage DbBlock :=
  let total := (S.blocks.filter (·.canonical)).length
  let results := sqlPage limit offset
    (sqlOrderBy (fun a b => b.block_height ≤ a.block_height) (S.blocks.filter (·.canonical)))
  ⟨results.map (parseBlockQueryResult env), total⟩

/-- `getTxList`: the canonical transactions, of the filter's types when it names any, and their
count. -/
def getTxList (limit offset : Nat) (txTypeFilter : List String) :
    Except DbError (QueryPage DbTx) :=
  let selected : Table TxColumns :=
    if txTypeFilter.length = 0 then S.txs.filter (·.canonical)
    else
      let txTypeIds := txTypeFilter.map env.getTxTypeId
      S.txs.filter fun r => r.canonical && txTypeIds.contains r.cols.type_id
  let total := selected.length
  let resultRows := sqlPage limit offset (sqlOrderBy txOrder selected)
  (resultRows.mapM (parseTxQueryResult env)).map fun parsed => ⟨parsed, total⟩

/-- `getAddressTxs`: the canonical transactions sent by or to the address, each with the window
`COUNT(*) OVER()` of them, and the count read off the first row returned, or 0. -/
def getAddressTxs (stxAddress : String) (limit offset : Nat) : Except DbError (QueryPage DbTx) :=
  let transactions := S.txs.filter fun r => r.canonical &&
    (r.cols.sender_address == stxAddress || r.cols.token_transfer_recipient_address == some stxAddress)
  let withCount := transactions.map fun r => (r, transactions.length)
  let resultRows := sqlPage limit offset (sqlOrderBy (fun a b => txOrder a.1 b.1) withCount)
  let count := match resultRows with
    | [] => 0
    | r :: _ => r.2
  ((resultRows.map (·.1)).mapM (parseTxQueryResult env)).map fun parsed => ⟨parsed, count⟩

/-- `getBlockTxs`: the `tx_id` and `tx_index` of the block's rows, sorted by
`result.rows.sort(tx => tx.tx_index)`, whose one parameter takes the comparator's first argument,
then each `tx_id` as hex. -/
def getBlockTxs (indexBlockHash : String) : List String :=
  let result := (S.txs.filter fun r => r.index_block_hash == env.hexToBuffer indexBlockHash).map
    fun r => (r.cols.tx_id, r.cols.tx_index)
  (jsSort env.sortImpl (fun tx _ => tx.2) result).map fun tx => env.bufferToHexPrefixString tx.1

/-- A row of the `UNION ALL` of `getAddressAssetEvents`, by its `asset_type`. -/
inductive AssetEventRow
  | stx (row : Row StxEventColumns)
  | ft (row : Row FtEventColumns)
  | nft (row : Row NftEventColumns)

/-- The `ORDER BY` keys of an asset event row: `block_height`, `tx_index`, `event_index`. -/
def AssetEventRow.keys : AssetEventRow → Int × Int × Int
  | .stx r => (r.cols.block_height, r.cols.tx_index, r.cols.event_index)
  | .ft r => (r.cols.block_height, r.cols.tx_index, r.cols.event_index)
  | .nft r => (r.cols.block_height, r.cols.tx_index, r.cols.event_index)

/-- The event `getAddressAssetEvents` builds from a row. -/
def AssetEventRow.event : AssetEventRow → DbEvent
  | .stx r => .stx
    { event_index := r.cols.event_index, tx_id := env.bufferToHexPrefixString r.cols.tx_id,
      tx_index := r.cols.tx_index, block_height := r.cols.block_height, canonical := r.canonical,
      asset_event_type_id := r.cols.asset_event_type_id, sender := r.cols.sender,
      recipient := r.cols.recipient, amount := r.cols.amount }
  | .ft r => .ft
    { event_index := r.cols.event_index, tx_id := env.bufferToHexPrefixString r.cols.tx_id,
      tx_index := r.cols.tx_index, block_height := r.cols.block_height, canonical := r.canonical,
      asset_event_type_id := r.cols.asset_event_type_id, sender := r.cols.sender,
      recipient := r.cols.recipient, asset_identifier := r.cols.asset_identifier,
      amount := r.cols.amount }
  | .nft r => .nft
    { event_index := r.cols.event_index, tx_id := env.bufferToHexPrefixString r.cols.tx_id,
      tx_index := r.cols.tx_index, block_height := r.cols.block_height, canonical := r.canonical,
      asset_event_type_id := r.cols.asset_event_type_id, sender := r.cols.sender,
      recipient := r.cols.recipient, asset_identifier := r.cols.asset_identifier,
      value := r.cols.value }

/-- The event `getTxEvents` builds from a `contract_logs` row. -/
def contractLogEvent (r : Row ContractLogColumns) : DbEvent :=
  .contractLog
    { event_index := r.cols.event_index, tx_id := env.bufferToHexPrefixString r.cols.tx_id,
      tx_index := r.cols.tx_index, block_height := r.cols.block_height, canonical := r.canonical,
      contract_identifier := r.cols.contract_identifier, topic := r.cols.topic,
      value := r.cols.value }

/-- `event_index`, a field of every variant of `DbEvent`. -/
def DbEvent.event_index : DbEvent → Int
  | .stx e => e.event_index
  | .ft e => e.event_index
  | .nft e => e.event_index
  | .contractLog e => e.event_index

/-- `events[i] = x`: a write past the end extends the array with holes. -/
def jsSet {α : Type} (events : List (Option α)) (i : Nat) (x : α) : List (Option α) :=
  if i < events.length then events.set i (some x)
  else events ++ List.replicate (i - events.length) none ++ [some x]

/-- One `for (const result of ….rows)` loop of `getTxEvents`: each event written at
`events[rowIndex++]`. -/
def fillEvents (events : List (Option DbEvent)) (rowIndex : Nat) :
    List DbEvent → List (Option DbEvent) × Nat
  | [] => (events, rowIndex)
  | event :: rest => fillEvents (jsSet events rowIndex event) (rowIndex + 1) rest

/-- The rows of an event table with the transaction's `tx_id` and `index_block_hash`. -/
def eventsOfTx {α : Type} (t : Table α) (tx_id : α → Buffer) (txIdBuffer blockHashBuffer : Buffer) :
    Table α :=
  t.filter fun r => tx_id r.cols == txIdBuffer && r.index_block_hash == blockHashBuffer

/-- `getTxEvents`: the four `SELECT`s, an array of their total `rowCount` filled by four loops that
share one cursor, then `events.sort((a, b) => a.event_index - b.event_index)`. -/
def getTxEvents (txId indexBlockHash : String) : List (Option DbEvent) :=
  let txIdBuffer := env.hexToBuffer txId
  let blockHashBuffer := env.hexToBuffer indexBlockHash
  let stxResults := eventsOfTx S.stx_events (·.tx_id) txIdBuffer blockHashBuffer
  let ftResults := eventsOfTx S.ft_events (·.tx_id) txIdBuffer blockHashBuffer
  let nftResults := eventsOfTx S.nft_events (·.tx_id) txIdBuffer blockHashBuffer
  let logResults := eventsOfTx S.contract_logs (·.tx_id) txIdBuffer blockHashBuffer
  let events : List (Option DbEvent) := List.replicate
    (stxResults.length + nftResults.length + ftResults.length + logResults.length) none
  let stx := fillEvents events 0 (stxResults.map fun r => (AssetEventRow.stx r).event env)
  let ft := fillEvents stx.1 stx.2 (ftResults.map fun r => (AssetEventRow.ft r).event env)
  let nft := fillEvents ft.1 ft.2 (nftResults.map fun r => (AssetEventRow.nft r).event env)
  let logs := fillEvents nft.1 nft.2 (logResults.map (contractLogEvent env))
  jsSortHoles env.sortImpl (fun a b => a.event_index - b.event_index) logs.1

/-- `ORDER BY block_height DESC, tx_index DESC, event_index DESC`. -/
def assetEventOrder (a b : AssetEventRow) : Bool :=
  b.keys.1 < a.keys.1 || (b.keys.1 == a.keys.1 &&
    (b.keys.2.1 < a.keys.2.1 || (b.keys.2.1 == a.keys.2.1 && b.keys.2.2 ≤ a.keys.2.2)))

/-- The canonical rows of an event table sent by or to the address. -/
def transfersOf {α : Type} (t : Table α) (sender recipient : α → Option String)
    (stxAddress : String) : Table α :=
  t.filter fun r => r.canonical &&
    (sender r.cols == some stxAddress || recipient r.cols == some stxAddress)

/-- `getAddressAssetEvents`: the canonical STX, FT and NFT events sent by or to the address, and
the total `0`. -/
def getAddressAssetEvents (stxAddress : String) (limit offset : Nat) : QueryPage DbEvent :=
  let rows :=
    (transfersOf S.stx_events (·.sender) (·.recipient) stxAddress).map AssetEventRow.stx ++
    (transfersOf S.ft_events (·.sender) (·.recipient) stxAddress).map AssetEventRow.ft ++
    (transfersOf S.nft_events (·.sender) (·.recipient) stxAddress).map AssetEventRow.nft
  let results := sqlPage limit offset (sqlOrderBy assetEventOrder rows)
  ⟨results.map (AssetEventRow.event env), 0⟩

end Lists

/-! ## Balances -/

/-- `{ balance, totalSent, totalReceived }`. -/
structure Balance where
  balance : Int
  totalSent : Int
  totalReceived : Int
  deriving DecidableEq, Repr

/-- `{ count, totalSent, totalReceived }`. -/
structure TokenCount where
  count : Int
  totalSent : Int
  totalReceived : Int
  deriving DecidableEq, Repr

/-- The balance of the totals received (`credit_total`) and sent (`debit_total`), `NULL` read as
0. -/
def Balance.ofTotals (credit debit : Option Int) : Balance :=
  let totalSent := debit.getD 0
  let totalReceived := credit.getD 0
  { balance := totalReceived - totalSent, totalSent, totalReceived }

/-- The count of the numbers received (`received_total`) and sent (`sent_total`), `NULL` read as
0. -/
def TokenCount.ofTotals (received sent : Option Int) : TokenCount :=
  let totalSent := sent.getD 0
  let totalReceived := received.getD 0
  { count := totalReceived - totalSent, totalSent, totalReceived }

section Balances

variable (env : Env) (S : Store)

/-- `getStxBalance`: the sums of the canonical STX amounts received and sent. -/
def getStxBalance (stxAddress : String) : Balance :=
  let transfers := transfersOf S.stx_events (·.sender) (·.recipient) stxAddress
  let credit := sqlSum ((transfers.filter fun r => r.cols.recipient == some stxAddress).map
    (·.cols.amount))
  let debit := sqlSum ((transfers.filter fun r => r.cols.sender == some stxAddress).map
    (·.cols.amount))
  Balance.ofTotals credit debit

/-- The query of `getFungibleTokenBalances` and `getNonFungibleTokenCounts`: per asset, the
aggregate `agg` of the canonical events received and of those sent, joined on the asset and
sorted by `localeCompare` of its name. -/
def assetTotals {α : Type} (t : Table α) (sender recipient : α → Option String)
    (asset : α → String) (agg : Table α → Int) (stxAddress : String) :
    List (String × Option Int × Option Int) :=
  let transfers := transfersOf t sender recipient stxAddress
  let credit := groupBy (asset ·.cols) agg
    (transfers.filter fun r => recipient r.cols == some stxAddress)
  let debit := groupBy (asset ·.cols) agg (transfers.filter fun r => sender r.cols == some stxAddress)
  sqlOrderBy (fun r1 r2 => env.localeCompare r1.1 r2.1 ≤ 0) (fullJoin credit debit)

/-- `getFungibleTokenBalances`: per asset, the sums of the canonical amounts received and
sent. -/
def getFungibleTokenBalances (stxAddress : String) : List (String × Balance) :=
  (assetTotals env S.ft_events (·.sender) (·.recipient) (·.asset_identifier)
    (fun rs => (rs.map (·.cols.amount)).sum) stxAddress).map fun r =>
      (r.1, Balance.ofTotals r.2.1 r.2.2)

/-- `getNonFungibleTokenCounts`: per asset, the numbers of canonical events received and sent. -/
def getNonFungibleTokenCounts (stxAddress : String) : List (String × TokenCount) :=
  (assetTotals env S.nft_events (·.sender) (·.recipient) (·.asset_identifier)
    (fun rs => rs.length) stxAddress).map fun r =>
      (r.1, TokenCount.ofTotals r.2.1 r.2.2)

end Balances

end Sidecar.Datastore
