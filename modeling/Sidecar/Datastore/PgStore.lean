import Sidecar.Datastore.Schema

/-!
# `PgDataStore.update` and the reorg (`postgres-store.ts:197-556`, `944-1050`)

Model of the write path of `PgDataStore`: `getChainTipHeight`, `update`, `markEntitiesCanonical`,
`restoreOrphanedChain`, `handleReorg`, and the `INSERT`s `updateBlock`, `updateTx`,
`updateStxEvent`, `updateFtEvent`, `updateNftEvent`, `updateSmartContractEvent` and
`updateSmartContract`.

* Each function takes the store and returns the store its statements leave, with the value the
  TypeScript returns; a `throw` is `.error`. `update` runs `updateWrites` between `BEGIN` and
  `COMMIT`: an error there is `ROLLBACK`, which restores the store `update` started from.
* After `COMMIT`, `update` emits `blockUpdate` and one `txUpdate` per entry inside the same `try`.
  `listenerThrows n` says whether some listener throws on `n`. A throw ends the emission, the
  `catch` issues `ROLLBACK` with no transaction open, which changes nothing, and rethrows.
* `restoreOrphanedChain` recurses once per orphaned ancestor. The model bounds the number of
  calls by one more than the number of stored blocks (`depthExceeded` past it);
  `restoreOrphanedChain_depth` shows the bound is never reached.
* The log lines of `handleReorg` and the `UpdatedEntities` counts they print are kept as data.
-/

namespace Sidecar.Datastore

section Code

variable (env : Env)

/-- The value of `getChainTipHeight`. -/
structure ChainTip where
  blockHeight : Int
  blockHash : String
  indexBlockHash : String

/-- `SELECT MAX(block_height) FROM blocks`. -/
def maxHeight (S : Store) : Option Int :=
  (S.blocks.map (·.block_height)).max?

/-- `getChainTipHeight`: the canonical blocks at the maximum height, read through the first. -/
def getChainTipHeight (S : Store) : ChainTip :=
  let currentTipBlock := S.blocks.filter fun b => b.canonical && maxHeight S == some b.block_height
  { blockHeight := (currentTipBlock.head?.map (·.block_height)).getD 0
    blockHash := env.bufferToHexPrefixString ((currentTipBlock.head?.map (·.block_hash)).getD [])
    indexBlockHash :=
      env.bufferToHexPrefixString ((currentTipBlock.head?.map (·.index_block_hash)).getD []) }

/-- `UpdatedEntities`: the rows a reorg flipped, per table. -/
structure UpdatedEntities where
  blocks : Nat
  txs : Nat
  stxEvents : Nat
  ftEvents : Nat
  nftEvents : Nat
  contractLogs : Nat
  smartContracts : Nat

/-- The counts `handleReorg` starts from. -/
def UpdatedEntities.zero : UpdatedEntities := ⟨0, 0, 0, 0, 0, 0, 0⟩

/-- `UPDATE <table> SET canonical = $2 WHERE index_block_hash = $1 AND canonical != $2`, and its
`rowCount`. -/
def Table.markCanonical {α : Type} (t : Table α) (indexBlockHash : Buffer) (canonical : Bool) :
    Table α × Nat :=
  let result := sqlUpdate
    (fun r => r.index_block_hash == indexBlockHash && r.canonical != canonical)
    (fun r => { r with canonical }) t
  (result.1, result.2.length)

/-- `markEntitiesCanonical`: that `UPDATE` on each entity table, its counts added to `ue`. -/
def markEntitiesCanonical (S : Store) (indexBlockHash : Buffer) (canonical : Bool)
    (ue : UpdatedEntities) : Store × UpdatedEntities :=
  let txResult := S.txs.markCanonical indexBlockHash canonical
  let stxResults := S.stx_events.markCanonical indexBlockHash canonical
  let ftResult := S.ft_events.markCanonical indexBlockHash canonical
  let nftResult := S.nft_events.markCanonical indexBlockHash canonical
  let contractLogResult := S.contract_logs.markCanonical indexBlockHash canonical
  let smartContractResult := S.smart_contracts.markCanonical indexBlockHash canonical
  ({ S with txs := txResult.1, stx_events := stxResults.1, ft_events := ftResult.1,
            nft_events := nftResult.1, contract_logs := contractLogResult.1,
            smart_contracts := smartContractResult.1 },
   { ue with txs := ue.txs + txResult.2, stxEvents := ue.stxEvents + stxResults.2,
             ftEvents := ue.ftEvents + ftResult.2, nftEvents := ue.nftEvents + nftResult.2,
             contractLogs := ue.contractLogs + contractLogResult.2,
             smartContracts := ue.smartContracts + smartContractResult.2 })

/-- `UPDATE blocks SET canonical = true WHERE index_block_hash = $1 AND canonical = false
RETURNING parent_index_block_hash, block_hash, block_height`. -/
def restoreBlock (blocks : List BlockQueryResult) (indexBlockHash : Buffer) :
    List BlockQueryResult × List BlockQueryResult :=
  sqlUpdate (fun b => b.index_block_hash == indexBlockHash && !b.canonical)
    (fun b => { b with canonical := true }) blocks

/-- `UPDATE blocks SET canonical = false WHERE block_height = $1 AND index_block_hash != $2 AND
canonical = true RETURNING index_block_hash`. -/
def orphanBlocks (blocks : List BlockQueryResult) (height : Int) (indexBlockHash : Buffer) :
    List BlockQueryResult × List BlockQueryResult :=
  sqlUpdate (fun b => b.block_height == height && b.index_block_hash != indexBlockHash && b.canonical)
    (fun b => { b with canonical := false }) blocks

/-- `SELECT index_block_hash FROM blocks WHERE block_height = $1 AND index_block_hash = $2 AND
canonical = false`. -/
def orphanedParents (blocks : List BlockQueryResult) (height : Int) (indexBlockHash : Buffer) :
    List BlockQueryResult :=
  blocks.filter fun b => b.block_height == height && b.index_block_hash == indexBlockHash && !b.canonical

/-- `restoreOrphanedChain`, at most `fuel` calls deep. -/
def restoreOrphanedChainAux :
    Nat → Store → Buffer → UpdatedEntities → Except DbError (Store × UpdatedEntities)
  | 0, _, _, _ => .error .depthExceeded
  | fuel + 1, S, indexBlockHash, ue =>
    let blockResult := restoreBlock S.blocks indexBlockHash
    match blockResult.2 with
    | [] => .error (.noOrphanedBlock indexBlockHash)
    | _ :: _ :: _ => .error (.multipleOrphanedBlocks indexBlockHash)
    | [restored] =>
      let orphanedBlockResult := orphanBlocks blockResult.1 restored.block_height indexBlockHash
      let orphaned := match orphanedBlockResult.2 with
        | [] => ({ S with blocks := orphanedBlockResult.1 }, ue)
        | o :: _ => markEntitiesCanonical { S with blocks := orphanedBlockResult.1 }
            o.index_block_hash false ue
      let marked := markEntitiesCanonical orphaned.1 indexBlockHash true orphaned.2
      match orphanedParents marked.1.blocks (restored.block_height - 1)
          restored.parent_index_block_hash with
      | [] => .ok marked
      | [parent] => restoreOrphanedChainAux fuel marked.1 parent.index_block_hash
          { marked.2 with blocks := marked.2.blocks + 1 }
      | _ :: _ :: _ => .error .multipleOrphanedParents

/-- `restoreOrphanedChain`. -/
def restoreOrphanedChain (S : Store) (indexBlockHash : Buffer) (ue : UpdatedEntities) :
    Except DbError (Store × UpdatedEntities) :=
  restoreOrphanedChainAux (S.blocks.length + 1) S indexBlockHash ue

/-- `handleReorg`: look the parent up by height and hash, and restore its chain when it is
orphaned and the incoming block is above the tip. -/
def handleReorg (S : Store) (block : DbBlock) (chainTipHeight : Int) :
    Except DbError (Store × UpdatedEntities) :=
  if block.block_height > 1 then
    let parentResult := S.blocks.filter fun b => b.block_height == block.block_height - 1 &&
      b.index_block_hash == env.hexToBuffer block.parent_index_block_hash
    match parentResult with
    | [] => .error (.noParent (block.block_height - 1) block.parent_index_block_hash)
    | _ :: _ :: _ => .error (.multipleBlocks (block.block_height - 1) block.parent_index_block_hash)
    | [parent] =>
      if !parent.canonical && block.block_height > chainTipHeight then
        restoreOrphanedChain S parent.index_block_hash { UpdatedEntities.zero with blocks := 1 }
      else .ok (S, .zero)
  else .ok (S, .zero)

/-- The parameters of `updateBlock`'s `INSERT`. -/
def DbBlock.row (block : DbBlock) : BlockQueryResult where
  block_hash := env.hexToBuffer block.block_hash
  index_block_hash := env.hexToBuffer block.index_block_hash
  parent_index_block_hash := env.hexToBuffer block.parent_index_block_hash
  parent_block_hash := env.hexToBuffer block.parent_block_hash
  parent_microblock := env.hexToBuffer block.parent_microblock
  block_height := block.block_height
  burn_block_time := block.burn_block_time
  canonical := block.canonical

/-- `updateBlock`: `INSERT INTO blocks … ON CONFLICT (index_block_hash) DO NOTHING`. -/
def updateBlock (S : Store) (block : DbBlock) : Except DbError (Store × Nat) :=
  (sqlInsert env.blocksAccept (fun r b => b.index_block_hash == r.index_block_hash) S.blocks
    (block.row env)).map fun result => ({ S with blocks := result.1 }, result.2)

/-- The 25 parameters of `updateTx`'s `INSERT`, in `TX_COLUMNS` order. -/
def DbTx.row (tx : DbTx) : Row TxColumns where
  index_block_hash := env.hexToBuffer tx.index_block_hash
  canonical := tx.canonical
  cols :=
    { tx_id := env.hexToBuffer tx.tx_id
      tx_index := tx.tx_index
      block_hash := env.hexToBuffer tx.block_hash
      block_height := tx.block_height
      burn_block_time := tx.burn_block_time
      type_id := tx.type_id
      status := tx.status
      post_conditions := tx.post_conditions
      fee_rate := tx.fee_rate
      sponsored := tx.sponsored
      sender_address := tx.sender_address
      origin_hash_mode := tx.origin_hash_mode
      token_transfer_recipient_address := tx.token_transfer_recipient_address
      token_transfer_amount := tx.token_transfer_amount
      token_transfer_memo := tx.token_transfer_memo
      smart_contract_contract_id := tx.smart_contract_contract_id
      smart_contract_source_code := tx.smart_contract_source_code
      contract_call_contract_id := tx.contract_call_contract_id
      contract_call_function_name := tx.contract_call_function_name
      contract_call_function_args := tx.contract_call_function_args.map env.bufferArrayParam
      poison_microblock_header_1 := tx.poison_microblock_header_1
      poison_microblock_header_2 := tx.poison_microblock_header_2
      coinbase_payload := tx.coinbase_payload }

/-- `updateTx`: `INSERT INTO txs … ON CONFLICT ON CONSTRAINT unique_tx_id_index_block_hash
DO NOTHING`. -/
def updateTx (S : Store) (tx : DbTx) : Except DbError (Store × Nat) :=
  (sqlInsert env.txsAccept
    (fun r t => t.cols.tx_id == r.cols.tx_id && t.index_block_hash == r.index_block_hash) S.txs
    (tx.row env)).map fun result => ({ S with txs := result.1 }, result.2)

/-- The parameters of `updateStxEvent`'s `INSERT`; `index_block_hash` is the transaction's. -/
def DbStxEvent.row (tx : DbTx) (event : DbStxEvent) : Row StxEventColumns :=
  ⟨env.hexToBuffer tx.index_block_hash, event.canonical,
    ⟨event.event_index, env.hexToBuffer event.tx_id, event.tx_index, event.block_height,
      event.asset_event_type_id, event.sender, event.recipient, event.amount⟩⟩

/-- The parameters of `updateFtEvent`'s `INSERT`. -/
def DbFtEvent.row (tx : DbTx) (event : DbFtEvent) : Row FtEventColumns :=
  ⟨env.hexToBuffer tx.index_block_hash, event.canonical,
    ⟨event.event_index, env.hexToBuffer event.tx_id, event.tx_index, event.block_height,
      event.asset_event_type_id, event.sender, event.recipient, event.asset_identifier,
      event.amount⟩⟩

/-- The parameters of `updateNftEvent`'s `INSERT`. -/
def DbNftEvent.row (tx : DbTx) (event : DbNftEvent) : Row NftEventColumns :=
  ⟨env.hexToBuffer tx.index_block_hash, event.canonical,
    ⟨event.event_index, env.hexToBuffer event.tx_id, event.tx_index, event.block_height,
      event.asset_event_type_id, event.sender, event.recipient, event.asset_identifier,
      event.value⟩⟩

/-- The parameters of `updateSmartContractEvent`'s `INSERT`. -/
def DbSmartContractEvent.row (tx : DbTx) (event : DbSmartContractEvent) :
    Row ContractLogColumns :=
  ⟨env.hexToBuffer tx.index_block_hash, event.canonical,
    ⟨event.event_index, env.hexToBuffer event.tx_id, event.tx_index, event.block_height,
      event.contract_identifier, event.topic, event.value⟩⟩

/-- The parameters of `updateSmartContract`'s `INSERT`. -/
def DbSmartContract.row (tx : DbTx) (smartContract : DbSmartContract) :
    Row SmartContractColumns :=
  ⟨env.hexToBuffer tx.index_block_hash, smartContract.canonical,
    ⟨env.hexToBuffer smartContract.tx_id, smartContract.contract_id, smartContract.block_height,
      smartContract.source_code, smartContract.abi⟩⟩

/-- A plain `INSERT` (no conflict target) into the entity table `get` reads and `set` writes, as
the event, log and contract inserts run it. -/
def insertRow {α : Type} (accepts : Table α → Row α → Bool) (get : Store → Table α)
    (set : Store → Table α → Store) (S : Store) (r : Row α) : Except DbError Store :=
  (sqlInsert accepts (fun _ _ => false) (get S) r).map fun result => set S result.1

/-- `updateStxEvent`. -/
def updateStxEvent (S : Store) (tx : DbTx) (event : DbStxEvent) : Except DbError Store :=
  insertRow env.stxEventsAccept (·.stx_events) (fun S t => { S with stx_events := t }) S
    (event.row env tx)

/-- `updateFtEvent`. -/
def updateFtEvent (S : Store) (tx : DbTx) (event : DbFtEvent) : Except DbError Store :=
  insertRow env.ftEventsAccept (·.ft_events) (fun S t => { S with ft_events := t }) S
    (event.row env tx)

/-- `updateNftEvent`. -/
def updateNftEvent (S : Store) (tx : DbTx) (event : DbNftEvent) : Except DbError Store :=
  insertRow env.nftEventsAccept (·.nft_events) (fun S t => { S with nft_events := t }) S
    (event.row env tx)

/-- `updateSmartContractEvent`. -/
def updateSmartContractEvent (S : Store) (tx : DbTx) (event : DbSmartContractEvent) :
    Except DbError Store :=
  insertRow env.contractLogsAccept (·.contract_logs) (fun S t => { S with contract_logs := t }) S
    (event.row env tx)

/-- `updateSmartContract`. -/
def updateSmartContract (S : Store) (tx : DbTx) (smartContract : DbSmartContract) :
    Except DbError Store :=
  insertRow env.smartContractsAccept (·.smart_contracts)
    (fun S t => { S with smart_contracts := t }) S (smartContract.row env tx)

/-- One pass of `update`'s `for (const entry of data.txs)` loop: the transaction, then its
events, logs and contracts, each list in order. -/
def insertEntry (S : Store) (entry : UpdateEntry) : Except DbError Store := do
  let S ← (·.1) <$> updateTx env S entry.tx
  let S ← entry.stxEvents.foldlM (fun S e => updateStxEvent env S entry.tx e) S
  let S ← entry.ftEvents.foldlM (fun S e => updateFtEvent env S entry.tx e) S
  let S ← entry.nftEvents.foldlM (fun S e => updateNftEvent env S entry.tx e) S
  let S ← entry.contractLogEvents.foldlM (fun S e => updateSmartContractEvent env S entry.tx e) S
  entry.smartContracts.foldlM (fun S c => updateSmartContract env S entry.tx c) S

end Code

/-- The batch with every record set non-canonical (`update`'s downgrade). -/
def DataStoreUpdateData.markNonCanonical (data : DataStoreUpdateData) : DataStoreUpdateData where
  block := { data.block with canonical := false }
  txs := data.txs.map fun e =>
    { tx := { e.tx with canonical := false }
      stxEvents := e.stxEvents.map ({ · with canonical := false })
      ftEvents := e.ftEvents.map ({ · with canonical := false })
      nftEvents := e.nftEvents.map ({ · with canonical := false })
      contractLogEvents := e.contractLogEvents.map ({ · with canonical := false })
      smartContracts := e.smartContracts.map ({ · with canonical := false }) }

/-- The notifications `update` emits after `COMMIT`: `blockUpdate`, then one `txUpdate` per entry. -/
def DataStoreUpdateData.notifications (data : DataStoreUpdateData) : List Notification :=
  .blockUpdate data.block :: data.txs.map (.txUpdate ·.tx)

/-- `this.emit` over the notifications, in order, up to and including the first a listener
throws on; and whether one threw. -/
def emitAll (listenerThrows : Notification → Bool) : List Notification → List Notification × Bool
  | [] => ([], false)
  | n :: ns =>
    if listenerThrows n then ([n], true)
    else let rest := emitAll listenerThrows ns; (n :: rest.1, rest.2)

/-- What a call of `update` leaves: its settlement, the store, and the notifications sent. -/
structure UpdateOutcome where
  result : Except DbError Unit
  store : Store
  emitted : List Notification

section Code

variable (env : Env)

/-- The statements `update` runs between `BEGIN` and `COMMIT`, and the batch as it stands after
the downgrade. -/
def updateWrites (S : Store) (data : DataStoreUpdateData) :
    Except DbError (Store × DataStoreUpdateData) := do
  let chainTip := getChainTipHeight env S
  let reorg ← handleReorg env S data.block chainTip.blockHeight
  let data := if data.block.block_height ≤ chainTip.blockHeight then data.markNonCanonical else data
  let inserted ← updateBlock env reorg.1 data.block
  let S ← if inserted.2 ≠ 0 then data.txs.foldlM (insertEntry env) inserted.1 else pure inserted.1
  pure (S, data)

/-- `update`. -/
def update (listenerThrows : Notification → Bool) (S : Store) (data : DataStoreUpdateData) :
    UpdateOutcome :=
  match updateWrites env S data with
  | .error e => ⟨.error e, S, []⟩
  | .ok (S', data) =>
    let emitted := emitAll listenerThrows data.notifications
    ⟨if emitted.2 then .error .listener else .ok (), S', emitted.1⟩

end Code

end Sidecar.Datastore
