import Mathlib.Data.List.Basic
import Mathlib.Algebra.Ring.Int.Defs
import Mathlib.Data.String.Basic

/-!
# The datastore records (`datastore/common.ts`)

Model of the records `postgres-store.ts` reads and writes: `DbBlock`, `DbTx`, the four event
records and their union `DbEvent`, `DbSmartContract`, and the batch `DataStoreUpdateData` that
`update` ingests.

* A TypeScript `number` or `bigint` is an `Int`, a `Buffer` is its bytes (`List UInt8`), an
  optional field is an `Option`. The numeric enums (`DbTxTypeId`, `DbTxStatus`,
  `DbAssetEventTypeId`) are `Int` constants: a field of enum type holds whatever number was cast
  into it (`result.type_id as DbTxTypeId`), and only `parseTxQueryResult` checks it.
* Each record has the fields `postgres-store.ts` uses. The `common.ts` under `src/` is an older
  revision (its `DbBlock` has no `parent_index_block_hash`, its `DbTx` no `index_block_hash`),
  so the store's column lists decide the fields here.
* `DataStoreUpdateData` is not under `src/`; its shape is the one `update` reads.
-/

namespace Sidecar.Datastore

/-- A Node `Buffer`: its bytes. -/
abbrev Buffer := List UInt8

/-- `DbTxTypeId`. -/
def DbTxTypeId.TokenTransfer : Int := 0
def DbTxTypeId.SmartContract : Int := 1
def DbTxTypeId.ContractCall : Int := 2
def DbTxTypeId.PoisonMicroblock : Int := 3
def DbTxTypeId.Coinbase : Int := 4

/-- `DbTxStatus`. -/
def DbTxStatus.Pending : Int := 0
def DbTxStatus.Success : Int := 1
def DbTxStatus.Failed : Int := -1

/-- `DbEventTypeId`, the discriminator of `DbEvent`. -/
inductive DbEventTypeId
  | SmartContractLog
  | StxAsset
  | FungibleTokenAsset
  | NonFungibleTokenAsset
  deriving DecidableEq, Repr

/-- `DbBlock`, with the hashes as the `0x`-prefixed hex strings the event stream delivers. -/
structure DbBlock where
  block_hash : String
  index_block_hash : String
  parent_index_block_hash : String
  parent_block_hash : String
  parent_microblock : String
  block_height : Int
  burn_block_time : Int
  canonical : Bool
  deriving DecidableEq, Repr

/-- `DbTx`: the required fields, then the payload fields of each transaction type. -/
structure DbTx where
  tx_id : String
  tx_index : Int
  index_block_hash : String
  block_hash : String
  block_height : Int
  burn_block_time : Int
  type_id : Int
  status : Int
  canonical : Bool
  post_conditions : Option Buffer
  fee_rate : Int
  sponsored : Bool
  sender_address : String
  origin_hash_mode : Int
  token_transfer_recipient_address : Option String
  token_transfer_amount : Option Int
  token_transfer_memo : Option Buffer
  smart_contract_contract_id : Option String
  smart_contract_source_code : Option String
  contract_call_contract_id : Option String
  contract_call_function_name : Option String
  contract_call_function_args : Option (List Buffer)
  poison_microblock_header_1 : Option Buffer
  poison_microblock_header_2 : Option Buffer
  coinbase_payload : Option Buffer
  deriving DecidableEq, Repr

/-- `DbStxEvent`. -/
structure DbStxEvent where
  event_index : Int
  tx_id : String
  tx_index : Int
  block_height : Int
  canonical : Bool
  asset_event_type_id : Int
  sender : Option String
  recipient : Option String
  amount : Int
  deriving DecidableEq, Repr

/-- `DbFtEvent`. -/
structure DbFtEvent where
  event_index : Int
  tx_id : String
  tx_index : Int
  block_height : Int
  canonical : Bool
  asset_event_type_id : Int
  sender : Option String
  recipient : Option String
  asset_identifier : String
  amount : Int
  deriving DecidableEq, Repr

/-- `DbNftEvent`. -/
structure DbNftEvent where
  event_index : Int
  tx_id : String
  tx_index : Int
  block_height : Int
  canonical : Bool
  asset_event_type_id : Int
  sender : Option String
  recipient : Option String
  asset_identifier : String
  value : Buffer
  deriving DecidableEq, Repr

/-- `DbSmartContractEvent`, a contract log. -/
structure DbSmartContractEvent where
  event_index : Int
  tx_id : String
  tx_index : Int
  block_height : Int
  canonical : Bool
  contract_identifier : String
  topic : String
  value : Buffer
  deriving DecidableEq, Repr

/-- `DbSmartContract`. -/
structure DbSmartContract where
  tx_id : String
  contract_id : String
  block_height : Int
  source_code : String
  abi : String
  canonical : Bool
  deriving DecidableEq, Repr

/-- One element of `DataStoreUpdateData.txs`: a transaction and what it emitted. -/
structure UpdateEntry where
  tx : DbTx
  stxEvents : List DbStxEvent
  ftEvents : List DbFtEvent
  nftEvents : List DbNftEvent
  contractLogEvents : List DbSmartContractEvent
  smartContracts : List DbSmartContract
  deriving DecidableEq, Repr

/-- `DataStoreUpdateData`: one block and its transactions. -/
structure DataStoreUpdateData where
  block : DbBlock
  txs : List UpdateEntry
  deriving DecidableEq, Repr

/-- `DbEvent`: an event of one of the four kinds, its `event_type` the constructor. -/
inductive DbEvent
  | stx (event : DbStxEvent)
  | ft (event : DbFtEvent)
  | nft (event : DbNftEvent)
  | contractLog (event : DbSmartContractEvent)
  deriving DecidableEq, Repr

/-- The payload of the `blockUpdate` and `txUpdate` events of `DataStoreEventEmitter`. -/
inductive Notification
  | blockUpdate (block : DbBlock)
  | txUpdate (tx : DbTx)
  deriving DecidableEq, Repr

end Sidecar.Datastore
