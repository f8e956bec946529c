import Sidecar.Datastore.Common
import Sidecar.Datastore.ArraySort

/-!
# The tables and the SQL statements of `PgDataStore`

Model of the seven tables `postgres-store.ts` writes (`blocks`, `txs`, `stx_events`, `ft_events`,
`nft_events`, `contract_logs`, `smart_contracts`) and of the three kinds of statement it runs on
them.

* A table is the list of its rows in insertion order. `blocks` rows are `BlockQueryResult`
  (`BLOCK_COLUMNS`). A row of the six entity tables is a `Row`: the two columns every reorg
  statement reads, `index_block_hash` and `canonical`, and the table's other columns.
* `sqlUpdate p f` is `UPDATE … SET f WHERE p RETURNING …`; `sqlInsert` is `INSERT … VALUES`, with
  `ON CONFLICT … DO NOTHING` when a conflict target is given. `SELECT … WHERE p` is `filter p`.
* `Env` holds what the statements depend on but `src/` does not contain: the hex helpers of
  `helpers.ts`, how node-postgres passes a `Buffer[]` parameter and reads a `bytea` back,
  JavaScript's `localeCompare`, the order an engine's `Array.prototype.sort` leaves to the
  implementation, `getTxTypeId` of `db-controller.ts`, and, per table, which
  inserts the migrations' constraints reject (a duplicate event key, a value out of a column's
  range). Every result is proved for every `Env`.
* The integer column types of the `txs` migration are `TxColumns.typesFit`, and
  `Env.TxColumnTypes env` says that the `txs` constraints of `env` include them.
-/

namespace Sidecar.Datastore

/-- A `blocks` row (`BlockQueryResult`). -/
structure BlockQueryResult where
  block_hash : Buffer
  index_block_hash : Buffer
  parent_index_block_hash : Buffer
  parent_block_hash : Buffer
  parent_microblock : Buffer
  block_height : Int
  burn_block_time : Int
  canonical : Bool
  deriving DecidableEq, Repr

/-- A row of an entity table: `index_block_hash`, `canonical`, and the table's other columns. -/
structure Row (α : Type) where
  index_block_hash : Buffer
  canonical : Bool
  cols : α
  deriving DecidableEq, Repr

/-- An entity table. -/
abbrev Table (α : Type) := List (Row α)

/-- The other columns of `txs` (`TX_COLUMNS`). -/
structure TxColumns where
  tx_id : Buffer
  tx_index : Int
  block_hash : Buffer
  block_height : Int
  burn_block_time : Int
  type_id : Int
  status : Int
  post_conditions : Option Buffer
  fee_rate : Int
  sponsored : Bool
  sender_address : String
  origin_hash_mode : Int
  token_transfer_recipient_address : Option String
  token_transfer_amount : Option Int
  token_transfer_memo : Option Buffer
  smart_contract_contract_id : Option String
  smart_contract_source_code : Option String
  contract_call_contract_id : Option String
  contract_call_function_name : Option String
  contract_call_function_args : Option Buffer
  poison_microblock_header_1 : Option Buffer
  poison_microblock_header_2 : Option Buffer
  coinbase_payload : Option Buffer
  deriving DecidableEq, Repr

/-- The other columns of `stx_events`. -/
structure StxEventColumns where
  event_index : Int
  tx_id : Buffer
  tx_index : Int
  block_height : Int
  asset_event_type_id : Int
  sender : Option String
  recipient : Option String
  amount : Int
  deriving DecidableEq, Repr

/-- The other columns of `ft_events`. -/
structure FtEventColumns where
  event_index : Int
  tx_id : Buffer
  tx_index : Int
  block_height : Int
  asset_event_type_id : Int
  sender : Option String
  recipient : Option String
  asset_identifier : String
  amount : Int
  deriving DecidableEq, Repr

/-- The other columns of `nft_events`. -/
structure NftEventColumns where
  event_index : Int
  tx_id : Buffer
  tx_index : Int
  block_height : Int
  asset_event_type_id : Int
  sender : Option String
  recipient : Option String
  asset_identifier : String
  value : Buffer
  deriving DecidableEq, Repr

/-- The other columns of `contract_logs`. -/
structure ContractLogColumns where
  event_index : Int
  tx_id : Buffer
  tx_index : Int
  block_height : Int
  contract_identifier : String
  topic : String
  value : Buffer
  deriving DecidableEq, Repr

/-- The other columns of `smart_contracts`. -/
structure SmartContractColumns where
  tx_id : Buffer
  contract_id : String
  block_height : Int
  source_code : String
  abi : String
  deriving DecidableEq, Repr

/-- The database: one list of rows per table. -/
structure Store where
  blocks : List BlockQueryResult
  txs : Table TxColumns
  stx_events : Table StxEventColumns
  ft_events : Table FtEventColumns
  nft_events : Table NftEventColumns
  contract_logs : Table ContractLogColumns
  smart_contracts : Table SmartContractColumns
  deriving DecidableEq, Repr

/-- The freshly migrated database. -/
def Store.empty : Store := ⟨[], [], [], [], [], [], []⟩

/-- The errors the store's calls reject with. -/
inductive DbError
  /-- `DB contains multiple blocks at height ${block_height - 1} and index_hash ${…}`. -/
  | multipleBlocks (height : Int) (indexHash : String)
  /-- `DB does not contain a parent block at height ${block_height - 1} with index_hash ${…}`. -/
  | noParent (height : Int) (indexHash : String)
  /-- `could not find orphaned block by index_hash ${…}`. -/
  | noOrphanedBlock (indexHash : Buffer)
  /-- `found multiple non-canonical parents for index_hash ${…}`. -/
  | multipleOrphanedBlocks (indexHash : Buffer)
  /-- `found more than one non-canonical parent to restore during reorg`. -/
  | multipleOrphanedParents
  /-- An `INSERT` the table's constraints reject. -/
  | constraint
  /-- A `blockUpdate` or `txUpdate` listener threw. -/
  | listener
  /-- The model's bound on the depth of `restoreOrphanedChain`, never reached
  (`restoreOrphanedChain_depth`). -/
  | depthExceeded
  /-- `Received unexpected tx type_id from db query: ${tx.type_id}`. -/
  | unexpectedTxType (typeId : Int)
  /-- The `TypeError` of `BigInt(null)`. -/
  | bigIntOfNull
  deriving DecidableEq, Repr

/-- What the store's statements depend on but `src/` does not define. -/
structure Env where
  /-- `hexToBuffer` of `helpers.ts`. -/
  hexToBuffer : String → Buffer
  /-- `bufferToHexPrefixString` of `helpers.ts`. -/
  bufferToHexPrefixString : Buffer → String
  /-- The `bytea` value node-postgres stores for a `Buffer[]` parameter. -/
  bufferArrayParam : List Buffer → Buffer
  /-- `String.prototype.localeCompare`. -/
  localeCompare : String → String → Int
  /-- The engine's `Array.prototype.sort` on a comparator that is not consistent. -/
  sortImpl : SortImpl
  /-- `getTxTypeId` of `db-controller.ts`: the `type_id` of a `TransactionType` name. -/
  getTxTypeId : String → Int
  /-- The `Buffer[]` that `parseTxQueryResult` copies the `bytea` it reads into (at runtime the
  `Buffer` itself). -/
  byteaBufferArray : Buffer → List Buffer
  /-- Whether the constraints of each table let an insert of the row into it succeed. -/
  blocksAccept : List BlockQueryResult → BlockQueryResult → Bool
  txsAccept : Table TxColumns → Row TxColumns → Bool
  stxEventsAccept : Table StxEventColumns → Row StxEventColumns → Bool
  ftEventsAccept : Table FtEventColumns → Row FtEventColumns → Bool
  nftEventsAccept : Table NftEventColumns → Row NftEventColumns → Bool
  contractLogsAccept : Table ContractLogColumns → Row ContractLogColumns → Bool
  smartContractsAccept : Table SmartContractColumns → Row SmartContractColumns → Bool

/-- The two lowercase hex digits of a byte, as `Buffer.toString('hex')` writes them. -/
def hexDigits (b : UInt8) : Buffer :=
  [b.toNat / 16, b.toNat % 16].map fun d => (if d < 10 then 48 + d else 87 + d).toUInt8

/-- The bytes a `bytea` column stores for a `Buffer[]` parameter. node-postgres's `prepareValue`
sends the array literal `{\\x…,\\x…}` (`arrayString` writes each `Buffer` as `\\x` and its
hex), and PostgreSQL reads that text in the `bytea` escape format, `\\` as one backslash: the
column holds `{`, then each element as `\x` and its hex, the elements separated by `,`, then
`}` (bytes `7b`, `5c 78`, `2c`, `7d`). -/
def pgBufferArrayLiteral (bs : List Buffer) : Buffer :=
  0x7b :: List.intercalate [0x2c] (bs.map fun b => 0x5c :: 0x78 :: b.flatMap hexDigits) ++ [0x7d]

theorem length_flatMap_hexDigits (b : Buffer) : (b.flatMap hexDigits).length = 2 * b.length := by
  induction b with
  | nil => rfl
  | cons x b ih => simp only [List.flatMap_cons, List.length_append, ih]; simp [hexDigits]; omega

/-- The literal of one `Buffer` is longer than the `Buffer`: `{`, `\x`, two hex digits a byte,
and `}`. -/
theorem length_pgBufferArrayLiteral_singleton (b : Buffer) :
    (pgBufferArrayLiteral [b]).length = 2 * b.length + 4 := by
  simp only [pgBufferArrayLiteral, List.map_cons, List.map_nil, List.intercalate,
    List.intersperse_singleton, List.flatten_cons, List.flatten_nil, List.append_nil,
    List.length_cons, List.length_append, List.length_nil, length_flatMap_hexDigits]

/-- The characters the root collation of ICU orders before the digits, by code point in its
order: tab, line feed, vertical tab, form feed, carriage return, space, then
`_ - , ; : ! ? . ' " ( ) [ ] { } @ * / \ & # % ` ^ + < = > | ~ $`. -/
def rootCollationSymbols : List Nat :=
  [9, 10, 11, 12, 13, 32, 95, 45, 44, 59, 58, 33, 63, 46, 39, 34, 40, 41, 91, 93, 123, 125, 64,
    42, 47, 92, 38, 35, 37, 96, 94, 43, 60, 61, 62, 124, 126, 36]

/-- The primary weight of a character in the root collation: whitespace and symbols in the order
of `rootCollationSymbols`, then the digits, then the letters with their case ignored, then any
other character by its code point. -/
def rootCollationPrimary (c : Char) : Nat :=
  if c.isDigit then 100 + (c.toNat - 48)
  else if c.isAlpha then 200 + (c.toLower.toNat - 97)
  else if c.toNat ∈ rootCollationSymbols then rootCollationSymbols.indexOf c.toNat
  else 300 + c.toNat

/-- `localeCompare` in the root collation of ICU, on strings of ASCII characters: the primary
weights first, then lowercase before uppercase. -/
def rootLocaleCompare (a b : String) : Int :=
  let primary (s : String) := s.toList.map rootCollationPrimary
  let tertiary (s : String) := s.toList.map fun c => if c.isUpper then (1 : Nat) else 0
  if primary a < primary b then -1
  else if primary b < primary a then 1
  else if tertiary a < tertiary b then -1
  else if tertiary b < tertiary a then 1
  else 0

/-- An environment for running the model on concrete batches: `hexToBuffer` takes each
character's code as a byte, `bufferArrayParam` is the array literal node-postgres sends,
`localeCompare` is that of the root collation, the sort is V8's, `getTxTypeId` follows
`DbTxTypeId`, and every constraint accepts. -/
def Env.plain : Env where
  hexToBuffer s := s.toList.map (·.toNat.toUInt8)
  bufferToHexPrefixString b := String.mk (b.map (Char.ofNat ·.toNat))
  bufferArrayParam := pgBufferArrayLiteral
  localeCompare := rootLocaleCompare
  sortImpl := .v8
  getTxTypeId
    | "token_transfer" => 0
    | "smart_contract" => 1
    | "contract_call" => 2
    | "poison_microblock" => 3
    | "coinbase" => 4
    | _ => -1
  byteaBufferArray b := [b]
  blocksAccept _ _ := true
  txsAccept _ _ := true
  stxEventsAccept _ _ := true
  ftEventsAccept _ _ := true
  nftEventsAccept _ _ := true
  contractLogsAccept _ _ := true
  smartContractsAccept _ _ := true

/-- The array literal of `[<01>, <02>]`: `{\x01,\x02}`. -/
example : pgBufferArrayLiteral [[1], [2]] = [0x7b, 0x5c, 0x78, 0x30, 0x31, 0x2c, 0x5c, 0x78, 0x30,
    0x32, 0x7d] := by
  decide

/-- In the root collation a lowercase letter comes before its uppercase, and both before the next
letter; `_` comes before `-`. -/
example : rootLocaleCompare "a" "A" = -1 ∧ rootLocaleCompare "A" "b" = -1 ∧
    rootLocaleCompare "_" "-" = -1 := by
  decide

/-! ## Column types -/

/-- The values a signed PostgreSQL integer column of `bits` bits holds. -/
def pgIntFits (bits : Nat) (v : Int) : Bool :=
  decide (-2 ^ (bits - 1) ≤ v) && decide (v < 2 ^ (bits - 1))

/-- `smallint`. -/
def smallint : Int → Bool := pgIntFits 16

/-- `integer`. -/
def integer : Int → Bool := pgIntFits 32

/-- `bigint`. -/
def bigint : Int → Bool := pgIntFits 64

/-- The integer columns of the `txs` migration hold values of their types: `tx_index`, `type_id`,
`status` and `origin_hash_mode` are `smallint`, `block_height` is `integer`, and `fee_rate` is
`bigint`. -/
def TxColumns.typesFit (c : TxColumns) : Bool :=
  smallint c.tx_index && integer c.block_height && smallint c.type_id && smallint c.status &&
    bigint c.fee_rate && smallint c.origin_hash_mode

/-- The `txs` table rejects a row whose integer columns do not fit their types. -/
def Env.TxColumnTypes (env : Env) : Prop :=
  ∀ t r, env.txsAccept t r = true → r.cols.typesFit = true

/-! ## Statements -/

section Statements

variable {α : Type}

/-- `UPDATE … SET f WHERE p RETURNING …`: the new table and the updated rows, in table order. -/
def sqlUpdate (p : α → Bool) (f : α → α) (t : List α) : List α × List α :=
  (t.map fun r => if p r then f r else r, (t.filter p).map f)

/-- `INSERT INTO … VALUES (r)`, and `ON CONFLICT … DO NOTHING` on the rows `conflict r` matches:
a rejection by the constraints, or the new table and `rowCount`. -/
def sqlInsert (accepts : List α → α → Bool) (conflict : α → α → Bool) (t : List α) (r : α) :
    Except DbError (List α × Nat) :=
  if accepts t r then
    if t.any (conflict r) then .ok (t, 0) else .ok (t ++ [r], 1)
  else .error .constraint

@[simp] theorem sqlUpdate_fst (p : α → Bool) (f : α → α) (t : List α) :
    (sqlUpdate p f t).1 = t.map fun r => if p r then f r else r := rfl

@[simp] theorem sqlUpdate_snd (p : α → Bool) (f : α → α) (t : List α) :
    (sqlUpdate p f t).2 = (t.filter p).map f := rfl

/-- An insert leaves the table as it was, or appends the row. -/
theorem sqlInsert_eq {accepts : List α → α → Bool} {conflict : α → α → Bool} {t t' : List α}
    {r : α} {n : Nat} (h : sqlInsert accepts conflict t r = .ok (t', n)) :
    (n = 0 ∧ t' = t ∧ t.any (conflict r) = true) ∨
      (n = 1 ∧ t' = t ++ [r] ∧ t.any (conflict r) = false) := by
  unfold sqlInsert at h
  split at h
  · split at h <;> cases h
    · exact .inl ⟨rfl, rfl, ‹_›⟩
    · exact .inr ⟨rfl, rfl, Bool.eq_false_iff.mpr ‹_›⟩
  · cases h

end Statements

end Sidecar.Datastore
