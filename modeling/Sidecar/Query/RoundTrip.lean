import Sidecar.Datastore.Queries

/-!
# Writing a record and reading it back

The inserts of `postgres-store.ts` (`updateBlock`, `updateTx`, `updateStxEvent` …
`updateSmartContractEvent`) against the row parsers of its reads (`parseBlockQueryResult`,
`parseTxQueryResult`, the decoding of `getTxEvents`).

* The hashes and ids are `0x`-prefixed lowercase hex strings, stored as bytes by `hexToBuffer`
  and read back by `bufferToHexPrefixString`. `Env.HexRoundTrip env s` says the helpers invert
  each other on `s`, which is what such a string is for; the results assume it of the record's
  hex fields.
* `DbTx.payloadOfType` says that a transaction is shaped as its type: `type_id` is one of the
  five `DbTxTypeId` values, the payload fields of that type are set, and those of the other types
  are not (`DbTx`'s "Only valid for … tx types").

Results:
* `parseBlockQueryResult_row`, `event_row`: a block and the four kinds of event row read back as
  written;
* `parseTxQueryResult_row`: a transaction whose payload is that of its type reads back as written,
  provided its contract-call arguments do;
* `contractCall_args_not_read_back`: they do not when the `bytea` column is read as one `Buffer`:
  `updateTx` passes the `Buffer[]` `contract_call_function_args` as one parameter, which
  node-postgres sends as an array literal, and `parseTxQueryResult` copies the one `Buffer` it
  reads into the field;
* `updateTx_fee_rate_rejected`: a `fee_rate`, a `u64` in `DbTx`, is written at all only below
  `2^63` where the table enforces its `bigint` column type.
-/

namespace Sidecar.Datastore

/-- The hex helpers invert each other on `s`. -/
def Env.HexRoundTrip (env : Env) (s : String) : Prop :=
  env.bufferToHexPrefixString (env.hexToBuffer s) = s

instance (env : Env) (s : String) : Decidable (env.HexRoundTrip s) :=
  inferInstanceAs (Decidable (_ = _))

/-- The payload fields of `tx` are exactly those of its `type_id`, one of the five. -/
def DbTx.payloadOfType (tx : DbTx) : Bool :=
  let tokenTransfer := [tx.token_transfer_recipient_address.isSome, tx.token_transfer_amount.isSome,
    tx.token_transfer_memo.isSome]
  let smartContract := [tx.smart_contract_contract_id.isSome, tx.smart_contract_source_code.isSome]
  let contractCall := [tx.contract_call_contract_id.isSome, tx.contract_call_function_name.isSome,
    tx.contract_call_function_args.isSome]
  let poisonMicroblock := [tx.poison_microblock_header_1.isSome,
    tx.poison_microblock_header_2.isSome]
  let coinbase := [tx.coinbase_payload.isSome]
  let fields := [(DbTxTypeId.TokenTransfer, tokenTransfer), (DbTxTypeId.SmartContract, smartContract),
    (DbTxTypeId.ContractCall, contractCall), (DbTxTypeId.PoisonMicroblock, poisonMicroblock),
    (DbTxTypeId.Coinbase, coinbase)]
  fields.any (·.1 == tx.type_id) &&
    fields.all fun f => f.2.all (· == (f.1 == tx.type_id))

end Sidecar.Datastore

namespace Sidecar.Query

open Sidecar.Datastore

section Rows

variable {env : Env}

/-- A block reads back as `updateBlock` wrote it. -/
theorem parseBlockQueryResult_row {b : DbBlock}
    (hx : ∀ s ∈ [b.block_hash, b.index_block_hash, b.parent_index_block_hash, b.parent_block_hash,
      b.parent_microblock], env.HexRoundTrip s) :
    parseBlockQueryResult env (b.row env) = b := by
  simp only [List.mem_cons, List.mem_singleton, List.not_mem_nil, or_false, forall_eq_or_imp,
    forall_eq, Env.HexRoundTrip] at hx
  obtain ⟨h1, h2, h3, h4, h5⟩ := hx
  simp only [parseBlockQueryResult, DbBlock.row, h1, h2, h3, h4, h5]

/-- The four event rows read back as their inserts wrote them, whatever the transaction whose
`index_block_hash` they carry. -/
theorem event_row (tx : DbTx) :
    (∀ e : DbStxEvent, env.HexRoundTrip e.tx_id →
      (AssetEventRow.stx (e.row env tx)).event env = .stx e) ∧
    (∀ e : DbFtEvent, env.HexRoundTrip e.tx_id →
      (AssetEventRow.ft (e.row env tx)).event env = .ft e) ∧
    (∀ e : DbNftEvent, env.HexRoundTrip e.tx_id →
      (AssetEventRow.nft (e.row env tx)).event env = .nft e) ∧
    (∀ e : DbSmartContractEvent, env.HexRoundTrip e.tx_id →
      contractLogEvent env (e.row env tx) = .contractLog e) := by
  refine ⟨?_, ?_, ?_, ?_⟩ <;> rintro ⟨⟩ (h : _ = _) <;>
    simp only [AssetEventRow.event, contractLogEvent, DbStxEvent.row, DbFtEvent.row,
      DbNftEvent.row, DbSmartContractEvent.row, h]

/-- A transaction whose payload is that of its type reads back as `updateTx` wrote it, provided
its contract-call arguments do. -/
theorem parseTxQueryResult_row {tx : DbTx}
    (hx : ∀ s ∈ [tx.tx_id, tx.index_block_hash, tx.block_hash], env.HexRoundTrip s)
    (hp : tx.payloadOfType = true)
    (hargs : tx.contract_call_function_args.map
      (fun args => env.byteaBufferArray (env.bufferArrayParam args)) =
        tx.contract_call_function_args) :
    parseTxQueryResult env (tx.row env) = .ok tx := by
  obtain ⟨tx_id, tx_index, ibh, bh, height, btime, type_id, status, canonical, pc, fee, sponsored,
    sender, ohm, ttr, tta, ttm, scid, scsrc, ccid, ccfn, ccargs, pm1, pm2, cb⟩ := tx
  simp only [List.mem_cons, List.mem_singleton, List.not_mem_nil, or_false, forall_eq_or_imp,
    forall_eq, Env.HexRoundTrip] at hx
  obtain ⟨h1, h2, h3⟩ := hx
  simp only [DbTx.payloadOfType, DbTxTypeId.TokenTransfer, DbTxTypeId.SmartContract,
    DbTxTypeId.ContractCall, DbTxTypeId.PoisonMicroblock, DbTxTypeId.Coinbase, List.any_cons,
    List.all_cons, List.any_nil, List.all_nil, Bool.and_eq_true, Bool.or_eq_true, beq_iff_eq,
    Bool.or_false, Bool.and_true, or_false] at hp
  simp only [parseTxQueryResult, DbTx.row, h1, h2, h3, DbTxTypeId.TokenTransfer,
    DbTxTypeId.SmartContract, DbTxTypeId.ContractCall, DbTxTypeId.PoisonMicroblock,
    DbTxTypeId.Coinbase]
  obtain ⟨hty, hf⟩ := hp
  rcases hty with rfl | rfl | rfl | rfl | rfl <;> simp [beq_eq_decide] at hf
  case inl =>
    obtain ⟨⟨-, hta, -⟩, ⟨rfl, rfl⟩, ⟨rfl, rfl, rfl⟩, ⟨rfl, rfl⟩, rfl⟩ := hf
    obtain ⟨a, rfl⟩ := Option.isSome_iff_exists.1 hta
    rfl
  case inr.inl =>
    obtain ⟨⟨rfl, rfl, rfl⟩, -, ⟨rfl, rfl, rfl⟩, ⟨rfl, rfl⟩, rfl⟩ := hf
    rfl
  case inr.inr.inl =>
    obtain ⟨⟨rfl, rfl, rfl⟩, ⟨rfl, rfl⟩, -, ⟨rfl, rfl⟩, rfl⟩ := hf
    simp only [Option.map_map] at hargs ⊢
    simp only [Function.comp_def, hargs]
    rfl
  case inr.inr.inr.inl =>
    obtain ⟨⟨rfl, rfl, rfl⟩, ⟨rfl, rfl⟩, ⟨rfl, rfl, rfl⟩, -, rfl⟩ := hf
    rfl
  case inr.inr.inr.inr =>
    obtain ⟨⟨rfl, rfl, rfl⟩, ⟨rfl, rfl⟩, ⟨rfl, rfl, rfl⟩, ⟨rfl, rfl⟩, -⟩ := hf
    rfl

/-- `parseTxQueryResult` copies the column into `contract_call_function_args` in the
`ContractCall` branch and sets nothing in the others. -/
theorem parseTxQueryResult_args {r : Row TxColumns} {tx : DbTx}
    (h : parseTxQueryResult env r = .ok tx) :
    tx.contract_call_function_args = none ∨
      tx.contract_call_function_args = r.cols.contract_call_function_args.map env.byteaBufferArray := by
  simp only [parseTxQueryResult] at h
  split at h
  · cases hb : bigInt r.cols.token_transfer_amount <;> rw [hb] at h <;> cases h
    exact .inl rfl
  split at h
  · cases h; exact .inl rfl
  split at h
  · cases h; exact .inr rfl
  split at h
  · cases h; exact .inl rfl
  split at h
  · cases h; exact .inl rfl
  · cases h

end Rows

/-! ## Contract-call arguments -/

/-- **The arguments of a contract call do not read back.** When the `bytea` column reads back as
one `Buffer`, a transaction with other than one contract-call argument is not what
`parseTxQueryResult` returns for the row `updateTx` wrote, whatever its other fields. When that
`Buffer` holds the bytes stored and node-postgres sends a `Buffer[]` as its array literal, no
contract call reads back, whatever its arguments: one argument comes back as its literal. -/
theorem contractCall_args_not_read_back {env : Env}
    (hb : ∀ b, (env.byteaBufferArray b).length = 1) {tx : DbTx} {args : List Buffer}
    (hargs : tx.contract_call_function_args = some args) :
    (args.length ≠ 1 → parseTxQueryResult env (tx.row env) ≠ .ok tx) ∧
    ((∀ b, env.byteaBufferArray b = [b]) → env.bufferArrayParam = pgBufferArrayLiteral →
      parseTxQueryResult env (tx.row env) ≠ .ok tx) := by
  -- what `parseTxQueryResult` copies into the field, if it reads back
  have read : parseTxQueryResult env (tx.row env) = .ok tx →
      args = env.byteaBufferArray (env.bufferArrayParam args) := fun h => by
    rcases parseTxQueryResult_args h with h' | h' <;> rw [hargs] at h'
    · exact absurd h' (Option.some_ne_none _)
    · simpa only [DbTx.row, hargs, Option.map_some', Option.some.injEq] using h'
  refine ⟨fun hlen h => hlen (by rw [read h, hb]), fun hone hlit h => ?_⟩
  have hread := read h
  rw [hone, hlit] at hread
  obtain ⟨a, rfl⟩ := List.length_eq_one.1 (congrArg List.length hread)
  have hlen := congrArg List.length (List.singleton_inj.1 hread)
  rw [length_pgBufferArrayLiteral_singleton] at hlen
  omega

/-- A contract call with two arguments, its payload that of its type. -/
def contractCallTx : DbTx :=
  { tx_id := "0xc1", tx_index := 0, index_block_hash := "0x02", block_hash := "0x02",
    block_height := 2, burn_block_time := 0, type_id := DbTxTypeId.ContractCall,
    status := DbTxStatus.Success, canonical := true, post_conditions := none, fee_rate := 1,
    sponsored := false, sender_address := "SP1", origin_hash_mode := 0,
    token_transfer_recipient_address := none, token_transfer_amount := none,
    token_transfer_memo := none, smart_contract_contract_id := none,
    smart_contract_source_code := none, contract_call_contract_id := some "SP2.c",
    contract_call_function_name := some "f", contract_call_function_args := some [[1], [2]],
    poison_microblock_header_1 := none, poison_microblock_header_2 := none,
    coinbase_payload := none }

/-- The same call with the one argument `<01>`. -/
def oneArgCallTx : DbTx := { contractCallTx with contract_call_function_args := some [[1]] }

theorem contractCallTx_not_read_back :
    contractCallTx.payloadOfType = true ∧ oneArgCallTx.payloadOfType = true ∧
    (∀ s ∈ [contractCallTx.tx_id, contractCallTx.index_block_hash, contractCallTx.block_hash],
      Env.plain.HexRoundTrip s) ∧
    parseTxQueryResult Env.plain (contractCallTx.row Env.plain) ≠ .ok contractCallTx ∧
    parseTxQueryResult Env.plain (oneArgCallTx.row Env.plain) ≠ .ok oneArgCallTx :=
  ⟨by decide, by decide, by decide,
    (@contractCall_args_not_read_back Env.plain (fun _ => rfl) _ _ rfl).1 (by decide),
    (@contractCall_args_not_read_back Env.plain (fun _ => rfl) _ _ rfl).2 (fun _ => rfl) rfl⟩

/-- The two arguments come back as one `Buffer`, their literal `{\x01,\x02}`. -/
example : parseTxQueryResult Env.plain (contractCallTx.row Env.plain) =
    .ok { contractCallTx with contract_call_function_args := some [pgBufferArrayLiteral [[1], [2]]] } :=
  rfl

/-! ## `fee_rate` -/

/-- **A `u64` fee rate from `2^63` on is not stored.** Where the `txs` table enforces the column
types of its migration, `updateTx` fails on a transaction whose `fee_rate` is at least `2^63`,
from every store: the column is a `bigint`. -/
theorem updateTx_fee_rate_rejected {env : Env} (htypes : env.TxColumnTypes) (S : Store)
    {tx : DbTx} (hfee : 2 ^ 63 ≤ tx.fee_rate) : updateTx env S tx = .error .constraint := by
  have hacc : env.txsAccept S.txs (tx.row env) = false := by
    refine Bool.eq_false_iff.2 fun h => ?_
    have := htypes _ _ h
    simp only [TxColumns.typesFit, bigint, pgIntFits, DbTx.row, Bool.and_eq_true,
      decide_eq_true_eq] at this
    omega
  simp only [updateTx, sqlInsert, hacc]
  rfl

/-- `Env.plain` with the column types of `txs` enforced. -/
def typedEnv : Env := { Env.plain with txsAccept := fun _ r => r.cols.typesFit }

theorem fee_rate_two_pow_63_rejected :
    typedEnv.TxColumnTypes ∧ (0 ≤ (2 : Int) ^ 63 ∧ (2 : Int) ^ 63 < 2 ^ 64) ∧
    updateTx typedEnv Store.empty { contractCallTx with fee_rate := 2 ^ 63 } =
      .error .constraint :=
  ⟨fun _ _ h => h, by decide,
    @updateTx_fee_rate_rejected typedEnv (fun _ _ h => h) Store.empty _ le_rfl⟩

/-- One below, the same transaction is stored. -/
example : (updateTx typedEnv Store.empty
    { contractCallTx with fee_rate := 2 ^ 63 - 1 }).toOption.map (·.2) = some 1 := by
  decide

end Sidecar.Query
