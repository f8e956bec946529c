import Sidecar.Datastore.Common

/-!
# `createDbTxFromCoreMsg`

Model of the conversion of a parsed core-node transaction message into the `DbTx` of the
`datastore/common.ts` under `src/`. That revision's `DbTx` has no `index_block_hash` and no field
for a poison-microblock payload, so it is its own record here, beside the store's.

* The message has the fields the conversion reads: `core_tx` (`txid`, `tx_index`, `success`),
  `raw_tx` (its `version`, the `auth` type and origin condition, `rawPostConditions` and the
  `payload`), `block_hash`, `block_height` and `sender_address`.
* `TransactionPayload` has the five payload types of `p2p/tx.ts`, each with the fields the
  conversion reads, and the Clarity values of a contract call are of a type `ClarityValue` the
  conversion only serializes. The parser of `p2p/tx.ts` builds no other payload type, so the
  `default` case of the `switch` is not reached and is left out.
* The codecs the conversion calls and `src/` does not define (`c32address`,
  `Address.fromHashMode`, `serializeCV`, `Buffer.prototype.toString('hex')`) are the fields of a
  `Codec`. `parseEnum` of `helpers.ts` returns the member of the enum equal to the number and
  throws on any other.

Results:
* `createDbTxFromCoreMsg_ok`: a message whose payload is not a poison microblock gives a `DbTx`,
  with the payload's type as `type_id`, `canonical` set, and the payload fields of that type and
  no other;
* `createDbTxFromCoreMsg_poisonMicroblock`: a poison-microblock message throws
  `NotImplementedError`, whatever the rest of the message.
-/

namespace Sidecar.EventStream

open Sidecar.Datastore (Buffer)

/-! ## The message -/

/-- The `address` of a token-transfer or contract-call payload. -/
structure Address where
  version : Int
  bytes : Buffer
  deriving DecidableEq, Repr

/-- `TransactionPayload` of `p2p/tx.ts`, one constructor per payload type. -/
inductive TransactionPayload (ClarityValue : Type)
  | tokenTransfer (address : Address) (amount : Int) (memo : Buffer)
  | smartContract (name : String) (codeBody : String)
  | contractCall (address : Address) (contractName functionName : String)
      (functionArgs : List ClarityValue)
  | poisonMicroblock
  | coinbase (payload : Buffer)
  deriving DecidableEq, Repr

/-- `payload.typeId`, the payload's `TransactionPayloadTypeID`. -/
def TransactionPayload.typeId {ClarityValue : Type} : TransactionPayload ClarityValue → Int
  | .tokenTransfer .. => 0x00
  | .smartContract .. => 0x01
  | .contractCall .. => 0x02
  | .poisonMicroblock => 0x03
  | .coinbase .. => 0x04

/-- `TransactionAuthTypeID.Sponsored`. -/
def TransactionAuthTypeID.Sponsored : Int := 0x05

/-- The origin's spending condition: `hashMode`, `signer` and `feeRate` (a `bigint`, u64). -/
structure SpendingCondition where
  hashMode : Int
  signer : Buffer
  feeRate : Int
  deriving DecidableEq, Repr

/-- `TransactionAuth`: its type and the origin's spending condition. -/
structure TransactionAuth where
  typeId : Int
  originCondition : SpendingCondition
  deriving DecidableEq, Repr

/-- The parsed `Transaction` of `p2p/tx.ts`. -/
structure Transaction (ClarityValue : Type) where
  version : Int
  auth : TransactionAuth
  rawPostConditions : Buffer
  payload : TransactionPayload ClarityValue
  deriving DecidableEq, Repr

/-- `CoreNodeTxMessage`, as the core node reports a transaction of a block. -/
structure CoreNodeTxMessage where
  txid : String
  tx_index : Int
  success : Bool
  deriving DecidableEq, Repr

/-- `CoreNodeParsedTxMessage`: the core node's report, the parsed transaction, and its block. -/
structure CoreNodeParsedTxMessage (ClarityValue : Type) where
  core_tx : CoreNodeTxMessage
  raw_tx : Transaction ClarityValue
  block_hash : String
  block_height : Int
  sender_address : String
  deriving DecidableEq, Repr

/-! ## The record -/

/-- `DbTx` of `datastore/common.ts`: the required fields, then the payload fields of the token
transfer, contract call, smart contract and coinbase types. -/
structure DbTx where
  block_hash : String
  block_height : Int
  tx_id : String
  tx_index : Int
  type_id : Int
  status : Int
  canonical : Bool
  post_conditions : Option Buffer
  fee_rate : Int
  sender_address : String
  origin_hash_mode : Int
  sponsored : Bool
  token_transfer_recipient_address : Option String
  token_transfer_amount : Option Int
  token_transfer_memo : Option Buffer
  contract_call_contract_id : Option String
  contract_call_function_name : Option String
  contract_call_function_args : Option (List Buffer)
  smart_contract_contract_id : Option String
  smart_contract_source_code : Option String
  coinbase_payload : Option Buffer
  deriving DecidableEq, Repr

/-- The payload fields of `tx` are exactly those of its `type_id`, one of the five (a poison
microblock has none in this `DbTx`). -/
def DbTx.payloadOfType (tx : DbTx) : Bool :=
  let fields := [(Datastore.DbTxTypeId.TokenTransfer, [tx.token_transfer_recipient_address.isSome,
      tx.token_transfer_amount.isSome, tx.token_transfer_memo.isSome]),
    (Datastore.DbTxTypeId.SmartContract, [tx.smart_contract_contract_id.isSome,
      tx.smart_contract_source_code.isSome]),
    (Datastore.DbTxTypeId.ContractCall, [tx.contract_call_contract_id.isSome,
      tx.contract_call_function_name.isSome, tx.contract_call_function_args.isSome]),
    (Datastore.DbTxTypeId.PoisonMicroblock, []),
    (Datastore.DbTxTypeId.Coinbase, [tx.coinbase_payload.isSome])]
  fields.any (·.1 == tx.type_id) &&
    fields.all fun f => f.2.all (· == (f.1 == tx.type_id))

/-! ## The conversion -/

/-- The codecs of `c32check` and `stacks-transactions` that the conversion calls. -/
structure Codec (ClarityValue : Type) where
  /-- `c32address(version, hash160Hex)`. -/
  c32address : Int → String → String
  /-- `Address.fromHashMode(hashMode, version, signerHex).toString()`. -/
  addressFromHashMode : Int → Int → String → String
  /-- `serializeCV`. -/
  serializeCV : ClarityValue → Buffer
  /-- `Buffer.prototype.toString('hex')`. -/
  toHex : Buffer → String

/-- What the conversion throws. -/
inductive CoreMsgError
  /-- `NotImplementedError` of `errors.ts`, with its message. -/
  | NotImplementedError (message : String)
  /-- The error `parseEnum` throws for a number that is no member of the enum. -/
  | parseEnum (num : Int)
  deriving DecidableEq, Repr

/-- `parseEnum` of `helpers.ts`: the member of the enum equal to `num`. -/
def parseEnum (enumValues : List Int) (num : Int) : Except CoreMsgError Int :=
  if enumValues.contains num then .ok num else .error (.parseEnum num)

/-- The members of `DbTxTypeId`. -/
def dbTxTypeIds : List Int :=
  [Datastore.DbTxTypeId.TokenTransfer, Datastore.DbTxTypeId.SmartContract,
    Datastore.DbTxTypeId.ContractCall, Datastore.DbTxTypeId.PoisonMicroblock,
    Datastore.DbTxTypeId.Coinbase]

variable {ClarityValue : Type} (codec : Codec ClarityValue)

/-- `createDbTxFromCoreMsg`: the required fields from the message, then the payload fields by
`rawTx.payload.typeId`. -/
def createDbTxFromCoreMsg (msg : CoreNodeParsedTxMessage ClarityValue) :
    Except CoreMsgError DbTx := do
  let coreTx := msg.core_tx
  let rawTx := msg.raw_tx
  let type_id ← parseEnum dbTxTypeIds rawTx.payload.typeId
  let dbTx : DbTx :=
    { tx_id := coreTx.txid
      tx_index := coreTx.tx_index
      block_hash := msg.block_hash
      block_height := msg.block_height
      type_id := type_id
      status := if coreTx.success then Datastore.DbTxStatus.Success else Datastore.DbTxStatus.Failed
      fee_rate := rawTx.auth.originCondition.feeRate
      sender_address := msg.sender_address
      origin_hash_mode := rawTx.auth.originCondition.hashMode
      sponsored := rawTx.auth.typeId == TransactionAuthTypeID.Sponsored
      canonical := true
      post_conditions := some rawTx.rawPostConditions
      token_transfer_recipient_address := none
      token_transfer_amount := none
      token_transfer_memo := none
      contract_call_contract_id := none
      contract_call_function_name := none
      contract_call_function_args := none
      smart_contract_contract_id := none
      smart_contract_source_code := none
      coinbase_payload := none }
  match rawTx.payload with
  | .tokenTransfer address amount memo =>
    let recipient := codec.c32address address.version (codec.toHex address.bytes)
    pure { dbTx with
      token_transfer_recipient_address := some recipient
      token_transfer_amount := some amount
      token_transfer_memo := some memo }
  | .smartContract name codeBody =>
    let sender_address := codec.addressFromHashMode rawTx.auth.originCondition.hashMode
      rawTx.version (codec.toHex rawTx.auth.originCondition.signer)
    pure { dbTx with
      smart_contract_contract_id := some (sender_address ++ "." ++ name)
      smart_contract_source_code := some codeBody }
  | .contractCall address contractName functionName functionArgs =>
    let contractAddress := codec.c32address address.version (codec.toHex address.bytes)
    pure { dbTx with
      contract_call_contract_id := some (contractAddress ++ "." ++ contractName)
      contract_call_function_name := some functionName
      contract_call_function_args := some (functionArgs.map codec.serializeCV) }
  | .poisonMicroblock => throw (.NotImplementedError "Extracting poison_microblock tx data")
  | .coinbase payload => pure { dbTx with coinbase_payload := some payload }

/-- Every payload other than a poison microblock gives a `DbTx` of the payload's type, on the
canonical chain, with the payload fields of its type and no other. -/
theorem createDbTxFromCoreMsg_ok {msg : CoreNodeParsedTxMessage ClarityValue}
    (h : msg.raw_tx.payload ≠ .poisonMicroblock) :
    ∃ tx, createDbTxFromCoreMsg codec msg = .ok tx ∧ tx.type_id = msg.raw_tx.payload.typeId ∧
      tx.canonical = true ∧ tx.payloadOfType = true := by
  obtain ⟨coreTx, ⟨version, auth, rawPostConditions, payload⟩, block_hash, block_height,
    sender_address⟩ := msg
  cases payload
  case poisonMicroblock => exact absurd rfl h
  all_goals exact ⟨_, rfl, rfl, rfl, rfl⟩

/-- **A poison microblock is not converted.** Whatever the rest of the message, a transaction
whose payload is a poison microblock makes the conversion throw `NotImplementedError`, and no
`DbTx` holds its headers. -/
theorem createDbTxFromCoreMsg_poisonMicroblock {msg : CoreNodeParsedTxMessage ClarityValue}
    (h : msg.raw_tx.payload = .poisonMicroblock) :
    createDbTxFromCoreMsg codec msg =
      .error (.NotImplementedError "Extracting poison_microblock tx data") := by
  obtain ⟨coreTx, ⟨version, auth, rawPostConditions, payload⟩, block_hash, block_height,
    sender_address⟩ := msg
  cases h
  rfl

/-- A successful poison-microblock transaction at index 0 of block `0x02`. -/
def poisonMicroblockMsg : CoreNodeParsedTxMessage Unit :=
  ⟨⟨"0xd1", 0, true⟩, ⟨0, ⟨4, ⟨0, [], 1⟩⟩, [], .poisonMicroblock⟩, "0x02", 2, "SP1"⟩

theorem poisonMicroblockMsg_not_converted :
    poisonMicroblockMsg.raw_tx.payload = .poisonMicroblock ∧
    createDbTxFromCoreMsg ⟨fun _ _ => "", fun _ _ _ => "", fun _ => [], fun _ => ""⟩
      poisonMicroblockMsg =
      .error (.NotImplementedError "Extracting poison_microblock tx data") :=
  ⟨rfl, createDbTxFromCoreMsg_poisonMicroblock _ rfl⟩

end Sidecar.EventStream
