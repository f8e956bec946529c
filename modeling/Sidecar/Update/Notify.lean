import Sidecar.Update.Frame

/-!
# What `update` reports and emits

Model of the end of `update` (`postgres-store.ts:258-270`): after `COMMIT` it emits
`blockUpdate` with the batch's block and one `txUpdate` per entry, in the order of `data.txs`,
inside the `try` whose `catch` issues `ROLLBACK` and rethrows. What it sends is the batch after
the downgrade, whether or not `updateBlock` inserted the block.

Results:
* `update_result_ok`: a call that resolves committed its transaction and emitted every
  notification of the batch after the downgrade;
* `update_notifications`: from a reachable store, a resolving call on a well-formed batch emits
  `blockUpdate` and the `txUpdate`s of the batch after the downgrade; when the block was new, the
  notified block is stored, and every notified transaction has a row whose flags are the notified
  one;
* `redelivery_notified_noncanonical`: a resolving call on a batch whose block is stored writes
  nothing, yet emits the block and its transactions with `canonical = false`, whatever the
  stored flag; `redelivery_notifies` is such a call on the canonical tip of the sample store;
* `update_rejects_after_commit`: a listener throwing on `blockUpdate` makes `update` reject a call
  whose writes are committed, and the `txUpdate` is never sent.
-/

namespace Sidecar.Update

open Sidecar.Datastore Sidecar.Canonical

variable {env : Env} {S : Store} {data : DataStoreUpdateData}

/-- With no listener throwing, every notification is sent. -/
theorem emitAll_of_not_throws (listenerThrows : Notification → Bool) :
    ∀ {ns : List Notification}, (emitAll listenerThrows ns).2 = false →
      (emitAll listenerThrows ns).1 = ns
  | [], _ => rfl
  | n :: ns, h => by
    cases hn : listenerThrows n
    · simp only [emitAll, hn, Bool.false_eq_true, if_false] at h ⊢
      exact congrArg (n :: ·) (emitAll_of_not_throws listenerThrows h)
    · simp [emitAll, hn] at h

/-- A call that resolves committed its transaction and sent every notification of the batch after
the downgrade. -/
theorem update_result_ok {listenerThrows : Notification → Bool}
    (h : (update env listenerThrows S data).result = .ok ()) :
    ∃ S' data', updateWrites env S data = .ok (S', data') ∧
      (update env listenerThrows S data).store = S' ∧
      (update env listenerThrows S data).emitted = data'.notifications := by
  cases hw : updateWrites env S data with
  | error e => rw [update_of_error _ _ hw] at h; cases h
  | ok r =>
    obtain ⟨S', data'⟩ := r
    rw [update_of_ok _ _ hw] at h ⊢
    dsimp only at h ⊢
    split_ifs at h with ht
    exact ⟨S', data', rfl, rfl, emitAll_of_not_throws _ (Bool.eq_false_iff.2 ht)⟩

/-- **The notifications of a resolving call.** From a reachable store, a call on a well-formed
batch that resolves emits `blockUpdate` and then one `txUpdate` per entry, in the order of
`data.txs`, of the batch after the downgrade, whether or not the block was inserted. When the
block was new, the notified block is stored as notified, and every notified transaction has a
row, and every row with its `index_block_hash` has the notified flag. -/
theorem update_notifications (hS : Reachable env S) (hwf : data.WellFormed)
    (listenerThrows : Notification → Bool) (h : (update env listenerThrows S data).result = .ok ()) :
    ∃ data', data' = (if data.block.block_height ≤ (getChainTipHeight env S).blockHeight then
        data.markNonCanonical else data) ∧
      (update env listenerThrows S data).emitted = data'.notifications ∧
      (env.hexToBuffer data.block.index_block_hash ∉ hashes S.blocks →
        data'.block.row env ∈ (update env listenerThrows S data).store.blocks ∧
        ∀ e ∈ data'.txs,
          (∃ r ∈ (update env listenerThrows S data).store.txs,
            r.cols.tx_id = env.hexToBuffer e.tx.tx_id ∧
              r.index_block_hash = env.hexToBuffer e.tx.index_block_hash) ∧
          ∀ r ∈ (update env listenerThrows S data).store.txs,
            r.index_block_hash = env.hexToBuffer e.tx.index_block_hash → r.canonical = e.tx.canonical) := by
  obtain ⟨S', d, hw, hst, hem⟩ := update_result_ok h
  obtain ⟨S1, ue, S2, n, h1, rfl, h2, h3⟩ := updateWrites_ok hw
  refine ⟨_, rfl, hem, fun hfresh => ?_⟩
  rw [hst]
  have hr := reorg_spec hS.inv hwf.height h1
  have hcar := downgrade_carries hwf.carries (getChainTipHeight env S).blockHeight
  have hh : (if data.block.block_height ≤ (getChainTipHeight env S).blockHeight then
      data.markNonCanonical else data).block.index_block_hash = data.block.index_block_hash := by
    split_ifs <;> rfl
  generalize (if data.block.block_height ≤ (getChainTipHeight env S).blockHeight then
    data.markNonCanonical else data) = d at hcar hh h2 h3 ⊢
  -- the reorg changes flags only, so the block is new in its store too
  have hfresh1 : env.hexToBuffer d.block.index_block_hash ∉ hashes S1.blocks := by
    obtain ⟨g, rfl⟩ := hr.relabel
    simpa [hashes, hh, Function.comp_def] using hfresh
  rcases updateBlock_ok h2 with ⟨-, -, hany⟩ | ⟨rfl, rfl, -⟩
  · obtain ⟨b, hb, hbh⟩ := List.any_eq_true.1 hany
    exact absurd (List.mem_map.2 ⟨b, hb, (beq_iff_eq.1 hbh).trans rfl⟩) hfresh1
  obtain ⟨-, h3⟩ := h3.resolve_left fun h => Nat.one_ne_zero h.1
  have happ := foldlM_insertEntry_appends hcar.txs h3
  obtain ⟨N, hN, hNp⟩ := happ.txs
  refine ⟨happ.mem_block, fun e he => ⟨foldlM_insertEntry_tx_mem h3 e he, fun r hr' hrh => ?_⟩⟩
  obtain ⟨he1, he2⟩ := hcar.txs e he
  rcases List.mem_append.1 (hN ▸ hr') with hr' | hr'
  · -- a row stored before carries the hash of a stored block, and the block is new
    obtain ⟨b, hb, hbh, -⟩ := hr.inv.agrees.1 r hr'
    exact absurd (List.mem_map.2 ⟨b, hb, hbh.trans (hrh.trans (congrArg _ he1))⟩) hfresh1
  · exact (hNp r hr').2.trans he2.tx.symm

/-- The store after the first batch of the sample run. -/
def genesisStore : Store := (update Env.plain (fun _ => false) Store.empty genesisBatch).store

theorem genesisStore_reachable : Reachable Env.plain genesisStore :=
  Reachable.empty.step _ (wellFormed_of_block (by decide) rfl)

/-- The transfer batch on the genesis store resolves and sends `blockUpdate` and its
`txUpdate`. -/
theorem transfer_notifications :
    (update Env.plain (fun _ => false) genesisStore transferBatch).emitted =
      transferBatch.notifications := by
  obtain ⟨d, hd, he, -⟩ :=
    update_notifications genesisStore_reachable transferBatch_wf (fun _ => false) rfl
  rw [he, hd]; rfl

/-- **A stored block is notified again, as non-canonical.** From a reachable store, a call on a
batch whose block is stored, with whatever flag, that resolves writes nothing and still emits
`blockUpdate` and the `txUpdate`s, with every flag of the batch set to `false`: the block is at
or below the tip, so `update` downgrades the batch, and it emits whether or not `updateBlock`
inserted the block. A block stored canonical is thus notified non-canonical. -/
theorem redelivery_notified_noncanonical (hS : Reachable env S) {c : Bool}
    (hstored : { data.block.row env with canonical := c } ∈ S.blocks)
    {listenerThrows : Notification → Bool} (h : (update env listenerThrows S data).result = .ok ()) :
    (update env listenerThrows S data).store = S ∧
      (update env listenerThrows S data).emitted = data.markNonCanonical.notifications := by
  obtain ⟨S', d, hw, hst, hem⟩ := update_result_ok h
  obtain ⟨S1, ue, S2, n, h1, rfl, h2, h3⟩ := updateWrites_ok hw
  -- the stored block is at or below the tip
  have hle : data.block.block_height ≤ (getChainTipHeight env S).blockHeight := by
    rcases hS.inv.tip env with ⟨h0, -⟩ | ⟨T, ht, htip, -⟩
    · rw [h0] at hstored; exact absurd hstored (List.not_mem_nil _)
    · rw [htip]; exact ht.tip _ hstored
  obtain rfl := (handleReorg_ok h1).resolve_right fun ⟨hlt, _⟩ => absurd hle (by omega)
  rw [if_pos hle] at h2 hem
  rcases updateBlock_ok h2 with ⟨rfl, rfl, -⟩ | ⟨-, -, hfresh⟩
  · obtain ⟨-, rfl⟩ := h3.resolve_right fun h => h.1 rfl
    exact ⟨hst, hem⟩
  · rw [List.any_eq_false] at hfresh
    exact (hfresh _ hstored (beq_self_eq_true _)).elim

/-- The last batch of the sample run, whose block is stored canonical. -/
def redeliveredBatch : DataStoreUpdateData := ⟨sampleBlock "0x04" "0x03" 3, []⟩

/-- Redelivering the canonical tip of the reachable sample store resolves and writes nothing,
but sends `blockUpdate` with the block set non-canonical, while the stored row is canonical. -/
theorem redelivery_notifies :
    Reachable Env.plain sampleStore ∧
    { redeliveredBatch.block.row Env.plain with canonical := true } ∈ sampleStore.blocks ∧
    (update Env.plain (fun _ => false) sampleStore redeliveredBatch).result = .ok () ∧
    (update Env.plain (fun _ => false) sampleStore redeliveredBatch).store = sampleStore ∧
    (update Env.plain (fun _ => false) sampleStore redeliveredBatch).emitted =
      [.blockUpdate { redeliveredBatch.block with canonical := false }] :=
  have hstored : { redeliveredBatch.block.row Env.plain with canonical := true } ∈
      sampleStore.blocks := by decide
  have hres : (update Env.plain (fun _ => false) sampleStore redeliveredBatch).result = .ok () :=
    rfl
  have h := redelivery_notified_noncanonical sample_reachable hstored hres
  ⟨sample_reachable, hstored, hres, h.1, h.2⟩

/-- A listener that throws on `blockUpdate`. -/
def throwsOnBlockUpdate : Notification → Bool
  | .blockUpdate _ => true
  | .txUpdate _ => false

/-- With a listener throwing on `blockUpdate`, `update` of the transfer batch on the reachable
genesis store rejects, yet its block and transaction are committed, and the `txUpdate` is never
sent. -/
theorem update_rejects_after_commit :
    Reachable Env.plain genesisStore ∧
    (update Env.plain throwsOnBlockUpdate genesisStore transferBatch).result = .error .listener ∧
    (update Env.plain throwsOnBlockUpdate genesisStore transferBatch).store =
      (update Env.plain (fun _ => false) genesisStore transferBatch).store ∧
    (update Env.plain throwsOnBlockUpdate genesisStore transferBatch).store ≠ genesisStore ∧
    (update Env.plain throwsOnBlockUpdate genesisStore transferBatch).emitted =
      [.blockUpdate transferBatch.block] :=
  ⟨genesisStore_reachable, rfl, rfl, by decide, rfl⟩

end Sidecar.Update
