import Sidecar.Update.Frame

/-!
# Redelivering a batch

`update` runs `handleReorg` before `updateBlock`, whose `INSERT` has
`ON CONFLICT (index_block_hash) DO NOTHING` (`postgres-store.ts:221-272`, `535-556`), and it
inserts the transactions and events only when the block was inserted.

Results:
* `update_eq_self`: a call that runs no reorg on a batch whose `index_block_hash` is stored
  writes nothing, and `update_eq_self_of_stored`: neither does a call from a store satisfying
  `Inv` on a batch whose block is stored at its own height;
* `update_idempotent`: from a reachable store, a well-formed batch whose block is stored at its
  own height changes nothing, and a batch ingested twice in a row leaves the store of the first
  call;
* `run_blocksFrom`, `run_keeps_position`: a run stores only its batches' blocks, at their heights,
  and keeps every block's `index_block_hash` and height;
* `redelivery_unchanged`: along a run in which an `index_block_hash` names one height
  (`PositionsUnique`, the data model's chain-position identifier), a batch that was ingested
  changes nothing when it is redelivered, however far the chain moved since. Without that, a
  batch whose `index_block_hash` is stored at another height resolves without an insert, and its
  reorg runs again on redelivery.
-/

namespace Sidecar.Update

open Sidecar.Datastore Sidecar.Canonical

variable {env : Env} {S : Store} {data : DataStoreUpdateData}

/-- The store `update` leaves does not depend on the listeners. -/
theorem update_store_listeners (listenerThrows listenerThrows' : Notification → Bool) :
    (update env listenerThrows S data).store = (update env listenerThrows' S data).store := by
  cases hw : updateWrites env S data with
  | error e => rw [update_of_error _ _ hw, update_of_error _ _ hw]
  | ok r => rw [update_of_ok _ _ hw, update_of_ok _ _ hw]

/-- A call whose reorg keeps the store, on a batch whose `index_block_hash` is stored, writes
nothing: the block `INSERT` conflicts and the entity inserts are skipped. -/
theorem update_eq_self (listenerThrows : Notification → Bool)
    (hr : ∀ S1 ue, handleReorg env S data.block (getChainTipHeight env S).blockHeight =
      .ok (S1, ue) → S1 = S)
    (hh : env.hexToBuffer data.block.index_block_hash ∈ hashes S.blocks) :
    (update env listenerThrows S data).store = S := by
  cases hw : updateWrites env S data with
  | error e => rw [update_of_error _ _ hw]
  | ok r =>
    obtain ⟨S', data'⟩ := r
    rw [update_of_ok _ _ hw]
    obtain ⟨S1, ue, S2, n, h1, rfl, h2, h3⟩ := updateWrites_ok hw
    obtain rfl := hr S1 ue h1
    rcases updateBlock_ok h2 with ⟨rfl, rfl, -⟩ | ⟨-, -, hfresh⟩
    · obtain ⟨-, rfl⟩ := h3.resolve_right fun h => h.1 rfl
      rfl
    · obtain ⟨b, hb, hbh⟩ := List.mem_map.1 hh
      rw [downgrade_block_row, List.any_eq_false] at hfresh
      exact absurd (by rw [beq_iff_eq, hbh]; rfl) (hfresh b hb)

/-- A call on a batch whose block is stored at its own height writes nothing: the tip is at or
above that height, so the reorg keeps the store. -/
theorem update_eq_self_of_stored (hi : Inv S)
    (h : ∃ b ∈ S.blocks, b.index_block_hash = env.hexToBuffer data.block.index_block_hash ∧
      b.block_height = data.block.block_height) (listenerThrows : Notification → Bool) :
    (update env listenerThrows S data).store = S := by
  obtain ⟨b, hb, hbh, hbk⟩ := h
  refine update_eq_self listenerThrows (fun S1 ue h => (handleReorg_ok h).resolve_right ?_)
    (hbh ▸ List.mem_map_of_mem _ hb)
  rintro ⟨hlt, -⟩
  rcases hi.tip env with ⟨h0, -⟩ | ⟨T, ht, htip, -⟩
  · rw [h0] at hb; exact List.not_mem_nil _ hb
  · have := ht.tip b hb; omega

/-- A reorg from a store whose canonical tip `P` is the incoming block's parent keeps the store. -/
theorem handleReorg_keep_of_tip (hi : Inv S) {P : BlockQueryResult}
    (hP : blockAt S.blocks (data.block.block_height - 1)
      (env.hexToBuffer data.block.parent_index_block_hash) = some P)
    (ht : CanonicalChain S.blocks P) (S1 : Store) (ue : UpdatedEntities)
    (h : handleReorg env S data.block (getChainTipHeight env S).blockHeight = .ok (S1, ue)) :
    S1 = S := by
  have hPc : P.canonical = true := (ht.canonical P ht.mem).2 (self_mem_chain hi.shaped.nodup ht.mem)
  rw [handleReorg_eq hi.shaped.nodup, hP] at h
  simp only [hPc, Bool.not_true, Bool.false_and, Bool.false_eq_true, if_false, ite_self] at h
  cases h; rfl

/-- **Redelivery and idempotence.** From a reachable store, a well-formed batch whose block is
stored at its own height, as an earlier call that inserted it leaves it, changes no table; and a
batch ingested twice in a row leaves the store of the first call. -/
theorem update_idempotent (hS : Reachable env S) (hwf : data.WellFormed)
    (listenerThrows listenerThrows' : Notification → Bool) :
    ((∃ b ∈ S.blocks, b.index_block_hash = env.hexToBuffer data.block.index_block_hash ∧
        b.block_height = data.block.block_height) →
      (update env listenerThrows S data).store = S) ∧
    (update env listenerThrows' (update env listenerThrows S data).store data).store =
      (update env listenerThrows S data).store := by
  have hi := hS.inv
  refine ⟨fun h => update_eq_self_of_stored hi h listenerThrows, ?_⟩
  cases hw : updateWrites env S data with
  | error e =>
    rw [update_of_error _ _ hw, update_store_listeners listenerThrows' listenerThrows,
      update_of_error _ _ hw]
  | ok r =>
    obtain ⟨S', data'⟩ := r
    rw [update_of_ok _ _ hw]
    dsimp only
    obtain ⟨S1, ue, S2, n, h1, rfl, h2, h3⟩ := updateWrites_ok hw
    have hr := reorg_spec hi hwf.height h1
    rcases updateBlock_ok h2 with ⟨rfl, rfl, hany⟩ | ⟨rfl, rfl, -⟩
    · -- the block was already stored: the first call at most restored the parent's chain
      obtain ⟨-, rfl⟩ := h3.resolve_right fun h => h.1 rfl
      rw [downgrade_block_row] at hany
      obtain ⟨b, hb, hbh⟩ := List.any_eq_true.1 hany
      have hbh : b.index_block_hash = env.hexToBuffer data.block.index_block_hash := beq_iff_eq.1 hbh
      refine update_eq_self _ (fun S1' ue' h => ?_) (hbh ▸ List.mem_map_of_mem _ hb)
      by_cases hle : data.block.block_height ≤ (getChainTipHeight env S).blockHeight
      · obtain ⟨rfl, -⟩ := hr.below hle
        exact (handleReorg_ok h).resolve_right fun ⟨hlt, _⟩ => absurd hle (by omega)
      · rcases hr.above (by omega) with ⟨h0, -⟩ | ⟨P, hP, ht⟩
        · rw [h0] at hb; exact absurd hb (List.not_mem_nil _)
        · exact handleReorg_keep_of_tip hr.inv hP ht S1' ue' h
    · -- the block was inserted: it is stored at its own height
      obtain ⟨-, h3⟩ := h3.resolve_left fun h => absurd h.1 (by decide)
      have hi' : Inv S' := by
        have := update_inv env listenerThrows hi hwf
        rwa [update_of_ok _ _ hw] at this
      rw [downgrade_block_row] at h3
      exact update_eq_self_of_stored hi' ⟨_, (foldlM_insertEntry_appends_any h3).mem_block, rfl, rfl⟩ _

/-! ## Redelivery along a run -/

/-- `index_block_hash` identifies a chain position across the batches: blocks with one
`index_block_hash` are at one height. -/
def PositionsUnique (env : Env) (batches : List DataStoreUpdateData) : Prop :=
  ∀ d ∈ batches, ∀ d' ∈ batches,
    env.hexToBuffer d.block.index_block_hash = env.hexToBuffer d'.block.index_block_hash →
      d.block.block_height = d'.block.block_height

instance (env : Env) (batches : List DataStoreUpdateData) :
    Decidable (PositionsUnique env batches) :=
  inferInstanceAs (Decidable (∀ d ∈ batches, ∀ d' ∈ batches, _ → _))

/-- Every stored block has the `index_block_hash` and the height of the block of one of the
batches. -/
def BlocksFrom (env : Env) (batches : List DataStoreUpdateData) (S : Store) : Prop :=
  ∀ B ∈ S.blocks, ∃ d ∈ batches, B.index_block_hash = env.hexToBuffer d.block.index_block_hash ∧
    B.block_height = d.block.block_height

section Run

variable (listenerThrows : Notification → Bool)

theorem run_append (S : Store) (l l' : List DataStoreUpdateData) :
    run env listenerThrows S (l ++ l') = run env listenerThrows (run env listenerThrows S l) l' :=
  List.foldl_append _ _ _ _

/-- A run stores only blocks of its batches, at their heights. -/
theorem run_blocksFrom : ∀ (batches pre : List DataStoreUpdateData) (S : Store),
    BlocksFrom env pre S → BlocksFrom env (pre ++ batches) (run env listenerThrows S batches)
  | [], _, _, h => by rw [List.append_nil]; exact h
  | d :: ds, pre, S, h => by
    have step : BlocksFrom env (pre ++ [d]) (update env listenerThrows S d).store := fun B hB => by
      rcases update_block_mem listenerThrows hB with ⟨B0, hB0, hh, hk⟩ | hd
      · obtain ⟨d0, hd0, hh0, hk0⟩ := h B0 hB0
        exact ⟨d0, List.mem_append_left _ hd0, hh ▸ hh0, hk ▸ hk0⟩
      · exact ⟨d, List.mem_append_right _ (List.mem_singleton_self _), hd⟩
    have := run_blocksFrom ds (pre ++ [d]) _ step
    rwa [List.append_assoc, List.singleton_append] at this

/-- A run keeps a block with the `index_block_hash` and the height of every stored block. -/
theorem run_keeps_position (S : Store) (batches : List DataStoreUpdateData)
    {B : BlockQueryResult} (hB : B ∈ S.blocks) :
    ∃ B' ∈ (run env listenerThrows S batches).blocks,
      B'.index_block_hash = B.index_block_hash ∧ B'.block_height = B.block_height := by
  obtain ⟨B', hB', he⟩ := List.mem_map.1
    ((run_extends_rows env listenerThrows S batches).blocks.subset (List.mem_map_of_mem _ hB))
  exact ⟨B', hB', BlockQueryResult.position_of_label_eq he⟩

/-- A call that resolves leaves a block with the batch's `index_block_hash`: the one it inserted,
or the stored one its `INSERT` met. -/
theorem update_ok_stores_block (h : (update env listenerThrows S data).result = .ok ()) :
    ∃ B ∈ (update env listenerThrows S data).store.blocks,
      B.index_block_hash = env.hexToBuffer data.block.index_block_hash := by
  cases hw : updateWrites env S data with
  | error e => rw [update_of_error _ _ hw] at h; cases h
  | ok r =>
    obtain ⟨S', data'⟩ := r
    rw [update_of_ok _ _ hw]
    obtain ⟨S1, ue, S2, n, h1, rfl, h2, h3⟩ := updateWrites_ok hw
    have hS2 : ∃ B ∈ S2.blocks, B.index_block_hash = env.hexToBuffer data.block.index_block_hash := by
      rcases updateBlock_ok h2 with ⟨-, rfl, hany⟩ | ⟨-, rfl, -⟩
      · rw [downgrade_block_row] at hany
        obtain ⟨B, hB, hBh⟩ := List.any_eq_true.1 hany
        exact ⟨B, hB, beq_iff_eq.1 hBh⟩
      · refine ⟨_, List.mem_append_right _ (List.mem_singleton_self _), ?_⟩
        rw [downgrade_block_row]
        rfl
    rcases h3 with ⟨-, rfl⟩ | ⟨-, h3⟩
    · exact hS2
    · exact (foldlM_insertEntry_appends_any h3).blocks ▸ hS2

end Run

/-- **Redelivery changes nothing.** In a run from the empty store on well-formed batches in which
an `index_block_hash` names one height, as a chain position does, a batch that an earlier call
ingested, resolving, changes no table when it is redelivered, however the chain moved since:
no row is inserted and no flag changes. From every reachable store, a batch ingested twice in a
row leaves the store of the first call. -/
theorem redelivery_unchanged (listenerThrows listenerThrows' : Notification → Bool)
    (pre : List DataStoreUpdateData) (b : DataStoreUpdateData) (post : List DataStoreUpdateData)
    (hwf : ∀ d ∈ pre ++ b :: post, d.WellFormed) (hpos : PositionsUnique env (pre ++ b :: post))
    (hok : (update env listenerThrows (run env listenerThrows Store.empty pre) b).result = .ok ()) :
    (update env listenerThrows' (run env listenerThrows Store.empty (pre ++ b :: post)) b).store =
        run env listenerThrows Store.empty (pre ++ b :: post) ∧
      ∀ S, Reachable env S →
        (update env listenerThrows' (update env listenerThrows S b).store b).store =
          (update env listenerThrows S b).store := by
  have hb : b.WellFormed := hwf b (List.mem_append_right _ (List.mem_cons_self _ _))
  refine ⟨?_, fun S hS => (update_idempotent hS hb listenerThrows listenerThrows').2⟩
  -- after the first delivery, `b`'s block is stored, at the height of a batch with its hash
  have hfirst : run env listenerThrows Store.empty (pre ++ [b]) =
      (update env listenerThrows (run env listenerThrows Store.empty pre) b).store :=
    run_append listenerThrows _ _ _
  obtain ⟨B, hB, hBh⟩ := update_ok_stores_block listenerThrows hok
  rw [← hfirst] at hB
  obtain ⟨d, hd, hdh, hdk⟩ := run_blocksFrom listenerThrows (pre ++ [b]) [] Store.empty
    (fun _ h => absurd h (List.not_mem_nil _)) B hB
  have hd' : d ∈ pre ++ b :: post := by
    rcases List.mem_append.1 (List.nil_append _ ▸ hd) with hd | hd
    · exact List.mem_append_left _ hd
    · exact List.mem_append_right _ (List.mem_cons.2 (.inl (List.mem_singleton.1 hd)))
  have hk : B.block_height = b.block.block_height :=
    hdk.trans (hpos d hd' b (List.mem_append_right _ (List.mem_cons_self _ _)) (hdh ▸ hBh))
  -- so it is stored at its own height in every later store of the run
  obtain ⟨B', hB', hB'h, hB'k⟩ := @run_keeps_position env listenerThrows _ post _ hB
  have hlast : run env listenerThrows Store.empty (pre ++ b :: post) =
      run env listenerThrows (run env listenerThrows Store.empty (pre ++ [b])) post := by
    rw [← run_append, List.append_assoc, List.singleton_append]
  have hi : Inv (run env listenerThrows Store.empty (pre ++ b :: post)) :=
    (Reachable.empty.run listenerThrows hwf).inv
  rw [hlast] at hi ⊢
  exact update_eq_self_of_stored hi ⟨B', hB', hB'h.trans hBh, hB'k.trans hk⟩ _

/-- The sample run: the transfer batch, ingested at height 2 on `0x01` and orphaned by the reorg
to `0x04`, changes nothing when it is redelivered. -/
theorem transfer_redelivered_after_reorg :
    PositionsUnique Env.plain sampleBatches ∧
    (update Env.plain (fun _ => false) (run Env.plain (fun _ => false) Store.empty [genesisBatch])
      transferBatch).result = .ok () ∧
    (update Env.plain (fun _ => true) sampleStore transferBatch).store = sampleStore :=
  ⟨by decide, rfl, (@redelivery_unchanged Env.plain (fun _ => false) (fun _ => true) [genesisBatch]
    transferBatch [⟨sampleBlock "0x03" "0x01" 2, []⟩, ⟨sampleBlock "0x04" "0x03" 3, []⟩]
    sampleBatches_wf (by decide) rfl).1⟩

/-- Blocks `0x01`, its children `0x02` and `0x03`, then a batch at height 3 on `0x03` whose
`index_block_hash` is `0x01`, stored at height 1, and one at height 3 on `0x02` whose
`index_block_hash` is `0x03`: two heights share a hash. -/
def collisionBatches : List DataStoreUpdateData :=
  [⟨sampleBlock "0x01" "0x00" 1, []⟩, ⟨sampleBlock "0x02" "0x01" 2, []⟩,
    ⟨sampleBlock "0x03" "0x01" 2, []⟩, ⟨sampleBlock "0x01" "0x03" 3, []⟩,
    ⟨sampleBlock "0x03" "0x02" 3, []⟩]

/-- Without `PositionsUnique` a redelivery can change the store: the fourth batch resolves without
an insert, and redelivered at the end of the run its reorg restores `0x03` again. -/
example : ¬PositionsUnique Env.plain collisionBatches ∧
    (update Env.plain (fun _ => false)
      (run Env.plain (fun _ => false) Store.empty (collisionBatches.take 3))
      ⟨sampleBlock "0x01" "0x03" 3, []⟩).result = .ok () ∧
    (update Env.plain (fun _ => false) (run Env.plain (fun _ => false) Store.empty collisionBatches)
      ⟨sampleBlock "0x01" "0x03" 3, []⟩).store ≠
      run Env.plain (fun _ => false) Store.empty collisionBatches :=
  ⟨by decide, rfl, by decide⟩

end Sidecar.Update
