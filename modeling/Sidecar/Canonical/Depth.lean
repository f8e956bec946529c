import Mathlib.Data.Finset.Card
import Sidecar.Canonical.Restore

/-!
# `restoreOrphanedChain` terminates

The depth of the recursion of `restoreOrphanedChain` (`postgres-store.ts:341-416`), from any
store and on any `index_block_hash`.

* A call that restores a block `Y` calls itself only on the hash of a stored orphaned block at
  `Y`'s height less one, found by the parent `SELECT`. The next call restores that same block, so
  the heights of the restored blocks fall by one at each level.
* The statements change `canonical` flags only, so the stored heights are the same at every
  level. The measure is `heightsBelow bs k`, the number of distinct stored heights below `k`. A
  level may orphan a block as it restores one, so the number of orphaned blocks need not fall.

Results:
* `restoreOrphanedChainAux_step`: one call ends, with a result that is not `depthExceeded` and
  does not depend on the bound, or it makes the recursive call on a stored orphaned block one
  below the height it restored;
* `restoreOrphanedChainAux_enough`: a bound above the number of distinct stored heights below
  the restored block is enough, and a larger bound changes nothing;
* `restoreOrphanedChain_depth`: `restoreOrphanedChain` never reaches its bound, and after the
  first call it recurses at most once per distinct stored height below the block it restored.
-/

namespace Sidecar.Canonical

open Sidecar.Datastore

/-- The distinct stored heights below `k`. -/
def heightsBelow (bs : List BlockQueryResult) (k : Int) : Nat :=
  ((bs.map (·.block_height)).toFinset.filter (· < k)).card

theorem heightsBelow_lt {bs : List BlockQueryResult} {k' k : Int}
    (hm : k' ∈ bs.map (·.block_height)) (hk : k' < k) : heightsBelow bs k' < heightsBelow bs k :=
  Finset.card_lt_card ⟨fun _ hx => Finset.mem_filter.2
      ⟨(Finset.mem_filter.1 hx).1, (Finset.mem_filter.1 hx).2.trans hk⟩,
    fun hsub => by simpa using hsub (Finset.mem_filter.2 ⟨List.mem_toFinset.2 hm, hk⟩)⟩

theorem heightsBelow_le_length (bs : List BlockQueryResult) (k : Int) :
    heightsBelow bs k ≤ bs.length :=
  calc heightsBelow bs k ≤ (bs.map (·.block_height)).toFinset.card := Finset.card_filter_le _ _
    _ ≤ (bs.map (·.block_height)).length := List.toFinset_card_le _
    _ = bs.length := List.length_map _ _

/-- When it returns one block, `restoreBlock` on the hash of a stored orphaned block `P` returns
`P`, restored. -/
theorem restoreBlock_height {bs : List BlockQueryResult} {P Y : BlockQueryResult} (hP : P ∈ bs)
    (hPc : P.canonical = false) (hY : (restoreBlock bs P.index_block_hash).2 = [Y]) :
    Y.block_height = P.block_height := by
  have hmem : { P with canonical := true } ∈ (restoreBlock bs P.index_block_hash).2 := by
    simp only [restoreBlock, sqlUpdate_snd]
    exact List.mem_map_of_mem _ (List.mem_filter.2 ⟨hP, by simp [hPc]⟩)
  rw [hY, List.mem_singleton] at hmem
  rw [← hmem]

/-- The two block `UPDATE`s of a call keep every stored height. -/
theorem orphanBlocks_restoreBlock_heights (bs : List BlockQueryResult) (h : Buffer) (k : Int) :
    (orphanBlocks (restoreBlock bs h).1 k h).1.map (·.block_height) = bs.map (·.block_height) := by
  simp only [orphanBlocks, restoreBlock, sqlUpdate_fst, List.map_map]
  exact List.map_congr_left fun b _ => by simp only [Function.comp_apply]; split <;> split <;> rfl

/-- **One call.** It ends with a result that is not `depthExceeded` and that the bound does not
change, or it restores a block `Y` and calls itself on the hash of a block `P`, stored and orphaned
in a store with the same heights, at `Y`'s height less one. -/
theorem restoreOrphanedChainAux_step (S : Store) (h : Buffer) (ue : UpdatedEntities) :
    (∃ r, r ≠ .error .depthExceeded ∧ ∀ n, restoreOrphanedChainAux (n + 1) S h ue = r) ∨
    ∃ Y S' P ue', (restoreBlock S.blocks h).2 = [Y] ∧
      S'.blocks.map (·.block_height) = S.blocks.map (·.block_height) ∧
      P ∈ S'.blocks ∧ P.canonical = false ∧ P.block_height = Y.block_height - 1 ∧
      ∀ n, restoreOrphanedChainAux (n + 1) S h ue =
        restoreOrphanedChainAux n S' P.index_block_hash ue' := by
  cases hr : (restoreBlock S.blocks h).2 with
  | nil =>
    exact .inl ⟨.error (.noOrphanedBlock h), by simp, fun n => by simp only [restoreOrphanedChainAux, hr]⟩
  | cons Y rest =>
    cases rest with
    | cons _ _ => exact .inl ⟨.error (.multipleOrphanedBlocks h), by simp,
        fun n => by simp only [restoreOrphanedChainAux, hr]⟩
    | nil =>
      simp only [restoreOrphanedChainAux, hr]
      split
      · exact .inl ⟨_, by simp, fun n => rfl⟩
      · rename_i P hP
        have hPf := List.mem_filter.1 (hP ▸ List.mem_singleton_self P)
        simp only [Bool.and_eq_true, beq_iff_eq, Bool.not_eq_true'] at hPf
        exact .inr ⟨Y, _, P, _, rfl, by split <;> exact orphanBlocks_restoreBlock_heights _ _ _,
          hPf.1, hPf.2.2, hPf.2.1.1, fun n => rfl⟩
      · exact .inl ⟨_, by simp, fun n => rfl⟩

/-- **The bound is enough.** A bound above the number of distinct stored heights below the block
the first call restores is never reached, and any larger bound gives the same result. -/
theorem restoreOrphanedChainAux_enough : ∀ (n : Nat) (S : Store) (h : Buffer)
    (ue : UpdatedEntities), 0 < n →
    (∀ Y, (restoreBlock S.blocks h).2 = [Y] → heightsBelow S.blocks Y.block_height < n) →
    restoreOrphanedChainAux n S h ue ≠ .error .depthExceeded ∧
      ∀ m, n ≤ m → restoreOrphanedChainAux m S h ue = restoreOrphanedChainAux n S h ue
  | 0, _, _, _, hn, _ => absurd hn (lt_irrefl 0)
  | n + 1, S, h, ue, _, hd => by
    rcases restoreOrphanedChainAux_step S h ue with
      ⟨r, hr, hrun⟩ | ⟨Y, S', P, ue', hY, hk, hP, hPc, hPk, hrun⟩
    · refine ⟨by rw [hrun]; exact hr, fun m hm => ?_⟩
      obtain ⟨m, rfl⟩ : ∃ m', m = m' + 1 := ⟨m - 1, by omega⟩
      rw [hrun, hrun]
    · -- the parent's height is a stored height below `Y`'s
      have hPm : P.block_height ∈ S.blocks.map (·.block_height) := hk ▸ List.mem_map_of_mem _ hP
      have hlt : heightsBelow S'.blocks P.block_height < n :=
        calc heightsBelow S'.blocks P.block_height = heightsBelow S.blocks P.block_height := by
              simp only [heightsBelow, hk]
          _ < heightsBelow S.blocks Y.block_height := heightsBelow_lt hPm (by omega)
          _ ≤ n := Nat.lt_succ_iff.1 (hd Y hY)
      have ih := restoreOrphanedChainAux_enough n S' P.index_block_hash ue' (by omega)
        fun Y' hY' => by rw [restoreBlock_height hP hPc hY']; exact hlt
      refine ⟨by rw [hrun]; exact ih.1, fun m hm => ?_⟩
      obtain ⟨m, rfl⟩ : ∃ m', m = m' + 1 := ⟨m - 1, by omega⟩
      rw [hrun, hrun, ih.2 m (by omega)]

/-- **`restoreOrphanedChain` terminates.** From every store and on every `index_block_hash`,
`restoreOrphanedChain` never reaches its bound. When its first call restores a block `Y`, the
recursion ends within one call per distinct stored height below `Y`'s, after the first. -/
theorem restoreOrphanedChain_depth (S : Store) (indexBlockHash : Buffer) (ue : UpdatedEntities) :
    restoreOrphanedChain S indexBlockHash ue ≠ .error .depthExceeded ∧
    ∀ Y, (restoreBlock S.blocks indexBlockHash).2 = [Y] →
      restoreOrphanedChainAux (heightsBelow S.blocks Y.block_height + 1) S indexBlockHash ue ≠
          .error .depthExceeded ∧
        restoreOrphanedChain S indexBlockHash ue =
          restoreOrphanedChainAux (heightsBelow S.blocks Y.block_height + 1) S indexBlockHash ue := by
  refine ⟨(restoreOrphanedChainAux_enough _ S indexBlockHash ue (Nat.succ_pos _)
    fun Y _ => Nat.lt_succ_of_le (heightsBelow_le_length _ _)).1, fun Y hY => ?_⟩
  have h := restoreOrphanedChainAux_enough (heightsBelow S.blocks Y.block_height + 1) S
    indexBlockHash ue (Nat.succ_pos _) fun Y' hY' => by
      rw [hY, List.singleton_inj] at hY'
      exact hY' ▸ Nat.lt_succ_self _
  exact ⟨h.1, h.2 _ (Nat.succ_le_succ (heightsBelow_le_length _ _))⟩

theorem forkStore_restore_depth :
    (restoreBlock forkStore.blocks [3]).2 = [⟨[3], [3], [1], [1], [], 2, 0, true⟩] ∧
    heightsBelow forkStore.blocks 2 = 1 ∧
    restoreOrphanedChainAux (heightsBelow forkStore.blocks 2 + 1) forkStore [3] .zero ≠
      .error .depthExceeded ∧
    restoreOrphanedChain forkStore [3] .zero =
      restoreOrphanedChainAux (heightsBelow forkStore.blocks 2 + 1) forkStore [3] .zero :=
  ⟨by decide, by decide,
    (restoreOrphanedChain_depth forkStore [3] .zero).2 ⟨[3], [3], [1], [1], [], 2, 0, true⟩
      (by decide)⟩

/-- On `forkStore`, the one level restores `[3]` and orphans `[2]`: one block is orphaned before
and after. -/
example : ((restoreOrphanedChain forkStore [3] .zero).toOption.map fun r =>
      (r.1.blocks.filter (!·.canonical)).map (·.index_block_hash)) = some [[2]] ∧
    (forkStore.blocks.filter (!·.canonical)).map (·.index_block_hash) = [[3]] := by
  decide

end Sidecar.Canonical
