import Sidecar.Canonical.Label

/-!
# `restoreOrphanedChain` swaps the canonical chain

Model of the recursion of `restoreOrphanedChain` (`postgres-store.ts:341-416`). A call on an
orphaned block `Y` sets `Y` canonical, orphans the other canonical block `Z` at its height (the
second `UPDATE`), moves the entity rows of both, and recurses on `Y`'s parent while that parent
is orphaned.

`Level bs g Y Zo` is what holds when the call on `Y` starts, with flags `g`: `Y` is stored and
orphaned, and the canonical blocks at or below `Y`'s height are the chain of `Zo` (a block at
`Y`'s height, or `none`). One call then ends with the flags `swapLabel bs g Zo Y`: the chain of
`Zo` dropped, the chain of `Y` added.

Results:
* `restore_step`: the statements of one call, on a relabelled store;
* `restore_swap`: the whole recursion, by induction on the depth bound;
* `restoreOrphanedChain_swap`: started on a stored orphaned block `X` at the tip height of a
  store whose canonical blocks are the chain of `T`, `restoreOrphanedChain` succeeds and leaves
  exactly the chain of `X` canonical, on blocks and entity rows alike.
-/

namespace Sidecar.Canonical

open Sidecar.Datastore

/-- The flags after restoring from `Y` where the canonical blocks at and below `Y`'s height were
the chain of `Zo`: that chain dropped, `Y`'s chain added. -/
def swapLabel (bs : List BlockQueryResult) (g : Buffer → Bool) (Zo : Option BlockQueryResult)
    (Y : BlockQueryResult) (h : Buffer) : Bool :=
  (g h && !decide (h ∈ hashes (optChain bs Zo))) || decide (h ∈ hashes (chain bs Y))

/-- The flags after the statements of one call: `Y` canonical, `Zo` orphaned. -/
def levelLabel (g : Buffer → Bool) (Y : BlockQueryResult) :
    Option BlockQueryResult → Buffer → Bool
  | none => Function.update g Y.index_block_hash true
  | some Z => Function.update (Function.update g Y.index_block_hash true) Z.index_block_hash false

/-- What holds of the flags `g` when `restoreOrphanedChain` is called on `Y`. -/
structure Level (bs : List BlockQueryResult) (g : Buffer → Bool) (Y : BlockQueryResult)
    (Zo : Option BlockQueryResult) : Prop where
  mem : Y ∈ bs
  orphaned : g Y.index_block_hash = false
  other : ∀ Z ∈ Zo, Z ∈ bs ∧ Z.block_height = Y.block_height
  pos : ∀ b ∈ optChain bs Zo, 1 ≤ b.block_height
  below : ∀ b ∈ bs, b.block_height ≤ Y.block_height →
    (g b.index_block_hash = true ↔ b ∈ optChain bs Zo)

section Step

variable {S0 : Store} {g : Buffer → Bool} {Y : BlockQueryResult} {Zo : Option BlockQueryResult}

/-- The other canonical block at `Y`'s height is `Z`, and no block of `Y`'s height but `Y` and
`Z` is canonical after `Y` is restored. -/
theorem Level.other_canonical (hn : (S0.blocks.map (·.index_block_hash)).Nodup)
    (hl : Level S0.blocks g Y (some Z)) :
    g Z.index_block_hash = true ∧ Z.index_block_hash ≠ Y.index_block_hash ∧
      ∀ b ∈ S0.blocks, b.block_height = Y.block_height →
        Function.update g Y.index_block_hash true b.index_block_hash = true →
        b.index_block_hash = Y.index_block_hash ∨ b = Z := by
  obtain ⟨hZ, hZk⟩ := hl.other Z rfl
  have hgZ : g Z.index_block_hash = true :=
    (hl.below Z hZ hZk.le).2 (self_mem_chain hn hZ)
  refine ⟨hgZ, ?_, ?_⟩
  · intro h; rw [h, hl.orphaned] at hgZ; cases hgZ
  intro b hb hbk hgb
  by_cases hbY : b.index_block_hash = Y.index_block_hash
  · exact .inl hbY
  · rw [Function.update_noteq hbY] at hgb
    have hbZ := (hl.below b hb hbk.le).1 hgb
    exact .inr (eq_of_mem_chain hbZ (self_mem_chain hn hZ) (by rw [hbk, hZk]))

/-- The statements of one call of `restoreOrphanedChain`, up to the parent `SELECT`. -/
theorem restore_step (hn : (S0.blocks.map (·.index_block_hash)).Nodup)
    (hl : Level S0.blocks g Y Zo) (fuel : Nat) (ue : UpdatedEntities) :
    ∃ ue', restoreOrphanedChainAux (fuel + 1) (S0.relabel g) Y.index_block_hash ue =
      match orphanedParents (S0.blocks.map (·.label (levelLabel g Y Zo))) (Y.block_height - 1)
          Y.parent_index_block_hash with
      | [] => .ok (S0.relabel (levelLabel g Y Zo), ue')
      | [parent] => restoreOrphanedChainAux fuel (S0.relabel (levelLabel g Y Zo))
          parent.index_block_hash { ue' with blocks := ue'.blocks + 1 }
      | _ :: _ :: _ => .error .multipleOrphanedParents := by
  have hA := restoreBlock_label hn hl.mem hl.orphaned
  cases Zo with
  | none =>
    have hB := orphanBlocks_label_none (Y := Y) (k := Y.block_height)
      (g := Function.update g Y.index_block_hash true) fun b hb hbk hgb => by
        by_contra hbY
        rw [Function.update_noteq hbY] at hgb
        exact List.not_mem_nil _ ((hl.below b hb hbk.le).1 hgb)
    simp only [restoreOrphanedChainAux, Store.relabel_blocks, hA, hB, BlockQueryResult.label_height,
      BlockQueryResult.label_parent, markEntitiesCanonical, Store.relabel, markCanonical_label,
      levelLabel]
    exact ⟨_, rfl⟩
  | some Z =>
    obtain ⟨hgZ, hZY, hk⟩ := hl.other_canonical hn
    obtain ⟨hZ, hZk⟩ := hl.other Z rfl
    have hB := orphanBlocks_label hn hZ hZk (by rwa [Function.update_noteq hZY]) hZY hk
    simp only [restoreOrphanedChainAux, Store.relabel_blocks, hA, hB, BlockQueryResult.label_height,
      BlockQueryResult.label_parent, BlockQueryResult.label_hash, markEntitiesCanonical,
      Store.relabel, markCanonical_label, levelLabel, Function.update_comm hZY]
    exact ⟨_, rfl⟩

end Step

/-! ## The recursion -/

section Recursion

variable {bs : List BlockQueryResult} {g : Buffer → Bool} {Y P : BlockQueryResult}
  {Zo : Option BlockQueryResult}

theorem levelLabel_apply (hZY : ∀ Z ∈ Zo, Z.index_block_hash ≠ Y.index_block_hash) (h : Buffer) :
    levelLabel g Y Zo h =
      (g h && !decide (h ∈ hashes Zo.toList) || decide (h = Y.index_block_hash)) := by
  cases Zo with
  | none =>
    by_cases hY : h = Y.index_block_hash
    · subst hY; simp [levelLabel]
    · simp [levelLabel, hY]
  | some Z =>
    have hZY := hZY Z rfl
    by_cases hZ : h = Z.index_block_hash
    · subst hZ; simp [levelLabel, hZY]
    · by_cases hY : h = Y.index_block_hash
      · subst hY; simp [levelLabel, hZY.symm]
      · simp [levelLabel, hZ, hY]

/-- Restoring from a block whose chain is already canonical changes no flag. -/
theorem swapLabel_self (hc : ∀ b ∈ chain bs P, g b.index_block_hash = true) :
    swapLabel bs g (some P) P = g := by
  funext h
  by_cases hm : h ∈ hashes (chain bs P)
  · obtain ⟨b, hb, rfl⟩ := List.mem_map.1 hm
    simp [swapLabel, optChain, hm, hc b hb]
  · simp [swapLabel, optChain, hm]

variable (hn : (bs.map (·.index_block_hash)).Nodup) (hl : Level bs g Y Zo)
include hn hl

theorem Level.other_ne : ∀ Z ∈ Zo, Z.index_block_hash ≠ Y.index_block_hash := by
  intro Z hZ h
  obtain ⟨hZm, hZk⟩ := hl.other Z hZ
  have hgZ := (hl.below Z hZm hZk.le).2 (by cases hZ; exact self_mem_chain hn hZm)
  rw [h, hl.orphaned] at hgZ; cases hgZ

theorem Level.optChain_next : optChain bs Zo = Zo.toList ++ optChain bs (Zo.bind (parentOf bs)) :=
  optChain_eq hn fun Z hZ => (hl.other Z hZ).1

omit hn in
theorem Level.lt_of_mem_next {c : BlockQueryResult} (hc : c ∈ optChain bs (Zo.bind (parentOf bs))) :
    c ∈ bs ∧ c.block_height < Y.block_height := by
  cases Zo with
  | none => exact absurd hc (List.not_mem_nil _)
  | some Z => rw [← (hl.other Z rfl).2]; exact mem_optChain_parentOf hc

/-- After one call, the flags at and below the parent's height are the chain of the next
block `Zo.bind (parentOf bs)` on the side being orphaned. -/
theorem Level.parent_below (hP : parentOf bs Y = some P) :
    ∀ b ∈ bs, b.block_height ≤ P.block_height →
      (levelLabel g Y Zo b.index_block_hash = true ↔ b ∈ optChain bs (Zo.bind (parentOf bs))) := by
  intro b hb hbk
  have hPk := (blockAt_eq_some hP).2.1
  have hbZ : b ∉ Zo.toList := fun h => by have := (hl.other b (Option.mem_toList.1 h)).2; omega
  have hbY : b.index_block_hash ≠ Y.index_block_hash := fun h => by
    rw [eq_of_hash_eq hn hb hl.mem h] at hbk; omega
  have hbZh : b.index_block_hash ∉ hashes Zo.toList := fun h =>
    hbZ ((hash_mem_hashes_iff hn (fun c hc => (hl.other c (Option.mem_toList.1 hc)).1) hb).1 h)
  have hg : levelLabel g Y Zo b.index_block_hash = g b.index_block_hash := by
    rw [levelLabel_apply (hl.other_ne hn)]; simp [hbZh, hbY]
  rw [hg, hl.below b hb (by omega), hl.optChain_next hn, List.mem_append, or_iff_right hbZ]

omit hn in
theorem Level.next_other (hP : parentOf bs Y = some P) :
    ∀ Z' ∈ Zo.bind (parentOf bs), Z' ∈ bs ∧ Z'.block_height = P.block_height := by
  intro Z' hZ'
  obtain ⟨Z, hZ, hZZ'⟩ := Option.mem_bind_iff.1 hZ'
  obtain ⟨hm, hk, -⟩ := blockAt_eq_some hZZ'
  exact ⟨hm, by rw [hk, (hl.other Z hZ).2, (blockAt_eq_some hP).2.1]⟩

/-- The level of the recursive call on an orphaned parent. -/
theorem Level.parent (hP : parentOf bs Y = some P) (hg : levelLabel g Y Zo P.index_block_hash = false) :
    Level bs (levelLabel g Y Zo) P (Zo.bind (parentOf bs)) where
  mem := (blockAt_eq_some hP).1
  orphaned := hg
  other := hl.next_other hP
  pos b hb := hl.pos b (by rw [hl.optChain_next hn]; exact List.mem_append_right _ hb)
  below := hl.parent_below hn hP

/-- The flags one call and then the recursion on the parent leave are those of restoring from
`Y`. -/
theorem Level.swapLabel_parent (hP : parentOf bs Y = some P) :
    swapLabel bs (levelLabel g Y Zo) (Zo.bind (parentOf bs)) P = swapLabel bs g Zo Y := by
  have hY : Y.index_block_hash ∉ hashes (optChain bs (Zo.bind (parentOf bs))) := fun h =>
    absurd (hl.lt_of_mem_next ((hash_mem_hashes_iff hn (fun c hc => (hl.lt_of_mem_next hc).1)
      hl.mem).1 h)).2 (lt_irrefl _)
  funext h
  rw [swapLabel, swapLabel, levelLabel_apply (hl.other_ne hn), hl.optChain_next hn,
    chain_eq_optChain hn hl.mem, hP]
  by_cases hYh : h = Y.index_block_hash
  · subst hYh; simp [hY]
  · cases g h <;> simp [hYh, optChain]

/-- With no parent, the call on `Y` is the last, and its flags are those of restoring from `Y`. -/
theorem Level.levelLabel_root (hs : Shaped bs) (hP : parentOf bs Y = none) :
    levelLabel g Y Zo = swapLabel bs g Zo Y := by
  have hk : ¬1 < Y.block_height := fun h => hs.parent Y hl.mem h hP
  have hnext : optChain bs (Zo.bind (parentOf bs)) = [] :=
    List.eq_nil_iff_forall_not_mem.2 fun c hc => by
      have h1 := (hl.lt_of_mem_next hc).2
      have h2 := hl.pos c (by rw [hl.optChain_next hn]; exact List.mem_append_right _ hc)
      omega
  funext h
  rw [levelLabel_apply (hl.other_ne hn), swapLabel, hl.optChain_next hn, hnext, List.append_nil,
    chain_eq_optChain hn hl.mem, hP]
  simp [optChain]

end Recursion

/-- The whole recursion from `Y`: with a depth bound of at least the length of `Y`'s chain, it
succeeds and swaps the chain of `Zo` for the chain of `Y`. -/
theorem restore_swap {S0 : Store} (hs : Shaped S0.blocks) :
    ∀ (fuel : Nat) (g : Buffer → Bool) (Y : BlockQueryResult) (Zo : Option BlockQueryResult)
      (ue : UpdatedEntities), Level S0.blocks g Y Zo → (chain S0.blocks Y).length ≤ fuel →
      ∃ ue', restoreOrphanedChainAux fuel (S0.relabel g) Y.index_block_hash ue =
        .ok (S0.relabel (swapLabel S0.blocks g Zo Y), ue')
  | 0, _, _, _, _, hl, hf => absurd (List.length_pos_of_mem (self_mem_chain hs.nodup hl.mem)) (by omega)
  | fuel + 1, g, Y, Zo, ue, hl, hf => by
    obtain ⟨ue', h⟩ := restore_step hs.nodup hl fuel ue
    rw [h, orphanedParents_label hs.nodup]
    cases hP : blockAt S0.blocks (Y.block_height - 1) Y.parent_index_block_hash with
    | none => exact ⟨ue', by rw [hl.levelLabel_root hs.nodup hs hP]⟩
    | some P =>
      have hPb := (blockAt_eq_some hP).1
      cases hg : levelLabel g Y Zo P.index_block_hash
      · have hf' : (chain S0.blocks P).length ≤ fuel := by
          rw [chain_eq_optChain hs.nodup hl.mem, show parentOf S0.blocks Y = some P from hP] at hf
          exact Nat.le_of_succ_le_succ hf
        obtain ⟨ue'', h'⟩ := restore_swap hs fuel _ P _ { ue' with blocks := ue'.blocks + 1 }
          (hl.parent hs.nodup hP hg) hf'
        refine ⟨ue'', ?_⟩
        simp only [hg, Bool.false_eq_true, if_false, BlockQueryResult.label_hash]
        rw [h', hl.swapLabel_parent hs.nodup hP]
      · have hZo : Zo.bind (parentOf S0.blocks) = some P :=
          eq_some_of_mem_optChain hs.nodup (hl.next_other hP)
            ((hl.parent_below hs.nodup hP P hPb le_rfl).1 hg)
        have hc : ∀ b ∈ chain S0.blocks P, levelLabel g Y Zo b.index_block_hash = true :=
          fun b hb => (hl.parent_below hs.nodup hP b (mem_chain hb).1 (mem_chain hb).2).2 (hZo ▸ hb)
        refine ⟨ue', ?_⟩
        simp only [hg, if_true]
        rw [← hl.swapLabel_parent hs.nodup hP, hZo, swapLabel_self hc]


/-! ## Restoring at the tip -/

section Tip

variable {S : Store} {T X : BlockQueryResult} (hs : Shaped S.blocks) (ht : CanonicalChain S.blocks T)
  (ha : S.Agrees) (hX : X ∈ S.blocks) (hXc : X.canonical = false)
include hs ht ha hX hXc

/-- From a store whose canonical blocks are the chain of `T`, restoring an orphaned block `X` of
`T`'s height makes the chain of `X` canonical and nothing else. -/
theorem restoreOrphanedChain_tip (hXk : X.block_height = T.block_height) (ue : UpdatedEntities) :
    ∃ ue', restoreOrphanedChain S X.index_block_hash ue =
      .ok (S.relabel fun h => decide (h ∈ hashes (chain S.blocks X)), ue') := by
  have hn := hs.nodup
  have hl : Level S.blocks (canonicalHashes S) X (some T) :=
    { mem := hX
      orphaned := (canonicalHashes_eq hn hX).trans hXc
      other := fun Z hZ => by cases hZ; exact ⟨ht.mem, hXk.symm⟩
      pos := fun b hb => ht.one_le hb
      below := fun b hb _ => by rw [canonicalHashes_eq hn hb]; exact ht.canonical b hb }
  obtain ⟨ue', h⟩ := restore_swap hs _ _ X (some T) ue hl ((chain_length_le X).trans (Nat.le_succ _))
  rw [relabel_canonicalHashes hn ha] at h
  refine ⟨ue', h.trans ?_⟩
  congr 3
  funext h
  have hT : canonicalHashes S h = true → h ∈ hashes (chain S.blocks T) := fun hc => by
    obtain ⟨b, hb, hbc⟩ := List.any_eq_true.1 hc
    simp only [Bool.and_eq_true, beq_iff_eq] at hbc
    exact hbc.1 ▸ List.mem_map_of_mem _ ((ht.canonical b hb).1 hbc.2)
  cases hc : canonicalHashes S h <;> simp [swapLabel, optChain, hc, hT]

/-- **Restoring an orphaned block of the greatest height.** In a shaped store whose canonical
blocks are the chain of a tip `T` and whose entity rows carry their block's flag,
`restoreOrphanedChain` on a stored orphaned block `X` of the greatest stored height succeeds, and
every row of every table, blocks and entities alike, keeps its other columns and is canonical
exactly when its `index_block_hash` is on the chain of `X`. -/
theorem restoreOrphanedChain_swap (hXk : ∀ b ∈ S.blocks, b.block_height ≤ X.block_height)
    (ue : UpdatedEntities) :
    ∃ ue', restoreOrphanedChain S X.index_block_hash ue =
      .ok (S.relabel fun h => decide (h ∈ hashes (chain S.blocks X)), ue') :=
  restoreOrphanedChain_tip hs ht ha hX hXc (le_antisymm (ht.tip X hX) (hXk T ht.mem)) ue

end Tip

/-- Two siblings at height 2 on a block at height 1, the first canonical. -/
def forkStore : Store :=
  ⟨[⟨[1], [1], [0], [0], [], 1, 0, true⟩, ⟨[2], [2], [1], [1], [], 2, 0, true⟩,
    ⟨[3], [3], [1], [1], [], 2, 0, false⟩], [], [], [], [], [], []⟩

theorem restoreOrphanedChain_swap_fork :
    ∃ ue', restoreOrphanedChain forkStore [3] UpdatedEntities.zero =
      .ok (forkStore.relabel fun h => decide (h ∈ hashes (chain forkStore.blocks
        ⟨[3], [3], [1], [1], [], 2, 0, false⟩)), ue') :=
  restoreOrphanedChain_swap (S := forkStore) (T := ⟨[2], [2], [1], [1], [], 2, 0, true⟩)
    (X := ⟨[3], [3], [1], [1], [], 2, 0, false⟩) ⟨by decide, by decide⟩
    ⟨by decide, by decide, by decide, by decide⟩
    (Store.agrees_of_blocks _) (by decide) rfl (by decide) _

/-- Relabelling a store by the chain of a block of the greatest height makes that chain the
canonical one. -/
theorem canonicalChain_relabel {bs : List BlockQueryResult} {X : BlockQueryResult}
    (hs : Shaped bs) (hpos : ∀ b ∈ bs, 1 ≤ b.block_height) (hX : X ∈ bs)
    (hXk : ∀ b ∈ bs, b.block_height ≤ X.block_height) :
    CanonicalChain (bs.map (·.label fun h => decide (h ∈ hashes (chain bs X))))
      (X.label fun h => decide (h ∈ hashes (chain bs X))) := by
  have hchain : chain (bs.map (·.label fun h => decide (h ∈ hashes (chain bs X))))
      (X.label fun h => decide (h ∈ hashes (chain bs X))) =
      (chain bs X).map (·.label fun h => decide (h ∈ hashes (chain bs X))) :=
    chain_label _ X
  refine ⟨List.mem_map_of_mem _ hX, ?_, ?_, ?_⟩
  · intro b hb
    obtain ⟨c, hc, rfl⟩ := List.mem_map.1 hb
    exact hXk c hc
  · intro b hb
    obtain ⟨c, hc, rfl⟩ := List.mem_map.1 hb
    rw [hchain, BlockQueryResult.label_canonical, decide_eq_true_iff,
      hash_mem_hashes_iff hs.nodup (fun d hd => (mem_chain hd).1) hc]
    refine ⟨List.mem_map_of_mem _, fun h => ?_⟩
    obtain ⟨d, hd, hdc⟩ := List.mem_map.1 h
    rwa [← eq_of_hash_eq hs.nodup (mem_chain hd).1 hc (congrArg (·.index_block_hash) hdc)]
  · rw [hchain, List.map_map]
    exact chain_heights hs hpos _ X hX (Int.toNat_of_nonneg (by have := hpos X hX; omega)).symm

end Sidecar.Canonical
