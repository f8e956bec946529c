import Sidecar.Canonical.Label

/-!
# Appending a block

`updateBlock` (`postgres-store.ts:535-556`) appends the incoming block to `blocks` when its
`index_block_hash` is new. The parent lookups of the stored blocks then find what they found
before, so their chains do not change (`chain_append`), and the canonical chain either stays,
for a block stored non-canonical at or below the tip (`CanonicalChain.append_orphan`), or grows
by the new block, for a block on the tip (`CanonicalChain.append_tip`).
-/

namespace Sidecar.Canonical

open Sidecar.Datastore

variable {bs : List BlockQueryResult} {B : BlockQueryResult}

theorem blockAt_append_of_some {l : List BlockQueryResult} {k : Int} {h : Buffer}
    {x : BlockQueryResult} (hx : blockAt bs k h = some x) : blockAt (bs ++ l) k h = some x := by
  simp only [blockAt, List.find?_append] at hx ⊢
  rw [hx]; rfl

theorem Shaped.append (hs : Shaped bs) (hB : B.index_block_hash ∉ hashes bs)
    (hp : 1 < B.block_height → blockAt bs (B.block_height - 1) B.parent_index_block_hash ≠ none) :
    Shaped (bs ++ [B]) where
  nodup := by
    rw [List.map_append]
    exact hs.nodup.append (List.nodup_singleton _) (List.disjoint_singleton.2 hB)
  parent b hb hk := by
    have hb' : ∃ x, blockAt bs (b.block_height - 1) b.parent_index_block_hash = some x := by
      rcases List.mem_append.1 hb with hb | hb
      · exact Option.ne_none_iff_exists'.1 (hs.parent b hb hk)
      · rw [List.mem_singleton.1 hb] at hk ⊢; exact Option.ne_none_iff_exists'.1 (hp hk)
    obtain ⟨x, hx⟩ := hb'
    rw [blockAt_append_of_some hx]; exact Option.some_ne_none x

section Lookups

variable (hs : Shaped bs) (hpos : ∀ b ∈ bs ++ [B], 1 ≤ b.block_height)
include hs hpos

/-- A stored block's parent lookup is unchanged by the append. -/
theorem parentOf_append {Y : BlockQueryResult} (hY : Y ∈ bs) :
    parentOf (bs ++ [B]) Y = parentOf bs Y := by
  by_cases hk : 1 < Y.block_height
  · obtain ⟨P, hP⟩ := Option.ne_none_iff_exists'.1 (hs.parent Y hY hk)
    exact (blockAt_append_of_some hP).trans hP.symm
  · have hnone : ∀ l, (∀ b ∈ l, b ∈ bs ++ [B]) →
        blockAt l (Y.block_height - 1) Y.parent_index_block_hash = none := fun l hl =>
      blockAt_eq_none.2 fun b hb ⟨hbk, _⟩ => by have := hpos b (hl b hb); omega
    exact (hnone _ fun _ => id).trans (hnone bs fun _ => List.mem_append_left _).symm

theorem chain_append_aux (hn : ((bs ++ [B]).map (·.index_block_hash)).Nodup) :
    ∀ (n : Nat) (Y : BlockQueryResult), Y ∈ bs → Y.block_height = n →
      chain (bs ++ [B]) Y = chain bs Y
  | 0, Y, hY, hk => absurd (hpos Y (List.mem_append_left _ hY)) (by omega)
  | n + 1, Y, hY, hk => by
    rw [chain_eq_optChain hn (List.mem_append_left _ hY), chain_eq_optChain hs.nodup hY,
      parentOf_append hs hpos hY]
    cases hP : parentOf bs Y with
    | none => rfl
    | some P =>
      obtain ⟨hPm, hPk, -⟩ := blockAt_eq_some hP
      exact congrArg (Y :: ·) (chain_append_aux hn n P hPm (by omega))

/-- The chains of the stored blocks are unchanged by the append. -/
theorem chain_append (hn : ((bs ++ [B]).map (·.index_block_hash)).Nodup) {Y : BlockQueryResult}
    (hY : Y ∈ bs) : chain (bs ++ [B]) Y = chain bs Y :=
  chain_append_aux hs hpos hn _ Y hY (Int.toNat_of_nonneg (by
    have := hpos Y (List.mem_append_left _ hY); omega)).symm

end Lookups

/-! ## The canonical chain after the append -/

section Canonical

variable {T : BlockQueryResult} (hs : Shaped bs) (hpos : ∀ b ∈ bs, 1 ≤ b.block_height)
  (hB : B.index_block_hash ∉ hashes bs) (hB1 : 1 ≤ B.block_height)
include hs hpos hB hB1

omit hs hpos hB1 in
theorem not_mem_of_hash_not_mem : B ∉ bs := fun h => hB (List.mem_map_of_mem _ h)

omit hs hB in
theorem pos_append : ∀ b ∈ bs ++ [B], 1 ≤ b.block_height := by
  intro b hb
  rcases List.mem_append.1 hb with hb | hb
  · exact hpos b hb
  · rw [List.mem_singleton.1 hb]; exact hB1

/-- A block stored non-canonical at or below the tip leaves the canonical chain as it was. -/
theorem CanonicalChain.append_orphan (ht : CanonicalChain bs T) (hBT : B.block_height ≤ T.block_height)
    (hc : B.canonical = false) (hp : 1 < B.block_height →
      blockAt bs (B.block_height - 1) B.parent_index_block_hash ≠ none) :
    CanonicalChain (bs ++ [B]) T := by
  have hT := chain_append hs (pos_append hpos hB1) (hs.append hB hp).nodup ht.mem
  refine ⟨List.mem_append_left _ ht.mem, fun b hb => ?_, fun b hb => ?_, hT ▸ ht.heights⟩
  · rcases List.mem_append.1 hb with hb | hb
    · exact ht.tip b hb
    · rw [List.mem_singleton.1 hb]; exact hBT
  · rw [hT]
    rcases List.mem_append.1 hb with hb | hb
    · exact ht.canonical b hb
    · rw [List.mem_singleton.1 hb, hc]
      exact ⟨fun h => absurd h Bool.false_ne_true,
        fun h => absurd (mem_chain h).1 (not_mem_of_hash_not_mem hB)⟩

/-- A canonical block on the tip becomes the tip, its chain the old chain and itself. -/
theorem CanonicalChain.append_tip {P : BlockQueryResult} (ht : CanonicalChain bs P)
    (hP : blockAt bs (B.block_height - 1) B.parent_index_block_hash = some P)
    (hc : B.canonical = true) : CanonicalChain (bs ++ [B]) B := by
  have hs' := hs.append hB fun _ => hP ▸ Option.some_ne_none P
  have hpos' := pos_append hpos hB1
  obtain ⟨-, hPk, -⟩ := blockAt_eq_some hP
  have hBm : B ∈ bs ++ [B] := List.mem_append_right _ (List.mem_singleton_self _)
  have hchain : chain (bs ++ [B]) B = B :: chain bs P := by
    rw [chain_eq_optChain hs'.nodup hBm,
      show parentOf (bs ++ [B]) B = some P from blockAt_append_of_some hP]
    exact congrArg (B :: ·) (chain_append hs hpos' hs'.nodup ht.mem)
  refine ⟨hBm, fun b hb => ?_, fun b hb => ?_, ?_⟩
  · rcases List.mem_append.1 hb with hb | hb
    · have := ht.tip b hb; omega
    · rw [List.mem_singleton.1 hb]
  · rw [hchain, List.mem_cons]
    rcases List.mem_append.1 hb with hb | hb
    · rw [ht.canonical b hb, or_iff_right fun h : b = B => not_mem_of_hash_not_mem hB (h ▸ hb)]
    · rw [List.mem_singleton.1 hb, hc]; exact ⟨fun _ => .inl rfl, fun _ => rfl⟩
  · have hP1 := ht.one_le (self_mem_chain hs.nodup ht.mem)
    rw [hchain, List.map_cons, ht.heights, hPk, heightsDown_succ (by omega : 1 ≤ B.block_height)]

omit hs hpos hB hB1 in
/-- The first block, at height 1, is the tip of a one-block chain. -/
theorem CanonicalChain.single (hk : B.block_height = 1) (hc : B.canonical = true) :
    CanonicalChain [B] B := by
  have hchain : chain [B] B = [B] :=
    chain_of_no_parent (by simp) (List.mem_singleton_self _)
      (blockAt_eq_none.2 fun b hb ⟨hbk, _⟩ => by rw [List.mem_singleton.1 hb] at hbk; omega)
  refine ⟨List.mem_singleton_self _, fun b hb => by rw [List.mem_singleton.1 hb], fun b hb => ?_, ?_⟩
  · rw [List.mem_singleton.1 hb, hchain, hc]; exact ⟨fun _ => List.mem_singleton_self _, fun _ => rfl⟩
  · simp [hchain, hk, heightsDown_one]

end Canonical

end Sidecar.Canonical
