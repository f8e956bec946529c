import Sidecar.Datastore.PgStore
import Mathlib.Data.List.Nodup

/-!
# Parent chains of stored blocks

The chain of a stored block `Y` is `Y`, then the block `handleReorg` and `restoreOrphanedChain`
look up as its parent (`block_height = Y.block_height - 1` and
`index_block_hash = Y.parent_index_block_hash`), and so on while that lookup finds a block.
Heights fall by one at each link, so no chain is longer than the store: `chain` runs
`chainFrom` with the number of stored blocks as fuel, and `chainFrom_fuel` shows that more
fuel changes nothing.

Results, for a `Shaped` list of blocks (unique `index_block_hash`, parents stored):
* `chain_of_parent`, `chain_of_no_parent`: one unfolding of the chain;
* `mem_chain`, `eq_of_mem_chain`: a chain holds stored blocks at or below its head, at most one
  per height;
* `chain_map`: the chain ignores the `canonical` flags;
* `chain_heights`: from a block at height `H ≥ 1`, when every stored height is `≥ 1`, the chain
  has one block at each height `H, H - 1, …, 1`.
-/

namespace Sidecar.Canonical

open Sidecar.Datastore

/-- The stored block at `height` with `index_block_hash = h` (the parent lookup). -/
def blockAt (bs : List BlockQueryResult) (height : Int) (h : Buffer) : Option BlockQueryResult :=
  bs.find? fun b => b.block_height == height && b.index_block_hash == h

/-- The parent chain from the block at `(height, h)`, at most `n` blocks of it. -/
def chainFrom (bs : List BlockQueryResult) : Nat → Int → Buffer → List BlockQueryResult
  | 0, _, _ => []
  | n + 1, height, h =>
    match blockAt bs height h with
    | none => []
    | some b => b :: chainFrom bs n (height - 1) b.parent_index_block_hash

/-- The parent chain of `Y`. -/
def chain (bs : List BlockQueryResult) (Y : BlockQueryResult) : List BlockQueryResult :=
  chainFrom bs bs.length Y.block_height Y.index_block_hash

/-- The stored parent of `b`: the block one height below carrying `b.parent_index_block_hash`. -/
def parentOf (bs : List BlockQueryResult) (b : BlockQueryResult) : Option BlockQueryResult :=
  blockAt bs (b.block_height - 1) b.parent_index_block_hash

/-- The chain of an optional block, empty for `none`. -/
def optChain (bs : List BlockQueryResult) : Option BlockQueryResult → List BlockQueryResult
  | none => []
  | some Z => chain bs Z

/-- The heights `H, H - 1, …, 1`. -/
def heightsDown (H : Int) : List Int :=
  (List.range H.toNat).map fun i : Nat => H - i

/-- The number of stored blocks at or below height `k`. -/
def below (bs : List BlockQueryResult) (k : Int) : Nat :=
  bs.countP fun b => b.block_height ≤ k

/-- The shape of `blocks` that `update` keeps: `index_block_hash` is unique, and every block
above height 1 has its parent stored one height below it. -/
structure Shaped (bs : List BlockQueryResult) : Prop where
  nodup : (bs.map (·.index_block_hash)).Nodup
  parent : ∀ b ∈ bs, 1 < b.block_height →
    blockAt bs (b.block_height - 1) b.parent_index_block_hash ≠ none

section Lookup

variable {bs : List BlockQueryResult}

theorem blockAt_eq_some {k : Int} {h : Buffer} {b : BlockQueryResult}
    (hb : blockAt bs k h = some b) : b ∈ bs ∧ b.block_height = k ∧ b.index_block_hash = h := by
  have hp := List.find?_some hb
  simp only [Bool.and_eq_true, beq_iff_eq] at hp
  exact ⟨List.mem_of_find?_eq_some hb, hp⟩

theorem blockAt_eq_none {k : Int} {h : Buffer} :
    blockAt bs k h = none ↔ ∀ b ∈ bs, ¬(b.block_height = k ∧ b.index_block_hash = h) := by
  simp [blockAt]

theorem eq_of_hash_eq (hn : (bs.map (·.index_block_hash)).Nodup) {b b' : BlockQueryResult}
    (hb : b ∈ bs) (hb' : b' ∈ bs) (h : b.index_block_hash = b'.index_block_hash) : b = b' :=
  List.inj_on_of_nodup_map hn hb hb' h

theorem blockAt_of_mem (hn : (bs.map (·.index_block_hash)).Nodup) {b : BlockQueryResult}
    (hb : b ∈ bs) : blockAt bs b.block_height b.index_block_hash = some b := by
  cases h : blockAt bs b.block_height b.index_block_hash with
  | none => exact absurd ⟨rfl, rfl⟩ (blockAt_eq_none.1 h b hb)
  | some b' =>
    obtain ⟨hb', -, hh⟩ := blockAt_eq_some h
    rw [eq_of_hash_eq hn hb' hb hh]

/-- Under unique hashes, the lookup finds exactly the stored block with that height and hash. -/
theorem blockAt_eq_some_iff (hn : (bs.map (·.index_block_hash)).Nodup) {k : Int} {h : Buffer}
    {b : BlockQueryResult} :
    blockAt bs k h = some b ↔ b ∈ bs ∧ b.block_height = k ∧ b.index_block_hash = h := by
  refine ⟨blockAt_eq_some, ?_⟩
  rintro ⟨hb, rfl, rfl⟩
  exact blockAt_of_mem hn hb

end Lookup

/-! ## Fuel -/

section Fuel

variable {bs : List BlockQueryResult}

theorem countP_lt_of_mem {α : Type} {p q : α → Bool} :
    ∀ {l : List α}, (∀ x ∈ l, p x → q x) → ∀ {a}, a ∈ l → q a = true → p a = false →
      l.countP p < l.countP q
  | [], _, _, ha, _, _ => absurd ha (List.not_mem_nil _)
  | x :: xs, h, a, ha, hq, hp => by
    have h' : ∀ y ∈ xs, p y → q y := fun y hy => h y (List.mem_cons_of_mem x hy)
    have hx := h x (List.mem_cons_self x xs)
    simp only [List.countP_cons]
    rcases List.mem_cons.1 ha with rfl | ha
    · have := List.countP_mono_left h'
      simp only [hp, hq, if_true, Bool.false_eq_true, if_false]; omega
    · have := countP_lt_of_mem h' ha hq hp
      cases hpx : p x <;> cases hqx : q x <;> simp [hpx, hqx] at hx ⊢ <;> omega

theorem below_lt {b : BlockQueryResult} (hb : b ∈ bs) :
    below bs (b.block_height - 1) < below bs b.block_height :=
  countP_lt_of_mem (fun x _ hx => by simp at hx ⊢; omega) hb (by simp)
    (by simp only [decide_eq_false_iff_not]; omega)

theorem below_le_length (k : Int) : below bs k ≤ bs.length :=
  List.countP_le_length _

theorem chainFrom_of_below_eq_zero {k : Int} (hk : below bs k = 0) (n : Nat) (h : Buffer) :
    chainFrom bs n k h = [] := by
  have hnone : blockAt bs k h = none := blockAt_eq_none.2 fun b hb ⟨hbk, _⟩ =>
    (List.countP_eq_zero.1 hk) b hb (by simp [hbk])
  cases n <;> simp [chainFrom, hnone]

/-- Fuel beyond the number of blocks at or below the start changes nothing. -/
theorem chainFrom_fuel :
    ∀ (n m : Nat) (k : Int) (h : Buffer), below bs k ≤ n → below bs k ≤ m →
      chainFrom bs n k h = chainFrom bs m k h
  | 0, m, k, h, hn, _ => by
    rw [chainFrom_of_below_eq_zero (by omega) m]; rfl
  | n + 1, 0, k, h, _, hm => by
    rw [chainFrom_of_below_eq_zero (by omega) (n + 1)]; rfl
  | n + 1, m + 1, k, h, hn, hm => by
    simp only [chainFrom]
    cases hb : blockAt bs k h with
    | none => rfl
    | some b =>
      obtain ⟨hmem, hk, -⟩ := blockAt_eq_some hb
      have hlt := below_lt hmem
      rw [hk] at hlt
      dsimp only
      rw [chainFrom_fuel n m (k - 1) _ (by omega) (by omega)]

end Fuel

/-! ## Unfolding a chain -/

section Unfold

variable {bs : List BlockQueryResult} (hn : (bs.map (·.index_block_hash)).Nodup)
include hn

theorem chain_eq_cons {Y : BlockQueryResult} (hY : Y ∈ bs) :
    chain bs Y = Y :: chainFrom bs (bs.length - 1) (Y.block_height - 1)
      Y.parent_index_block_hash := by
  obtain ⟨n, hlen⟩ : ∃ n, bs.length = n + 1 := ⟨bs.length - 1, by
    have := List.length_pos_of_mem hY; omega⟩
  simp only [chain, hlen, chainFrom, blockAt_of_mem hn hY, Nat.add_sub_cancel]

theorem chain_of_parent {Y P : BlockQueryResult} (hY : Y ∈ bs)
    (hP : blockAt bs (Y.block_height - 1) Y.parent_index_block_hash = some P) :
    chain bs Y = Y :: chain bs P := by
  obtain ⟨hPm, hPk, hPh⟩ := blockAt_eq_some hP
  rw [chain_eq_cons hn hY, chain, ← hPk, ← hPh]
  have h1 := below_lt hY
  have h2 : below bs Y.block_height ≤ bs.length := below_le_length _
  rw [← hPk] at h1
  rw [chainFrom_fuel (bs.length - 1) bs.length _ _ (by omega) (by omega)]

theorem chain_of_no_parent {Y : BlockQueryResult} (hY : Y ∈ bs)
    (hP : blockAt bs (Y.block_height - 1) Y.parent_index_block_hash = none) :
    chain bs Y = [Y] := by
  rw [chain_eq_cons hn hY]
  cases bs.length - 1 <;> simp [chainFrom, hP]

theorem self_mem_chain {Y : BlockQueryResult} (hY : Y ∈ bs) : Y ∈ chain bs Y := by
  rw [chain_eq_cons hn hY]; exact List.mem_cons_self _ _

/-- A chain is its head and the chain of the head's parent. -/
theorem chain_eq_optChain {Y : BlockQueryResult} (hY : Y ∈ bs) :
    chain bs Y = Y :: optChain bs (parentOf bs Y) := by
  cases hP : parentOf bs Y with
  | none => exact chain_of_no_parent hn hY hP
  | some P => exact chain_of_parent hn hY hP

theorem optChain_eq {Zo : Option BlockQueryResult} (hZ : ∀ Z ∈ Zo, Z ∈ bs) :
    optChain bs Zo = Zo.toList ++ optChain bs (Zo.bind (parentOf bs)) := by
  cases Zo with
  | none => rfl
  | some Z => exact chain_eq_optChain hn (hZ Z rfl)

end Unfold

/-! ## What a chain holds -/

section Members

variable {bs : List BlockQueryResult}

theorem mem_chainFrom : ∀ {n : Nat} {k : Int} {h : Buffer} {b : BlockQueryResult},
    b ∈ chainFrom bs n k h → b ∈ bs ∧ b.block_height ≤ k
  | 0, _, _, _, hb => absurd hb (List.not_mem_nil _)
  | n + 1, k, h, b, hb => by
    simp only [chainFrom] at hb
    split at hb
    · exact absurd hb (List.not_mem_nil _)
    · rename_i x hx
      obtain ⟨hxm, hxk, -⟩ := blockAt_eq_some hx
      rcases List.mem_cons.1 hb with rfl | hb
      · exact ⟨hxm, hxk.le⟩
      · have := mem_chainFrom hb
        exact ⟨this.1, by omega⟩

theorem mem_chain {Y b : BlockQueryResult} (hb : b ∈ chain bs Y) :
    b ∈ bs ∧ b.block_height ≤ Y.block_height :=
  mem_chainFrom hb

theorem mem_optChain_parentOf {Z c : BlockQueryResult} (hc : c ∈ optChain bs (parentOf bs Z)) :
    c ∈ bs ∧ c.block_height < Z.block_height := by
  cases hP : parentOf bs Z with
  | none => rw [hP] at hc; exact absurd hc (List.not_mem_nil _)
  | some P =>
    rw [hP] at hc
    have hPk := (blockAt_eq_some hP).2.1
    have := mem_chain hc
    exact ⟨this.1, by omega⟩

/-- A chain holds at most one block per height. -/
theorem eq_of_mem_chainFrom : ∀ {n : Nat} {k : Int} {h : Buffer} {b b' : BlockQueryResult},
    b ∈ chainFrom bs n k h → b' ∈ chainFrom bs n k h → b.block_height = b'.block_height → b = b'
  | 0, _, _, _, _, hb, _, _ => absurd hb (List.not_mem_nil _)
  | n + 1, k, h, b, b', hb, hb', hbb => by
    simp only [chainFrom] at hb hb'
    cases hx : blockAt bs k h with
    | none => simp [hx] at hb
    | some x =>
      simp only [hx] at hb hb'
      have hxk := (blockAt_eq_some hx).2.1
      rcases List.mem_cons.1 hb with rfl | hb <;> rcases List.mem_cons.1 hb' with rfl | hb'
      · rfl
      · have := (mem_chainFrom hb').2; omega
      · have := (mem_chainFrom hb).2; omega
      · exact eq_of_mem_chainFrom hb hb' hbb

theorem eq_of_mem_chain {Y b b' : BlockQueryResult} (hb : b ∈ chain bs Y) (hb' : b' ∈ chain bs Y)
    (h : b.block_height = b'.block_height) : b = b' :=
  eq_of_mem_chainFrom hb hb' h

/-- A block of `Zo`'s height in the chain of `Zo` is `Zo` itself. -/
theorem eq_some_of_mem_optChain (hn : (bs.map (·.index_block_hash)).Nodup)
    {Zo : Option BlockQueryResult} {P : BlockQueryResult}
    (ho : ∀ Z ∈ Zo, Z ∈ bs ∧ Z.block_height = P.block_height) (hP : P ∈ optChain bs Zo) :
    Zo = some P := by
  cases Zo with
  | none => exact absurd hP (List.not_mem_nil _)
  | some Z =>
    obtain ⟨hZ, hZk⟩ := ho Z rfl
    rw [eq_of_mem_chain hP (self_mem_chain hn hZ) hZk.symm]

section Map

variable {f : BlockQueryResult → BlockQueryResult}
  (hh : ∀ b, (f b).block_height = b.block_height)
  (hi : ∀ b, (f b).index_block_hash = b.index_block_hash)
  (hp : ∀ b, (f b).parent_index_block_hash = b.parent_index_block_hash)
include hh hi hp

omit hp in
theorem blockAt_map (k : Int) (h : Buffer) : blockAt (bs.map f) k h = (blockAt bs k h).map f := by
  simp only [blockAt, List.find?_map, Function.comp_def, hh, hi]

/-- A map that keeps height, hash and parent hash commutes with the chain. -/
theorem chainFrom_map :
    ∀ (n : Nat) (k : Int) (h : Buffer), chainFrom (bs.map f) n k h = (chainFrom bs n k h).map f
  | 0, _, _ => rfl
  | n + 1, k, h => by
    simp only [chainFrom, blockAt_map hh hi]
    cases blockAt bs k h with
    | none => rfl
    | some b => simp [hp, chainFrom_map n]

theorem chain_map (Y : BlockQueryResult) : chain (bs.map f) (f Y) = (chain bs Y).map f := by
  simp only [chain, List.length_map, hh, hi, chainFrom_map hh hi hp]

theorem Shaped.map (hs : Shaped bs) : Shaped (bs.map f) where
  nodup := by rw [List.map_map, Function.comp_def]; simpa only [hi] using hs.nodup
  parent b hb hk := by
    obtain ⟨c, hc, rfl⟩ := List.mem_map.1 hb
    rw [hh] at hk
    rw [hh, hp, blockAt_map hh hi]
    simpa using hs.parent c hc hk

end Map

end Members

/-! ## Heights along a chain -/

theorem heightsDown_succ {H : Int} (hH : 1 ≤ H) : heightsDown H = H :: heightsDown (H - 1) := by
  obtain ⟨n, hn⟩ : ∃ n : Nat, H.toNat = n + 1 := ⟨H.toNat - 1, by omega⟩
  have hn' : (H - 1).toNat = n := by omega
  unfold heightsDown
  rw [hn, hn', List.range_succ_eq_map, List.map_cons, List.map_map]
  congr 1
  · omega
  · congr 1; funext i; simp only [Function.comp_apply]; omega

theorem heightsDown_one : heightsDown 1 = [1] := rfl

/-- From a block at height `H`, in a shaped store whose heights are all `≥ 1`, the chain has
exactly one block at each height `H, H - 1, …, 1`. -/
theorem chain_heights {bs : List BlockQueryResult} (hs : Shaped bs)
    (hpos : ∀ b ∈ bs, 1 ≤ b.block_height) :
    ∀ (n : Nat) (Y : BlockQueryResult), Y ∈ bs → Y.block_height = n →
      (chain bs Y).map (·.block_height) = heightsDown Y.block_height
  | 0, Y, hY, hn => absurd (hpos Y hY) (by omega)
  | n + 1, Y, hY, hn => by
    by_cases hlt : 1 < Y.block_height
    · obtain ⟨P, hP⟩ := Option.ne_none_iff_exists'.1 (hs.parent Y hY hlt)
      obtain ⟨hPm, hPk, -⟩ := blockAt_eq_some hP
      rw [chain_of_parent hs.nodup hY hP, heightsDown_succ (hpos Y hY), List.map_cons,
        chain_heights hs hpos n P hPm (by omega), hPk]
    · have heq : Y.block_height = 1 := by have := hpos Y hY; omega
      have hnone : blockAt bs (Y.block_height - 1) Y.parent_index_block_hash = none :=
        blockAt_eq_none.2 fun b hb ⟨hbk, _⟩ => absurd (hpos b hb) (by omega)
      rw [chain_of_no_parent hs.nodup hY hnone, heq, heightsDown_one]; simp [heq]

theorem one_le_of_mem_heightsDown {H x : Int} (hx : x ∈ heightsDown H) : 1 ≤ x := by
  obtain ⟨i, hi, rfl⟩ := List.mem_map.1 hx
  have := List.mem_range.1 hi
  omega

/-- The canonical blocks of `bs` are the chain of `T`, a block of the greatest stored height,
and that chain holds one block at each height `T.block_height, …, 1`. -/
structure CanonicalChain (bs : List BlockQueryResult) (T : BlockQueryResult) : Prop where
  mem : T ∈ bs
  tip : ∀ b ∈ bs, b.block_height ≤ T.block_height
  canonical : ∀ b ∈ bs, b.canonical = true ↔ b ∈ chain bs T
  heights : (chain bs T).map (·.block_height) = heightsDown T.block_height

theorem CanonicalChain.one_le {bs : List BlockQueryResult} {T b : BlockQueryResult}
    (hT : CanonicalChain bs T) (hb : b ∈ chain bs T) : 1 ≤ b.block_height :=
  one_le_of_mem_heightsDown (hT.heights ▸ List.mem_map_of_mem _ hb)

/-- The stored parent of a block of a chain is on the chain. -/
theorem parentOf_mem_chain {bs : List BlockQueryResult} (hn : (bs.map (·.index_block_hash)).Nodup)
    (hpos : ∀ b ∈ bs, 1 ≤ b.block_height) :
    ∀ (n : Nat) (T : BlockQueryResult), T ∈ bs → T.block_height = n →
      ∀ b ∈ chain bs T, ∀ P, parentOf bs b = some P → P ∈ chain bs T
  | 0, T, hT, hk, _, _, _, _ => absurd (hpos T hT) (by omega)
  | n + 1, T, hT, hk, b, hb, P, hP => by
    rw [chain_eq_optChain hn hT] at hb ⊢
    rcases List.mem_cons.1 hb with rfl | hb
    · rw [hP]; exact List.mem_cons_of_mem _ (self_mem_chain hn (blockAt_eq_some hP).1)
    · cases hQ : parentOf bs T with
      | none => rw [hQ] at hb; exact absurd hb (List.not_mem_nil _)
      | some Q =>
        rw [hQ] at hb
        obtain ⟨hQm, hQk, -⟩ := blockAt_eq_some hQ
        exact List.mem_cons_of_mem _ (parentOf_mem_chain hn hpos n Q hQm (by omega) b hb P hP)

/-! ## No chain is longer than the store -/

section Length

variable {bs : List BlockQueryResult}

theorem chainFrom_pairwise : ∀ (n : Nat) (k : Int) (h : Buffer),
    (chainFrom bs n k h).Pairwise fun a b => b.block_height < a.block_height
  | 0, _, _ => List.Pairwise.nil
  | n + 1, k, h => by
    simp only [chainFrom]
    cases hx : blockAt bs k h with
    | none => exact List.Pairwise.nil
    | some x =>
      have hxk := (blockAt_eq_some hx).2.1
      refine List.pairwise_cons.2 ⟨fun b hb => ?_, chainFrom_pairwise n _ _⟩
      have := (mem_chainFrom hb).2; omega

theorem chain_nodup (Y : BlockQueryResult) : (chain bs Y).Nodup :=
  (chainFrom_pairwise _ _ _).imp fun h e => by rw [e] at h; exact lt_irrefl _ h

theorem chain_length_le (Y : BlockQueryResult) : (chain bs Y).length ≤ bs.length :=
  (List.subperm_of_subset (chain_nodup Y) fun _ hb => (mem_chain hb).1).length_le

end Length

end Sidecar.Canonical
