import Sidecar.Update.Step
import Sidecar.Canonical.Append

/-!
# The canonical chain of every reachable store

Runs of `update` (`postgres-store.ts:221-272`) from the freshly migrated database, each call on
a well-formed batch: the block at height 1 or more, every record `canonical`, and every
transaction carrying the block's `index_block_hash` (`DataStoreUpdateData.WellFormed`). A call
may fail before `COMMIT` and be rolled back, and its listeners may throw after it.

`Inv` is what every reachable store satisfies: `index_block_hash` is unique and every block
above height 1 has its parent stored (`Shaped`), every height is at least 1, every entity row
has the flag of its block (`Store.Agrees`), and, unless the store is empty, the canonical blocks
are the chain of a block `T` of the greatest height, one block at each height
`T.block_height, …, 1` (`CanonicalChain`).

Results:
* `getChainTipHeight_eq`: in such a store `getChainTipHeight` reads the height of `T`;
* `reorg_spec`: what `handleReorg` leaves (`Reorged`): the store, or the store with the chain of
  the incoming block's orphaned parent restored (`restoreOrphanedChain_tip`), satisfying `Inv`,
  with the parent stored and at the tip when the block is above the tip;
* `update_inv`: one call of `update` keeps `Inv`, and `Reachable.inv`: every reachable store
  satisfies it;
* `reachable_canonical_chain`, `reachable_agrees`: the two invariants of the reorg design;
* `handleReorg_error_iff`: in a reachable store `handleReorg` fails exactly when no parent is
  stored, and then with `noParent`.
-/

namespace Sidecar.Datastore

/-- Every record of the batch has `canonical = c`, and every transaction the block's
`index_block_hash`. -/
structure DataStoreUpdateData.Carries (data : DataStoreUpdateData) (c : Bool) : Prop where
  block : data.block.canonical = c
  txs : ∀ entry ∈ data.txs,
    entry.tx.index_block_hash = data.block.index_block_hash ∧ entry.Flags (· = c)

/-- A batch as the node delivers it: the block at height 1 or more, and every record canonical
and of the block. -/
structure DataStoreUpdateData.WellFormed (data : DataStoreUpdateData) : Prop where
  height : 1 ≤ data.block.block_height
  carries : data.Carries true

/-- `update`'s downgrade sets every flag of the batch to `false`. -/
theorem DataStoreUpdateData.Carries.markNonCanonical {data : DataStoreUpdateData} {c : Bool}
    (h : data.Carries c) : data.markNonCanonical.Carries false where
  block := rfl
  txs entry he := by
    obtain ⟨e, he0, rfl⟩ := List.mem_map.1 he
    have off : ∀ {β : Type} {l : List β} {f : β → β} {g : β → Bool}, (∀ y, g (f y) = false) →
        ∀ x ∈ l.map f, g x = false := fun hf => List.forall_mem_map.2 fun y _ => hf y
    exact ⟨(h.txs e he0).1, ⟨rfl, off fun _ => rfl, off fun _ => rfl, off fun _ => rfl,
      off fun _ => rfl, off fun _ => rfl⟩⟩

end Sidecar.Datastore

namespace Sidecar.Update

open Sidecar.Datastore Sidecar.Canonical

/-- What every reachable store satisfies. -/
structure Inv (S : Store) : Prop where
  shaped : Shaped S.blocks
  pos : ∀ b ∈ S.blocks, 1 ≤ b.block_height
  agrees : S.Agrees
  canonicalChain : S.blocks = [] ∨ ∃ T, CanonicalChain S.blocks T

/-- The stores that runs of `update` on well-formed batches reach from the empty store, whatever
the listeners do. -/
inductive Reachable (env : Env) : Store → Prop
  | empty : Reachable env Store.empty
  | step {S : Store} (listenerThrows : Notification → Bool) {data : DataStoreUpdateData} :
      Reachable env S → data.WellFormed → Reachable env (update env listenerThrows S data).store

theorem Inv.empty : Inv Store.empty where
  shaped := ⟨List.nodup_nil, fun _ h => absurd h (List.not_mem_nil _)⟩
  pos _ h := absurd h (List.not_mem_nil _)
  agrees := Store.agrees_of_blocks []
  canonicalChain := .inl rfl

/-! ## The tip -/

section Tip

variable (env : Env) {S : Store}

/-- `getChainTipHeight` reads the height of the tip of the canonical chain. -/
theorem getChainTipHeight_eq (hn : (S.blocks.map (·.index_block_hash)).Nodup) {T : BlockQueryResult}
    (ht : CanonicalChain S.blocks T) : (getChainTipHeight env S).blockHeight = T.block_height := by
  have : Std.Antisymm (α := Int) (· ≤ ·) := ⟨Int.le_antisymm⟩
  have hmax : maxHeight S = some T.block_height :=
    (List.max?_eq_some_iff Int.le_refl (fun a b => by omega) (fun _ _ _ => Int.max_le)).2
      ⟨List.mem_map_of_mem _ ht.mem, by simpa using ht.tip⟩
  have hT : T.canonical = true := (ht.canonical T ht.mem).2 (self_mem_chain hn ht.mem)
  simp only [getChainTipHeight]
  cases hf : S.blocks.filter fun b => b.canonical && maxHeight S == some b.block_height with
  | nil => exact absurd (List.filter_eq_nil_iff.1 hf T ht.mem) (by simp [hmax, hT])
  | cons x xs =>
    have hx := (List.mem_filter.1 (hf ▸ List.mem_cons_self x xs)).2
    simp only [hmax, Bool.and_eq_true, beq_iff_eq, Option.some.injEq] at hx
    simp [hx.2]

theorem getChainTipHeight_nil (h : S.blocks = []) : (getChainTipHeight env S).blockHeight = 0 := by
  simp [getChainTipHeight, h]

/-- The tip height of a store satisfying `Inv`: 0 when it is empty, the height of the canonical
chain's tip otherwise. -/
theorem Inv.tip (hi : Inv S) :
    (S.blocks = [] ∧ (getChainTipHeight env S).blockHeight = 0) ∨
      ∃ T, CanonicalChain S.blocks T ∧ (getChainTipHeight env S).blockHeight = T.block_height ∧
        1 ≤ T.block_height := by
  rcases hi.canonicalChain with h | ⟨T, ht⟩
  · exact .inl ⟨h, getChainTipHeight_nil env h⟩
  · exact .inr ⟨T, ht, getChainTipHeight_eq env hi.shaped.nodup ht, hi.pos T ht.mem⟩

end Tip

/-! ## The reorg -/

/-- What `handleReorg` leaves from `S`, for an incoming block of height `k` whose parent hash
is `parent`, and the tip height `tip` of `S`. -/
structure Reorged (S S1 : Store) (k : Int) (parent : Buffer) (tip : Int) : Prop where
  inv : Inv S1
  relabel : ∃ g, S1 = S.relabel g
  parent_stored : 1 < k → blockAt S1.blocks (k - 1) parent ≠ none
  above : tip < k → (S1.blocks = [] ∧ k = 1) ∨
    ∃ P, blockAt S1.blocks (k - 1) parent = some P ∧ CanonicalChain S1.blocks P
  below : k ≤ tip → S1 = S ∧ ∃ T, CanonicalChain S.blocks T ∧ k ≤ T.block_height

section Reorg

variable {env : Env} {S S1 : Store} {k : Int} {parent : Buffer}

/-- No restore: the store is kept, and a block above the tip has the tip as its parent. -/
theorem Reorged.of_keep (hi : Inv S) (hk : 1 ≤ k)
    (hp : 1 < k → ∃ P, blockAt S.blocks (k - 1) parent = some P ∧
      ((getChainTipHeight env S).blockHeight < k → P.canonical = true)) :
    Reorged S S k parent (getChainTipHeight env S).blockHeight := by
  refine ⟨hi, ⟨_, (relabel_canonicalHashes hi.shaped.nodup hi.agrees).symm⟩,
    fun h => ?_, fun hlt => ?_, fun hle => ⟨rfl, ?_⟩⟩
  · obtain ⟨P, hP, -⟩ := hp h
    rw [hP]; exact Option.some_ne_none P
  · rcases hi.tip env with ⟨h0, htip⟩ | ⟨T, ht, htip, hT1⟩
    · by_cases h1 : 1 < k
      · obtain ⟨P, hP, -⟩ := hp h1
        rw [h0] at hP; cases hP
      · exact .inl ⟨h0, by omega⟩
    · obtain ⟨P, hP, hPc⟩ := hp (by omega)
      obtain ⟨hPm, hPk, -⟩ := blockAt_eq_some hP
      have hPT : P ∈ chain S.blocks T := (ht.canonical P hPm).1 (hPc hlt)
      have := ht.tip P hPm
      rw [← eq_of_mem_chain hPT (self_mem_chain hi.shaped.nodup ht.mem) (by omega)] at ht
      exact .inr ⟨P, hP, ht⟩
  · rcases hi.tip env with ⟨-, htip⟩ | ⟨T, ht, htip, -⟩
    · omega
    · exact ⟨T, ht, by omega⟩

/-- The flags of `S` relabelled by the chain of a block of the greatest height. -/
theorem Inv.relabel_chain (hi : Inv S) {P : BlockQueryResult} (hP : P ∈ S.blocks)
    (hPk : ∀ b ∈ S.blocks, b.block_height ≤ P.block_height) :
    Inv (S.relabel fun h => decide (h ∈ hashes (chain S.blocks P))) :=
  ⟨hi.shaped.map (fun _ => rfl) (fun _ => rfl) (fun _ => rfl),
    fun b hb => by obtain ⟨c, hc, rfl⟩ := List.mem_map.1 hb; exact hi.pos c hc,
    agrees_relabel hi.agrees _, .inr ⟨_, canonicalChain_relabel hi.shaped hi.pos hP hPk⟩⟩

/-- The parent of a block above the tip, stored and orphaned, is at the tip height, and
restoring it makes its chain the canonical one. -/
theorem Inv.restore_parent (hi : Inv S) {P : BlockQueryResult} (hPm : P ∈ S.blocks)
    (hPk : P.block_height = k - 1) (hPc : P.canonical = false)
    (hlt : (getChainTipHeight env S).blockHeight < k) (ue : UpdatedEntities) :
    (∀ b ∈ S.blocks, b.block_height ≤ P.block_height) ∧ ∃ ue',
      restoreOrphanedChain S P.index_block_hash ue =
        .ok (S.relabel fun h => decide (h ∈ hashes (chain S.blocks P)), ue') := by
  obtain ⟨T, ht, htip, -⟩ := (hi.tip env).resolve_left fun ⟨h0, _⟩ => by
    rw [h0] at hPm; exact List.not_mem_nil _ hPm
  have hPT : P.block_height = T.block_height := le_antisymm (ht.tip P hPm) (by omega)
  exact ⟨fun b hb => hPT ▸ ht.tip b hb,
    restoreOrphanedChain_tip hi.shaped ht hi.agrees hPm hPc hPT ue⟩

/-- What `handleReorg` leaves, from a store satisfying `Inv`. -/
theorem reorg_spec {block : DbBlock} {ue : UpdatedEntities} (hi : Inv S)
    (hk : 1 ≤ block.block_height)
    (h : handleReorg env S block (getChainTipHeight env S).blockHeight = .ok (S1, ue)) :
    Reorged S S1 block.block_height (env.hexToBuffer block.parent_index_block_hash)
      (getChainTipHeight env S).blockHeight := by
  rw [handleReorg_eq hi.shaped.nodup] at h
  split_ifs at h with hk1
  · cases hP : blockAt S.blocks (block.block_height - 1)
        (env.hexToBuffer block.parent_index_block_hash) with
    | none => simp [hP] at h
    | some P =>
      obtain ⟨hPm, hPk, hPh⟩ := blockAt_eq_some hP
      simp only [hP] at h
      split_ifs at h with hc
      · -- the parent is orphaned and the block above the tip: its chain is restored
        simp only [Bool.and_eq_true, Bool.not_eq_true', decide_eq_true_eq] at hc
        obtain ⟨hPk', ue', hres⟩ := hi.restore_parent hPm hPk hc.1 hc.2
          { UpdatedEntities.zero with blocks := 1 }
        rw [hres] at h
        cases h
        have hP' : blockAt (S.blocks.map (·.label fun h => decide (h ∈ hashes (chain S.blocks P))))
            (block.block_height - 1) (env.hexToBuffer block.parent_index_block_hash) =
            some (P.label fun h => decide (h ∈ hashes (chain S.blocks P))) := by
          rw [blockAt_map (f := BlockQueryResult.label _) (fun _ => rfl) (fun _ => rfl), hP]; rfl
        exact ⟨hi.relabel_chain hPm hPk', ⟨_, rfl⟩, fun _ => hP' ▸ Option.some_ne_none _,
          fun _ => .inr ⟨_, hP', canonicalChain_relabel hi.shaped hi.pos hPm hPk'⟩,
          fun hle => absurd hc.2 (by omega)⟩
      · -- the parent is canonical, or the block is not above the tip
        cases h
        refine Reorged.of_keep hi hk fun _ => ⟨P, hP, fun hlt => ?_⟩
        simp only [Bool.and_eq_true, Bool.not_eq_true', decide_eq_true_eq, not_and] at hc
        exact Bool.not_eq_false _ |>.mp fun hf => hc hf hlt
  · cases h
    exact Reorged.of_keep hi hk fun h => absurd h hk1

end Reorg

/-! ## One call of `update` -/

section Insert

variable {S1 S' : Store} {B : BlockQueryResult}

theorem agrees_insert {α : Type} {bs : List BlockQueryResult} {t t' : Table α}
    (ht : Table.Agrees bs t)
    (happ : Table.Appends (fun h c => h = B.index_block_hash ∧ c = B.canonical) t t') :
    Table.Agrees (bs ++ [B]) t' := by
  obtain ⟨N, rfl, hN⟩ := happ
  intro r hr
  rcases List.mem_append.1 hr with hr | hr
  · obtain ⟨b, hb, h⟩ := ht r hr
    exact ⟨b, List.mem_append_left _ hb, h⟩
  · obtain ⟨hh, hc⟩ := hN r hr
    exact ⟨B, List.mem_append_right _ (List.mem_singleton_self _), hh.symm, hc.symm⟩

/-- Appending a new block, and entity rows with its hash and flag, keeps `Inv` when the block is
stored non-canonical at or below the tip, or canonical on the tip. -/
theorem Inv.insert (hi : Inv S1) (hB : B.index_block_hash ∉ hashes S1.blocks)
    (hB1 : 1 ≤ B.block_height)
    (hp : 1 < B.block_height →
      blockAt S1.blocks (B.block_height - 1) B.parent_index_block_hash ≠ none)
    (hchain : (B.canonical = false ∧
        ∃ T, CanonicalChain S1.blocks T ∧ B.block_height ≤ T.block_height) ∨
      (B.canonical = true ∧ ((S1.blocks = [] ∧ B.block_height = 1) ∨
        ∃ P, blockAt S1.blocks (B.block_height - 1) B.parent_index_block_hash = some P ∧
          CanonicalChain S1.blocks P)))
    (happ : Store.Appends (fun h c => h = B.index_block_hash ∧ c = B.canonical)
      { S1 with blocks := S1.blocks ++ [B] } S') :
    Inv S' := by
  have hbl : S'.blocks = S1.blocks ++ [B] := happ.blocks
  obtain ⟨a1, a2, a3, a4, a5, a6⟩ := hi.agrees
  refine ⟨hbl ▸ hi.shaped.append hB hp, hbl ▸ pos_append hi.pos hB1, ?_, .inr ?_⟩
  · rw [Store.Agrees, hbl]
    exact ⟨agrees_insert a1 happ.txs, agrees_insert a2 happ.stx_events,
      agrees_insert a3 happ.ft_events, agrees_insert a4 happ.nft_events,
      agrees_insert a5 happ.contract_logs, agrees_insert a6 happ.smart_contracts⟩
  · rw [hbl]
    rcases hchain with ⟨hc, T, ht, hBT⟩ | ⟨hc, ⟨h0, hk⟩ | ⟨P, hP, ht⟩⟩
    · exact ⟨T, ht.append_orphan hi.shaped hi.pos hB hB1 hBT hc hp⟩
    · rw [h0]; exact ⟨B, CanonicalChain.single hk hc⟩
    · exact ⟨B, ht.append_tip hi.shaped hi.pos hB hB1 hP hc⟩

end Insert

/-- The batch after `update`'s downgrade carries `tip < block_height` on every record. -/
theorem downgrade_carries {data : DataStoreUpdateData} (hc : data.Carries true) (tip : Int) :
    (if data.block.block_height ≤ tip then data.markNonCanonical else data).Carries
      (decide (tip < data.block.block_height)) := by
  split_ifs with h
  · rw [decide_eq_false (by omega)]; exact hc.markNonCanonical
  · rw [decide_eq_true (by omega)]; exact hc

/-- The downgrade changes the block's flag only. -/
theorem downgrade_block_row {env : Env} {data : DataStoreUpdateData} (p : Prop) [Decidable p] :
    (if p then data.markNonCanonical else data).block.row env =
      { data.block.row env with
        canonical := (if p then data.markNonCanonical else data).block.canonical } := by
  split_ifs <;> rfl

section Update

variable (env : Env) (listenerThrows : Notification → Bool)

/-- **One call keeps the invariant.** -/
theorem update_inv {S : Store} {data : DataStoreUpdateData} (hi : Inv S) (hwf : data.WellFormed) :
    Inv (update env listenerThrows S data).store := by
  cases hw : updateWrites env S data with
  | error e => rw [update_of_error listenerThrows data hw]; exact hi
  | ok r =>
    obtain ⟨S', data'⟩ := r
    rw [update_of_ok listenerThrows data hw]
    obtain ⟨S1, ue, S2, n, h1, rfl, h2, h3⟩ := updateWrites_ok hw
    have hr := reorg_spec hi hwf.height h1
    have hcar := downgrade_carries hwf.carries (getChainTipHeight env S).blockHeight
    have hk : (if data.block.block_height ≤ (getChainTipHeight env S).blockHeight then
        data.markNonCanonical else data).block.block_height = data.block.block_height ∧
      (if data.block.block_height ≤ (getChainTipHeight env S).blockHeight then
        data.markNonCanonical else data).block.parent_index_block_hash =
        data.block.parent_index_block_hash := by
      split_ifs <;> exact ⟨rfl, rfl⟩
    generalize (if data.block.block_height ≤ (getChainTipHeight env S).blockHeight then
      data.markNonCanonical else data) = d at hcar hk h2 h3
    rcases updateBlock_ok h2 with ⟨rfl, rfl, -⟩ | ⟨rfl, rfl, hfresh⟩
    · obtain ⟨-, rfl⟩ := h3.resolve_right fun h => h.1 rfl
      exact hr.inv
    · obtain ⟨-, h3⟩ := h3.resolve_left fun h => Nat.one_ne_zero h.1
      have happ := foldlM_insertEntry_appends hcar.txs h3
      rw [← hcar.block] at happ
      refine Inv.insert (B := d.block.row env) hr.inv (fun hm => ?_)
        (show 1 ≤ d.block.block_height from hk.1 ▸ hwf.height) (fun h => ?_) ?_ happ
      · obtain ⟨b, hb, hbh⟩ := List.mem_map.1 hm
        simp only [List.any_eq_false, beq_iff_eq] at hfresh
        exact hfresh b hb hbh
      · simp only [DbBlock.row, hk.1, hk.2] at h ⊢
        exact hr.parent_stored h
      · simp only [DbBlock.row, hk.1, hk.2, hcar.block]
        by_cases hlt : (getChainTipHeight env S).blockHeight < data.block.block_height
        · exact .inr ⟨decide_eq_true hlt, hr.above hlt⟩
        · obtain ⟨rfl, hT⟩ := hr.below (by omega)
          exact .inl ⟨decide_eq_false hlt, hT⟩

/-- A block at or below the tip changes no stored row: every table only grows. -/
theorem update_extends_of_le {S : Store} {data : DataStoreUpdateData}
    (hle : data.block.block_height ≤ (getChainTipHeight env S).blockHeight) :
    Store.Extends S (update env listenerThrows S data).store := by
  cases hw : updateWrites env S data with
  | error e => rw [update_of_error listenerThrows data hw]; exact .refl S
  | ok r =>
    obtain ⟨S', data'⟩ := r
    rw [update_of_ok listenerThrows data hw]
    obtain ⟨S1, ue, S2, n, h1, rfl, h2, h3⟩ := updateWrites_ok hw
    obtain rfl := (handleReorg_ok h1).resolve_right fun ⟨hlt, _⟩ => absurd hle (by omega)
    have hS2 : Store.Extends S1 S2 := by
      rcases updateBlock_ok h2 with ⟨-, rfl, -⟩ | ⟨-, rfl, -⟩
      · exact .refl _
      · exact .append_block _ _
    rcases h3 with ⟨-, rfl⟩ | ⟨-, h3⟩
    · exact hS2
    · exact hS2.trans (foldlM_insertEntry_appends_any h3).toExtends

end Update

/-- Every reachable store satisfies `Inv`. -/
theorem Reachable.inv {env : Env} {S : Store} (hS : Reachable env S) : Inv S := by
  induction hS with
  | empty => exact Inv.empty
  | step listenerThrows _ hwf ih => exact update_inv env listenerThrows ih hwf

/-- The store a sequence of `update` calls leaves. -/
def run (env : Env) (listenerThrows : Notification → Bool) (S : Store)
    (batches : List DataStoreUpdateData) : Store :=
  batches.foldl (fun S data => (update env listenerThrows S data).store) S

theorem Reachable.run {env : Env} {S : Store} (hS : Reachable env S)
    (listenerThrows : Notification → Bool) :
    ∀ {batches : List DataStoreUpdateData}, (∀ d ∈ batches, d.WellFormed) →
      Reachable env (Update.run env listenerThrows S batches)
  | [], _ => hS
  | _ :: _, hw => (hS.step listenerThrows (hw _ (List.mem_cons_self _ _))).run listenerThrows
      fun d hd => hw d (List.mem_cons_of_mem _ hd)

/-! ## A sample run -/

/-- A block of the sample run, on `parent`. -/
def sampleBlock (hash parent : String) (height : Int) : DbBlock :=
  ⟨hash, hash, parent, parent, "0x", height, 0, true⟩

/-- A token transfer of 10 from `SP1` to `SP2` in block `0x02`, and its STX event. -/
def sampleEntry : UpdateEntry where
  tx :=
    { tx_id := "0xa1", tx_index := 0, index_block_hash := "0x02", block_hash := "0x02",
      block_height := 2, burn_block_time := 0, type_id := DbTxTypeId.TokenTransfer,
      status := DbTxStatus.Success, canonical := true, post_conditions := none, fee_rate := 1,
      sponsored := false, sender_address := "SP1", origin_hash_mode := 0,
      token_transfer_recipient_address := some "SP2", token_transfer_amount := some 10,
      token_transfer_memo := none, smart_contract_contract_id := none,
      smart_contract_source_code := none, contract_call_contract_id := none,
      contract_call_function_name := none, contract_call_function_args := none,
      poison_microblock_header_1 := none, poison_microblock_header_2 := none,
      coinbase_payload := none }
  stxEvents := [⟨0, "0xa1", 0, 2, true, 1, some "SP1", some "SP2", 10⟩]
  ftEvents := []
  nftEvents := []
  contractLogEvents := []
  smartContracts := []

/-- The block of the sample run at height 1. -/
def genesisBatch : DataStoreUpdateData := ⟨sampleBlock "0x01" "0x00" 1, []⟩

/-- Block `0x02` on `0x01`, with `sampleEntry`. -/
def transferBatch : DataStoreUpdateData := ⟨sampleBlock "0x02" "0x01" 2, [sampleEntry]⟩

/-- A batch of a block alone is well-formed when the block is canonical at height 1 or more. -/
theorem wellFormed_of_block {b : DbBlock} (hk : 1 ≤ b.block_height)
    (hc : b.canonical = true) : (⟨b, []⟩ : DataStoreUpdateData).WellFormed :=
  ⟨hk, hc, fun _ h => absurd h (List.not_mem_nil _)⟩

theorem transferBatch_wf : transferBatch.WellFormed := by
  refine ⟨by decide, rfl, fun e he => ?_⟩
  obtain rfl := List.mem_singleton.1 he
  exact ⟨rfl, ⟨rfl, by decide, fun _ h => absurd h (List.not_mem_nil _),
    fun _ h => absurd h (List.not_mem_nil _), fun _ h => absurd h (List.not_mem_nil _),
    fun _ h => absurd h (List.not_mem_nil _)⟩⟩

/-- A fork and a reorg: `0x01`, then `0x02` on it with `sampleEntry`, a sibling `0x03`
(stored non-canonical), and `0x04` on `0x03`, which orphans `0x02` and its rows. -/
def sampleBatches : List DataStoreUpdateData :=
  [genesisBatch, transferBatch, ⟨sampleBlock "0x03" "0x01" 2, []⟩, ⟨sampleBlock "0x04" "0x03" 3, []⟩]

/-- The store the sample run leaves. -/
def sampleStore : Store := run Env.plain (fun _ => false) Store.empty sampleBatches

/-- The store after the first two batches: `0x02` canonical on `0x01`, with its transfer. -/
def transferStore : Store := run Env.plain (fun _ => false) Store.empty [genesisBatch, transferBatch]

theorem transferStore_reachable : Reachable Env.plain transferStore := by
  refine Reachable.empty.run _ fun d hd => ?_
  rcases List.mem_pair.1 hd with rfl | rfl
  · exact wellFormed_of_block (by decide) rfl
  · exact transferBatch_wf

theorem sampleBatches_wf : ∀ d ∈ sampleBatches, d.WellFormed := by
  intro d hd
  simp only [sampleBatches, List.mem_cons, List.mem_singleton, List.not_mem_nil, or_false] at hd
  rcases hd with rfl | rfl | rfl | rfl
  · exact wellFormed_of_block (by decide) rfl
  · exact transferBatch_wf
  all_goals exact wellFormed_of_block (by decide) rfl

theorem sample_reachable : Reachable Env.plain sampleStore :=
  Reachable.empty.run _ sampleBatches_wf

/-! ## The invariants of a reachable store -/

section Reachable

variable {env : Env} {S : Store}

/-- **The canonical chain.** In every reachable store that holds a block, the canonical blocks
are the chain of a block `T` of the greatest stored height, one at each height
`T.block_height, …, 1`, and `getChainTipHeight` reads `T.block_height`; so no two canonical
blocks share a height and the stored parent of a canonical block above height 1 is canonical.
And a call of `update` on a block not above the tip keeps every stored row as it was. -/
theorem reachable_canonical_chain (hS : Reachable env S) :
    (S.blocks ≠ [] → ∃ T, CanonicalChain S.blocks T ∧
      (getChainTipHeight env S).blockHeight = T.block_height ∧
      (∀ b ∈ S.blocks, ∀ b' ∈ S.blocks, b.canonical = true → b'.canonical = true →
        b.block_height = b'.block_height → b = b') ∧
      (∀ b ∈ S.blocks, b.canonical = true → 1 < b.block_height →
        ∃ p ∈ S.blocks, p.canonical = true ∧ p.block_height = b.block_height - 1 ∧
          p.index_block_hash = b.parent_index_block_hash)) ∧
    ∀ (listenerThrows : Notification → Bool) (data : DataStoreUpdateData),
      data.block.block_height ≤ (getChainTipHeight env S).blockHeight →
      Store.Extends S (update env listenerThrows S data).store := by
  have hi := hS.inv
  refine ⟨fun hne => ?_, fun lt _ hle => update_extends_of_le env lt hle⟩
  obtain ⟨T, ht⟩ := hi.canonicalChain.resolve_left hne
  refine ⟨T, ht, getChainTipHeight_eq env hi.shaped.nodup ht, fun b hb b' hb' hc hc' hk => ?_,
    fun b hb hc hk => ?_⟩
  · exact eq_of_mem_chain ((ht.canonical b hb).1 hc) ((ht.canonical b' hb').1 hc') hk
  · obtain ⟨P, hP⟩ := Option.ne_none_iff_exists'.1 (hi.shaped.parent b hb hk)
    obtain ⟨hPm, hPk, hPh⟩ := blockAt_eq_some hP
    have hT1 := hi.pos T ht.mem
    exact ⟨P, hPm, (ht.canonical P hPm).2 (parentOf_mem_chain hi.shaped.nodup hi.pos
      T.block_height.toNat T ht.mem (by omega) b ((ht.canonical b hb).1 hc) P hP), hPk, hPh⟩

theorem sample_canonical_chain :
    ∃ T, CanonicalChain sampleStore.blocks T ∧ T.block_height = 3 := by
  obtain ⟨T, ht, htip, -⟩ := (reachable_canonical_chain sample_reachable).1 (by decide)
  exact ⟨T, ht, htip.symm.trans (by decide)⟩

/-- **Entity rows carry their block's flag.** In every reachable store, every row of `txs`,
`stx_events`, `ft_events`, `nft_events`, `contract_logs` and `smart_contracts` has the flag of a
stored block with its `index_block_hash`, and no two stored blocks share an
`index_block_hash`. -/
theorem reachable_agrees (hS : Reachable env S) :
    S.Agrees ∧ (S.blocks.map (·.index_block_hash)).Nodup :=
  ⟨hS.inv.agrees, hS.inv.shaped.nodup⟩

theorem sample_agrees :
    sampleStore.Agrees ∧ (sampleStore.blocks.map (·.index_block_hash)).Nodup :=
  reachable_agrees sample_reachable

/-- **The errors of `handleReorg`.** In every reachable store the parent `SELECT` returns at most
one row, and `handleReorg` fails exactly when the block is above height 1 and no stored block of
height `block_height - 1` has the parent's `index_block_hash`, and then with `noParent`: the
other errors of `handleReorg` and `restoreOrphanedChain` are never raised. -/
theorem handleReorg_error_iff (hS : Reachable env S) (block : DbBlock) (e : DbError) :
    (∀ k h, (S.blocks.filter fun b => b.block_height == k && b.index_block_hash == h).length ≤ 1) ∧
    (handleReorg env S block (getChainTipHeight env S).blockHeight = .error e ↔
      1 < block.block_height ∧
      (∀ b ∈ S.blocks, ¬(b.block_height = block.block_height - 1 ∧
        b.index_block_hash = env.hexToBuffer block.parent_index_block_hash)) ∧
      e = .noParent (block.block_height - 1) block.parent_index_block_hash) := by
  have hi := hS.inv
  refine ⟨fun k h => by rw [filter_parent_eq hi.shaped.nodup]; cases blockAt S.blocks k h <;> simp, ?_⟩
  rw [handleReorg_eq hi.shaped.nodup, ← blockAt_eq_none]
  split_ifs with hk
  · cases hP : blockAt S.blocks (block.block_height - 1) (env.hexToBuffer block.parent_index_block_hash) with
    | none => simp [hk, eq_comm]
    | some P =>
      obtain ⟨hPm, hPk, -⟩ := blockAt_eq_some hP
      simp only [reduceCtorEq, false_and, and_false, iff_false]
      split_ifs with hc
      · simp only [Bool.and_eq_true, Bool.not_eq_true', decide_eq_true_eq] at hc
        obtain ⟨-, ue', hres⟩ := hi.restore_parent hPm hPk hc.1 hc.2
          { UpdatedEntities.zero with blocks := 1 }
        rw [hres]; exact nofun
      · exact nofun
  · simp [hk]

theorem sample_noParent :
    handleReorg Env.plain sampleStore (sampleBlock "0x0a" "0x09" 5)
      (getChainTipHeight Env.plain sampleStore).blockHeight = .error (.noParent 4 "0x09") :=
  ((handleReorg_error_iff sample_reachable _ _).2.2 ⟨by decide, by decide, rfl⟩)

end Reachable

end Sidecar.Update
