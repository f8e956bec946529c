import Sidecar.Query.Totals
import Sidecar.Update.Frame

/-!
# The reads of a reachable store

The read path of `PgDataStore` (`postgres-store.ts:572-611`, `715-733`, `1052-1083`) on the
stores that runs of `update` reach (`Reachable`), whose canonical blocks are one chain from the
tip down to height 1 (`Inv`).

* `getBlocks` lists the canonical blocks highest first. In a reachable store those are the blocks
  of the canonical chain, one per height, so no two tie on `block_height` and the list is the
  chain itself, in its order.
* `getBlock`, `getTx` and `getSmartContract` read the first row of their key under
  `ORDER BY canonical DESC, block_height DESC` (`selectLatest`). In a reachable store a row is
  canonical exactly when its block is on the canonical chain (`row_canonical_iff_on_chain`), so
  a lookup reads a copy on the chain whenever there is one (`ReadsChainFirst`, `LookupSpec`).
* `update` keeps every stored row, with at most its flag changed (`update_extends_rows`), and
  the tip is a block of the greatest stored height, so the tip never moves down.

Results:
* `selectLatest_spec`: the row `… LIMIT 1` reads is a row that no other row precedes;
* `getBlocks_canonical_chain`: in every reachable store `getBlocks` pages through the canonical
  chain from the tip that `getChainTipHeight` reads, and its total is the tip's height;
* `lookups_read_canonical_chain`: in every reachable store the three lookups answer as
  `LookupSpec` says: nothing when no row has the key, otherwise a row on the canonical chain
  when one has the key, of the greatest height on its side of the chain;
* `tip_monotone`: along every run of `update` on well-formed batches the tip height never falls.
-/

namespace Sidecar.Query

open Sidecar.Datastore Sidecar.Canonical Sidecar.Update

/-! ## `ORDER BY canonical DESC, block_height DESC LIMIT 1` -/

section Latest

variable {α β : Type} {canonical : α → Bool} {height : α → Int}

theorem latestOrder_eq_true {a b : α} :
    latestOrder canonical height a b = true ↔
      (canonical b = true → canonical a = true) ∧
        (canonical a = canonical b → height b ≤ height a) := by
  unfold latestOrder
  cases canonical a <;> cases canonical b <;> simp

/-- The order is a total preorder, so the sorted rows are sorted by it. -/
theorem sorted_sqlOrderBy_latest (rows : List α) :
    (sqlOrderBy (latestOrder canonical height) rows).Sorted
      fun a b => latestOrder canonical height a b = true := by
  have : IsTotal α fun a b => latestOrder canonical height a b = true := ⟨fun a b => by
    simp only [latestOrder_eq_true]
    cases canonical a <;> cases canonical b <;> simp <;> omega⟩
  have : IsTrans α fun a b => latestOrder canonical height a b = true := ⟨fun a b c => by
    simp only [latestOrder_eq_true]
    cases canonical a <;> cases canonical b <;> cases canonical c <;> simp <;> omega⟩
  exact List.sorted_insertionSort _ rows

theorem selectLatest_eq_head (rows : List α) :
    selectLatest canonical height rows =
      (sqlOrderBy (latestOrder canonical height) rows).head? := by
  unfold selectLatest sqlPage
  cases sqlOrderBy (latestOrder canonical height) rows <;> rfl

theorem selectLatest_eq_none {rows : List α} :
    selectLatest canonical height rows = none ↔ rows = [] := by
  rw [selectLatest_eq_head, List.head?_eq_none_iff, ← List.length_eq_zero, length_sqlOrderBy,
    List.length_eq_zero]

/-- **`LIMIT 1` after `ORDER BY canonical DESC, block_height DESC`.** The row read is one of the
rows, and it precedes every row: it is canonical if any row is, and no row with its flag is
higher. -/
theorem selectLatest_spec {rows : List α} {x : α}
    (hx : selectLatest canonical height rows = some x) :
    x ∈ rows ∧ ∀ y ∈ rows, latestOrder canonical height x y = true := by
  rw [selectLatest_eq_head] at hx
  obtain ⟨rest, hl⟩ := List.head?_eq_some_iff.1 hx
  have hs := hl ▸ @sorted_sqlOrderBy_latest α canonical height rows
  have hmem : ∀ y, y ∈ rows ↔ y = x ∨ y ∈ rest := fun y => by
    rw [← @mem_sqlOrderBy _ (latestOrder canonical height) rows y, hl, List.mem_cons]
  refine ⟨(hmem x).2 (.inl rfl), fun y hy => ?_⟩
  rcases (hmem y).1 hy with rfl | hy
  · exact latestOrder_eq_true.2 ⟨id, fun _ => le_refl _⟩
  · exact List.rel_of_sorted_cons hs y hy

/-- What a read that prefers the canonical chain may return from `rows`: one of them, on the
chain when one of them is, and of the greatest height among those on its side of the chain. -/
def ReadsChainFirst (onChain : α → Prop) (height : α → Int) (rows : List α) (r : α) : Prop :=
  r ∈ rows ∧ ((∃ r' ∈ rows, onChain r') → onChain r) ∧
    ∀ r' ∈ rows, (onChain r' ↔ onChain r) → height r' ≤ height r

/-- What a lookup that prefers the canonical chain answers from the rows of its key: nothing
when there is none, otherwise the record `parsed` from a row a chain-first read may return. -/
def LookupSpec (onChain : α → Prop) (height : α → Int) (rows : List α) (parsed : α → β → Prop) :
    Option β → Prop
  | none => rows = []
  | some v => ∃ r, ReadsChainFirst onChain height rows r ∧ parsed r v

variable {onChain : α → Prop} {rows : List α}

/-- Where the flag is membership of the chain, the row `selectLatest` reads is one a chain-first
read may return. -/
theorem selectLatest_readsChainFirst (hc : ∀ r ∈ rows, canonical r = true ↔ onChain r) {x : α}
    (hx : selectLatest canonical height rows = some x) : ReadsChainFirst onChain height rows x := by
  obtain ⟨hx, hle⟩ := selectLatest_spec hx
  refine ⟨hx, fun ⟨r', hr', hon⟩ =>
    (hc x hx).1 ((latestOrder_eq_true.1 (hle r' hr')).1 ((hc r' hr').2 hon)),
    fun r' hr' hiff => (latestOrder_eq_true.1 (hle r' hr')).2 ?_⟩
  exact Bool.eq_iff_iff.2 ((hc x hx).trans (hiff.symm.trans (hc r' hr').symm))

theorem selectLatest_lookupSpec (hc : ∀ r ∈ rows, canonical r = true ↔ onChain r)
    {parsed : α → β → Prop} {f : α → β} (hf : ∀ r, parsed r (f r)) :
    LookupSpec onChain height rows parsed ((selectLatest canonical height rows).map f) := by
  cases hx : selectLatest canonical height rows with
  | none => exact selectLatest_eq_none.1 hx
  | some x => exact ⟨x, selectLatest_readsChainFirst hc hx, hf x⟩

end Latest

/-! ## Reachable stores -/

section Reachable

variable {env : Env} {S : Store} {T : BlockQueryResult}

/-- In a store satisfying `Inv`, an entity row is canonical exactly when its block is on the
canonical chain. -/
theorem row_canonical_iff_on_chain (hi : Inv S) (ht : CanonicalChain S.blocks T) {α : Type}
    {t : Table α} (ha : t.Agrees S.blocks) {r : Row α} (hr : r ∈ t) :
    r.canonical = true ↔ r.index_block_hash ∈ hashes (chain S.blocks T) := by
  obtain ⟨b, hb, hh, hc⟩ := ha r hr
  rw [← hc, ← hh, ht.canonical b hb,
    hash_mem_hashes_iff hi.shaped.nodup (fun c hc => (mem_chain hc).1) hb]

/-- The canonical blocks are the blocks of the canonical chain. -/
theorem canonical_blocks_perm (hi : Inv S) (ht : CanonicalChain S.blocks T) :
    (S.blocks.filter (·.canonical)).Perm (chain S.blocks T) :=
  (List.perm_ext_iff_of_nodup ((hi.shaped.nodup.of_map _).filter _) (chain_nodup T)).2 fun b => by
    rw [List.mem_filter]
    exact ⟨fun ⟨hb, hc⟩ => (ht.canonical b hb).1 hc,
      fun hb => ⟨(mem_chain hb).1, (ht.canonical b (mem_chain hb).1).2 hb⟩⟩

theorem chain_length (ht : CanonicalChain S.blocks T) :
    (chain S.blocks T).length = T.block_height.toNat := by
  simpa [heightsDown] using congrArg List.length ht.heights

/-- Sorted highest first, the canonical blocks are the canonical chain: their heights are
distinct, so the sort has no tie to break. -/
theorem sqlOrderBy_canonical_blocks (hi : Inv S) (ht : CanonicalChain S.blocks T) :
    sqlOrderBy (fun a b => decide (b.block_height ≤ a.block_height))
      (S.blocks.filter (·.canonical)) = chain S.blocks T := by
  let r : BlockQueryResult → BlockQueryResult → Prop := fun a b =>
    decide (b.block_height ≤ a.block_height) = true
  have : IsTotal BlockQueryResult r := ⟨fun a b => by simp only [r, decide_eq_true_eq]; omega⟩
  have : IsTrans BlockQueryResult r :=
    ⟨fun a b c => by simp only [r, decide_eq_true_eq]; omega⟩
  have : IsAntisymm BlockQueryResult fun a b => b.block_height < a.block_height :=
    ⟨fun _ _ h1 h2 => absurd (h1.trans h2) (lt_irrefl _)⟩
  have hchain := @chainFrom_pairwise S.blocks S.blocks.length T.block_height T.index_block_hash
  have hp := (List.perm_insertionSort r _).trans (canonical_blocks_perm hi ht)
  have hne := (hp.pairwise_iff fun h => Ne.symm h).2
    (hchain.imp fun h => (ne_of_lt h).symm)
  exact List.eq_of_perm_of_sorted hp
    (((List.sorted_insertionSort r _).and hne).imp fun ⟨h1, h2⟩ =>
      lt_of_le_of_ne (of_decide_eq_true h1) (Ne.symm h2)) hchain

/-- **`getBlocks` pages through the canonical chain.** In every reachable store that holds a
block, `getBlocks limit offset` returns the blocks of the canonical chain, from the tip that
`getChainTipHeight` reads downward, the `offset`-th on and at most `limit` of them, each the
parent of the one before; its total is the tip's height. The empty store lists nothing. -/
theorem getBlocks_canonical_chain (hS : Reachable env S) (limit offset : Nat) :
    (S.blocks = [] ∧ getBlocks env S limit offset = ⟨[], 0⟩) ∨
    ∃ T, CanonicalChain S.blocks T ∧ (getChainTipHeight env S).blockHeight = T.block_height ∧
      getBlocks env S limit offset =
        ⟨(sqlPage limit offset (chain S.blocks T)).map (parseBlockQueryResult env),
          T.block_height.toNat⟩ := by
  have hi := hS.inv
  rcases hi.tip env with ⟨h0, -⟩ | ⟨T, ht, htip, -⟩
  · exact .inl ⟨h0, by simp [getBlocks, h0, sqlPage, sqlOrderBy]⟩
  · refine .inr ⟨T, ht, htip, ?_⟩
    simp only [getBlocks, sqlOrderBy_canonical_blocks hi ht,
      (canonical_blocks_perm hi ht).length_eq, chain_length ht]

/-- **The lookups read the canonical chain first.** In every reachable store whose canonical
chain is that of `T`, `getBlock`, `getTx` and `getSmartContract` answer as `LookupSpec` says:
nothing exactly when no row has their key; otherwise the record of a row with the key that lies
on the canonical chain whenever some row with the key does, and has the greatest height among
the rows with the key on its side of the chain. `getTx` may instead throw on a row its parser
rejects. -/
theorem lookups_read_canonical_chain (hS : Reachable env S) (ht : CanonicalChain S.blocks T) :
    (∀ blockHash, LookupSpec (· ∈ chain S.blocks T) (·.block_height)
      (S.blocks.filter fun b => b.block_hash == env.hexToBuffer blockHash)
      (fun b blk => blk = parseBlockQueryResult env b) (getBlock env S blockHash)) ∧
    (∀ txId o, getTx env S txId = .ok o →
      LookupSpec (·.index_block_hash ∈ hashes (chain S.blocks T)) (·.cols.block_height)
        (S.txs.filter fun r => r.cols.tx_id == env.hexToBuffer txId)
        (fun r tx => parseTxQueryResult env r = .ok tx) o) ∧
    (∀ contractId, LookupSpec (·.index_block_hash ∈ hashes (chain S.blocks T))
      (·.cols.block_height) (S.smart_contracts.filter fun r => r.cols.contract_id == contractId)
      (fun r c => c =
        { tx_id := env.bufferToHexPrefixString r.cols.tx_id, canonical := r.canonical,
          contract_id := r.cols.contract_id, block_height := r.cols.block_height,
          source_code := r.cols.source_code, abi := r.cols.abi })
      (getSmartContract env S contractId)) := by
  have hi := hS.inv
  obtain ⟨htx, -, -, -, -, hsc⟩ := hi.agrees
  have hrow : ∀ {α : Type} {t : Table α}, t.Agrees S.blocks → ∀ (p : Row α → Bool),
      ∀ r ∈ t.filter p, r.canonical = true ↔ r.index_block_hash ∈ hashes (chain S.blocks T) :=
    fun ha _ r hr => row_canonical_iff_on_chain hi ht ha (List.mem_filter.1 hr).1
  refine ⟨fun _ => selectLatest_lookupSpec (fun b hb => ht.canonical b (List.mem_filter.1 hb).1)
    fun _ => rfl, fun txId o h => ?_, fun _ => selectLatest_lookupSpec (hrow hsc _) fun _ => rfl⟩
  unfold getTx at h
  split at h
  · rename_i hx
    cases h
    exact selectLatest_eq_none.1 hx
  · rename_i x hx
    obtain ⟨tx, hp, rfl⟩ := map_eq_ok.1 h
    exact ⟨x, selectLatest_readsChainFirst (hrow htx _) hx, hp⟩

theorem sample_getBlocks_chain :
    Reachable Env.plain sampleStore ∧
    ((sampleStore.blocks = [] ∧ getBlocks Env.plain sampleStore 2 0 = ⟨[], 0⟩) ∨
      ∃ T, CanonicalChain sampleStore.blocks T ∧
        (getChainTipHeight Env.plain sampleStore).blockHeight = T.block_height ∧
        getBlocks Env.plain sampleStore 2 0 =
          ⟨(sqlPage 2 0 (chain sampleStore.blocks T)).map (parseBlockQueryResult Env.plain),
            T.block_height.toNat⟩) :=
  ⟨sample_reachable, getBlocks_canonical_chain sample_reachable 2 0⟩

/-- After the sample run's reorg, the listing skips the orphaned `0x02`. -/
example : (getBlocks Env.plain sampleStore 3 0).results.map (·.block_hash) =
    ["0x04", "0x03", "0x01"] := by
  decide

/-- The tip of the sample run is `0x04` at height 3. -/
def sampleTip : BlockQueryResult :=
  ⟨Env.plain.hexToBuffer "0x04", Env.plain.hexToBuffer "0x04", Env.plain.hexToBuffer "0x03",
    Env.plain.hexToBuffer "0x03", Env.plain.hexToBuffer "0x", 3, 0, true⟩

theorem sampleTip_canonicalChain : CanonicalChain sampleStore.blocks sampleTip :=
  ⟨by decide, by decide, by decide, by decide⟩

theorem sample_lookups_read_canonical_chain :
    Reachable Env.plain sampleStore ∧ CanonicalChain sampleStore.blocks sampleTip ∧
    (∀ blockHash, LookupSpec (· ∈ chain sampleStore.blocks sampleTip) (·.block_height)
      (sampleStore.blocks.filter fun b => b.block_hash == Env.plain.hexToBuffer blockHash)
      (fun b blk => blk = parseBlockQueryResult Env.plain b)
      (getBlock Env.plain sampleStore blockHash)) ∧
    (∀ txId o, getTx Env.plain sampleStore txId = .ok o →
      LookupSpec (·.index_block_hash ∈ hashes (chain sampleStore.blocks sampleTip))
        (·.cols.block_height)
        (sampleStore.txs.filter fun r => r.cols.tx_id == Env.plain.hexToBuffer txId)
        (fun r tx => parseTxQueryResult Env.plain r = .ok tx) o) ∧
    (∀ contractId, LookupSpec (·.index_block_hash ∈ hashes (chain sampleStore.blocks sampleTip))
      (·.cols.block_height)
      (sampleStore.smart_contracts.filter fun r => r.cols.contract_id == contractId)
      (fun r c => c =
        { tx_id := Env.plain.bufferToHexPrefixString r.cols.tx_id, canonical := r.canonical,
          contract_id := r.cols.contract_id, block_height := r.cols.block_height,
          source_code := r.cols.source_code, abi := r.cols.abi })
      (getSmartContract Env.plain sampleStore contractId)) :=
  ⟨sample_reachable, sampleTip_canonicalChain,
    lookups_read_canonical_chain sample_reachable sampleTip_canonicalChain⟩

/-! ## The tip -/

/-- One call of `update` on a well-formed batch does not lower the tip of a reachable store. -/
theorem tip_le_update (hS : Reachable env S) (listenerThrows : Notification → Bool)
    {data : DataStoreUpdateData} (hwf : data.WellFormed) :
    (getChainTipHeight env S).blockHeight ≤
      (getChainTipHeight env (update env listenerThrows S data).store).blockHeight := by
  have hS' := hS.step listenerThrows hwf
  rcases hS.inv.tip env with ⟨-, h0⟩ | ⟨T, ht, hT, -⟩
  · rcases hS'.inv.tip env with ⟨-, h0'⟩ | ⟨T', -, hT', h1⟩ <;> omega
  · -- the old tip is still stored, at its height
    obtain ⟨T1, hT1, hk⟩ := List.mem_map.1
      ((update_extends_rows env listenerThrows S data).blocks.subset (List.mem_map_of_mem _ ht.mem))
    rcases hS'.inv.tip env with ⟨h0', -⟩ | ⟨T', ht', hT', -⟩
    · rw [h0'] at hT1; exact absurd hT1 (List.not_mem_nil _)
    · rw [hT, hT']
      exact (congrArg BlockQueryResult.block_height hk).symm.trans_le (ht'.tip T1 hT1)

/-- **The tip never moves down.** Along every run of `update` on well-formed batches from a
reachable store, whatever the listeners do and whichever calls fail, the height that
`getChainTipHeight` reads never decreases. -/
theorem tip_monotone (hS : Reachable env S) (listenerThrows : Notification → Bool)
    {batches : List DataStoreUpdateData} (hw : ∀ d ∈ batches, d.WellFormed) :
    (getChainTipHeight env S).blockHeight ≤
      (getChainTipHeight env (run env listenerThrows S batches)).blockHeight := by
  induction batches generalizing S with
  | nil => exact le_refl _
  | cons d ds ih =>
    have hd := hw d (.head _)
    exact (tip_le_update hS listenerThrows hd).trans
      (ih (hS.step listenerThrows hd) fun d' hd' => hw d' (.tail _ hd'))

theorem sample_tip_monotone :
    Reachable Env.plain Store.empty ∧ (∀ d ∈ sampleBatches, d.WellFormed) ∧
    (getChainTipHeight Env.plain Store.empty).blockHeight ≤
      (getChainTipHeight Env.plain sampleStore).blockHeight := by
  have hw : ∀ d ∈ sampleBatches, d.WellFormed := fun d hd => by
    simp only [sampleBatches, List.mem_cons, List.mem_singleton, List.not_mem_nil, or_false] at hd
    rcases hd with rfl | rfl | rfl | rfl
    · exact wellFormed_of_block (by decide) rfl
    · exact transferBatch_wf
    all_goals exact wellFormed_of_block (by decide) rfl
  exact ⟨.empty, hw, tip_monotone .empty (fun _ => false) hw⟩

end Reachable

end Sidecar.Query
