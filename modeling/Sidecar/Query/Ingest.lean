import Sidecar.Query.Reads
import Sidecar.Query.RoundTrip
import Sidecar.Query.Sorts
import Sidecar.Update.Notify

/-!
# What the lookups see of the ingested batches

Model of the lookups `getBlock`, `getTx`, `getSmartContract` and `getTxEvents`
(`postgres-store.ts:572-589`, `715-733`, `1052-1083`, `790-942`) across runs of `update`
(`221-272`) and its inserts (`626-664`, `944-1050`), from any store, whatever the listeners do
and whichever calls fail.

* A lookup finds a key when some row of its table carries it (`getBlock_ne_none_iff`,
  `getTx_ne_ok_none_iff`, `getSmartContract_ne_none_iff`); `getTx` has found it even when the
  row's parser then throws.
* `update` keeps every row with at most its flag changed, and so does a whole run
  (`update_extends_rows`, `run_extends_rows` of `Sidecar.Update.Frame`); no key is a flag
  (`found_of_extends`).
* A batch whose block is new is written whole or not at all (`updateWrites_fresh`): after the
  block row, the loop leaves a row for every transaction (`foldlM_insertEntry_tx_mem`), and
  appends to each event table and to `smart_contracts` the rows of every entry in order
  (`foldlM_insertEntry_eq`); a failed statement rolls all of it back.
* The transaction's `INSERT` skips a row whose `tx_id` and `index_block_hash` are stored
  (`updateTx_eq`), so the loop leaves, of a transaction whose id no stored row and no other
  entry has, its row alone (`foldlM_insertEntry_txs_unique`).
* `getTxEvents` selects rows by `tx_id` and `index_block_hash`. In a reachable store no event row
  carries the hash of a block not stored (`events_not_fresh`), so after the loop it selects the
  rows of the entries with the transaction's id (`eventsOfTx_flatMap`), decoded as written
  (`event_row`). `UpdateEntry.events` lists an entry's events in the order `getTxEvents` reads
  their tables.

Results:
* `lookups_persist`: a key that a lookup finds, it finds in every later state of every run;
* `ingested_batch_found`: `update` on a batch whose block is new leaves the store as it was, or
  a store in which, as in every later state, the block's hash, every transaction's id and every
  contract's id are found;
* `ingested_events_read_back`: from a reachable store, on such a batch whose transactions have
  distinct ids, `getTxEvents` of each transaction at the block then returns exactly its entry's
  events as written, each once, sorted by `event_index`, ties in an order the code leaves open;
* `ingested_block_read_back`: on such a batch, `getBlock` of a block hash it did not find before
  then returns the block as written;
* `ingested_tx_read_back`: on such a batch, `getTx` of each transaction it did not find before
  then returns the transaction as written, when `parseTxQueryResult` reads its row back.
-/

namespace Sidecar.Datastore

/-- `tx_id`, a field of every variant of `DbEvent`. -/
def DbEvent.tx_id : DbEvent → String
  | .stx e => e.tx_id
  | .ft e => e.tx_id
  | .nft e => e.tx_id
  | .contractLog e => e.tx_id

/-- The events an entry carries, in the order `getTxEvents` reads their tables. -/
def UpdateEntry.events (entry : UpdateEntry) : List DbEvent :=
  entry.stxEvents.map .stx ++ entry.ftEvents.map .ft ++ entry.nftEvents.map .nft ++
    entry.contractLogEvents.map .contractLog

end Sidecar.Datastore

namespace Sidecar.Query

open Sidecar.Datastore Sidecar.Canonical Sidecar.Update

variable {env : Env} {S S' : Store}

/-! ## What a lookup finds -/

theorem getBlock_ne_none_iff {blockHash : String} :
    getBlock env S blockHash ≠ none ↔ ∃ b ∈ S.blocks, b.block_hash = env.hexToBuffer blockHash := by
  simp only [getBlock, ne_eq, Option.map_eq_none', selectLatest_eq_none, List.filter_eq_nil_iff,
    beq_iff_eq, not_forall, not_not, exists_prop]

theorem getTx_ne_ok_none_iff {txId : String} :
    getTx env S txId ≠ .ok none ↔ ∃ r ∈ S.txs, r.cols.tx_id = env.hexToBuffer txId := by
  unfold getTx
  split
  · rename_i h
    simp only [selectLatest_eq_none, List.filter_eq_nil_iff, beq_iff_eq] at h
    simp only [ne_eq, not_true_eq_false, false_iff, not_exists, not_and]
    exact h
  · rename_i row h
    obtain ⟨hm, -⟩ := selectLatest_spec h
    rw [List.mem_filter, beq_iff_eq] at hm
    refine iff_of_true ?_ ⟨row, hm⟩
    cases parseTxQueryResult env row <;> simp [Except.map]

theorem getSmartContract_ne_none_iff {contractId : String} :
    getSmartContract env S contractId ≠ none ↔
      ∃ r ∈ S.smart_contracts, r.cols.contract_id = contractId := by
  simp only [getSmartContract, ne_eq, Option.map_eq_none', selectLatest_eq_none,
    List.filter_eq_nil_iff, beq_iff_eq, not_forall, not_not, exists_prop]

/-! ## Rows are kept -/

/-- A row of a table whose rows, flags forgotten, begin another's has a copy there. -/
theorem kept_row {α : Type} {g : Buffer → Bool} {t t' : Table α}
    (h : t.map (·.label g) <+: t'.map (·.label g)) {r : Row α} (hr : r ∈ t) :
    ∃ r' ∈ t', r'.cols = r.cols := by
  obtain ⟨r', hr', he⟩ := List.mem_map.1 (h.subset (List.mem_map_of_mem _ hr))
  have hcols := congrArg Row.cols he
  exact ⟨r', hr', hcols⟩

/-- What the lookups find in a store, they find in a store that keeps its rows. -/
theorem found_of_extends {g : Buffer → Bool} (h : Store.Extends (S.relabel g) (S'.relabel g)) :
    (∀ blockHash, getBlock env S blockHash ≠ none → getBlock env S' blockHash ≠ none) ∧
    (∀ txId, getTx env S txId ≠ .ok none → getTx env S' txId ≠ .ok none) ∧
    (∀ contractId, getSmartContract env S contractId ≠ none →
      getSmartContract env S' contractId ≠ none) := by
  refine ⟨fun k hk => ?_, fun k hk => ?_, fun k hk => ?_⟩
  · obtain ⟨b, hb, hk⟩ := getBlock_ne_none_iff.1 hk
    obtain ⟨b', hb', he⟩ := List.mem_map.1 (h.blocks.subset (List.mem_map_of_mem _ hb))
    exact getBlock_ne_none_iff.2 ⟨b', hb', (congrArg BlockQueryResult.block_hash he).trans hk⟩
  · obtain ⟨r, hr, hk⟩ := getTx_ne_ok_none_iff.1 hk
    obtain ⟨r', hr', he⟩ := kept_row h.txs hr
    exact getTx_ne_ok_none_iff.2 ⟨r', hr', (congrArg TxColumns.tx_id he).trans hk⟩
  · obtain ⟨r, hr, hk⟩ := getSmartContract_ne_none_iff.1 hk
    obtain ⟨r', hr', he⟩ := kept_row h.smart_contracts hr
    exact getSmartContract_ne_none_iff.2
      ⟨r', hr', (congrArg SmartContractColumns.contract_id he).trans hk⟩

/-- **A key once found stays found.** Along every run of `update` from any store, whatever the
batches, whatever the listeners do and whichever calls fail, a block hash that `getBlock` finds,
a transaction id that `getTx` finds and a contract id that `getSmartContract` finds are found in
the run's last store. -/
theorem lookups_persist (listenerThrows : Notification → Bool) (S : Store)
    (batches : List DataStoreUpdateData) :
    (∀ blockHash, getBlock env S blockHash ≠ none →
      getBlock env (run env listenerThrows S batches) blockHash ≠ none) ∧
    (∀ txId, getTx env S txId ≠ .ok none →
      getTx env (run env listenerThrows S batches) txId ≠ .ok none) ∧
    (∀ contractId, getSmartContract env S contractId ≠ none →
      getSmartContract env (run env listenerThrows S batches) contractId ≠ none) :=
  found_of_extends (run_extends_rows env listenerThrows S batches)

/-! ## A new block is written whole -/

section Rows

variable {α β : Type} {accepts : Table α → Row α → Bool} {get : Store → Table α}
  {set : Store → Table α → Store}

/-- A plain `INSERT` that succeeds appends its row. -/
theorem insertRow_eq {r : Row α} (h : insertRow accepts get set S r = .ok S') :
    S' = set S (get S ++ [r]) := by
  obtain ⟨⟨t, m⟩, h1, rfl⟩ := map_eq_ok.1 h
  rcases sqlInsert_eq h1 with ⟨-, -, hc⟩ | ⟨-, rfl, -⟩
  · simp at hc
  · rfl

/-- A loop of plain `INSERT`s into one table that succeeds appends the rows in order. -/
theorem foldlM_insertRow_eq {row : β → Row α} {xs : List β}
    (h : xs.foldlM (fun S x => insertRow accepts get set S (row x)) S = .ok S')
    (hget : ∀ S t, get (set S t) = t) (hset : ∀ S t t', set (set S t) t' = set S t')
    (hself : ∀ S, set S (get S) = S) : S' = set S (get S ++ xs.map row) := by
  induction xs generalizing S with
  | nil => cases h; rw [List.map_nil, List.append_nil, hself]
  | cons x xs ih =>
    obtain ⟨S1, h1, h2⟩ := bind_eq_ok.1 h
    rw [ih h2, insertRow_eq h1, hget, hset, List.map_cons, List.append_assoc,
      List.singleton_append]

end Rows

/-- The transaction's `INSERT` appends its row, unless a row with its `tx_id` (and
`index_block_hash`) is stored. -/
theorem updateTx_eq {tx : DbTx} {n : Nat} (h : updateTx env S tx = .ok (S', n)) :
    ∃ txs, ((txs = S.txs ∧ ∃ t ∈ S.txs, t.cols.tx_id = env.hexToBuffer tx.tx_id) ∨
      txs = S.txs ++ [tx.row env]) ∧ S' = { S with txs := txs } := by
  obtain ⟨⟨t, m⟩, h1, h2⟩ := map_eq_ok.1 h
  cases h2
  rcases sqlInsert_eq h1 with ⟨-, rfl, hc⟩ | ⟨-, rfl, -⟩
  · obtain ⟨r, hr, hrc⟩ := List.any_eq_true.1 hc
    simp only [Bool.and_eq_true, beq_iff_eq] at hrc
    exact ⟨_, .inl ⟨rfl, r, hr, hrc.1⟩, rfl⟩
  · exact ⟨_, .inr rfl, rfl⟩

/-- One pass of the loop: the transaction's `INSERT`, then the rows of the entry's events, logs
and contracts appended to their tables in order. -/
theorem insertEntry_eq {entry : UpdateEntry} (h : insertEntry env S entry = .ok S') :
    ∃ txs, ((txs = S.txs ∧ ∃ t ∈ S.txs, t.cols.tx_id = env.hexToBuffer entry.tx.tx_id) ∨
      txs = S.txs ++ [entry.tx.row env]) ∧ S' = { S with
        txs := txs
        stx_events := S.stx_events ++ entry.stxEvents.map (·.row env entry.tx)
        ft_events := S.ft_events ++ entry.ftEvents.map (·.row env entry.tx)
        nft_events := S.nft_events ++ entry.nftEvents.map (·.row env entry.tx)
        contract_logs := S.contract_logs ++ entry.contractLogEvents.map (·.row env entry.tx)
        smart_contracts :=
          S.smart_contracts ++ entry.smartContracts.map (·.row env entry.tx) } := by
  simp only [insertEntry, bind_eq_ok] at h
  obtain ⟨S1, h1, S2, h2, S3, h3, S4, h4, S5, h5, h6⟩ := h
  obtain ⟨⟨S1, n⟩, hTx, rfl⟩ := map_eq_ok.1 h1
  obtain ⟨t, ht, rfl⟩ := updateTx_eq hTx
  obtain rfl := foldlM_insertRow_eq h2 (fun _ _ => rfl) (fun _ _ _ => rfl) fun _ => rfl
  obtain rfl := foldlM_insertRow_eq h3 (fun _ _ => rfl) (fun _ _ _ => rfl) fun _ => rfl
  obtain rfl := foldlM_insertRow_eq h4 (fun _ _ => rfl) (fun _ _ _ => rfl) fun _ => rfl
  obtain rfl := foldlM_insertRow_eq h5 (fun _ _ => rfl) (fun _ _ _ => rfl) fun _ => rfl
  obtain rfl := foldlM_insertRow_eq h6 (fun _ _ => rfl) (fun _ _ _ => rfl) fun _ => rfl
  exact ⟨t, ht, rfl⟩

/-- The loop over the entries appends, table by table, the rows of every entry in order. -/
theorem foldlM_insertEntry_eq : ∀ {txs : List UpdateEntry} {S S' : Store},
    txs.foldlM (insertEntry env) S = .ok S' →
      S'.stx_events = S.stx_events ++ txs.flatMap (fun e => e.stxEvents.map (·.row env e.tx)) ∧
      S'.ft_events = S.ft_events ++ txs.flatMap (fun e => e.ftEvents.map (·.row env e.tx)) ∧
      S'.nft_events = S.nft_events ++ txs.flatMap (fun e => e.nftEvents.map (·.row env e.tx)) ∧
      S'.contract_logs =
        S.contract_logs ++ txs.flatMap (fun e => e.contractLogEvents.map (·.row env e.tx)) ∧
      S'.smart_contracts =
        S.smart_contracts ++ txs.flatMap (fun e => e.smartContracts.map (·.row env e.tx))
  | [], _, _, h => by cases h; simp
  | entry :: txs, _, _, h => by
    obtain ⟨S1, h1, h2⟩ := bind_eq_ok.1 h
    obtain ⟨t, -, rfl⟩ := insertEntry_eq h1
    obtain ⟨h3, h4, h5, h6, h7⟩ := foldlM_insertEntry_eq h2
    simp only [h3, h4, h5, h6, h7, List.flatMap_cons, List.append_assoc, and_self]

/-- A loop none of whose transactions has the id `K` adds no `txs` row with it. -/
theorem foldlM_insertEntry_txs_other {K : Buffer} : ∀ {txs : List UpdateEntry} {S S' : Store},
    txs.foldlM (insertEntry env) S = .ok S' → (∀ e ∈ txs, env.hexToBuffer e.tx.tx_id ≠ K) →
      S'.txs.filter (·.cols.tx_id == K) = S.txs.filter (·.cols.tx_id == K)
  | [], _, _, h, _ => by cases h; rfl
  | entry :: txs, _, _, h, hK => by
    obtain ⟨S1, h1, h2⟩ := bind_eq_ok.1 h
    obtain ⟨t, ht, rfl⟩ := insertEntry_eq h1
    rw [foldlM_insertEntry_txs_other h2 fun e he => hK e (List.mem_cons_of_mem _ he)]
    rcases ht with ⟨rfl, -⟩ | rfl
    · rfl
    · have hrow : ((entry.tx.row env).cols.tx_id == K) = false :=
        beq_false_of_ne (hK entry (List.mem_cons_self _ _))
      rw [List.filter_append, List.filter_singleton, hrow, cond_false, List.append_nil]

/-- A loop with one transaction of id `K`, from a `txs` table without it, leaves that
transaction's row as the only row with `K`. -/
theorem foldlM_insertEntry_txs_unique {K : Buffer} {e : UpdateEntry} :
    ∀ {txs : List UpdateEntry} {S S' : Store}, txs.foldlM (insertEntry env) S = .ok S' →
      (∀ r ∈ S.txs, r.cols.tx_id ≠ K) → e ∈ txs → env.hexToBuffer e.tx.tx_id = K →
      (∀ e' ∈ txs, env.hexToBuffer e'.tx.tx_id = K → e' = e) → txs.Nodup →
      S'.txs.filter (·.cols.tx_id == K) = [e.tx.row env]
  | [], _, _, _, _, he, _, _, _ => absurd he (List.not_mem_nil _)
  | entry :: txs, S, _, h, hS, he, heK, huniq, hnd => by
    obtain ⟨S1, h1, h2⟩ := bind_eq_ok.1 h
    obtain ⟨t, ht, rfl⟩ := insertEntry_eq h1
    by_cases hentry : entry = e
    · subst hentry
      -- no stored row has the id, so the row is appended, and no later transaction has it
      have ht' : t = S.txs ++ [entry.tx.row env] :=
        ht.resolve_left fun ⟨_, r, hr, hrK⟩ => hS r hr (hrK.trans heK)
      rw [foldlM_insertEntry_txs_other h2 fun e' he' he'K => (List.nodup_cons.1 hnd).1
          (huniq e' (List.mem_cons_of_mem _ he') he'K ▸ he'),
        ht', List.filter_append, List.filter_eq_nil_iff.2 fun r hr => by simpa using hS r hr,
        List.filter_singleton, show ((entry.tx.row env).cols.tx_id == K) = true from
          beq_iff_eq.2 heK]
      rfl
    · have hK : env.hexToBuffer entry.tx.tx_id ≠ K := fun h =>
        hentry (huniq entry (List.mem_cons_self _ _) h)
      refine foldlM_insertEntry_txs_unique h2 (fun r hr => ?_)
        ((List.mem_cons.1 he).resolve_left (Ne.symm hentry)) heK
        (fun e' he' => huniq e' (List.mem_cons_of_mem _ he')) (List.nodup_cons.1 hnd).2
      rcases ht with ⟨rfl, -⟩ | rfl
      · exact hS r hr
      · rcases List.mem_append.1 hr with hr | hr
        · exact hS r hr
        · rw [List.mem_singleton.1 hr]
          exact hK

/-- A committed transaction on a batch whose block is new: the reorg, the block's row appended,
then the loop over the entries of the batch as `update` writes it. -/
theorem updateWrites_fresh {data data' : DataStoreUpdateData}
    (hfresh : env.hexToBuffer data.block.index_block_hash ∉ hashes S.blocks)
    (h : updateWrites env S data = .ok (S', data')) :
    ∃ S1 ue, handleReorg env S data.block (getChainTipHeight env S).blockHeight = .ok (S1, ue) ∧
      data' = (if data.block.block_height ≤ (getChainTipHeight env S).blockHeight then
        data.markNonCanonical else data) ∧
      data'.txs.foldlM (insertEntry env) { S1 with blocks := S1.blocks ++ [data'.block.row env] } =
        .ok S' := by
  obtain ⟨S1, ue, S2, n, h1, rfl, h2, h3⟩ := updateWrites_ok h
  refine ⟨S1, ue, h1, rfl, ?_⟩
  rcases updateBlock_ok h2 with ⟨-, -, hc⟩ | ⟨rfl, rfl, -⟩
  · -- the reorg changed flags only, so the block is new in `S1` too
    obtain ⟨b, hb, hbh⟩ := List.any_eq_true.1 hc
    obtain ⟨b0, hb0, he⟩ := (handleReorg_sameRows h1).mem_blocks hb
    have hidx : b0.index_block_hash = env.hexToBuffer data.block.index_block_hash := by
      rw [downgrade_block_row, beq_iff_eq] at hbh
      exact (congrArg BlockQueryResult.index_block_hash he).trans hbh
    exact (hfresh (by rw [← hidx]; exact List.mem_map_of_mem _ hb0)).elim
  · exact (h3.resolve_left fun h => Nat.one_ne_zero h.1).2

/-- `update` on a batch whose block is new leaves the store as it was, or the store of the
committed transaction: the reorg, the block's row, then the loop over the batch as written. -/
theorem update_fresh (listenerThrows : Notification → Bool) {data : DataStoreUpdateData}
    (hfresh : env.hexToBuffer data.block.index_block_hash ∉ hashes S.blocks) :
    (update env listenerThrows S data).store = S ∨
      ∃ S1 ue, handleReorg env S data.block (getChainTipHeight env S).blockHeight = .ok (S1, ue) ∧
        let written := if data.block.block_height ≤ (getChainTipHeight env S).blockHeight then
          data.markNonCanonical else data
        written.txs.foldlM (insertEntry env)
            { S1 with blocks := S1.blocks ++ [written.block.row env] } =
          .ok (update env listenerThrows S data).store := by
  cases hw : updateWrites env S data with
  | error e => exact .inl (by rw [update_of_error listenerThrows data hw])
  | ok r =>
    obtain ⟨S', data'⟩ := r
    obtain ⟨S1, ue, h1, rfl, hloop⟩ := updateWrites_fresh hfresh hw
    exact .inr ⟨S1, ue, h1, by rw [update_of_ok listenerThrows data hw]; exact hloop⟩

/-- A property of every event of an entry is one of every record of each of its four lists. -/
theorem UpdateEntry.forall_events {e : UpdateEntry} {P : DbEvent → Prop} :
    (∀ ev ∈ e.events, P ev) ↔ (∀ x ∈ e.stxEvents, P (.stx x)) ∧ (∀ x ∈ e.ftEvents, P (.ft x)) ∧
      (∀ x ∈ e.nftEvents, P (.nft x)) ∧ ∀ x ∈ e.contractLogEvents, P (.contractLog x) := by
  simp only [UpdateEntry.events, List.forall_mem_append, List.forall_mem_map, and_assoc]

/-- A `flatMap` over a list without duplicates to which only `e` contributes. -/
theorem flatMap_eq_of_unique {α β : Type} {g : α → List β} {e : α} :
    ∀ {l : List α}, l.Nodup → e ∈ l → (∀ x ∈ l, x ≠ e → g x = []) → l.flatMap g = g e
  | [], _, he, _ => absurd he (List.not_mem_nil _)
  | x :: l, hnd, he, hg => by
    rw [List.flatMap_cons]
    by_cases hx : x = e
    · subst hx
      rw [List.flatMap_eq_nil_iff.2 fun y hy => hg y (List.mem_cons_of_mem _ hy)
        fun h => (List.nodup_cons.1 hnd).1 (h ▸ hy), List.append_nil]
    · rw [hg x (List.mem_cons_self _ _) hx, List.nil_append]
      exact flatMap_eq_of_unique (List.nodup_cons.1 hnd).2
        ((List.mem_cons.1 he).resolve_left (Ne.symm hx))
        fun y hy => hg y (List.mem_cons_of_mem _ hy)

/-- `getTxEvents`'s `SELECT` on a table that held no row of the block before the loop appended
the entries' rows: the rows of the one entry with the transaction's id. -/
theorem eventsOfTx_flatMap {α β : Type} (tx_id : α → Buffer) (K : UpdateEntry → Buffer)
    {old : Table α} {txs : List UpdateEntry} {e : UpdateEntry} {evs : UpdateEntry → List β}
    {rowOf : UpdateEntry → β → Row α} {B : Buffer}
    (hold : ∀ r ∈ old, r.index_block_hash ≠ B)
    (hrow : ∀ e' ∈ txs, ∀ x ∈ evs e',
      (rowOf e' x).index_block_hash = B ∧ tx_id (rowOf e' x).cols = K e')
    (hK : ∀ e' ∈ txs, K e' = K e → e' = e) (hnd : txs.Nodup) (he : e ∈ txs) :
    eventsOfTx (old ++ txs.flatMap fun e' => (evs e').map (rowOf e')) tx_id (K e) B =
      (evs e).map (rowOf e) := by
  have hsel : ∀ e' ∈ txs, ∀ r ∈ (evs e').map (rowOf e'),
      (tx_id r.cols == K e && r.index_block_hash == B) = (K e' == K e) := by
    intro e' he' r hr
    obtain ⟨x, hx, rfl⟩ := List.mem_map.1 hr
    obtain ⟨hB, hKx⟩ := hrow e' he' x hx
    simp only [hB, hKx, beq_self_eq_true, Bool.and_true]
  unfold eventsOfTx
  rw [List.filter_append, List.filter_eq_nil_iff.2 fun r hr => by simp [hold r hr],
    List.nil_append, List.filter_flatMap, flatMap_eq_of_unique hnd he fun e' he' hne =>
      List.filter_eq_nil_iff.2 fun r hr => by
        rw [hsel e' he' r hr, beq_iff_eq]; exact fun h => hne (hK e' he' h)]
  exact List.filter_eq_self.2 fun r hr => by rw [hsel e he r hr, beq_self_eq_true]

/-- A table that agrees with the stored blocks up to flags holds no row of a hash no stored
block has. -/
theorem not_fresh_of_agrees {α : Type} {t t0 : Table α} {bs : List BlockQueryResult} {B : Buffer}
    (hag : t0.Agrees bs)
    (hrows : t0.map (·.label fun _ => false) = t.map (·.label fun _ => false))
    (hB : B ∉ hashes bs) : ∀ r ∈ t, r.index_block_hash ≠ B := by
  intro r hr hrB
  obtain ⟨r0, hr0, he⟩ := List.mem_map.1 (hrows ▸ List.mem_map_of_mem _ hr)
  obtain ⟨b, hb, hbh, -⟩ := hag r0 hr0
  have hr0B : r0.index_block_hash = B := (congrArg Row.index_block_hash he).trans hrB
  exact hB (hr0B ▸ hbh ▸ List.mem_map_of_mem _ hb)

/-- What the reorg leaves of a store satisfying `Inv` holds no event row of a hash no stored block
has. -/
theorem events_not_fresh {S1 : Store} {B : Buffer} (hi : Inv S) (h01 : S.SameRows S1)
    (hB : B ∉ hashes S.blocks) :
    (∀ r ∈ S1.stx_events, r.index_block_hash ≠ B) ∧ (∀ r ∈ S1.ft_events, r.index_block_hash ≠ B) ∧
      (∀ r ∈ S1.nft_events, r.index_block_hash ≠ B) ∧
      (∀ r ∈ S1.contract_logs, r.index_block_hash ≠ B) :=
  ⟨not_fresh_of_agrees hi.agrees.2.1 (congrArg Store.stx_events h01) hB,
    not_fresh_of_agrees hi.agrees.2.2.1 (congrArg Store.ft_events h01) hB,
    not_fresh_of_agrees hi.agrees.2.2.2.1 (congrArg Store.nft_events h01) hB,
    not_fresh_of_agrees hi.agrees.2.2.2.2.1 (congrArg Store.contract_logs h01) hB⟩

/-- The events `getTxEvents` reads for a transaction of a new block: exactly those of its entry,
decoded as written, when the batch's transaction ids are distinct. -/
theorem txEventRows_written {S1 : Store} {txs : List UpdateEntry} {e : UpdateEntry}
    {indexBlockHash : String}
    (hold : (∀ r ∈ S1.stx_events, r.index_block_hash ≠ env.hexToBuffer indexBlockHash) ∧
      (∀ r ∈ S1.ft_events, r.index_block_hash ≠ env.hexToBuffer indexBlockHash) ∧
      (∀ r ∈ S1.nft_events, r.index_block_hash ≠ env.hexToBuffer indexBlockHash) ∧
      (∀ r ∈ S1.contract_logs, r.index_block_hash ≠ env.hexToBuffer indexBlockHash))
    (hrows :
      S'.stx_events = S1.stx_events ++ txs.flatMap (fun e => e.stxEvents.map (·.row env e.tx)) ∧
      S'.ft_events = S1.ft_events ++ txs.flatMap (fun e => e.ftEvents.map (·.row env e.tx)) ∧
      S'.nft_events = S1.nft_events ++ txs.flatMap (fun e => e.nftEvents.map (·.row env e.tx)) ∧
      S'.contract_logs =
        S1.contract_logs ++ txs.flatMap (fun e => e.contractLogEvents.map (·.row env e.tx)))
    (hkeys : ∀ e' ∈ txs, e'.tx.index_block_hash = indexBlockHash ∧ env.HexRoundTrip e'.tx.tx_id ∧
      ∀ ev ∈ e'.events, ev.tx_id = e'.tx.tx_id)
    (hnd : (txs.map (·.tx.tx_id)).Nodup) (he : e ∈ txs) :
    txEventRows env S' e.tx.tx_id indexBlockHash = e.events := by
  have hK : ∀ e' ∈ txs, env.hexToBuffer e'.tx.tx_id = env.hexToBuffer e.tx.tx_id → e' = e :=
    fun e' he' h => List.inj_on_of_nodup_map hnd he' he <| by
      rw [← (hkeys e' he').2.1, ← (hkeys e he).2.1, h]
  have hnd' := hnd.of_map
  obtain ⟨hstx, hft, hnft, hlogs⟩ := UpdateEntry.forall_events.1 (hkeys e he).2.2
  have hhex : ∀ {txId : String}, txId = e.tx.tx_id → env.HexRoundTrip txId :=
    fun h => h ▸ (hkeys e he).2.1
  have hB : ∀ e' ∈ txs, env.hexToBuffer e'.tx.index_block_hash = env.hexToBuffer indexBlockHash :=
    fun e' he' => congrArg _ (hkeys e' he').1
  have hid := fun e' he' => UpdateEntry.forall_events.1 (hkeys e' he').2.2
  obtain ⟨rstx, rft, rnft, rlogs⟩ := hrows
  simp only [txEventRows, UpdateEntry.events]
  rw [rstx, rft, rnft, rlogs,
    eventsOfTx_flatMap (·.tx_id) (env.hexToBuffer ·.tx.tx_id) hold.1
      (fun e' he' x hx => ⟨hB e' he', congrArg _ ((hid e' he').1 x hx)⟩) hK hnd' he,
    eventsOfTx_flatMap (·.tx_id) (env.hexToBuffer ·.tx.tx_id) hold.2.1
      (fun e' he' x hx => ⟨hB e' he', congrArg _ ((hid e' he').2.1 x hx)⟩) hK hnd' he,
    eventsOfTx_flatMap (·.tx_id) (env.hexToBuffer ·.tx.tx_id) hold.2.2.1
      (fun e' he' x hx => ⟨hB e' he', congrArg _ ((hid e' he').2.2.1 x hx)⟩) hK hnd' he,
    eventsOfTx_flatMap (·.tx_id) (env.hexToBuffer ·.tx.tx_id) hold.2.2.2
      (fun e' he' x hx => ⟨hB e' he', congrArg _ ((hid e' he').2.2.2 x hx)⟩) hK hnd' he]
  simp only [List.map_map]
  congr 1
  · congr 1
    · congr 1
      · exact List.map_congr_left fun x hx => (event_row e.tx).1 x (hhex (hstx x hx))
      · exact List.map_congr_left fun x hx => (event_row e.tx).2.1 x (hhex (hft x hx))
    · exact List.map_congr_left fun x hx => (event_row e.tx).2.2.1 x (hhex (hnft x hx))
  · exact List.map_congr_left fun x hx => (event_row e.tx).2.2.2 x (hhex (hlogs x hx))

/-- The downgrade keeps every transaction's `tx_id`. -/
theorem downgrade_tx_ids (data : DataStoreUpdateData) (p : Prop) [Decidable p] :
    (if p then data.markNonCanonical else data).txs.map (·.tx.tx_id) =
      data.txs.map (·.tx.tx_id) := by
  split_ifs
  · simp only [DataStoreUpdateData.markNonCanonical, List.map_map]
    rfl
  · rfl

/-- The batch as `update` writes it keeps the keys `getTxEvents` reads by: its transactions'
`index_block_hash` and distinct ids, and its events' ids. -/
theorem downgrade_event_keys {data : DataStoreUpdateData} {h0 : String} (p : Prop) [Decidable p]
    (hkeys : ∀ e ∈ data.txs, e.tx.index_block_hash = h0 ∧ env.HexRoundTrip e.tx.tx_id ∧
      ∀ ev ∈ e.events, ev.tx_id = e.tx.tx_id)
    (hnodup : (data.txs.map (·.tx.tx_id)).Nodup) :
    (∀ e ∈ (if p then data.markNonCanonical else data).txs, e.tx.index_block_hash = h0 ∧
      env.HexRoundTrip e.tx.tx_id ∧ ∀ ev ∈ e.events, ev.tx_id = e.tx.tx_id) ∧
      ((if p then data.markNonCanonical else data).txs.map (·.tx.tx_id)).Nodup := by
  refine ⟨?_, by rw [downgrade_tx_ids]; exact hnodup⟩
  split_ifs
  · intro e he
    obtain ⟨e0, he0, rfl⟩ := List.mem_map.1 he
    obtain ⟨hh, hx, hev⟩ := hkeys e0 he0
    refine ⟨hh, hx, ?_⟩
    simp only [UpdateEntry.forall_events, List.forall_mem_map] at hev ⊢
    exact hev
  · exact hkeys

/-- **The events of an ingested block are read back.** From every reachable store, `update` on a
batch whose block is new, whose transactions carry the block's `index_block_hash` and distinct
ids, and whose events carry their transaction's id, either leaves the store as it was, or leaves
a store in which `getTxEvents` of each transaction at the block returns exactly the events of its
entry as `update` wrote them (every flag `false` when the block is not above the tip), each once
and sorted by `event_index`. Events with one `event_index` come in an order the code does not
fix: the four `SELECT`s have no `ORDER BY`. -/
theorem ingested_events_read_back (listenerThrows : Notification → Bool) (hS : Reachable env S)
    (data : DataStoreUpdateData)
    (hfresh : env.hexToBuffer data.block.index_block_hash ∉ hashes S.blocks)
    (hkeys : ∀ e ∈ data.txs, e.tx.index_block_hash = data.block.index_block_hash ∧
      env.HexRoundTrip e.tx.tx_id ∧ ∀ ev ∈ e.events, ev.tx_id = e.tx.tx_id)
    (hnodup : (data.txs.map (·.tx.tx_id)).Nodup) :
    let written := if data.block.block_height ≤ (getChainTipHeight env S).blockHeight then
      data.markNonCanonical else data
    (update env listenerThrows S data).store = S ∨
      ∀ e ∈ written.txs, ∃ events : List DbEvent,
        getTxEvents env (update env listenerThrows S data).store e.tx.tx_id
            data.block.index_block_hash = events.map some ∧
          events.Perm e.events ∧ events.Sorted fun a b => a.event_index ≤ b.event_index := by
  intro written
  rcases update_fresh listenerThrows hfresh with h | ⟨S1, ue, h1, hloop⟩
  · exact .inl h
  obtain ⟨hstx, hft, hnft, hlogs, -⟩ := foldlM_insertEntry_eq hloop
  obtain ⟨hkeys', hnodup'⟩ := downgrade_event_keys
    (data.block.block_height ≤ (getChainTipHeight env S).blockHeight) hkeys hnodup
  refine .inr fun e he => ⟨_, getTxEvents_eq .., ?_⟩
  rw [txEventRows_written (events_not_fresh hS.inv (handleReorg_sameRows h1) hfresh)
    ⟨hstx, hft, hnft, hlogs⟩ hkeys' hnodup' he]
  exact jsSort_event_index _ _

theorem transfer_events_read_back :
    Reachable Env.plain genesisStore ∧
      Env.plain.hexToBuffer transferBatch.block.index_block_hash ∉ hashes genesisStore.blocks ∧
      (∀ e ∈ transferBatch.txs, e.tx.index_block_hash = transferBatch.block.index_block_hash ∧
        Env.plain.HexRoundTrip e.tx.tx_id ∧ ∀ ev ∈ e.events, ev.tx_id = e.tx.tx_id) ∧
      (transferBatch.txs.map (·.tx.tx_id)).Nodup ∧
      let written := if transferBatch.block.block_height ≤
          (getChainTipHeight Env.plain genesisStore).blockHeight then
        transferBatch.markNonCanonical else transferBatch
      ((update Env.plain (fun _ => false) genesisStore transferBatch).store = genesisStore ∨
        ∀ e ∈ written.txs, ∃ events : List DbEvent,
          getTxEvents Env.plain (update Env.plain (fun _ => false) genesisStore transferBatch).store
              e.tx.tx_id transferBatch.block.index_block_hash = events.map some ∧
            events.Perm e.events ∧ events.Sorted fun a b => a.event_index ≤ b.event_index) :=
  have hfresh : Env.plain.hexToBuffer transferBatch.block.index_block_hash ∉
      hashes genesisStore.blocks := by decide
  have hkeys : ∀ e ∈ transferBatch.txs,
      e.tx.index_block_hash = transferBatch.block.index_block_hash ∧
        Env.plain.HexRoundTrip e.tx.tx_id ∧ ∀ ev ∈ e.events, ev.tx_id = e.tx.tx_id := by decide
  have hnodup : (transferBatch.txs.map (·.tx.tx_id)).Nodup := by decide
  ⟨genesisStore_reachable, hfresh, hkeys, hnodup,
    ingested_events_read_back (fun _ => false) genesisStore_reachable transferBatch hfresh hkeys
      hnodup⟩

/-- **A new block is read back as written.** From any store, `update` on a batch whose block is
new, and whose `block_hash` `getBlock` did not find, either leaves the store as it was, or leaves
a store in which `getBlock` of that hash returns the block as `update` wrote it (its flag
`false` when it is not above the tip), when its hex fields read back. -/
theorem ingested_block_read_back (listenerThrows : Notification → Bool) (S : Store)
    (data : DataStoreUpdateData)
    (hfresh : env.hexToBuffer data.block.index_block_hash ∉ hashes S.blocks)
    (hnew : getBlock env S data.block.block_hash = none)
    (hx : ∀ s ∈ [data.block.block_hash, data.block.index_block_hash,
      data.block.parent_index_block_hash, data.block.parent_block_hash,
      data.block.parent_microblock], env.HexRoundTrip s) :
    let written := if data.block.block_height ≤ (getChainTipHeight env S).blockHeight then
      data.markNonCanonical else data
    (update env listenerThrows S data).store = S ∨
      getBlock env (update env listenerThrows S data).store data.block.block_hash =
        some written.block := by
  intro written
  rcases update_fresh listenerThrows hfresh with h | ⟨S1, ue, h1, hloop⟩
  · exact .inl h
  -- the downgrade changes the block's flag only
  have hstrings : written.block.block_hash = data.block.block_hash ∧
      (∀ s ∈ [written.block.block_hash, written.block.index_block_hash,
        written.block.parent_index_block_hash, written.block.parent_block_hash,
        written.block.parent_microblock], env.HexRoundTrip s) := by
    simp only [written]
    split_ifs <;> exact ⟨rfl, hx⟩
  -- the reorg changed flags only, so no block of its store has the hash either
  have hS1 : ∀ b ∈ S1.blocks, b.block_hash ≠ env.hexToBuffer data.block.block_hash :=
    fun b hb hbh => by
      obtain ⟨b0, hb0, he0⟩ := (handleReorg_sameRows h1).mem_blocks hb
      exact getBlock_ne_none_iff.2
        ⟨b0, hb0, (congrArg BlockQueryResult.block_hash he0).trans hbh⟩ hnew
  have hrow : ((written.block.row env).block_hash ==
      env.hexToBuffer data.block.block_hash) = true := by
    rw [beq_iff_eq, ← hstrings.1]
    rfl
  refine .inr ?_
  unfold getBlock
  rw [(foldlM_insertEntry_appends_any hloop).blocks, List.filter_append,
    List.filter_eq_nil_iff.2 fun b hb => by simpa using hS1 b hb, List.filter_singleton, hrow]
  exact congrArg some (parseBlockQueryResult_row hstrings.2)

theorem transfer_block_read_back :
    Env.plain.hexToBuffer transferBatch.block.index_block_hash ∉ hashes genesisStore.blocks ∧
      getBlock Env.plain genesisStore transferBatch.block.block_hash = none ∧
      (∀ s ∈ [transferBatch.block.block_hash, transferBatch.block.index_block_hash,
        transferBatch.block.parent_index_block_hash, transferBatch.block.parent_block_hash,
        transferBatch.block.parent_microblock], Env.plain.HexRoundTrip s) ∧
      let written := if transferBatch.block.block_height ≤
          (getChainTipHeight Env.plain genesisStore).blockHeight then
        transferBatch.markNonCanonical else transferBatch
      ((update Env.plain (fun _ => false) genesisStore transferBatch).store = genesisStore ∨
        getBlock Env.plain (update Env.plain (fun _ => false) genesisStore transferBatch).store
          transferBatch.block.block_hash = some written.block) :=
  have hfresh : Env.plain.hexToBuffer transferBatch.block.index_block_hash ∉
      hashes genesisStore.blocks := by decide
  have hnew : getBlock Env.plain genesisStore transferBatch.block.block_hash = none := by decide
  have hx : ∀ s ∈ [transferBatch.block.block_hash, transferBatch.block.index_block_hash,
      transferBatch.block.parent_index_block_hash, transferBatch.block.parent_block_hash,
      transferBatch.block.parent_microblock], Env.plain.HexRoundTrip s := by decide
  ⟨hfresh, hnew, hx,
    ingested_block_read_back (fun _ => false) genesisStore transferBatch hfresh hnew hx⟩

/-- **A new transaction is read back as written.** From any store, `update` on a batch whose
block is new and whose transactions have distinct ids, each carried back by the hex helpers,
either leaves the store as it was, or leaves a store in which `getTx` returns, for each
transaction it did not find before, the transaction as `update` wrote it (its flag `false` when
the block is not above the tip), provided its other hex fields read back, its payload is that of
its type and its contract-call arguments read back. -/
theorem ingested_tx_read_back (listenerThrows : Notification → Bool) (S : Store)
    (data : DataStoreUpdateData)
    (hfresh : env.hexToBuffer data.block.index_block_hash ∉ hashes S.blocks)
    (hids : ∀ e ∈ data.txs, env.HexRoundTrip e.tx.tx_id)
    (hnodup : (data.txs.map (·.tx.tx_id)).Nodup) :
    let written := if data.block.block_height ≤ (getChainTipHeight env S).blockHeight then
      data.markNonCanonical else data
    (update env listenerThrows S data).store = S ∨
      ∀ e ∈ written.txs, getTx env S e.tx.tx_id = .ok none →
        env.HexRoundTrip e.tx.index_block_hash → env.HexRoundTrip e.tx.block_hash →
        e.tx.payloadOfType = true →
        e.tx.contract_call_function_args.map
            (fun args => env.byteaBufferArray (env.bufferArrayParam args)) =
          e.tx.contract_call_function_args →
        getTx env (update env listenerThrows S data).store e.tx.tx_id = .ok (some e.tx) := by
  intro written
  rcases update_fresh listenerThrows hfresh with h | ⟨S1, ue, h1, hloop⟩
  · exact .inl h
  have hmap := downgrade_tx_ids data
    (data.block.block_height ≤ (getChainTipHeight env S).blockHeight)
  have hids' : ∀ e ∈ written.txs, env.HexRoundTrip e.tx.tx_id := fun e he => by
    have hm := List.mem_map_of_mem (fun e : UpdateEntry => e.tx.tx_id) he
    rw [hmap] at hm
    obtain ⟨e0, he0, hid⟩ := List.mem_map.1 hm
    exact (show e0.tx.tx_id = e.tx.tx_id from hid) ▸ hids e0 he0
  have hnd : (written.txs.map (·.tx.tx_id)).Nodup := hmap ▸ hnodup
  refine .inr fun e he hnone hibh hbh hp hargs => ?_
  -- the reorg changed flags only, so no row of its store has the id either
  have hS1 : ∀ r ∈ S1.txs, r.cols.tx_id ≠ env.hexToBuffer e.tx.tx_id := fun r hr hrK => by
    obtain ⟨r0, hr0, he0⟩ := (handleReorg_sameRows h1).mem_txs hr
    exact getTx_ne_ok_none_iff.2 ⟨r0, hr0, (congrArg (·.cols.tx_id) he0).trans hrK⟩ hnone
  have hrows := foldlM_insertEntry_txs_unique hloop hS1 he rfl
    (fun e' he' h => List.inj_on_of_nodup_map hnd he' he (by rw [← hids' e' he', h, hids' e he]))
    hnd.of_map
  have hx : ∀ s ∈ [e.tx.tx_id, e.tx.index_block_hash, e.tx.block_hash], env.HexRoundTrip s := by
    simp only [List.mem_cons, List.mem_singleton, List.not_mem_nil, or_false, forall_eq_or_imp,
      forall_eq]
    exact ⟨hids' e he, hibh, hbh⟩
  unfold getTx
  rw [hrows, show selectLatest (·.canonical) (·.cols.block_height) [e.tx.row env] =
    some (e.tx.row env) from rfl]
  simp only [parseTxQueryResult_row hx hp hargs]
  rfl

theorem transfer_tx_read_back :
    Env.plain.hexToBuffer transferBatch.block.index_block_hash ∉ hashes genesisStore.blocks ∧
      (∀ e ∈ transferBatch.txs, Env.plain.HexRoundTrip e.tx.tx_id) ∧
      (transferBatch.txs.map (·.tx.tx_id)).Nodup ∧
      let written := if transferBatch.block.block_height ≤
          (getChainTipHeight Env.plain genesisStore).blockHeight then
        transferBatch.markNonCanonical else transferBatch
      ((update Env.plain (fun _ => false) genesisStore transferBatch).store = genesisStore ∨
        ∀ e ∈ written.txs, getTx Env.plain genesisStore e.tx.tx_id = .ok none →
          Env.plain.HexRoundTrip e.tx.index_block_hash → Env.plain.HexRoundTrip e.tx.block_hash →
          e.tx.payloadOfType = true →
          e.tx.contract_call_function_args.map
              (fun args => Env.plain.byteaBufferArray (Env.plain.bufferArrayParam args)) =
            e.tx.contract_call_function_args →
          getTx Env.plain (update Env.plain (fun _ => false) genesisStore transferBatch).store
            e.tx.tx_id = .ok (some e.tx)) :=
  have hfresh : Env.plain.hexToBuffer transferBatch.block.index_block_hash ∉
      hashes genesisStore.blocks := by decide
  have hids : ∀ e ∈ transferBatch.txs, Env.plain.HexRoundTrip e.tx.tx_id := by decide
  have hnodup : (transferBatch.txs.map (·.tx.tx_id)).Nodup := by decide
  ⟨hfresh, hids, hnodup,
    ingested_tx_read_back (fun _ => false) genesisStore transferBatch hfresh hids hnodup⟩

end Sidecar.Query
