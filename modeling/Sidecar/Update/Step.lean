import Sidecar.Canonical.Restore

/-!
# What one call of `update` can do

Inversion lemmas for the statements `update` runs (`postgres-store.ts:221-272`): each says all
that a successful statement leaves, so that the results about whole runs never unfold the
model.

* `Store.Appends p S S'`: `S'` is `S` with entity rows appended, each with an
  `index_block_hash` and a flag that `p` allows, and the same `blocks`. Every insert of an
  entity row is such a step, and so is each `for` loop of `update` (`foldlM_appends`).
* `updateBlock_ok`: the block `INSERT` appends the row, or finds its `index_block_hash` stored,
  leaves `blocks` alone and returns 0.
* `insertEntry_ok`, `insertEntry_appends`: one pass of the `for (const entry of data.txs)` loop
  appends rows with the transaction's `index_block_hash` and the entry's flags, and
  `foldlM_insertEntry_appendsEach`: so does each pass of the whole loop
  (`Store.AppendsEach`).
* `updateTx_mem`, `foldlM_insertEntry_tx_mem`: after the loop every transaction of the batch has
  a `txs` row with its `tx_id` and `index_block_hash`.
* `handleReorg_eq`: under unique hashes, the parent `SELECT` is the lookup `blockAt`, and
  `handleReorg` fails (`noParent`), restores the parent's chain, or changes nothing.
* `updateWrites_ok`, `update_of_error`, `update_of_ok`: the transaction statement by
  statement; a failed one is rolled back.
-/

namespace Sidecar.Datastore

/-- `t'` is `t` with rows appended, each with an `index_block_hash` and flag that `p` allows. -/
def Table.Appends {α : Type} (p : Buffer → Bool → Prop) (t t' : Table α) : Prop :=
  ∃ N : Table α, t' = t ++ N ∧ ∀ r ∈ N, p r.index_block_hash r.canonical

/-- `S'` is `S` with entity rows appended, `p` allowing each, and the same `blocks`. -/
structure Store.Appends (p : Buffer → Bool → Prop) (S S' : Store) : Prop where
  blocks : S'.blocks = S.blocks
  txs : Table.Appends p S.txs S'.txs
  stx_events : Table.Appends p S.stx_events S'.stx_events
  ft_events : Table.Appends p S.ft_events S'.ft_events
  nft_events : Table.Appends p S.nft_events S'.nft_events
  contract_logs : Table.Appends p S.contract_logs S'.contract_logs
  smart_contracts : Table.Appends p S.smart_contracts S'.smart_contracts

/-- `S'` is `S` after one pass per entry of `txs`, in order, the pass of `entry` appending rows
that `p entry` allows. -/
inductive Store.AppendsEach (p : UpdateEntry → Buffer → Bool → Prop) :
    List UpdateEntry → Store → Store → Prop
  | nil (S : Store) : Store.AppendsEach p [] S S
  | cons {entry : UpdateEntry} {txs : List UpdateEntry} {S S1 S' : Store} :
      Store.Appends (p entry) S S1 → Store.AppendsEach p txs S1 S' →
        Store.AppendsEach p (entry :: txs) S S'

/-- `q` holds of the `canonical` flag of every record of an entry: its transaction, events, logs
and contracts. -/
structure UpdateEntry.Flags (q : Bool → Prop) (entry : UpdateEntry) : Prop where
  tx : q entry.tx.canonical
  stxEvents : ∀ e ∈ entry.stxEvents, q e.canonical
  ftEvents : ∀ e ∈ entry.ftEvents, q e.canonical
  nftEvents : ∀ e ∈ entry.nftEvents, q e.canonical
  contractLogEvents : ∀ e ∈ entry.contractLogEvents, q e.canonical
  smartContracts : ∀ c ∈ entry.smartContracts, q c.canonical

theorem UpdateEntry.flags_true (entry : UpdateEntry) : entry.Flags fun _ => True :=
  ⟨trivial, fun _ _ => trivial, fun _ _ => trivial, fun _ _ => trivial, fun _ _ => trivial,
    fun _ _ => trivial⟩

/-- Every table of `S'` begins with the rows of the same table of `S`. -/
structure Store.Extends (S S' : Store) : Prop where
  blocks : S.blocks <+: S'.blocks
  txs : S.txs <+: S'.txs
  stx_events : S.stx_events <+: S'.stx_events
  ft_events : S.ft_events <+: S'.ft_events
  nft_events : S.nft_events <+: S'.nft_events
  contract_logs : S.contract_logs <+: S'.contract_logs
  smart_contracts : S.smart_contracts <+: S'.smart_contracts

namespace Table.Appends

variable {α : Type} {p q : Buffer → Bool → Prop} {t t' t'' : Table α}

theorem refl (t : Table α) : Table.Appends p t t :=
  ⟨[], (List.append_nil t).symm, fun _ h => absurd h (List.not_mem_nil _)⟩

theorem trans (h : Table.Appends p t t') (h' : Table.Appends p t' t'') : Table.Appends p t t'' := by
  obtain ⟨N, rfl, hN⟩ := h
  obtain ⟨N', rfl, hN'⟩ := h'
  exact ⟨N ++ N', List.append_assoc _ _ _, fun r hr => (List.mem_append.1 hr).elim (hN r) (hN' r)⟩

theorem mono (hpq : ∀ h c, p h c → q h c) (h : Table.Appends p t t') : Table.Appends q t t' :=
  let ⟨N, hN, hp⟩ := h
  ⟨N, hN, fun r hr => hpq _ _ (hp r hr)⟩

theorem single {r : Row α} (hr : p r.index_block_hash r.canonical) : Table.Appends p t (t ++ [r]) :=
  ⟨[r], rfl, fun r' h => by rw [List.mem_singleton.1 h]; exact hr⟩

end Table.Appends

namespace Store.Appends

variable {p q : Buffer → Bool → Prop} {S S' S'' : Store}

theorem refl (S : Store) : Store.Appends p S S :=
  ⟨rfl, .refl _, .refl _, .refl _, .refl _, .refl _, .refl _⟩

theorem trans (h : Store.Appends p S S') (h' : Store.Appends p S' S'') : Store.Appends p S S'' :=
  ⟨h'.blocks.trans h.blocks, h.txs.trans h'.txs, h.stx_events.trans h'.stx_events,
    h.ft_events.trans h'.ft_events, h.nft_events.trans h'.nft_events,
    h.contract_logs.trans h'.contract_logs, h.smart_contracts.trans h'.smart_contracts⟩

theorem mono (hpq : ∀ h c, p h c → q h c) (h : Store.Appends p S S') : Store.Appends q S S' :=
  ⟨h.blocks, h.txs.mono hpq, h.stx_events.mono hpq, h.ft_events.mono hpq, h.nft_events.mono hpq,
    h.contract_logs.mono hpq, h.smart_contracts.mono hpq⟩

/-- A block appended before the entity inserts stays stored. -/
theorem mem_block {B : BlockQueryResult}
    (h : Store.Appends p { S with blocks := S.blocks ++ [B] } S') : B ∈ S'.blocks :=
  h.blocks ▸ List.mem_append_right _ (List.mem_singleton_self _)

theorem toExtends {S S' : Store} (h : Store.Appends p S S') : Store.Extends S S' :=
  have pre : ∀ {α : Type} {t t' : Table α}, Table.Appends p t t' → t <+: t' :=
    fun ⟨N, h, _⟩ => ⟨N, h.symm⟩
  ⟨h.blocks ▸ List.prefix_refl _, pre h.txs, pre h.stx_events, pre h.ft_events, pre h.nft_events,
    pre h.contract_logs, pre h.smart_contracts⟩

end Store.Appends

/-- Passes over entries rewritten by `f` are passes over the entries, for a predicate that `f`
does not change. -/
theorem Store.AppendsEach.of_map {p q : UpdateEntry → Buffer → Bool → Prop}
    {f : UpdateEntry → UpdateEntry} (hpq : ∀ e h c, p (f e) h c → q e h c) :
    ∀ {txs : List UpdateEntry} {S S' : Store}, Store.AppendsEach p (txs.map f) S S' →
      Store.AppendsEach q txs S S'
  | [], _, _, h => by cases h; exact .nil _
  | _ :: _, _, _, .cons h1 h2 => .cons (h1.mono (hpq _)) (of_map hpq h2)

namespace Store.Extends

theorem refl (S : Store) : Store.Extends S S :=
  ⟨List.prefix_refl _, List.prefix_refl _, List.prefix_refl _, List.prefix_refl _,
    List.prefix_refl _, List.prefix_refl _, List.prefix_refl _⟩

theorem trans {S S' S'' : Store} (h : Store.Extends S S') (h' : Store.Extends S' S'') :
    Store.Extends S S'' :=
  ⟨h.blocks.trans h'.blocks, h.txs.trans h'.txs, h.stx_events.trans h'.stx_events,
    h.ft_events.trans h'.ft_events, h.nft_events.trans h'.nft_events,
    h.contract_logs.trans h'.contract_logs, h.smart_contracts.trans h'.smart_contracts⟩

theorem append_block (S : Store) (B : BlockQueryResult) :
    Store.Extends S { S with blocks := S.blocks ++ [B] } :=
  ⟨List.prefix_append _ _, List.prefix_refl _, List.prefix_refl _, List.prefix_refl _,
    List.prefix_refl _, List.prefix_refl _, List.prefix_refl _⟩

theorem relabel {S S' : Store} (g : Buffer → Bool) (h : Store.Extends S S') :
    Store.Extends (S.relabel g) (S'.relabel g) :=
  ⟨h.blocks.map _, h.txs.map _, h.stx_events.map _, h.ft_events.map _, h.nft_events.map _,
    h.contract_logs.map _, h.smart_contracts.map _⟩

end Store.Extends

end Sidecar.Datastore

namespace Sidecar.Update

open Sidecar.Datastore Sidecar.Canonical

section Monad

variable {ε α β : Type}

theorem bind_eq_ok {x : Except ε α} {f : α → Except ε β} {b : β} :
    x >>= f = .ok b ↔ ∃ a, x = .ok a ∧ f a = .ok b := by
  cases x <;> simp [bind, Except.bind]

theorem map_eq_ok {x : Except ε α} {f : α → β} {b : β} :
    x.map f = .ok b ↔ ∃ a, x = .ok a ∧ f a = b := by
  cases x <;> simp [Except.map]

/-- A `for` loop whose every pass appends rows appends rows. -/
theorem foldlM_appends {p : Buffer → Bool → Prop} {f : Store → β → Except DbError Store} :
    ∀ {l : List β}, (∀ x ∈ l, ∀ {S S'}, f S x = .ok S' → Store.Appends p S S') →
      ∀ {S S'}, l.foldlM f S = .ok S' → Store.Appends p S S'
  | [], _, _, _, h => by cases h; exact .refl _
  | x :: l, hf, S, S', h => by
    obtain ⟨S1, h1, h2⟩ := bind_eq_ok.1 h
    exact (hf x (List.mem_cons_self _ _) h1).trans
      (foldlM_appends (fun y hy => hf y (List.mem_cons_of_mem _ hy)) h2)

end Monad

/-! ## The inserts -/

section Inserts

variable {env : Env} {S S' : Store}

/-- The block `INSERT` appends the row, or meets a stored `index_block_hash` and returns 0. -/
theorem updateBlock_ok {block : DbBlock} {n : Nat} (h : updateBlock env S block = .ok (S', n)) :
    (n = 0 ∧ S' = S ∧
      (S.blocks.any fun b => b.index_block_hash == (block.row env).index_block_hash) = true) ∨
    (n = 1 ∧ S' = { S with blocks := S.blocks ++ [block.row env] } ∧
      (S.blocks.any fun b => b.index_block_hash == (block.row env).index_block_hash) = false) := by
  obtain ⟨⟨t, m⟩, h1, h2⟩ := map_eq_ok.1 h
  cases h2
  rcases sqlInsert_eq h1 with ⟨rfl, rfl, hc⟩ | ⟨rfl, rfl, hc⟩
  · exact .inl ⟨rfl, rfl, hc⟩
  · exact .inr ⟨rfl, rfl, hc⟩

theorem updateTx_appends {tx : DbTx} {n : Nat} (h : updateTx env S tx = .ok (S', n)) :
    Store.Appends (fun h c => h = env.hexToBuffer tx.index_block_hash ∧ c = tx.canonical) S S' := by
  obtain ⟨⟨t, m⟩, h1, h2⟩ := map_eq_ok.1 h
  cases h2
  rcases sqlInsert_eq h1 with ⟨-, rfl, -⟩ | ⟨-, rfl, -⟩
  · exact .refl _
  · exact ⟨rfl, .single ⟨rfl, rfl⟩, .refl _, .refl _, .refl _, .refl _, .refl _⟩

/-- A plain `INSERT` appends its row to the table `set` writes. -/
theorem insertRow_appends {α : Type} {accepts : Table α → Row α → Bool} {get : Store → Table α}
    {set : Store → Table α → Store} {r : Row α} {p : Buffer → Bool → Prop}
    (hset : ∀ N : Table α, (∀ r ∈ N, p r.index_block_hash r.canonical) →
      Store.Appends p S (set S (get S ++ N)))
    (hr : p r.index_block_hash r.canonical) (h : insertRow accepts get set S r = .ok S') :
    Store.Appends p S S' := by
  obtain ⟨⟨t, m⟩, h1, rfl⟩ := map_eq_ok.1 h
  rcases sqlInsert_eq h1 with ⟨-, -, hc⟩ | ⟨-, rfl, -⟩
  · simp at hc
  · exact hset [r] fun r' h => by rw [List.mem_singleton.1 h]; exact hr

/-- The transaction's `INSERT` leaves a row with its `tx_id` and `index_block_hash`: the new row,
or the stored one it conflicts with. -/
theorem updateTx_mem {tx : DbTx} {n : Nat} (h : updateTx env S tx = .ok (S', n)) :
    ∃ r ∈ S'.txs, r.cols.tx_id = env.hexToBuffer tx.tx_id ∧
      r.index_block_hash = env.hexToBuffer tx.index_block_hash := by
  obtain ⟨⟨t, m⟩, h1, h2⟩ := map_eq_ok.1 h
  cases h2
  rcases sqlInsert_eq h1 with ⟨-, rfl, hc⟩ | ⟨-, rfl, -⟩
  · obtain ⟨r, hr, hrc⟩ := List.any_eq_true.1 hc
    simp only [Bool.and_eq_true, beq_iff_eq] at hrc
    exact ⟨r, hr, hrc⟩
  · exact ⟨_, List.mem_append_right _ (List.mem_singleton_self _), rfl, rfl⟩

/-- One pass of the `for (const entry of data.txs)` loop: the transaction's `INSERT`, then rows
appended carrying the transaction's `index_block_hash` and the flag of their record. -/
theorem insertEntry_ok {q : Bool → Prop} {entry : UpdateEntry} (hq : entry.Flags q)
    (h : insertEntry env S entry = .ok S') : ∃ S1 n, updateTx env S entry.tx = .ok (S1, n) ∧
      Store.Appends (fun h c => h = env.hexToBuffer entry.tx.index_block_hash ∧ q c) S1 S' := by
  simp only [insertEntry, bind_eq_ok] at h
  obtain ⟨S1, h1, S2, h2, S3, h3, S4, h4, S5, h5, h6⟩ := h
  obtain ⟨⟨S1, n⟩, hTx, rfl⟩ := map_eq_ok.1 h1
  exact ⟨S1, n, hTx,
    (foldlM_appends (fun e he _ _ h => insertRow_appends
      (fun N hN => ⟨rfl, .refl _, ⟨N, rfl, hN⟩, .refl _, .refl _, .refl _, .refl _⟩)
      ⟨rfl, hq.stxEvents e he⟩ h) h2).trans
    ((foldlM_appends (fun e he _ _ h => insertRow_appends
      (fun N hN => ⟨rfl, .refl _, .refl _, ⟨N, rfl, hN⟩, .refl _, .refl _, .refl _⟩)
      ⟨rfl, hq.ftEvents e he⟩ h) h3).trans
    ((foldlM_appends (fun e he _ _ h => insertRow_appends
      (fun N hN => ⟨rfl, .refl _, .refl _, .refl _, ⟨N, rfl, hN⟩, .refl _, .refl _⟩)
      ⟨rfl, hq.nftEvents e he⟩ h) h4).trans
    ((foldlM_appends (fun e he _ _ h => insertRow_appends
      (fun N hN => ⟨rfl, .refl _, .refl _, .refl _, .refl _, ⟨N, rfl, hN⟩, .refl _⟩)
      ⟨rfl, hq.contractLogEvents e he⟩ h) h5).trans
    (foldlM_appends (fun c hc _ _ h => insertRow_appends
      (fun N hN => ⟨rfl, .refl _, .refl _, .refl _, .refl _, .refl _, ⟨N, rfl, hN⟩⟩)
      ⟨rfl, hq.smartContracts c hc⟩ h) h6))))⟩

/-- One pass of the loop appends rows carrying the transaction's `index_block_hash` and the flag
of their record. -/
theorem insertEntry_appends {q : Bool → Prop} {entry : UpdateEntry} (hq : entry.Flags q)
    (h : insertEntry env S entry = .ok S') :
    Store.Appends (fun h c => h = env.hexToBuffer entry.tx.index_block_hash ∧ q c) S S' := by
  obtain ⟨S1, n, hTx, happ⟩ := insertEntry_ok hq h
  exact ((updateTx_appends hTx).mono fun _ _ ⟨hh, hc⟩ => ⟨hh, hc ▸ hq.tx⟩).trans happ

/-- After one pass of the loop a row with the transaction's `tx_id` and `index_block_hash` is
stored. -/
theorem insertEntry_tx_mem {entry : UpdateEntry} (h : insertEntry env S entry = .ok S') :
    ∃ r ∈ S'.txs, r.cols.tx_id = env.hexToBuffer entry.tx.tx_id ∧
      r.index_block_hash = env.hexToBuffer entry.tx.index_block_hash := by
  obtain ⟨S1, n, hTx, happ⟩ := insertEntry_ok entry.flags_true h
  obtain ⟨r, hr, hh⟩ := updateTx_mem hTx
  exact ⟨r, happ.toExtends.txs.subset hr, hh⟩

/-- The `for (const entry of data.txs)` loop over entries whose transactions carry `h0` and whose
records all have flag `c`. -/
theorem foldlM_insertEntry_appends {txs : List UpdateEntry} {h0 : String} {c : Bool}
    (htx : ∀ entry ∈ txs, entry.tx.index_block_hash = h0 ∧ entry.Flags (· = c))
    (h : txs.foldlM (insertEntry env) S = .ok S') :
    Store.Appends (fun h c' => h = env.hexToBuffer h0 ∧ c' = c) S S' :=
  foldlM_appends (fun entry he _ _ h => (insertEntry_appends (htx entry he).2 h).mono
    fun _ _ ⟨hh, hc⟩ => ⟨hh.trans (congrArg _ (htx entry he).1), hc⟩) h

/-- The `for (const entry of data.txs)` loop appends rows, each carrying the
`index_block_hash` of one of the transactions. -/
theorem foldlM_insertEntry_appends_any {txs : List UpdateEntry}
    (h : txs.foldlM (insertEntry env) S = .ok S') :
    Store.Appends (fun h _ => ∃ entry ∈ txs, h = env.hexToBuffer entry.tx.index_block_hash) S S' :=
  foldlM_appends (fun entry he _ _ h => (insertEntry_appends entry.flags_true h).mono
    fun _ _ ⟨hh, _⟩ => ⟨entry, he, hh⟩) h

/-- After the loop every transaction of the batch has a row with its `tx_id` and
`index_block_hash`. -/
theorem foldlM_insertEntry_tx_mem : ∀ {txs : List UpdateEntry} {S S' : Store},
    txs.foldlM (insertEntry env) S = .ok S' → ∀ e ∈ txs, ∃ r ∈ S'.txs,
      r.cols.tx_id = env.hexToBuffer e.tx.tx_id ∧
        r.index_block_hash = env.hexToBuffer e.tx.index_block_hash
  | [], _, _, _, e, he => absurd he (List.not_mem_nil e)
  | entry :: txs, _, _, h, e, he => by
    obtain ⟨S1, h1, h2⟩ := bind_eq_ok.1 h
    rcases List.mem_cons.1 he with rfl | he
    · obtain ⟨r, hr, hh⟩ := insertEntry_tx_mem h1
      exact ⟨r, (foldlM_insertEntry_appends_any h2).toExtends.txs.subset hr, hh⟩
    · exact foldlM_insertEntry_tx_mem h2 e he

end Inserts

/-! ## The reorg and the transaction -/

section Transaction

variable {env : Env} {S S' : Store}

/-- Under unique hashes the parent `SELECT` of `handleReorg` returns the lookup's block, if any. -/
theorem filter_parent_eq {bs : List BlockQueryResult} (hn : (bs.map (·.index_block_hash)).Nodup)
    (k : Int) (h : Buffer) :
    bs.filter (fun b => b.block_height == k && b.index_block_hash == h) = (blockAt bs k h).toList := by
  cases hP : blockAt bs k h with
  | none => exact List.filter_eq_nil_iff.2 fun b hb hsel => blockAt_eq_none.1 hP b hb (by simpa using hsel)
  | some P =>
    obtain ⟨hPm, rfl, rfl⟩ := blockAt_eq_some hP
    exact filter_eq_singleton hn hPm (fun b _ hsel => by simp at hsel; exact hsel.2) (by simp)

/-- `handleReorg` under unique hashes: no stored parent is the only error it raises itself. -/
theorem handleReorg_eq (hn : (S.blocks.map (·.index_block_hash)).Nodup) (block : DbBlock)
    (tip : Int) :
    handleReorg env S block tip =
      if block.block_height > 1 then
        match blockAt S.blocks (block.block_height - 1) (env.hexToBuffer block.parent_index_block_hash) with
        | none => .error (.noParent (block.block_height - 1) block.parent_index_block_hash)
        | some parent =>
          if !parent.canonical && block.block_height > tip then
            restoreOrphanedChain S parent.index_block_hash { UpdatedEntities.zero with blocks := 1 }
          else .ok (S, .zero)
      else .ok (S, .zero) := by
  simp only [handleReorg, filter_parent_eq hn]
  cases blockAt S.blocks (block.block_height - 1) (env.hexToBuffer block.parent_index_block_hash) <;> rfl

/-- `handleReorg` keeps the store, or restores the chain of a stored parent when the block is
above the tip. -/
theorem handleReorg_ok {block : DbBlock} {tip : Int} {S1 : Store} {ue : UpdatedEntities}
    (h : handleReorg env S block tip = .ok (S1, ue)) :
    S1 = S ∨ tip < block.block_height ∧ ∃ P ∈ S.blocks,
      restoreOrphanedChain S P.index_block_hash { UpdatedEntities.zero with blocks := 1 } =
        .ok (S1, ue) := by
  simp only [handleReorg] at h
  split_ifs at h
  · split at h
    · cases h
    · cases h
    · rename_i parent hf
      split_ifs at h with hc
      · simp only [Bool.and_eq_true, Bool.not_eq_true', decide_eq_true_eq] at hc
        exact .inr ⟨hc.2, parent, (List.mem_filter.1 (hf ▸ List.mem_singleton_self _)).1, h⟩
      · cases h; exact .inl rfl
  · cases h; exact .inl rfl

/-- A committed transaction, statement by statement. -/
theorem updateWrites_ok {data data' : DataStoreUpdateData}
    (h : updateWrites env S data = .ok (S', data')) :
    ∃ S1 ue S2 n,
      handleReorg env S data.block (getChainTipHeight env S).blockHeight = .ok (S1, ue) ∧
      data' = (if data.block.block_height ≤ (getChainTipHeight env S).blockHeight then
        data.markNonCanonical else data) ∧
      updateBlock env S1 data'.block = .ok (S2, n) ∧
      (n = 0 ∧ S' = S2 ∨ n ≠ 0 ∧ data'.txs.foldlM (insertEntry env) S2 = .ok S') := by
  simp only [updateWrites, bind_eq_ok] at h
  obtain ⟨⟨S1, ue⟩, h1, ⟨S2, n⟩, h2, h3⟩ := h
  refine ⟨S1, ue, S2, n, h1, ?_⟩
  by_cases hn : n = 0
  · simp [hn, pure, Except.pure] at h3
    obtain ⟨rfl, rfl⟩ := h3
    exact ⟨rfl, h2, .inl ⟨hn, rfl⟩⟩
  · simp [hn, bind_eq_ok, pure, Except.pure] at h3
    obtain ⟨S3, h3, rfl, rfl⟩ := h3
    exact ⟨rfl, h2, .inr ⟨hn, h3⟩⟩

variable (listenerThrows : Notification → Bool) (data : DataStoreUpdateData)

/-- A failed transaction is rolled back and nothing is emitted. -/
theorem update_of_error {e : DbError} (h : updateWrites env S data = .error e) :
    update env listenerThrows S data = ⟨.error e, S, []⟩ := by
  simp [update, h]

/-- A committed transaction is kept, and the notifications are emitted. -/
theorem update_of_ok {data' : DataStoreUpdateData} (h : updateWrites env S data = .ok (S', data')) :
    update env listenerThrows S data =
      ⟨if (emitAll listenerThrows data'.notifications).2 then .error .listener else .ok (), S',
        (emitAll listenerThrows data'.notifications).1⟩ := by
  simp [update, h]

end Transaction

end Sidecar.Update
