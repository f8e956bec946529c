import Sidecar.Datastore.Queries
import Sidecar.Update.Invariant

/-!
# Balances are read off the canonical chain

`getStxBalance`, `getFungibleTokenBalances` and `getNonFungibleTokenCounts`
(`postgres-store.ts:1085-1309`) select the event rows flagged `canonical`. In a reachable store
an entity row is flagged exactly when its block is on the canonical chain
(`canonical_eq_onChain`), so the balances are sums over the events of the blocks on that chain.

Results:
* `lookup_eq_of_mem_iff`, `mem_groupBy`, `mem_fullJoin`, `assetTotals_lookup`: the `GROUP BY`,
  the `FULL JOIN` and the `Map` built from them, asset by asset;
* `assetTotals_keys_nodup`: the joined rows name distinct assets, so the `Map` has one entry per
  row;
* `balances_on_canonical_chain`: in every reachable store, with `T` the tip of the canonical
  chain, every balance and count is the sum or the number of the events of the blocks on the
  chain of `T`, and an asset has an entry exactly when such an event names the address.
-/

namespace Sidecar.Canonical

open Sidecar.Datastore

/-- The rows of `t` whose block is on the chain of `T` and whose columns `p` selects. -/
def chainRows {α : Type} (bs : List BlockQueryResult) (T : BlockQueryResult) (t : Table α)
    (p : α → Bool) : Table α :=
  t.filter fun r => decide (r.index_block_hash ∈ hashes (chain bs T)) && p r.cols

/-- The sum of `amount` over the rows of `t` whose block is on the chain of `T` and whose columns
`p` selects. -/
def chainSum {α : Type} (bs : List BlockQueryResult) (T : BlockQueryResult) (t : Table α)
    (p : α → Bool) (amount : α → Int) : Int :=
  ((chainRows bs T t p).map (amount ·.cols)).sum

/-- A row agreeing with the blocks of a canonical chain is flagged exactly when its block is on
the chain. -/
theorem canonical_eq_onChain {α : Type} {bs : List BlockQueryResult} {T : BlockQueryResult}
    (hn : (bs.map (·.index_block_hash)).Nodup) (ht : CanonicalChain bs T) {t : Table α}
    (ha : t.Agrees bs) : ∀ r ∈ t, r.canonical = decide (r.index_block_hash ∈ hashes (chain bs T)) := by
  intro r hr
  obtain ⟨b, hb, hh, hc⟩ := ha r hr
  rw [← hc, ← hh, Bool.eq_iff_iff, decide_eq_true_iff,
    hash_mem_hashes_iff hn (fun c hc => (mem_chain hc).1) hb]
  exact ht.canonical b hb

end Sidecar.Canonical

namespace Sidecar.Query

open Sidecar.Datastore Sidecar.Canonical Sidecar.Update

/-! ## `Map` lookups -/

section Lookup

variable {β : Type}

/-- A list of entries whose members are the graph of `F` looks up as `F`. -/
theorem lookup_eq_of_mem_iff {l : List (String × β)} {F : String → Option β}
    (hF : ∀ a v, (a, v) ∈ l ↔ F a = some v) (a : String) : l.lookup a = F a := by
  cases h : l.lookup a with
  | some v =>
    obtain ⟨l₁, l₂, rfl, -⟩ := List.lookup_eq_some_iff.1 h
    exact ((hF a v).1 (List.mem_append_right _ (List.mem_cons_self _ _))).symm
  | none =>
    cases hFa : F a with
    | none => rfl
    | some v => simpa using List.lookup_eq_none_iff.1 h _ ((hF a v).2 hFa)

theorem lookup_map_snd {γ : Type} (g : β → γ) :
    ∀ (l : List (String × β)) (a : String),
      (l.map fun r => (r.1, g r.2)).lookup a = (l.lookup a).map g
  | [], _ => rfl
  | (k, w) :: l, a => by
    simp only [List.map_cons, List.lookup_cons]
    split <;> simp [lookup_map_snd g l a]

end Lookup

/-! ## `GROUP BY` and `FULL JOIN` -/

section Join

variable {α : Type} {key : α → String} {agg : List α → Int} {rows : List α}

theorem mem_groupBy (a : String) (v : Int) :
    (a, v) ∈ groupBy key agg rows ↔
      (if a ∈ rows.map key then some (agg (rows.filter fun r => key r = a)) else none) = some v := by
  simp only [groupBy, List.mem_map, List.mem_dedup, Prod.mk.injEq]
  split_ifs with h
  · simp only [Option.some.injEq]
    constructor
    · rintro ⟨k, -, rfl, rfl⟩; rfl
    · rintro rfl; exact ⟨a, h, rfl, rfl⟩
  · simp only [reduceCtorEq, iff_false, not_exists, not_and]
    intro k hk hka; exact absurd (hka ▸ hk) h

/-- A row of the join exists exactly when one side has the key. -/
theorem join_iff {p q : Prop} [Decidable p] [Decidable q] {x y : Int} {v : Option Int × Option Int} :
    (((if p then some x else none).isSome ∨ (if q then some y else none).isSome) ∧
      v = (if p then some x else none, if q then some y else none)) ↔
    (if p ∨ q then some (if p then some x else none, if q then some y else none) else none) =
      some v := by
  by_cases hp : p <;> by_cases hq : q <;> simp [hp, hq, eq_comm]

/-- The total of a key without rows is `agg []`. -/
theorem groupBy_lookup_getD (h0 : agg [] = 0) (a : String) :
    ((groupBy key agg rows).lookup a).getD 0 = agg (rows.filter fun r => key r = a) := by
  rw [lookup_eq_of_mem_iff mem_groupBy]
  split_ifs with h
  · rfl
  · rw [List.filter_eq_nil_iff.2 fun r hr hk => h (List.mem_map.2 ⟨r, hr, of_decide_eq_true hk⟩), h0]
    rfl

theorem mem_fullJoin {credit debit : List (String × Int)} {Fc Fd : String → Option Int}
    (hc : ∀ a v, (a, v) ∈ credit ↔ Fc a = some v) (hd : ∀ a v, (a, v) ∈ debit ↔ Fd a = some v)
    (a : String) (v : Option Int × Option Int) :
    (a, v) ∈ fullJoin credit debit ↔ ((Fc a).isSome ∨ (Fd a).isSome) ∧ v = (Fc a, Fd a) := by
  simp only [fullJoin, List.mem_append, List.mem_map, List.mem_filter, Prod.mk.injEq,
    lookup_eq_of_mem_iff hc, lookup_eq_of_mem_iff hd]
  constructor
  · rintro (⟨⟨k, w⟩, hk, rfl, rfl⟩ | ⟨⟨k, w⟩, ⟨hk, hnone⟩, rfl, rfl⟩)
    · simp [(hc k w).1 hk]
    · simp only [Option.isNone_iff_eq_none] at hnone
      simp [(hd k w).1 hk, hnone]
  · rintro ⟨hs, rfl⟩
    cases h1 : Fc a with
    | some w => exact .inl ⟨(a, w), (hc a w).2 h1, rfl, rfl⟩
    | none =>
      obtain ⟨w, h2⟩ := Option.isSome_iff_exists.1 (hs.resolve_left (by simp [h1]))
      exact .inr ⟨(a, w), ⟨(hd a w).2 h2, by simp [h1]⟩, rfl, by simp [h2]⟩

end Join

/-! ## The per-asset query -/

section Assets

variable {α : Type} (env : Env) (t : Table α) (sender recipient : α → Option String)
  (asset : α → String) (agg : Table α → Int) (A : String)

/-- Every row of the `transfers` table names the address as recipient or sender. -/
theorem mem_transfers_keys (a : String) :
    a ∈ (transfersOf t sender recipient A).map (asset ·.cols) ↔
      a ∈ ((transfersOf t sender recipient A).filter fun r => recipient r.cols == some A).map
          (asset ·.cols) ∨
        a ∈ ((transfersOf t sender recipient A).filter fun r => sender r.cols == some A).map
          (asset ·.cols) := by
  simp only [List.mem_map, List.mem_filter, transfersOf, Bool.and_eq_true, Bool.or_eq_true]
  constructor
  · rintro ⟨r, ⟨hr, hc, hs | hrc⟩, rfl⟩
    · exact .inr ⟨r, ⟨⟨hr, hc, .inl hs⟩, hs⟩, rfl⟩
    · exact .inl ⟨r, ⟨⟨hr, hc, .inr hrc⟩, hrc⟩, rfl⟩
  · rintro (⟨r, ⟨h, -⟩, rfl⟩ | ⟨r, ⟨h, -⟩, rfl⟩) <;> exact ⟨r, h, rfl⟩

/-- **The `Map` of the per-asset query.** An asset has an entry exactly when a canonical event
of it names the address, and its totals are the `GROUP BY` totals received and sent. -/
theorem assetTotals_lookup (a : String) :
    (assetTotals env t sender recipient asset agg A).lookup a =
      if a ∈ (transfersOf t sender recipient A).map (asset ·.cols) then
        some ((groupBy (asset ·.cols) agg ((transfersOf t sender recipient A).filter
            fun r => recipient r.cols == some A)).lookup a,
          (groupBy (asset ·.cols) agg ((transfersOf t sender recipient A).filter
            fun r => sender r.cols == some A)).lookup a)
      else none := by
  apply lookup_eq_of_mem_iff
  intro a v
  rw [assetTotals, mem_sqlOrderBy, mem_fullJoin mem_groupBy mem_groupBy]
  simp only [lookup_eq_of_mem_iff mem_groupBy, mem_transfers_keys]
  exact join_iff

theorem groupBy_keys {key : α → String} {agg : List α → Int} (rows : List α) :
    (groupBy key agg rows).map Prod.fst = (rows.map key).dedup := by
  simp [groupBy, Function.comp_def]

/-- The joined rows name distinct assets, so the `Map` built from them has one entry per row. -/
theorem assetTotals_keys_nodup :
    ((assetTotals env t sender recipient asset agg A).map Prod.fst).Nodup := by
  rw [assetTotals, ((sqlOrderBy_perm _ _).map Prod.fst).nodup_iff]
  simp only [fullJoin, List.map_append, List.map_map]
  set credit := groupBy (asset ·.cols) agg
    ((transfersOf t sender recipient A).filter fun r => recipient r.cols == some A)
  set debit := groupBy (asset ·.cols) agg
    ((transfersOf t sender recipient A).filter fun r => sender r.cols == some A)
  have hc : (credit.map Prod.fst).Nodup := by rw [groupBy_keys]; exact List.nodup_dedup _
  have hd : ((debit.filter fun d => (credit.lookup d.1).isNone).map Prod.fst).Nodup :=
    ((List.filter_sublist _).map _).nodup (by rw [groupBy_keys]; exact List.nodup_dedup _)
  refine List.nodup_append.2 ⟨by simpa [Function.comp_def] using hc,
    by simpa [Function.comp_def] using hd, fun k hk hk' => ?_⟩
  obtain ⟨c, hc', rfl⟩ := List.mem_map.1 hk
  obtain ⟨d, hd', hdk⟩ := List.mem_map.1 hk'
  have hnone := (List.mem_filter.1 hd').2
  simp only [Function.comp_apply] at hdk
  rw [hdk, Option.isNone_iff_eq_none, List.lookup_eq_none_iff] at hnone
  simpa using hnone c hc'

end Assets

/-! ## Flags read as the canonical chain -/

section Chain

variable {α : Type} {bs : List BlockQueryResult} {T : BlockQueryResult} {t : Table α}
  (sender recipient : α → Option String) (A : String)

/-- With the flags those of the chain of `T`, the canonical rows the address appears in that `q`
selects are the rows on the chain that `q` selects. -/
theorem filter_transfersOf (hc : ∀ r ∈ t, r.canonical = decide (r.index_block_hash ∈ hashes (chain bs T)))
    (q : α → Bool) (hq : ∀ c, q c = true → (sender c == some A || recipient c == some A) = true) :
    (transfersOf t sender recipient A).filter (fun r => q r.cols) = chainRows bs T t q := by
  simp only [transfersOf, chainRows, List.filter_filter]
  refine List.filter_congr fun r hr => ?_
  rw [hc r hr]
  cases hqr : q r.cols
  · simp
  · simp [hq _ hqr]

theorem transfersOf_eq_chainRows (hc : ∀ r ∈ t, r.canonical = decide (r.index_block_hash ∈ hashes (chain bs T))) :
    transfersOf t sender recipient A =
      chainRows bs T t fun c => sender c == some A || recipient c == some A := by
  rw [← filter_transfersOf sender recipient A hc _ fun _ h => h, List.filter_eq_self.2]
  intro r hr
  simp only [transfersOf, List.mem_filter, Bool.and_eq_true] at hr
  exact hr.2.2

/-- The per-asset query on a store whose flags are those of the chain of `T`: an asset has an
entry exactly when an event of it on the chain names the address, and its totals are `agg` of
the events on the chain it received and sent. -/
theorem assetTotals_lookup_chain (env : Env) (asset : α → String) (agg : Table α → Int)
    (hc : ∀ r ∈ t, r.canonical = decide (r.index_block_hash ∈ hashes (chain bs T)))
    (h0 : agg [] = 0) (a : String) :
    ((assetTotals env t sender recipient asset agg A).lookup a).map
        (fun p => (p.1.getD 0, p.2.getD 0)) =
      if a ∈ (chainRows bs T t fun c => sender c == some A || recipient c == some A).map
          (asset ·.cols) then
        some (agg (chainRows bs T t fun c => decide (asset c = a) && recipient c == some A),
          agg (chainRows bs T t fun c => decide (asset c = a) && sender c == some A))
      else none := by
  rw [assetTotals_lookup, ← transfersOf_eq_chainRows sender recipient A hc]
  split_ifs
  · simp only [Option.map_some', groupBy_lookup_getD h0, List.filter_filter]
    rw [filter_transfersOf sender recipient A hc
        (fun c => decide (asset c = a) && recipient c == some A) fun _ h => by simp_all,
      filter_transfersOf sender recipient A hc
        (fun c => decide (asset c = a) && sender c == some A) fun _ h => by simp_all]
  · rfl

end Chain

/-! ## The balances of a reachable store -/

section Reachable

variable {env : Env} {S : Store} {T : BlockQueryResult}
  (hn : (S.blocks.map (·.index_block_hash)).Nodup) (hT : CanonicalChain S.blocks T)
include hn hT

theorem getStxBalance_chainSum (ha : S.stx_events.Agrees S.blocks) (A : String) :
    getStxBalance S A =
      { balance := chainSum S.blocks T S.stx_events (·.recipient == some A) (·.amount) -
          chainSum S.blocks T S.stx_events (·.sender == some A) (·.amount)
        totalSent := chainSum S.blocks T S.stx_events (·.sender == some A) (·.amount)
        totalReceived := chainSum S.blocks T S.stx_events (·.recipient == some A) (·.amount) } := by
  have hc := canonical_eq_onChain hn hT ha
  simp only [getStxBalance, Balance.ofTotals, sqlSum_getD, chainSum,
    filter_transfersOf (·.sender) (·.recipient) A hc (fun c => c.recipient == some A)
      fun _ h => by simp [h],
    filter_transfersOf (·.sender) (·.recipient) A hc (fun c => c.sender == some A)
      fun _ h => by simp [h]]

theorem getFungibleTokenBalances_lookup (ha : S.ft_events.Agrees S.blocks) (A a : String) :
    (getFungibleTokenBalances env S A).lookup a =
      if a ∈ (chainRows S.blocks T S.ft_events fun c => c.sender == some A || c.recipient == some A).map
          (·.cols.asset_identifier) then
        some
          { balance :=
              chainSum S.blocks T S.ft_events (fun c => c.asset_identifier == a && c.recipient == some A)
                (·.amount) -
              chainSum S.blocks T S.ft_events (fun c => c.asset_identifier == a && c.sender == some A)
                (·.amount)
            totalSent :=
              chainSum S.blocks T S.ft_events (fun c => c.asset_identifier == a && c.sender == some A)
                (·.amount)
            totalReceived :=
              chainSum S.blocks T S.ft_events (fun c => c.asset_identifier == a && c.recipient == some A)
                (·.amount) }
      else none := by
  have h := assetTotals_lookup_chain (·.sender) (·.recipient) A env (·.asset_identifier)
    (fun rs => (rs.map (·.cols.amount)).sum) (canonical_eq_onChain hn hT ha) rfl a
  rw [getFungibleTokenBalances,
    lookup_map_snd (fun p : Option Int × Option Int => Balance.ofTotals p.1 p.2),
    show (fun p : Option Int × Option Int => Balance.ofTotals p.1 p.2) =
      (fun q : Int × Int => (⟨q.1 - q.2, q.2, q.1⟩ : Balance)) ∘ fun p => (p.1.getD 0, p.2.getD 0)
      from rfl, ← Option.map_map, h]
  split_ifs <;> rfl

theorem getNonFungibleTokenCounts_lookup (ha : S.nft_events.Agrees S.blocks) (A a : String) :
    (getNonFungibleTokenCounts env S A).lookup a =
      if a ∈ (chainRows S.blocks T S.nft_events fun c => c.sender == some A || c.recipient == some A).map
          (·.cols.asset_identifier) then
        some
          { count :=
              ((chainRows S.blocks T S.nft_events fun c =>
                c.asset_identifier == a && c.recipient == some A).length : Int) -
              (chainRows S.blocks T S.nft_events fun c =>
                c.asset_identifier == a && c.sender == some A).length
            totalSent := (chainRows S.blocks T S.nft_events fun c =>
              c.asset_identifier == a && c.sender == some A).length
            totalReceived := (chainRows S.blocks T S.nft_events fun c =>
              c.asset_identifier == a && c.recipient == some A).length }
      else none := by
  have h := assetTotals_lookup_chain (·.sender) (·.recipient) A env (·.asset_identifier)
    (fun rs => (rs.length : Int)) (canonical_eq_onChain hn hT ha) rfl a
  rw [getNonFungibleTokenCounts,
    lookup_map_snd (fun p : Option Int × Option Int => TokenCount.ofTotals p.1 p.2),
    show (fun p : Option Int × Option Int => TokenCount.ofTotals p.1 p.2) =
      (fun q : Int × Int => (⟨q.1 - q.2, q.2, q.1⟩ : TokenCount)) ∘ fun p => (p.1.getD 0, p.2.getD 0)
      from rfl, ← Option.map_map, h]
  split_ifs <;> rfl

end Reachable

/-- **Balances read the canonical chain.** In every reachable store whose canonical blocks are
the chain of `T`, `getStxBalance` returns the sums of the amounts of the STX events of the blocks
on that chain received and sent by the address, and their difference. `getFungibleTokenBalances`
has an entry for an asset exactly when an FT event of it on the chain names the address, with the
sums of those received and sent; `getNonFungibleTokenCounts` likewise, with the numbers of NFT
events. -/
theorem balances_on_canonical_chain {env : Env} {S : Store} {T : BlockQueryResult}
    (hS : Reachable env S) (hT : CanonicalChain S.blocks T) (A : String) :
    getStxBalance S A =
      { balance := chainSum S.blocks T S.stx_events (·.recipient == some A) (·.amount) -
          chainSum S.blocks T S.stx_events (·.sender == some A) (·.amount)
        totalSent := chainSum S.blocks T S.stx_events (·.sender == some A) (·.amount)
        totalReceived := chainSum S.blocks T S.stx_events (·.recipient == some A) (·.amount) } ∧
    (∀ a, (getFungibleTokenBalances env S A).lookup a =
      if a ∈ (chainRows S.blocks T S.ft_events fun c => c.sender == some A || c.recipient == some A).map
          (·.cols.asset_identifier) then
        some
          { balance :=
              chainSum S.blocks T S.ft_events (fun c => c.asset_identifier == a && c.recipient == some A)
                (·.amount) -
              chainSum S.blocks T S.ft_events (fun c => c.asset_identifier == a && c.sender == some A)
                (·.amount)
            totalSent :=
              chainSum S.blocks T S.ft_events (fun c => c.asset_identifier == a && c.sender == some A)
                (·.amount)
            totalReceived :=
              chainSum S.blocks T S.ft_events (fun c => c.asset_identifier == a && c.recipient == some A)
                (·.amount) }
      else none) ∧
    (∀ a, (getNonFungibleTokenCounts env S A).lookup a =
      if a ∈ (chainRows S.blocks T S.nft_events fun c => c.sender == some A || c.recipient == some A).map
          (·.cols.asset_identifier) then
        some
          { count :=
              ((chainRows S.blocks T S.nft_events fun c =>
                c.asset_identifier == a && c.recipient == some A).length : Int) -
              (chainRows S.blocks T S.nft_events fun c =>
                c.asset_identifier == a && c.sender == some A).length
            totalSent := (chainRows S.blocks T S.nft_events fun c =>
              c.asset_identifier == a && c.sender == some A).length
            totalReceived := (chainRows S.blocks T S.nft_events fun c =>
              c.asset_identifier == a && c.recipient == some A).length }
      else none) := by
  have hi := hS.inv
  obtain ⟨-, hstx, hft, hnft, -, -⟩ := hi.agrees
  exact ⟨getStxBalance_chainSum hi.shaped.nodup hT hstx A,
    getFungibleTokenBalances_lookup hi.shaped.nodup hT hft A,
    getNonFungibleTokenCounts_lookup hi.shaped.nodup hT hnft A⟩

/-- In the transfer store the canonical blocks are the chain of `0x02`. -/
theorem transferStore_canonicalChain :
    CanonicalChain transferStore.blocks (transferBatch.block.row Env.plain) :=
  ⟨by decide, by decide, by decide, by decide⟩

/-- The recipient of the sample transfer holds its 10 STX. -/
theorem transfer_stx_balance : getStxBalance transferStore "SP2" = ⟨10, 0, 10⟩ :=
  (balances_on_canonical_chain transferStore_reachable
    transferStore_canonicalChain "SP2").1.trans (by decide)

end Sidecar.Query
