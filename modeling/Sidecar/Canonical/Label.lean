import Sidecar.Canonical.Chain
import Mathlib.Logic.Function.Basic

/-!
# Canonical flags as a function of `index_block_hash`

Every statement of the reorg writes `canonical` and nothing else, and always for all rows that
share an `index_block_hash`. So the stores it passes through are `S.relabel g`: the rows of `S`,
each with `canonical := g index_block_hash`. This module gives each reorg statement of
`postgres-store.ts` its effect on such a store:

* `markCanonical_label`, `markEntitiesCanonical_relabel`: `markEntitiesCanonical h c` turns `g`
  into `Function.update g h c` on the six entity tables;
* `restoreBlock_label`: the first `UPDATE` of `restoreOrphanedChain` sets `Y` canonical and
  returns exactly `Y`, when `Y` is stored and orphaned;
* `orphanBlocks_label`, `orphanBlocks_label_none`: the second `UPDATE` orphans the one other
  canonical block at the height, or nothing when there is none;
* `orphanedParents_label`: the parent `SELECT` returns the parent, if it is orphaned.

`Store.Agrees` says that every entity row has the flag of the stored block whose
`index_block_hash` it carries; with unique hashes it makes a store equal to its own relabelling
by `canonicalHashes` (`relabel_canonicalHashes`).
-/

namespace Sidecar.Datastore

/-- The block with `canonical` read off `g` at its `index_block_hash`. -/
def BlockQueryResult.label (g : Buffer → Bool) (b : BlockQueryResult) : BlockQueryResult :=
  { b with canonical := g b.index_block_hash }

/-- The entity row with `canonical` read off `g` at its `index_block_hash`. -/
def Row.label {α : Type} (g : Buffer → Bool) (r : Row α) : Row α :=
  { r with canonical := g r.index_block_hash }

/-- Every row of the store, blocks and entities, with `canonical` read off `g`. -/
def Store.relabel (g : Buffer → Bool) (S : Store) : Store :=
  ⟨S.blocks.map (·.label g), S.txs.map (·.label g), S.stx_events.map (·.label g),
    S.ft_events.map (·.label g), S.nft_events.map (·.label g), S.contract_logs.map (·.label g),
    S.smart_contracts.map (·.label g)⟩

/-- Every row of the table has the flag of the stored block carrying its `index_block_hash`. -/
def Table.Agrees {α : Type} (bs : List BlockQueryResult) (t : Table α) : Prop :=
  ∀ r ∈ t, ∃ b ∈ bs, b.index_block_hash = r.index_block_hash ∧ b.canonical = r.canonical

/-- The six entity tables agree with `blocks`. -/
def Store.Agrees (S : Store) : Prop :=
  S.txs.Agrees S.blocks ∧ S.stx_events.Agrees S.blocks ∧ S.ft_events.Agrees S.blocks ∧
    S.nft_events.Agrees S.blocks ∧ S.contract_logs.Agrees S.blocks ∧
    S.smart_contracts.Agrees S.blocks

/-- A store of blocks alone agrees with them. -/
theorem Store.agrees_of_blocks (bs : List BlockQueryResult) :
    Store.Agrees ⟨bs, [], [], [], [], [], []⟩ :=
  have h : ∀ {α : Type}, Table.Agrees bs ([] : Table α) := fun _ h => absurd h (List.not_mem_nil _)
  ⟨h, h, h, h, h, h⟩

@[simp] theorem BlockQueryResult.label_height (g : Buffer → Bool) (b : BlockQueryResult) :
    (b.label g).block_height = b.block_height := rfl

@[simp] theorem BlockQueryResult.label_hash (g : Buffer → Bool) (b : BlockQueryResult) :
    (b.label g).index_block_hash = b.index_block_hash := rfl

@[simp] theorem BlockQueryResult.label_parent (g : Buffer → Bool) (b : BlockQueryResult) :
    (b.label g).parent_index_block_hash = b.parent_index_block_hash := rfl

@[simp] theorem BlockQueryResult.label_canonical (g : Buffer → Bool) (b : BlockQueryResult) :
    (b.label g).canonical = g b.index_block_hash := rfl

@[simp] theorem Store.relabel_blocks (g : Buffer → Bool) (S : Store) :
    (S.relabel g).blocks = S.blocks.map (·.label g) := rfl

@[simp] theorem Store.relabel_relabel (g g' : Buffer → Bool) (S : Store) :
    (S.relabel g).relabel g' = S.relabel g' := by
  simp [Store.relabel, BlockQueryResult.label, Row.label, Function.comp_def]

end Sidecar.Datastore

namespace Sidecar.Canonical

open Sidecar.Datastore

/-- The `index_block_hash`es of the canonical blocks. -/
def canonicalHashes (S : Store) (h : Buffer) : Bool :=
  S.blocks.any fun b => b.index_block_hash == h && b.canonical

/-- The hashes of a list of blocks. -/
def hashes (l : List BlockQueryResult) : List Buffer :=
  l.map (·.index_block_hash)

@[simp] theorem hashes_nil : hashes [] = [] := rfl

@[simp] theorem hashes_cons (b : BlockQueryResult) (l : List BlockQueryResult) :
    hashes (b :: l) = b.index_block_hash :: hashes l := rfl

@[simp] theorem hashes_append (l l' : List BlockQueryResult) :
    hashes (l ++ l') = hashes l ++ hashes l' :=
  List.map_append _ _ _

/-- Under unique hashes, a stored block's hash is among a list's hashes when the block is. -/
theorem hash_mem_hashes_iff {bs : List BlockQueryResult} (hn : (bs.map (·.index_block_hash)).Nodup)
    {l : List BlockQueryResult} (hl : ∀ c ∈ l, c ∈ bs) {b : BlockQueryResult} (hb : b ∈ bs) :
    b.index_block_hash ∈ hashes l ↔ b ∈ l := by
  refine ⟨fun h => ?_, fun h => List.mem_map_of_mem _ h⟩
  obtain ⟨c, hc, hcb⟩ := List.mem_map.1 h
  rwa [← eq_of_hash_eq hn (hl c hc) hb hcb]

/-- Relabelled blocks have the chains of the originals. -/
theorem chain_label {bs : List BlockQueryResult} (g : Buffer → Bool) (Y : BlockQueryResult) :
    chain (bs.map (·.label g)) (Y.label g) = (chain bs Y).map (·.label g) :=
  chain_map (f := BlockQueryResult.label g) (fun _ => rfl) (fun _ => rfl) (fun _ => rfl) Y

/-! ## The statements on a relabelled store -/

section Statements

variable {bs : List BlockQueryResult}

/-- Under unique hashes, the rows a predicate selects, all with one stored block's hash, are
that block. -/
theorem filter_eq_singleton (hn : (bs.map (·.index_block_hash)).Nodup) {Y : BlockQueryResult}
    (hY : Y ∈ bs) {p : BlockQueryResult → Bool}
    (hp : ∀ b ∈ bs, p b = true → b.index_block_hash = Y.index_block_hash) (hpY : p Y = true) :
    bs.filter p = [Y] := by
  have hrep : bs.filter p = List.replicate (bs.filter p).length Y :=
    List.eq_replicate_iff.2 ⟨rfl, fun b hb => by
      rw [List.mem_filter] at hb
      exact eq_of_hash_eq hn hb.1 hY (hp b hb.1 hb.2)⟩
  have h1 : (bs.filter p).length ≤ 1 :=
    List.nodup_replicate.1 (hrep ▸ ((List.Nodup.of_map _ hn).filter p))
  have h2 : 0 < (bs.filter p).length := List.length_pos_of_mem (List.mem_filter.2 ⟨hY, hpY⟩)
  rw [hrep, show (bs.filter p).length = 1 by omega]; rfl

theorem restoreBlock_label (hn : (bs.map (·.index_block_hash)).Nodup) {Y : BlockQueryResult}
    (hY : Y ∈ bs) {g : Buffer → Bool} (hg : g Y.index_block_hash = false) :
    restoreBlock (bs.map (·.label g)) Y.index_block_hash =
      (bs.map (·.label (Function.update g Y.index_block_hash true)),
        [Y.label (Function.update g Y.index_block_hash true)]) := by
  simp only [restoreBlock, sqlUpdate, List.map_map, List.filter_map]
  congr 1
  · refine List.map_congr_left fun b _ => ?_
    simp only [Function.comp_apply, BlockQueryResult.label]
    by_cases hb : b.index_block_hash = Y.index_block_hash
    · rw [if_pos (by simp [hb, hg]), hb, Function.update_same]
    · rw [if_neg (by simp [hb]), Function.update_noteq hb]
  · rw [filter_eq_singleton hn hY (fun b _ h => by simp [BlockQueryResult.label] at h; exact h.1)
      (by simp [BlockQueryResult.label, hg])]
    simp [BlockQueryResult.label]

/-- The second `UPDATE`, with one other canonical block `Z` at the height: it orphans `Z`. -/
theorem orphanBlocks_label (hn : (bs.map (·.index_block_hash)).Nodup) {Y Z : BlockQueryResult}
    {k : Int} (hZ : Z ∈ bs) (hZk : Z.block_height = k) {g : Buffer → Bool}
    (hgZ : g Z.index_block_hash = true) (hZY : Z.index_block_hash ≠ Y.index_block_hash)
    (hk : ∀ b ∈ bs, b.block_height = k → g b.index_block_hash = true →
      b.index_block_hash = Y.index_block_hash ∨ b = Z) :
    orphanBlocks (bs.map (·.label g)) k Y.index_block_hash =
      (bs.map (·.label (Function.update g Z.index_block_hash false)),
        [Z.label (Function.update g Z.index_block_hash false)]) := by
  subst hZk
  have hsel : ∀ b ∈ bs, b.block_height = Z.block_height →
      b.index_block_hash ≠ Y.index_block_hash → g b.index_block_hash = true → b = Z :=
    fun b hb h1 h2 h3 => (hk b hb h1 h3).resolve_left h2
  simp only [orphanBlocks, sqlUpdate, List.map_map, List.filter_map]
  congr 1
  · refine List.map_congr_left fun b hb => ?_
    simp only [Function.comp_apply, BlockQueryResult.label]
    by_cases hbZ : b = Z
    · subst hbZ; rw [if_pos (by simp [hgZ, hZY]), Function.update_same]
    · have hne : b.index_block_hash ≠ Z.index_block_hash := fun h => hbZ (eq_of_hash_eq hn hb hZ h)
      rw [if_neg (by simpa using fun h1 h2 h3 => hbZ (hsel b hb h1 h2 h3)),
        Function.update_noteq hne]
  · rw [filter_eq_singleton hn hZ (fun b hb h => by
        simp [BlockQueryResult.label] at h; rw [hsel b hb h.1.1 h.1.2 h.2])
      (by simp [BlockQueryResult.label, hgZ, hZY])]
    simp [BlockQueryResult.label]

/-- The second `UPDATE` when no other block at the height is canonical: it changes nothing. -/
theorem orphanBlocks_label_none {Y : BlockQueryResult} {k : Int} {g : Buffer → Bool}
    (hk : ∀ b ∈ bs, b.block_height = k → g b.index_block_hash = true →
      b.index_block_hash = Y.index_block_hash) :
    orphanBlocks (bs.map (·.label g)) k Y.index_block_hash = (bs.map (·.label g), []) := by
  have hsel : ∀ b ∈ bs, ¬(b.block_height = k ∧ b.index_block_hash ≠ Y.index_block_hash ∧
      g b.index_block_hash = true) := fun b hb ⟨h1, h2, h3⟩ => h2 (hk b hb h1 h3)
  simp only [orphanBlocks, sqlUpdate, List.map_map, List.filter_map]
  congr 1
  · refine List.map_congr_left fun b hb => ?_
    simp only [Function.comp_apply, BlockQueryResult.label]
    rw [if_neg (by simpa [and_assoc] using hsel b hb)]
  · rw [List.filter_eq_nil_iff.2 fun b hb h => hsel b hb (by
      simpa [BlockQueryResult.label, and_assoc] using h)]
    rfl

/-- The parent `SELECT` finds the parent when it is orphaned, and nothing otherwise. -/
theorem orphanedParents_label (hn : (bs.map (·.index_block_hash)).Nodup) {g : Buffer → Bool}
    {k : Int} {h : Buffer} :
    orphanedParents (bs.map (·.label g)) k h =
      match blockAt bs k h with
      | none => []
      | some P => if g P.index_block_hash then [] else [P.label g] := by
  simp only [orphanedParents, List.filter_map]
  cases hP : blockAt bs k h with
  | none =>
    rw [List.filter_eq_nil_iff.2 fun b hb hsel => blockAt_eq_none.1 hP b hb (by
      simp [BlockQueryResult.label] at hsel; exact ⟨hsel.1.1, hsel.1.2⟩)]
    rfl
  | some P =>
    obtain ⟨hPm, rfl, rfl⟩ := blockAt_eq_some hP
    cases hg : g P.index_block_hash
    · rw [filter_eq_singleton hn hPm (fun b _ hsel => by
        simp [BlockQueryResult.label] at hsel; exact hsel.1.2) (by simp [BlockQueryResult.label, hg])]
      simp [hg]
    · rw [List.filter_eq_nil_iff.2 fun b hb hsel => by
        simp [BlockQueryResult.label] at hsel
        have := eq_of_hash_eq hn hb hPm hsel.1.2
        subst this; simp [hg] at hsel]
      simp [hg]

theorem markCanonical_label {α : Type} (t : Table α) (g : Buffer → Bool) (h : Buffer) (c : Bool) :
    (Table.markCanonical (t.map fun r : Row α => r.label g) h c).1 =
      t.map (fun r : Row α => r.label (Function.update g h c)) := by
  simp only [Table.markCanonical, sqlUpdate_fst, List.map_map]
  refine List.map_congr_left fun r _ => ?_
  by_cases hr : r.index_block_hash = h
  · subst hr
    cases hc : g r.index_block_hash <;> cases c <;> simp [Row.label, hc]
  · simp [Row.label, hr, Function.update_noteq hr]

/-- `markEntitiesCanonical h c` on a relabelled store relabels its entity tables by
`Function.update g h c`, and leaves `blocks` alone. -/
theorem markEntitiesCanonical_relabel (S : Store) (g : Buffer → Bool) (bs' : List BlockQueryResult)
    (h : Buffer) (c : Bool) (ue : UpdatedEntities) :
    (markEntitiesCanonical { S.relabel g with blocks := bs' } h c ue).1 =
      { S.relabel (Function.update g h c) with blocks := bs' } := by
  simp [markEntitiesCanonical, Store.relabel, markCanonical_label]

end Statements

/-! ## Agreement -/

section Agree

variable {S : Store}

theorem BlockQueryResult.label_self {g : Buffer → Bool} {b : BlockQueryResult}
    (h : g b.index_block_hash = b.canonical) : b.label g = b := by
  cases b; simp_all [BlockQueryResult.label]

theorem Row.label_self {α : Type} {g : Buffer → Bool} {r : Row α}
    (h : g r.index_block_hash = r.canonical) : r.label g = r := by
  cases r; simp_all [Row.label]

theorem canonicalHashes_eq (hn : (S.blocks.map (·.index_block_hash)).Nodup) {b : BlockQueryResult}
    (hb : b ∈ S.blocks) : canonicalHashes S b.index_block_hash = b.canonical := by
  cases hc : b.canonical
  · simp only [canonicalHashes, List.any_eq_false, Bool.and_eq_true, beq_iff_eq, not_and,
      Bool.not_eq_true]
    intro x hx hxb
    rw [eq_of_hash_eq hn hx hb hxb, hc]
  · exact List.any_eq_true.2 ⟨b, hb, by simp [hc]⟩

theorem label_canonicalHashes {α : Type} (hn : (S.blocks.map (·.index_block_hash)).Nodup)
    {t : Table α} (ht : t.Agrees S.blocks) : t.map (fun r : Row α => r.label (canonicalHashes S)) = t :=
  (List.map_congr_left (g := id) fun r hr => by
    obtain ⟨b, hb, hh, hc⟩ := ht r hr
    exact Row.label_self (by rw [← hh, canonicalHashes_eq hn hb, hc])).trans (List.map_id t)

theorem agrees_label {α : Type} {bs : List BlockQueryResult} {t : Table α} (ht : t.Agrees bs)
    (g : Buffer → Bool) : Table.Agrees (bs.map (·.label g)) (t.map (·.label g)) := by
  intro r hr
  obtain ⟨r0, hr0, rfl⟩ := List.mem_map.1 hr
  obtain ⟨b, hb, hh, -⟩ := ht r0 hr0
  exact ⟨b.label g, List.mem_map_of_mem _ hb, hh, by simp [Row.label, hh]⟩

/-- Relabelling keeps the entity rows agreeing with their blocks. -/
theorem agrees_relabel (ha : S.Agrees) (g : Buffer → Bool) : (S.relabel g).Agrees := by
  obtain ⟨h1, h2, h3, h4, h5, h6⟩ := ha
  exact ⟨agrees_label h1 g, agrees_label h2 g, agrees_label h3 g, agrees_label h4 g,
    agrees_label h5 g, agrees_label h6 g⟩

/-- A store whose entity rows agree with its blocks is its own relabelling by its canonical
hashes. -/
theorem relabel_canonicalHashes (hn : (S.blocks.map (·.index_block_hash)).Nodup)
    (ha : S.Agrees) : S.relabel (canonicalHashes S) = S := by
  obtain ⟨h1, h2, h3, h4, h5, h6⟩ := ha
  have hb : S.blocks.map (·.label (canonicalHashes S)) = S.blocks :=
    (List.map_congr_left (g := id) fun b hb =>
      BlockQueryResult.label_self (canonicalHashes_eq hn hb)).trans (List.map_id _)
  cases S
  simp only [Store.relabel] at *
  rw [hb, label_canonicalHashes hn h1, label_canonicalHashes hn h2, label_canonicalHashes hn h3,
    label_canonicalHashes hn h4, label_canonicalHashes hn h5, label_canonicalHashes hn h6]

end Agree

end Sidecar.Canonical
