import Sidecar.Query.Balances

/-!
# The totals of the paged lists

`getBlocks` and `getTxList` (`postgres-store.ts:591-611`, `734-788`) count the rows their filter
selects in a query of their own, so their `total` does not depend on `limit` and `offset`.
`getAddressTxs` (`1311-1338`) reads its window `COUNT(*) OVER()` off the first row of the page,
and `getAddressAssetEvents` (`1121-1221`) returns the total `0`.

Results:
* `sqlPage_length`, `mem_of_mem_sqlPage`: what `LIMIT` and `OFFSET` keep;
* `getAddressTxs_total`: the total of `getAddressTxs` is the number of the address's canonical
  transactions when the page is not empty, that is when `offset` is below that number and
  `limit` is positive, and 0 otherwise;
* `address_totals_miss_rows`: in the transfer store the sender's transaction and STX event are
  counted 0 by `getAddressTxs` past the first page and by `getAddressAssetEvents`.
-/

namespace Sidecar.Query

open Sidecar.Datastore Sidecar.Canonical Sidecar.Update

section Page

variable {α : Type} (limit offset : Nat) (l : List α)

theorem sqlPage_length : (sqlPage limit offset l).length = min limit (l.length - offset) := by
  simp [sqlPage]

variable {limit offset l}

theorem mem_of_mem_sqlPage {x : α} (h : x ∈ sqlPage limit offset l) : x ∈ l :=
  List.mem_of_mem_drop (List.mem_of_mem_take h)

end Page

/-- The canonical transactions sent by or to the address: the rows `getAddressTxs` counts. -/
def addressTxRows (S : Store) (stxAddress : String) : Table TxColumns :=
  S.txs.filter fun r => r.canonical &&
    (r.cols.sender_address == stxAddress || r.cols.token_transfer_recipient_address == some stxAddress)

/-- **The total of `getAddressTxs`.** Whenever it returns, its total is the number of the
address's canonical transactions if the page holds a row, that is if `offset` is below that
number and `limit` is positive, and 0 otherwise. -/
theorem getAddressTxs_total {env : Env} {S : Store} {stxAddress : String} {limit offset : Nat}
    {r : QueryPage DbTx} (h : getAddressTxs env S stxAddress limit offset = .ok r) :
    r.total = if offset < (addressTxRows S stxAddress).length ∧ 0 < limit then
      (addressTxRows S stxAddress).length else 0 := by
  simp only [getAddressTxs, map_eq_ok] at h
  obtain ⟨parsed, -, rfl⟩ := h
  -- every row of the page carries the window count
  generalize hpage : sqlPage limit offset _ = page
  have hlen := congrArg List.length hpage
  have hcount : ∀ x ∈ page, x.2 = (addressTxRows S stxAddress).length := fun x hx => by
    rw [← hpage] at hx
    obtain ⟨y, -, rfl⟩ := List.mem_map.1 (mem_sqlOrderBy.1 (mem_of_mem_sqlPage hx))
    rfl
  rw [sqlPage_length, length_sqlOrderBy, List.length_map] at hlen
  cases page with
  | nil =>
    simp only [List.length_nil] at hlen
    rw [if_neg (by unfold addressTxRows at *; omega)]
  | cons x rest =>
    simp only [List.length_cons] at hlen
    rw [if_pos (by unfold addressTxRows at *; omega)]
    exact hcount x (List.mem_cons_self _ _)

theorem transfer_second_page_total :
    getAddressTxs Env.plain transferStore "SP1" 20 1 = .ok ⟨[], 0⟩ ∧
      (⟨[], 0⟩ : QueryPage DbTx).total =
        if 1 < (addressTxRows transferStore "SP1").length ∧ 0 < 20 then
          (addressTxRows transferStore "SP1").length else 0 :=
  have page : getAddressTxs Env.plain transferStore "SP1" 20 1 = .ok ⟨[], 0⟩ := rfl
  ⟨page, getAddressTxs_total page⟩

/-- In the transfer store, `SP1` sent one canonical transaction, with one STX event. Past the
first page `getAddressTxs` reports the total 0, and `getAddressAssetEvents` reports the total 0
beside the event it returns. -/
theorem address_totals_miss_rows :
    (addressTxRows transferStore "SP1").length = 1 ∧
    (getAddressTxs Env.plain transferStore "SP1" 20 1).map (·.total) = .ok 0 ∧
    (getAddressAssetEvents Env.plain transferStore "SP1" 20 0).results.length = 1 ∧
    (getAddressAssetEvents Env.plain transferStore "SP1" 20 0).total = 0 :=
  ⟨by decide, rfl, by decide, rfl⟩

end Sidecar.Query
