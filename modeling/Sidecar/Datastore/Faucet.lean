import Sidecar.Datastore.Schema

/-!
# The faucet requests

Model of the `faucet_requests` statements of `PgDataStore` (`postgres-store.ts:171-176`,
`705-713`, `1340-1394`): `insertFaucetRequest` and the lookups `getBTCFaucetRequest` and
`getSTXFaucetRequest`, which differ only in the currency they select.

* The table is the list of its rows, `FaucetRequestQueryResult`. Its migration and the type
  `DbFaucetRequest` are not under `src/`: a request holds the four values `insertFaucetRequest`
  passes, each read back as the string `FaucetRequestQueryResult` declares, and `accepts` says
  which inserts the table's constraints take.
* `insertFaucetRequest` runs `BEGIN`, the `INSERT`, `COMMIT`; when a statement fails it runs
  `ROLLBACK` and rethrows, so the table is left as it was (`FaucetOutcome`).
* The lookups' `SELECT` has no `ORDER BY`, so `rows[0]` is whichever matching row the database
  returns first: `order` is that order, any permutation of the selected rows
  (`selectFaucetRequests`), and it may differ from one query to the next.

Results:
* `getFaucetRequest_eq_none_iff`, `getFaucetRequest_eq_some`: a lookup finds nothing exactly
  when no row has the address and the currency, and otherwise one of those rows, whatever the
  order;
* `insertFaucetRequest_found`: an insert either commits, after which the lookup of its currency
  finds a request for its address and every other lookup selects the rows it selected before, or
  is rejected and leaves the table as it was.
-/

namespace Sidecar.Datastore

/-- A `faucet_requests` row as `pg` returns it (`FaucetRequestQueryResult`). -/
structure FaucetRequestQueryResult where
  currency : String
  ip : String
  address : String
  occurred_at : String
  deriving DecidableEq, Repr

/-- `DbFaucetRequest`, with the values `insertFaucetRequest` writes. -/
structure DbFaucetRequest where
  currency : String
  address : String
  ip : String
  occurred_at : String
  deriving DecidableEq, Repr

/-- The row of the `INSERT … values($1, $2, $3, $4)`. -/
def DbFaucetRequest.row (faucetRequest : DbFaucetRequest) : FaucetRequestQueryResult where
  currency := faucetRequest.currency
  ip := faucetRequest.ip
  address := faucetRequest.address
  occurred_at := faucetRequest.occurred_at

/-- `parseFaucetRequestQueryResult`. -/
def parseFaucetRequestQueryResult (result : FaucetRequestQueryResult) : DbFaucetRequest where
  currency := result.currency
  address := result.address
  ip := result.ip
  occurred_at := result.occurred_at

/-- How an `insertFaucetRequest` call settled, and the table it leaves. -/
structure FaucetOutcome where
  result : Except DbError Unit
  table : List FaucetRequestQueryResult

section Faucet

variable (accepts : List FaucetRequestQueryResult → FaucetRequestQueryResult → Bool)
  (order : List FaucetRequestQueryResult → List FaucetRequestQueryResult)

/-- `insertFaucetRequest`: the `INSERT` in its own transaction, rolled back and rethrown when it
fails. -/
def insertFaucetRequest (table : List FaucetRequestQueryResult) (faucetRequest : DbFaucetRequest) :
    FaucetOutcome :=
  match sqlInsert accepts (fun _ _ => false) table faucetRequest.row with
  | .ok (table', _) => ⟨.ok (), table'⟩
  | .error error => ⟨.error error, table⟩

/-- The rows of the lookups' `WHERE address = $1 AND currency = '…'`. -/
def selectFaucetRequests (currency : String) (table : List FaucetRequestQueryResult)
    (address : String) : List FaucetRequestQueryResult :=
  table.filter fun r => r.address == address && r.currency == currency

/-- The lookup: `{ found: false }` as none, otherwise the first row returned, parsed. -/
def getFaucetRequest (currency : String) (table : List FaucetRequestQueryResult)
    (address : String) : Option DbFaucetRequest :=
  (order (selectFaucetRequests currency table address)).head?.map parseFaucetRequestQueryResult

/-- `getBTCFaucetRequest`. -/
def getBTCFaucetRequest : List FaucetRequestQueryResult → String → Option DbFaucetRequest :=
  getFaucetRequest order "btc"

/-- `getSTXFaucetRequest`. -/
def getSTXFaucetRequest : List FaucetRequestQueryResult → String → Option DbFaucetRequest :=
  getFaucetRequest order "stx"

variable {order} (hperm : ∀ rows, (order rows).Perm rows)
include hperm

theorem getFaucetRequest_eq_none_iff (currency : String) (table : List FaucetRequestQueryResult)
    (address : String) :
    getFaucetRequest order currency table address = none ↔
      ∀ r ∈ table, ¬(r.address = address ∧ r.currency = currency) := by
  rw [getFaucetRequest, Option.map_eq_none', List.head?_eq_none_iff, ← List.length_eq_zero,
    (hperm _).length_eq, List.length_eq_zero, selectFaucetRequests, List.filter_eq_nil_iff]
  simp only [Bool.and_eq_true, beq_iff_eq]

theorem getFaucetRequest_eq_some {currency : String} {table : List FaucetRequestQueryResult}
    {address : String} {found : DbFaucetRequest}
    (h : getFaucetRequest order currency table address = some found) :
    ∃ r ∈ table, r.address = address ∧ r.currency = currency ∧
      found = parseFaucetRequestQueryResult r := by
  obtain ⟨r, hr, rfl⟩ := Option.map_eq_some'.1 h
  have hm := (hperm _).subset (List.mem_of_mem_head? hr)
  simp only [selectFaucetRequests, List.mem_filter, Bool.and_eq_true, beq_iff_eq] at hm
  exact ⟨r, hm.1, hm.2.1, hm.2.2, rfl⟩

/-- **A faucet request, once recorded, is found.** Whatever order the database returns the rows
in, `insertFaucetRequest` either commits, after which the lookup of the request's currency finds
a request for its address, with that address and currency, and every lookup of another address
or currency selects the rows it selected before; or the `INSERT` is rejected, the error is
rethrown and the table is left as it was. -/
theorem insertFaucetRequest_found (table : List FaucetRequestQueryResult)
    (faucetRequest : DbFaucetRequest) :
    let outcome := insertFaucetRequest accepts table faucetRequest
    (outcome.result = .ok () ∧
      (∃ found, getFaucetRequest order faucetRequest.currency outcome.table faucetRequest.address =
          some found ∧ found.address = faucetRequest.address ∧
          found.currency = faucetRequest.currency) ∧
      ∀ currency address, (currency ≠ faucetRequest.currency ∨ address ≠ faucetRequest.address) →
        selectFaucetRequests currency outcome.table address =
          selectFaucetRequests currency table address) ∨
    (outcome.result = .error .constraint ∧ outcome.table = table) := by
  intro outcome
  cases h : sqlInsert accepts (fun _ _ => false) table faucetRequest.row with
  | error e =>
    have he : e = .constraint := by
      unfold sqlInsert at h
      split_ifs at h
      cases h
      rfl
    have ho : outcome = ⟨.error e, table⟩ := by simp only [outcome, insertFaucetRequest, h]
    exact .inr ⟨by rw [ho, he], by rw [ho]⟩
  | ok p =>
    obtain ⟨t', n⟩ := p
    have ho : outcome = ⟨.ok (), table ++ [faucetRequest.row]⟩ := by
      rcases sqlInsert_eq h with ⟨-, -, hc⟩ | ⟨-, rfl, -⟩
      · simp at hc
      · simp only [outcome, insertFaucetRequest, h]
    rw [ho]
    refine .inl ⟨rfl, ?_, fun currency address hne => ?_⟩
    · cases hg : getFaucetRequest order faucetRequest.currency (table ++ [faucetRequest.row])
          faucetRequest.address with
      | none =>
        exact absurd ((getFaucetRequest_eq_none_iff hperm _ _ _).1 hg _
          (List.mem_append_right _ (List.mem_singleton_self _))) (not_not.2 ⟨rfl, rfl⟩)
      | some found =>
        obtain ⟨r, -, hra, hrc, rfl⟩ := getFaucetRequest_eq_some hperm hg
        exact ⟨_, rfl, hra, hrc⟩
    · -- the new row is not selected by the other lookups
      have hrow : (faucetRequest.row.address == address &&
          faucetRequest.row.currency == currency) = false := by
        simp only [DbFaucetRequest.row, Bool.and_eq_false_iff, beq_eq_false_iff_ne]
        rcases hne with hc | ha
        · exact .inr fun e => hc e.symm
        · exact .inl fun e => ha e.symm
      simp only [selectFaucetRequests, List.filter_append, List.filter_cons, List.filter_nil, hrow,
        Bool.false_eq_true, if_false, List.append_nil]

end Faucet

theorem btc_request_found :
    (∀ rows : List FaucetRequestQueryResult, (id rows).Perm rows) ∧
      let outcome := insertFaucetRequest (fun _ _ => true) []
        ⟨"btc", "ST000000000000000000002AMW42H", "127.0.0.1", "1600000000000"⟩
      (outcome.result = .ok () ∧
        (∃ found, getFaucetRequest id "btc" outcome.table "ST000000000000000000002AMW42H" =
            some found ∧ found.address = "ST000000000000000000002AMW42H" ∧
            found.currency = "btc") ∧
        ∀ currency address, (currency ≠ "btc" ∨ address ≠ "ST000000000000000000002AMW42H") →
          selectFaucetRequests currency outcome.table address =
            selectFaucetRequests currency [] address) ∨
      (outcome.result = .error .constraint ∧ outcome.table = []) :=
  ⟨fun _ => .refl _, insertFaucetRequest_found (fun _ _ => true) (fun _ => .refl _) [] _⟩

end Sidecar.Datastore
