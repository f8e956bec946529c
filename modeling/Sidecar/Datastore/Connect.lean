import Sidecar.Async

/-!
# Connecting to PostgreSQL (`postgres-store.ts:52-95`, `483-533`)

Model of `runMigrations`, `cycleMigrations` and `PgDataStore.connect`: the calls they make on the
database, in order, and how their promises settle.

* A run is a `PgRun`, an `AsyncRun` whose effects are `client.connect()`, `client.end()`,
  `timeout(ms)`, `PgMigrate`, `pool.connect()` and `poolClient.release()`, and whose promise
  rejects with a `PgError`. How each database call settles is an input of the model, as is
  `NODE_ENV`.
* `try { … } catch (error) { logError(…); throw error; } finally { … }` is
  `AsyncRun.tryFinally`: the `catch` logs and rethrows, so it changes nothing.
* `connect`'s `do … while (initTimer.getElapsed() < 10000)` loop is `connectLoop`. An `Attempt`
  says how a pass's `client.connect()` settles and how many milliseconds the pass takes up to
  the `while` test: the `connect()` call, then `timeout(2000)` after a refused or dropped
  connection. The pass's `client.end(() => {})` is not awaited and its outcome is not read.
* The model bounds the passes by one per millisecond of the ten seconds (`outOfFuel` past it).
  `connectLoop_bound` shows that five passes are enough whenever `timeout(2000)` waits its
  2000 ms, and that more passes of the bound change nothing.

Results:
* `connectLoop_cases`: every pass before the last failed with a refused or dropped connection,
  and the last connected, failed otherwise, or failed that way past the ten seconds;
* `connectLoop_bound`: at most five passes when every wait lasts 2000 ms;
* `connect_spec`: `connect` rejects with the error of its last attempt unless that attempt
  connected, and only then migrates up and connects the pool; the fallback
  `Error connecting to database` is never thrown.
-/

namespace Sidecar.Datastore

/-! ## Runs against the database -/

/-- An error a promise rejects with: its `code`, if any, and its `message`. -/
structure PgError where
  code : Option String
  message : String
  deriving DecidableEq, Repr

/-- `'up' | 'down'`. -/
inductive MigrationDirection
  | up
  | down
  deriving DecidableEq, Repr

/-- What a run does on the database. -/
inductive PgEffect
  /-- `await client.connect()` of a new `Client`. -/
  | clientConnect
  /-- `client.end()`. -/
  | clientEnd
  /-- `await timeout(ms)`. -/
  | wait (ms : Nat)
  /-- `await PgMigrate(runnerOpts)` in the direction of `runnerOpts`. -/
  | migrate (direction : MigrationDirection)
  /-- `await pool.connect()`. -/
  | poolConnect
  /-- `poolClient.release()`. -/
  | release
  deriving DecidableEq, Repr

/-- A run against the database (`Sidecar.AsyncRun`). -/
abbrev PgRun : Type → Type := AsyncRun PgEffect PgError

open AsyncRun

/-! ## Migrations -/

/-- `isTestEnv` and `isDevEnv` of `helpers.ts`: `NODE_ENV` is `test`, or `development`. -/
structure NodeEnv where
  isTestEnv : Bool
  isDevEnv : Bool
  deriving DecidableEq, Repr

/-- How the calls of one `runMigrations` settle: its client's `connect()`, `PgMigrate`, and its
client's `end()`. -/
structure MigrationCalls where
  connect : Except PgError Unit
  migrate : Except PgError Unit
  «end» : Except PgError Unit
  deriving Repr

/-- The error `runMigrations` throws on a migration down outside tests and development. -/
def whoaThere : PgError :=
  ⟨none, "Whoa there! This is a testing function that will drop all data from PG. " ++
    "Set NODE_ENV to \"test\" or \"development\" to enable migration testing."⟩

/-- `runMigrations(clientConfig, direction)`. -/
def runMigrations (nodeEnv : NodeEnv) (calls : MigrationCalls) (direction : MigrationDirection) :
    PgRun Unit :=
  if direction != .up && !nodeEnv.isTestEnv && !nodeEnv.isDevEnv then throw whoaThere
  else
    tryFinally
      (do
        call .clientConnect calls.connect
        call (.migrate direction) calls.migrate)
      (call .clientEnd calls.end)

/-- `cycleMigrations()`: down, then up, each with its own client. -/
def cycleMigrations (nodeEnv : NodeEnv) (down up : MigrationCalls) : PgRun Unit := do
  runMigrations nodeEnv down .down
  runMigrations nodeEnv up .up

/-! ## `connect` -/

/-- One pass of `connect`'s loop: how its `client.connect()` settles, and the milliseconds the
pass takes up to the `while` test, as `connect()` and, after a refused or dropped connection,
`timeout(2000)`. -/
structure Attempt where
  connect : Except PgError Unit
  connectTime : Nat
  waitTime : Nat
  deriving Repr

/-- How `connect`'s loop ended. -/
inductive LoopEnd
  /-- `connectionOkay = true; break;`. -/
  | connected
  /-- An error other than a refused or dropped connection, rethrown from the `catch`. -/
  | thrown (error : PgError)
  /-- The `while` test failed, with `connectionError` as the loop left it. -/
  | timedOut (connectionError : Option PgError)
  /-- The model's bound on the passes. -/
  | outOfFuel
  deriving DecidableEq, Repr

/-- The loop of `connect` from pass `i`, `elapsed` milliseconds after `stopwatch()`, with at most
`fuel` passes: the number of passes made, and how the loop ended. A pass that reaches the `while`
test has just set `connectionError`, so the value it had before is never read. -/
def connectLoop (attempts : Nat → Attempt) : Nat → Nat → Nat → Nat × LoopEnd
  | 0, i, _ => (i, .outOfFuel)
  | fuel + 1, i, elapsed =>
    match (attempts i).connect with
    | .ok _ => (i + 1, .connected)
    | .error error =>
      if error.code != some "ECONNREFUSED" &&
          error.message != "Connection terminated unexpectedly" then (i + 1, .thrown error)
      else
        let connectionError := some error
        let elapsed := elapsed + (attempts i).connectTime + (attempts i).waitTime
        if elapsed < 10000 then connectLoop attempts fuel (i + 1) elapsed
        else (i + 1, .timedOut connectionError)

/-- What a pass does on the database: its `client.connect()`, the wait after a refused or
dropped connection, and its `client.end()`. -/
def Attempt.effects (a : Attempt) : List PgEffect :=
  .clientConnect :: (match a.connect with
    | .error error =>
      if error.code != some "ECONNREFUSED" &&
          error.message != "Connection terminated unexpectedly" then []
      else [.wait 2000]
    | .ok _ => []) ++ [.clientEnd]

/-- The error `connect` throws when the loop left no `connectionError`. -/
def connectionFallback : PgError := ⟨none, "Error connecting to database"⟩

/-- The model's bound on the passes of the loop, never reached when every wait lasts its
2000 ms (`connectLoop_bound`). -/
def connectBound : PgError := ⟨none, "the model's bound on the passes of connect"⟩

/-- The model's bound on the passes of `connect`'s loop: one per millisecond of the ten
seconds. -/
def connectFuel : Nat := 10000

/-- The `try { poolClient = await pool.connect(); … } finally { poolClient?.release(); }` of
`connect`. -/
def connectPool (pool : Except PgError Unit) : PgRun Unit :=
  match pool with
  | .ok _ => ⟨[.poolConnect, .release], .ok ()⟩
  | .error e => ⟨[.poolConnect], .error e⟩

/-- `PgDataStore.connect()`: the loop, then `runMigrations(clientConfig)`, then the pool. -/
def connect (nodeEnv : NodeEnv) (attempts : Nat → Attempt) (migration : MigrationCalls)
    (pool : Except PgError Unit) : PgRun Unit := do
  let loop := connectLoop attempts connectFuel 0 0
  (⟨(List.range loop.1).flatMap fun i => (attempts i).effects, .ok ()⟩ : PgRun Unit)
  match loop.2 with
  | .thrown error => throw error
  | .timedOut connectionError => throw (connectionError.getD connectionFallback)
  | .outOfFuel => throw connectBound
  | .connected =>
    runMigrations nodeEnv migration .up
    connectPool pool

/-! ## The loop -/

/-- A refused or dropped connection: the errors the loop retries on. -/
def PgError.retried (e : PgError) : Bool :=
  e.code == some "ECONNREFUSED" || e.message == "Connection terminated unexpectedly"

theorem PgError.not_retried (e : PgError) :
    (e.code != some "ECONNREFUSED" && e.message != "Connection terminated unexpectedly") =
      !e.retried := by
  simp [PgError.retried, bne, Bool.not_or]

/-- How the last pass ends the loop. -/
def Attempt.Ends (a : Attempt) : LoopEnd → Prop
  | .connected => a.connect = .ok ()
  | .thrown e => a.connect = .error e ∧ e.retried = false
  | .timedOut connectionError => ∃ e, a.connect = .error e ∧ e.retried = true ∧
      connectionError = some e
  | .outOfFuel => False

section Loop

variable (attempts : Nat → Attempt)

/-- **One run of the loop.** Unless the bound stops it, the loop makes passes `i, …, n - 1`: each
but the last failed with a refused or dropped connection, and the last connected, failed
otherwise, or failed that way with the ten seconds spent. -/
theorem connectLoop_cases : ∀ (fuel i elapsed : Nat),
    (connectLoop attempts fuel i elapsed).2 = .outOfFuel ∨
    (i < (connectLoop attempts fuel i elapsed).1 ∧
      (∀ j, i ≤ j → j + 1 < (connectLoop attempts fuel i elapsed).1 →
        ∃ e, (attempts j).connect = .error e ∧ e.retried = true) ∧
      (attempts ((connectLoop attempts fuel i elapsed).1 - 1)).Ends
        (connectLoop attempts fuel i elapsed).2)
  | 0, _, _ => .inl rfl
  | fuel + 1, i, elapsed => by
    unfold connectLoop
    cases hc : (attempts i).connect with
    | ok u => exact .inr ⟨Nat.lt_succ_self i, fun j hj hj' => by simp at hj'; omega, hc⟩
    | error e =>
      cases hr : e.retried <;>
        simp only [hr, PgError.not_retried, Bool.not_false, Bool.not_true, Bool.false_eq_true,
          ↓reduceIte]
      · exact .inr ⟨Nat.lt_succ_self i, fun j hj hj' => by omega, hc, hr⟩
      · split
        · rcases connectLoop_cases fuel (i + 1) _ with h | ⟨hlt, hbefore, hend⟩
          · exact .inl h
          · refine .inr ⟨by omega, fun j hj hj' => ?_, hend⟩
            rcases Nat.eq_or_lt_of_le hj with rfl | hj
            · exact ⟨e, hc, hr⟩
            · exact hbefore j hj hj'
        · exact .inr ⟨Nat.lt_succ_self i, fun j hj hj' => by omega, e, hc, hr, rfl⟩

/-- More passes allowed change nothing once the loop ends within the bound. -/
theorem connectLoop_add_fuel : ∀ (fuel k i elapsed : Nat),
    (connectLoop attempts fuel i elapsed).2 ≠ .outOfFuel →
    connectLoop attempts (fuel + k) i elapsed = connectLoop attempts fuel i elapsed
  | 0, _, _, _, h => absurd rfl h
  | fuel + 1, k, i, elapsed, h => by
    rw [Nat.add_right_comm]
    unfold connectLoop at h ⊢
    cases hc : (attempts i).connect with
    | ok u => rfl
    | error e =>
      simp only [hc] at h ⊢
      split
      · rfl
      · split
        · rename_i hlt
          rw [if_neg ‹_›, if_pos hlt] at h
          exact connectLoop_add_fuel fuel k _ _ h
        · rfl

variable {attempts}

/-- With every wait at least 2000 ms, a pass `i` that starts at least `2000 * i` ms in and
before the ten seconds leaves the loop within five passes, if the bound allows them. -/
theorem connectLoop_time (hwait : ∀ i, 2000 ≤ (attempts i).waitTime) :
    ∀ (fuel i elapsed : Nat), 2000 * i ≤ elapsed → elapsed < 10000 → 5 ≤ i + fuel →
      (connectLoop attempts fuel i elapsed).1 ≤ 5 ∧
        (connectLoop attempts fuel i elapsed).2 ≠ .outOfFuel
  | 0, i, _, h1, h2, h3 => absurd h3 (by omega)
  | fuel + 1, i, elapsed, h1, h2, h3 => by
    unfold connectLoop
    cases hc : (attempts i).connect with
    | ok u => exact ⟨by simp only; omega, nofun⟩
    | error e =>
      simp only
      split
      · exact ⟨by omega, nofun⟩
      · split
        · exact connectLoop_time hwait fuel (i + 1) _ (by have := hwait i; omega) ‹_›
            (by omega)
        · exact ⟨by omega, nofun⟩

/-- **Five passes.** When every `timeout(2000)` waits at least its 2000 ms, `connect`'s loop ends
within five passes, whatever the connection attempts return and however long they take: the
bound of five passes is never reached, and every larger bound gives the same run. -/
theorem connectLoop_bound (hwait : ∀ i, 2000 ≤ (attempts i).waitTime) :
    (connectLoop attempts 5 0 0).1 ≤ 5 ∧ (connectLoop attempts 5 0 0).2 ≠ .outOfFuel ∧
      ∀ fuel, 5 ≤ fuel → connectLoop attempts fuel 0 0 = connectLoop attempts 5 0 0 := by
  obtain ⟨h1, h2⟩ := connectLoop_time hwait 5 0 0 (le_refl _) (by decide) (le_refl _)
  refine ⟨h1, h2, fun fuel hf => ?_⟩
  obtain ⟨k, rfl⟩ := Nat.exists_eq_add_of_le hf
  exact connectLoop_add_fuel attempts 5 k 0 0 h2

end Loop

/-- A database that refuses every connection, each `timeout(2000)` lasting 2000 ms. -/
def refusedAttempts : Nat → Attempt :=
  fun _ => ⟨.error ⟨some "ECONNREFUSED", "connect ECONNREFUSED 127.0.0.1:5432"⟩, 0, 2000⟩

theorem refusedAttempts_bound :
    (∀ i, 2000 ≤ (refusedAttempts i).waitTime) ∧
    (connectLoop refusedAttempts 5 0 0).1 ≤ 5 ∧
    (connectLoop refusedAttempts 5 0 0).2 ≠ .outOfFuel ∧
    ∀ fuel, 5 ≤ fuel → connectLoop refusedAttempts fuel 0 0 = connectLoop refusedAttempts 5 0 0 :=
  ⟨fun _ => le_refl _, connectLoop_bound fun _ => le_refl _⟩

/-- Refused at 0, 2000, 4000, 6000 and 8000 ms, the loop stops after the fifth pass. -/
example : connectLoop refusedAttempts connectFuel 0 0 =
    (5, .timedOut (some ⟨some "ECONNREFUSED", "connect ECONNREFUSED 127.0.0.1:5432"⟩)) := by
  decide

/-! ## `connect` -/

/-- **`connect` rejects with the last connection error.** When every `timeout(2000)` waits its
2000 ms, `connect` makes `n` passes, `1 ≤ n ≤ 5`, each but the last failing with a refused or
dropped connection. If the last one connected, `connect` then runs the migration up and connects
the pool, and settles as they do; otherwise it rejects with the error of the last pass. The
fallback `Error connecting to database` is never thrown. -/
theorem connect_spec (nodeEnv : NodeEnv) (attempts : Nat → Attempt) (migration : MigrationCalls)
    (pool : Except PgError Unit) (hwait : ∀ i, 2000 ≤ (attempts i).waitTime) :
    ∃ n, 1 ≤ n ∧ n ≤ 5 ∧
      (∀ j, j + 1 < n → ∃ e, (attempts j).connect = .error e ∧ e.retried = true) ∧
      let passes : PgRun Unit := ⟨(List.range n).flatMap fun i => (attempts i).effects, .ok ()⟩
      ((attempts (n - 1)).connect = .ok () ∧
          connect nodeEnv attempts migration pool = (do
            passes
            runMigrations nodeEnv migration .up
            connectPool pool)) ∨
        ∃ e, (attempts (n - 1)).connect = .error e ∧
          connect nodeEnv attempts migration pool = (do passes; throw e) := by
  obtain ⟨hn5, hne, hfuel⟩ := connectLoop_bound hwait
  rcases connectLoop_cases attempts 5 0 0 with h | ⟨hlt, hbefore, hend⟩
  · exact absurd h hne
  unfold connect
  rw [hfuel connectFuel (by decide)]
  generalize connectLoop attempts 5 0 0 = r at *
  obtain ⟨n, loopEnd⟩ := r
  refine ⟨n, hlt, hn5, fun j hj => hbefore j (Nat.zero_le _) hj, ?_⟩
  cases loopEnd with
  | connected => exact .inl ⟨hend, rfl⟩
  | thrown e => exact .inr ⟨e, hend.1, rfl⟩
  | timedOut connectionError =>
    obtain ⟨e, he, -, rfl⟩ := hend
    exact .inr ⟨e, he, rfl⟩
  | outOfFuel => exact hend.elim

theorem refused_connect_spec :
    (∀ i, 2000 ≤ (refusedAttempts i).waitTime) ∧
    ∃ n, 1 ≤ n ∧ n ≤ 5 ∧
      (∀ j, j + 1 < n → ∃ e, (refusedAttempts j).connect = .error e ∧ e.retried = true) ∧
      let passes : PgRun Unit :=
        ⟨(List.range n).flatMap fun i => (refusedAttempts i).effects, .ok ()⟩
      ((refusedAttempts (n - 1)).connect = .ok () ∧
          connect ⟨false, false⟩ refusedAttempts ⟨.ok (), .ok (), .ok ()⟩ (.ok ()) = (do
            passes
            runMigrations ⟨false, false⟩ ⟨.ok (), .ok (), .ok ()⟩ .up
            connectPool (.ok ()))) ∨
        ∃ e, (refusedAttempts (n - 1)).connect = .error e ∧
          connect ⟨false, false⟩ refusedAttempts ⟨.ok (), .ok (), .ok ()⟩ (.ok ()) =
            (do passes; throw e) :=
  ⟨fun _ => le_refl _,
    connect_spec ⟨false, false⟩ refusedAttempts ⟨.ok (), .ok (), .ok ()⟩ (.ok ())
      fun _ => le_refl _⟩

end Sidecar.Datastore
