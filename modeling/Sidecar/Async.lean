import Mathlib.Data.List.Basic

/-!
# Runs of async code

Model of an `async` function as what others see of it: `AsyncRun ω ε α` is the list of its
effects, of type `ω`, in order, and how its promise settled, with a value of `α` or rejected with
an `ε`. `PgDataStore.connect` and the migrations run in `AsyncRun PgEffect PgError`
(`Sidecar.Datastore.Connect`); the route handlers of `address.ts` run in it with the flag
`res.headersSent` as a state (`Sidecar.Api.Address`).

* `bind` is `await`: the continuation runs on the value, and after a rejection it is skipped and
  the effects done so far are kept.
* `throw` rejects with no effect, and `tryCatch` runs the `catch` block after a rejection.
* `tryFinally body fin` is `try { body } catch (error) { …; throw error; } finally { fin }` whose
  `catch` only logs and rethrows: an error `fin` throws replaces the outcome of `body`, as in
  JavaScript.

The `@[simp]` lemmas give the effects and the result of each combinator, so that a run is
computed by `simp` without unfolding the instances.
-/

namespace Sidecar

/-- A run of async code: its effects, in order, and how its promise settled. -/
structure AsyncRun (ω ε α : Type) where
  effects : List ω
  result : Except ε α

namespace AsyncRun

variable {ω ε α β : Type}

instance : Monad (AsyncRun ω ε) where
  pure a := ⟨[], .ok a⟩
  bind m f := match m.result with
    | .ok a => ⟨m.effects ++ (f a).effects, (f a).result⟩
    | .error e => ⟨m.effects, .error e⟩

instance : MonadExceptOf ε (AsyncRun ω ε) where
  throw e := ⟨[], .error e⟩
  tryCatch m handle := match m.result with
    | .ok _ => m
    | .error e => ⟨m.effects ++ (handle e).effects, (handle e).result⟩

/-- One effect that settles as `result`. -/
def call (effect : ω) (result : Except ε α) : AsyncRun ω ε α := ⟨[effect], result⟩

/-- `try { body } catch (error) { …; throw error; } finally { fin }`. -/
def tryFinally (body : AsyncRun ω ε α) (fin : AsyncRun ω ε Unit) : AsyncRun ω ε α :=
  ⟨body.effects ++ fin.effects, match fin.result with
    | .ok () => body.result
    | .error e => .error e⟩

@[simp] theorem pure_effects (a : α) : (pure a : AsyncRun ω ε α).effects = [] := rfl

@[simp] theorem pure_result (a : α) : (pure a : AsyncRun ω ε α).result = .ok a := rfl

@[simp] theorem throw_effects (e : ε) : (throw e : AsyncRun ω ε α).effects = [] := rfl

@[simp] theorem throw_result (e : ε) : (throw e : AsyncRun ω ε α).result = .error e := rfl

@[simp] theorem call_effects (effect : ω) (result : Except ε α) :
    (call effect result).effects = [effect] := rfl

@[simp] theorem call_result (effect : ω) (result : Except ε α) :
    (call effect result).result = result := rfl

@[simp] theorem tryFinally_effects (body : AsyncRun ω ε α) (fin : AsyncRun ω ε Unit) :
    (tryFinally body fin).effects = body.effects ++ fin.effects := rfl

@[simp] theorem bind_effects (m : AsyncRun ω ε α) (f : α → AsyncRun ω ε β) :
    (m >>= f).effects = m.effects ++ match m.result with
      | .ok a => (f a).effects
      | .error _ => [] := by
  show (match m.result with
    | .ok a => (⟨m.effects ++ (f a).effects, (f a).result⟩ : AsyncRun ω ε β)
    | .error e => ⟨m.effects, .error e⟩).effects = _
  split <;> simp_all

@[simp] theorem bind_result (m : AsyncRun ω ε α) (f : α → AsyncRun ω ε β) :
    (m >>= f).result = match m.result with
      | .ok a => (f a).result
      | .error e => .error e := by
  show (match m.result with
    | .ok a => (⟨m.effects ++ (f a).effects, (f a).result⟩ : AsyncRun ω ε β)
    | .error e => ⟨m.effects, .error e⟩).result = _
  split <;> simp_all

end AsyncRun

end Sidecar
