import Mathlib.Data.List.Sort

/-!
# `Array.prototype.sort`

Model of the JavaScript sort that `getBlockTxs` and `getTxEvents` call on the rows they read, as
ECMAScript specifies it and as V8, the engine Node runs, implements it.

* A comparator is `cmp : α → α → Int`, standing for the `Number` it returns. `consistentOn cmp xs`
  is ECMAScript's "consistent comparator" on the elements `xs`: `a =CF a`, `=CF` symmetric and
  transitive, and `<CF` and `>CF` transitive (`a <CF b` is `cmp a b < 0`).
* On a consistent comparator the result is fixed: the elements sorted, and stable, so `jsSort`
  returns `List.insertionSort` by `cmp a b ≤ 0`. On any other comparator ECMAScript leaves the
  order to the implementation: a `SortImpl` is an engine's choice, some permutation.
* `v8Sort` is V8's `ArrayTimSort` on an array of fewer than 64 elements, where the minimum run is
  the whole array: `CountAndMakeRun` from the start, then `BinaryInsertionSort` of the remaining
  elements into that run, each at the position its binary search finds.
* A holey array, `List (Option α)` with `none` for a hole, is sorted on its present elements and
  the holes are moved to the end (`jsSortHoles`).

Results:
* `jsSort_of_consistent`, `jsSort_perm`: the sort is a stable sort on a consistent comparator, and
  a permutation on every comparator;
* `v8Sort_perm`: V8's sort is a permutation, whatever the comparator;
* `consistentOn_sub`: a comparator `key(a) - key(b)` is consistent on every array;
* `v8Sort_of_nonneg`, `jsSort_v8_of_nonneg`: on V8 a comparator that returns no negative number
  leaves the array as it is: `CountAndMakeRun` finds one ascending run through the whole array.
-/

namespace Sidecar.Datastore

section Spec

variable {α : Type}

/-- ECMAScript's requirements on a comparator, for three of the array's elements. -/
def consistentAt (cmp : α → α → Int) (a b c : α) : Bool :=
  cmp a a == 0 &&
  (cmp a b == 0) == (cmp b a == 0) &&
  (!(cmp a b == 0 && cmp b c == 0) || cmp a c == 0) &&
  (!(decide (cmp a b < 0) && decide (cmp b c < 0)) || decide (cmp a c < 0)) &&
  (!(decide (0 < cmp a b) && decide (0 < cmp b c)) || decide (0 < cmp a c))

/-- `cmp` is a consistent comparator for the elements `xs`. -/
def consistentOn (cmp : α → α → Int) (xs : List α) : Bool :=
  xs.all fun a => xs.all fun b => xs.all fun c => consistentAt cmp a b c

/-- An engine's order for a comparator ECMAScript leaves to the implementation: a permutation. -/
structure SortImpl where
  sort : {α : Type} → (α → α → Int) → List α → List α
  perm : ∀ {α : Type} (cmp : α → α → Int) (xs : List α), (sort cmp xs).Perm xs

/-- `Array.prototype.sort(cmp)`: sorted and stable when `cmp` is consistent on the elements, the
engine's order otherwise. -/
def jsSort (impl : SortImpl) (cmp : α → α → Int) (xs : List α) : List α :=
  if consistentOn cmp xs then xs.insertionSort (fun a b => cmp a b ≤ 0) else impl.sort cmp xs

/-- `Array.prototype.sort(cmp)` on an array with holes: the present elements sorted, then the
holes. -/
def jsSortHoles (impl : SortImpl) (cmp : α → α → Int) (xs : List (Option α)) : List (Option α) :=
  (jsSort impl cmp (xs.filterMap id)).map some ++
    List.replicate (xs.length - (xs.filterMap id).length) none

/-- An array with no hole sorts as its elements do. -/
theorem jsSortHoles_map_some (impl : SortImpl) (cmp : α → α → Int) (xs : List α) :
    jsSortHoles impl cmp (xs.map some) = (jsSort impl cmp xs).map some := by
  simp [jsSortHoles, List.filterMap_map]

theorem jsSort_of_consistent {impl : SortImpl} {cmp : α → α → Int} {xs : List α}
    (h : consistentOn cmp xs = true) :
    jsSort impl cmp xs = xs.insertionSort (fun a b => cmp a b ≤ 0) :=
  if_pos h

/-- A comparator `(a, b) => key(a) - key(b)` is consistent on every array. -/
theorem consistentOn_sub (key : α → Int) (xs : List α) :
    consistentOn (fun a b => key a - key b) xs = true := by
  simp only [consistentOn, List.all_eq_true]
  intro a _ b _ c _
  simp [consistentAt]
  omega

theorem jsSort_perm (impl : SortImpl) (cmp : α → α → Int) (xs : List α) :
    (jsSort impl cmp xs).Perm xs := by
  unfold jsSort
  split
  · exact List.perm_insertionSort _ xs
  · exact impl.perm cmp xs

end Spec

/-! ## V8 -/

section V8

variable {α : Type} (cmp : α → α → Int)

/-- `CountAndMakeRun` past the run's last element `prev`: the elements that continue the run
(`cmp x prev ≥ 0` in an ascending run, `< 0` in a descending one), and the rest. -/
def runFrom (descending : Bool) (prev : α) : List α → List α × List α
  | [] => ([], [])
  | x :: xs =>
    if decide (cmp x prev < 0) = descending then
      let r := runFrom descending x xs
      (x :: r.1, r.2)
    else ([], x :: xs)

/-- `CountAndMakeRun` from the start of the array: its first run, reversed when it descends, and
the elements after it. -/
def countAndMakeRun : List α → List α × List α
  | a :: b :: rest =>
    let descending := decide (cmp b a < 0)
    let r := runFrom cmp descending b rest
    (if descending then (a :: b :: r.1).reverse else a :: b :: r.1, r.2)
  | xs => (xs, [])

/-- The binary search of `BinaryInsertionSort` for `pivot` in `run[left, right)`: right of every
element `pivot` does not compare below; `fuel` bounds its halvings. -/
def binarySearch (pivot : α) (run : List α) : Nat → Nat → Nat → Nat
  | 0, left, _ => left
  | fuel + 1, left, right =>
    if left < right then
      let mid := left + (right - left) / 2
      match run[mid]? with
      | some m =>
        if cmp pivot m < 0 then binarySearch pivot run fuel left mid
        else binarySearch pivot run fuel (mid + 1) right
      | none => left
    else left

/-- `BinaryInsertionSort`: each remaining element, in order, inserted into the sorted run. -/
def binaryInsertionSort : List α → List α → List α
  | run, [] => run
  | run, pivot :: rest =>
    binaryInsertionSort (run.insertIdx (binarySearch cmp pivot run run.length 0 run.length) pivot)
      rest

/-- V8's `Array.prototype.sort` on fewer than 64 elements: one run from the start, then binary
insertion of the rest. -/
def v8Sort (xs : List α) : List α :=
  binaryInsertionSort cmp (countAndMakeRun cmp xs).1 (countAndMakeRun cmp xs).2

theorem runFrom_append (descending : Bool) :
    ∀ (prev : α) (xs : List α), (runFrom cmp descending prev xs).1 ++
      (runFrom cmp descending prev xs).2 = xs
  | _, [] => rfl
  | prev, x :: xs => by
    unfold runFrom
    split
    · exact congrArg (x :: ·) (runFrom_append descending x xs)
    · rfl

theorem countAndMakeRun_perm (xs : List α) :
    ((countAndMakeRun cmp xs).1 ++ (countAndMakeRun cmp xs).2).Perm xs := by
  match xs with
  | [] | [_] => exact .refl _
  | a :: b :: rest =>
    have h := runFrom_append cmp (decide (cmp b a < 0)) b rest
    simp only [countAndMakeRun]
    split
    · refine (List.reverse_perm _).append_right _ |>.trans ?_
      rw [List.cons_append, List.cons_append, h]
    · rw [List.cons_append, List.cons_append, h]

theorem binarySearch_le (pivot : α) (run : List α) :
    ∀ (fuel left right : Nat), left ≤ right → binarySearch cmp pivot run fuel left right ≤ right
  | 0, _, _, h => h
  | fuel + 1, left, right, h => by
    unfold binarySearch
    split
    · dsimp only
      split
      · split
        · exact (binarySearch_le pivot run fuel _ _ (by omega)).trans (by omega)
        · exact binarySearch_le pivot run fuel _ _ (by omega)
      · exact h
    · exact h

theorem binaryInsertionSort_perm : ∀ (run rest : List α),
    (binaryInsertionSort cmp run rest).Perm (run ++ rest)
  | run, [] => by rw [List.append_nil]; rfl
  | run, pivot :: rest => by
    have hins := List.perm_insertIdx pivot run
      (binarySearch_le cmp pivot run run.length 0 run.length (Nat.zero_le _))
    exact (binaryInsertionSort_perm _ rest).trans
      ((hins.append_right rest).trans List.perm_middle.symm)

theorem v8Sort_perm (xs : List α) : (v8Sort cmp xs).Perm xs :=
  (binaryInsertionSort_perm cmp _ _).trans (countAndMakeRun_perm cmp xs)

/-- V8 on a comparator that is not negative on the array's elements. -/
theorem runFrom_of_nonneg (prev : α) :
    ∀ xs : List α, (∀ x ∈ xs, ∀ y, 0 ≤ cmp x y) → runFrom cmp false prev xs = (xs, [])
  | [], _ => rfl
  | x :: xs, h => by
    have hx : decide (cmp x prev < 0) = false := decide_eq_false (not_lt.2 (h x (.head _) prev))
    simp only [runFrom, hx, if_true]
    rw [runFrom_of_nonneg x xs fun y hy => h y (.tail _ hy)]

theorem v8Sort_of_nonneg (xs : List α) (h : ∀ x ∈ xs, ∀ y, 0 ≤ cmp x y) : v8Sort cmp xs = xs := by
  match xs with
  | [] | [_] => rfl
  | a :: b :: rest =>
    have hb : decide (cmp b a < 0) = false := decide_eq_false (not_lt.2 (h b (by simp) a))
    have hr := runFrom_of_nonneg cmp b rest fun x hx => h x (by simp [hx])
    simp only [v8Sort, countAndMakeRun, hb, hr, Bool.false_eq_true, if_false]
    rfl

end V8

/-- V8's engine order. -/
def SortImpl.v8 : SortImpl := ⟨v8Sort, v8Sort_perm⟩

/-- On V8, a comparator never negative on the array's elements leaves the array as it is: when it
is consistent it returns 0 on every pair, and otherwise V8 finds one ascending run. -/
theorem jsSort_v8_of_nonneg {α : Type} {cmp : α → α → Int} {xs : List α}
    (h : ∀ x ∈ xs, ∀ y, 0 ≤ cmp x y) : jsSort .v8 cmp xs = xs := by
  unfold jsSort
  split
  · rename_i hc
    refine List.Sorted.insertionSort_eq (List.pairwise_of_forall_mem_list fun a ha b hb => ?_)
    have hab := List.all_eq_true.1 (List.all_eq_true.1 (List.all_eq_true.1 hc a ha) b hb) a ha
    have h1 := h a ha b
    have h2 := h b hb a
    simp [consistentAt] at hab
    omega
  · exact v8Sort_of_nonneg cmp xs h

end Sidecar.Datastore
