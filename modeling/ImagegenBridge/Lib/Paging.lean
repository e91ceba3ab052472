import Mathlib.Data.List.Basic

/-!
# Following cursors

A listing is fetched page by page: a page tells the cursor of the next one. The pages of a list
whose remainder each cursor determines make up the list.
-/

namespace Paging

variable {κ α β : Type}

/-- The items met from a cursor to the page without a next cursor. -/
inductive Walk (fetch : Option κ → Option (List β × Option κ)) : Option κ → List β → Prop
  | last {cursor : Option κ} {items : List β} (page : fetch cursor = some (items, none)) :
      Walk fetch cursor items
  | next {cursor : Option κ} {token : κ} {items later : List β}
      (page : fetch cursor = some (items, some token)) (rest : Walk fetch (some token) later) :
      Walk fetch cursor (items ++ later)

variable {fetch : Option κ → Option (List β × Option κ)}

theorem Walk.unique {cursor : Option κ} {items other : List β} (walk : Walk fetch cursor items)
    (again : Walk fetch cursor other) : items = other := by
  induction walk generalizing other with
  | last page =>
    cases again with
    | last page' => exact congrArg Prod.fst (Option.some.inj (page.symm.trans page'))
    | next page' _ => cases page.symm.trans page'
  | next page _ ih =>
    cases again with
    | last page' => cases page.symm.trans page'
    | next page' rest' =>
      cases page.symm.trans page'
      rw [ih rest']

/-- One page of what remains at a cursor: all of it, or `n` items and a cursor for the rest. -/
def PageOf (fetch : Option κ → Option (List β × Option κ)) (Remains : Option κ → List β → Prop)
    (n : Nat) (cursor : Option κ) (xs : List β) : Prop :=
  xs.length ≤ n ∧ fetch cursor = some (xs, none) ∨
    n < xs.length ∧ ∃ token, fetch cursor = some (xs.take n, some token) ∧
      Remains (some token) (xs.drop n)

/-- Pages of a positive size walk through all that remains. -/
theorem walk_remaining {Remains : Option κ → List β → Prop} {n : Nat} (positive : 0 < n)
    (pages : ∀ cursor xs, Remains cursor xs → PageOf fetch Remains n cursor xs)
    {cursor : Option κ} {xs : List β} (remains : Remains cursor xs) : Walk fetch cursor xs := by
  induction size : xs.length using Nat.strongRecOn generalizing cursor xs with
  | ind size' ih =>
    obtain ⟨_, page⟩ | ⟨longer, token, page, rest⟩ := pages cursor xs remains
    · exact .last page
    · have shorter : (xs.drop n).length < size' := by
        rw [List.length_drop]
        omega
      have walk := Walk.next page (ih _ shorter rest rfl)
      rwa [List.take_append_drop] at walk

/-! ## Cursors into a sorted list -/

variable (before : α → α → Prop) [DecidableRel before]

/-- The members of a list that come after an element. -/
def after (x : α) (xs : List α) : List α := xs.filter fun y => before x y

variable {before}

theorem after_split {front rest : List α} {x : α} (sorted : (front ++ x :: rest).Pairwise before)
    (irreflexive : ∀ a, ¬before a a) (asymmetric : ∀ a b, before a b → ¬before b a) :
    after before x (front ++ x :: rest) = rest := by
  obtain ⟨_, tail, across⟩ := List.pairwise_append.mp sorted
  obtain ⟨later, _⟩ := List.pairwise_cons.mp tail
  have none_front : front.filter (fun y => before x y) = [] := by
    refine List.filter_eq_nil_iff.mpr fun y among => ?_
    simpa using asymmetric _ _ (across y among x List.mem_cons_self)
  have all_rest : rest.filter (fun y => before x y) = rest := by
    refine List.filter_eq_self.mpr fun y among => ?_
    simpa using later y among
  rw [after, List.filter_append, none_front, List.filter_cons_of_neg (by simpa using irreflexive x),
    all_rest, List.nil_append]

/-- After the last element of a page the rest of the list remains. -/
theorem after_take {xs : List α} {n : Nat} {x : α} (sorted : xs.Pairwise before)
    (last : (xs.take n).getLast? = some x) (irreflexive : ∀ a, ¬before a a)
    (asymmetric : ∀ a b, before a b → ¬before b a) : after before x xs = xs.drop n := by
  obtain ⟨front, shape⟩ := List.getLast?_eq_some_iff.mp last
  have whole : xs = front ++ x :: xs.drop n := by
    calc xs = xs.take n ++ xs.drop n := (List.take_append_drop n xs).symm
      _ = front ++ x :: xs.drop n := by rw [shape, List.append_assoc, List.singleton_append]
  have after_whole : after before x (front ++ x :: xs.drop n) = xs.drop n :=
    after_split (whole ▸ sorted) irreflexive asymmetric
  rwa [← whole] at after_whole

end Paging
