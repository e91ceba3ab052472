import Mathlib.Data.List.Induction

/-!
# Writes in layers

A tree is what it has at its leaves. A write puts a tree in the place of whatever was at a path
and below it; the last write that covers a path says what is there. A register beside the tree
knows leaves by their name alone, and keeps the origin of the last write of each name.
-/

namespace LayeredWrites

variable {κ ν θ ο : Type}

/-- A write and what it enters in the register for the name of a leaf. -/
structure Write (κ ν θ ο : Type) where
  path : List κ
  leaves : List κ → Option ν
  origin : θ → ο

section Tree

variable [DecidableEq κ]

/-- What a write puts at a path. -/
def Write.leaf (w : Write κ ν θ ο) (q : List κ) : Option ν :=
  if w.path <+: q then w.leaves (q.drop w.path.length) else none

/-- A tree after a write. -/
def assign (tree : List κ → Option ν) (w : Write κ ν θ ο) (q : List κ) : Option ν :=
  if w.path <+: q then w.leaves (q.drop w.path.length) else tree q

/-- The last write at a path or above it. -/
def lastCovering (ws : List (Write κ ν θ ο)) (q : List κ) : Option (Write κ ν θ ο) :=
  ws.reverse.find? fun w => w.path <+: q

/-- A leaf of the last write that covers it. -/
def Standing (ws : List (Write κ ν θ ο)) (w : Write κ ν θ ο) (q : List κ) : Prop :=
  lastCovering ws q = some w ∧ (w.leaf q).isSome

variable {ws : List (Write κ ν θ ο)} {w : Write κ ν θ ο} {q : List κ}
  {tree : List κ → Option ν}

theorem Write.leaf_of_covers (covers : w.path <+: q) :
    w.leaf q = w.leaves (q.drop w.path.length) := if_pos covers

theorem Write.leaf_append (w : Write κ ν θ ο) (r : List κ) :
    w.leaf (w.path ++ r) = w.leaves r := by
  rw [Write.leaf_of_covers (List.prefix_append _ _), List.drop_left]

theorem Write.leaf_isSome_iff :
    (w.leaf q).isSome ↔ ∃ r, q = w.path ++ r ∧ (w.leaves r).isSome := by
  constructor
  · intro has
    by_cases covers : w.path <+: q
    · obtain ⟨r, rfl⟩ := covers
      exact ⟨r, rfl, by rwa [Write.leaf_append] at has⟩
    · rw [Write.leaf, if_neg covers] at has
      cases has
  · rintro ⟨r, rfl, has⟩
    rwa [Write.leaf_append]

theorem assign_append (tree : List κ → Option ν) (w : Write κ ν θ ο) (r : List κ) :
    assign tree w (w.path ++ r) = w.leaves r := by
  rw [assign, if_pos (List.prefix_append _ _), List.drop_left]

theorem assign_of_apart (apart : ¬ w.path <+: q) : assign tree w q = tree q := if_neg apart

@[simp] theorem lastCovering_concat (ws : List (Write κ ν θ ο)) (w : Write κ ν θ ο)
    (q : List κ) :
    lastCovering (ws ++ [w]) q = if w.path <+: q then some w else lastCovering ws q := by
  by_cases covers : w.path <+: q <;> simp [lastCovering, covers]

/-- The last write that covers a path says what is there. -/
theorem foldl_assign (ws : List (Write κ ν θ ο)) (tree : List κ → Option ν) (q : List κ) :
    ws.foldl assign tree q = ((lastCovering ws q).map fun w => w.leaf q).getD (tree q) := by
  induction ws using List.reverseRecOn with
  | nil => rfl
  | append_singleton ws w ih =>
    rw [List.foldl_append, List.foldl_cons, List.foldl_nil, lastCovering_concat, assign]
    by_cases covers : w.path <+: q
    · rw [if_pos covers, if_pos covers, Option.map_some, Option.getD_some,
        Write.leaf_of_covers covers]
    · rw [if_neg covers, if_neg covers, ih]

/-- The leaves of the tree are the ones that stand. -/
theorem leaf_iff_standing (ws : List (Write κ ν θ ο)) (q : List κ) :
    (ws.foldl assign (fun _ => none) q).isSome ↔ ∃ w, Standing ws w q := by
  rw [foldl_assign]
  cases last : lastCovering ws q with
  | none => simp [Standing, last]
  | some w => simp [Standing, last]

/-- Writes below a key leave everything else as it was. -/
theorem foldl_assign_under (key : κ) (ws : List (Write κ ν θ ο)) (tree : List κ → Option ν)
    (q : List κ) :
    (ws.map fun w => { w with path := key :: w.path }).foldl assign tree q =
      match q with
      | k :: r => if k = key then ws.foldl assign (fun r => tree (key :: r)) r else tree q
      | [] => tree q := by
  induction ws using List.reverseRecOn with
  | nil =>
    cases q with
    | nil => rfl
    | cons k r =>
      by_cases same : k = key
      · simp [same]
      · simp [same]
  | append_singleton ws w ih =>
    rw [List.map_append, List.map_singleton, List.foldl_append, List.foldl_cons, List.foldl_nil,
      assign, ih]
    cases q with
    | nil => simp
    | cons k r =>
      by_cases same : k = key
      · subst same
        simp [assign, List.foldl_append]
      · simp [same, List.cons_prefix_cons, Ne.symm same]

end Tree

/-! ## The register -/

section Register

open Classical

variable [DecidableEq κ] (name : List κ → θ)

/-- The write has a leaf of the name. -/
def Write.Names (w : Write κ ν θ ο) (t : θ) : Prop := ∃ q, (w.leaf q).isSome ∧ name q = t

/-- The last write of a leaf of the name. -/
noncomputable def lastNaming (ws : List (Write κ ν θ ο)) (t : θ) : Option (Write κ ν θ ο) :=
  ws.reverse.find? fun w => w.Names name t

/-- A name that a write had for a leaf, and that no leaf has in the end. -/
def Retired (ws : List (Write κ ν θ ο)) (t : θ) : Prop :=
  (∃ w ∈ ws, w.Names name t) ∧ ¬ ∃ w q, Standing ws w q ∧ name q = t

/-- A leaf whose name another write, of another origin, was the last to use. -/
def Shadowed (ws : List (Write κ ν θ ο)) (q : List κ) : Prop :=
  ∃ w v, lastCovering ws q = some w ∧ lastNaming name ws (name q) = some v ∧
    v.origin (name q) ≠ w.origin (name q)

variable {name} {ws : List (Write κ ν θ ο)} {w : Write κ ν θ ο} {q : List κ} {t : θ}

@[simp] theorem lastNaming_concat (ws : List (Write κ ν θ ο)) (w : Write κ ν θ ο) (t : θ) :
    lastNaming name (ws ++ [w]) t = if w.Names name t then some w else lastNaming name ws t := by
  by_cases named : w.Names name t <;> simp [lastNaming, named]

theorem lastCovering_mem (last : lastCovering ws q = some w) : w ∈ ws :=
  List.mem_reverse.mp (List.mem_of_find?_eq_some last)

theorem Standing.names (standing : Standing ws w q) : w.Names name (name q) :=
  ⟨q, standing.2, rfl⟩

theorem lastNaming_isSome : (lastNaming name ws t).isSome ↔ ∃ w ∈ ws, w.Names name t := by
  simp [lastNaming]

/-- The names in the register are the names of the leaves. -/
theorem lastNaming_exact_iff :
    (∀ t, (lastNaming name ws t).isSome ↔ ∃ w q, Standing ws w q ∧ name q = t) ↔
      ∀ t, ¬ Retired name ws t := by
  constructor
  · rintro exact t ⟨named, gone⟩
    exact gone ((exact t).mp (lastNaming_isSome.mpr named))
  · intro kept t
    rw [lastNaming_isSome]
    constructor
    · intro named
      by_contra gone
      exact kept t ⟨named, gone⟩
    · rintro ⟨w, q, standing, rfl⟩
      exact ⟨w, lastCovering_mem standing.1, standing.names⟩

theorem Write.covers_of_leaf (has : (w.leaf q).isSome) : w.path <+: q := by
  obtain ⟨r, rfl, -⟩ := Write.leaf_isSome_iff.mp has
  exact List.prefix_append _ _

/-- Where the name of a leaf is that of no other path, its writer was the last to use it. -/
theorem lastNaming_of_standing (standing : Standing ws w q)
    (own : ∀ v ∈ ws, v.Names name (name q) → (v.leaf q).isSome) :
    lastNaming name ws (name q) = some w := by
  obtain ⟨last, has⟩ := standing
  induction ws using List.reverseRecOn with
  | nil => cases last
  | append_singleton ws v ih =>
    rw [lastCovering_concat] at last
    rw [lastNaming_concat]
    by_cases covers : v.path <+: q
    · rw [if_pos covers] at last
      cases last
      exact if_pos ⟨q, has, rfl⟩
    · rw [if_neg covers] at last
      have silent : ¬ v.Names name (name q) := fun named =>
        covers (Write.covers_of_leaf (own v (by simp) named))
      rw [if_neg silent]
      exact ih (fun u among => own u (List.mem_append_left _ among)) last

theorem not_shadowed (standing : Standing ws w q)
    (own : ∀ v ∈ ws, v.Names name (name q) → (v.leaf q).isSome) : ¬ Shadowed name ws q := by
  rintro ⟨u, v, last, named, differ⟩
  obtain rfl : w = u := Option.some.inj (standing.1.symm.trans last)
  obtain rfl : w = v :=
    Option.some.inj ((lastNaming_of_standing standing own).symm.trans named)
  exact differ rfl

end Register

end LayeredWrites
