import Mathlib.Data.List.Nodup

/-!
# Locks by key

A map hands out one lock for each key and keeps weak references only: a lock lives as
long as somebody has a handle on it. Handles that live at one time under one key are on
one lock, so at most one of their owners holds it.
-/

/-- The map of weak references, the handles as owner and lock, and the guards as lock and
owner. -/
structure KeyedLocks (κ : Type) where
  entries : List (κ × Nat)
  handles : List (Nat × Nat)
  guards : List (Nat × Nat)
  next : Nat

namespace KeyedLocks

variable {κ : Type}

def empty : KeyedLocks κ := ⟨[], [], [], 0⟩

/-- A lock somebody has a handle on. -/
def alive (locks : KeyedLocks κ) (lock : Nat) : Bool := locks.handles.any (·.2 == lock)

/-- The references that are not dead. -/
def retained (locks : KeyedLocks κ) : List (κ × Nat) :=
  locks.entries.filter fun entry => locks.alive entry.2

/-- A handle on the lock of a key, which is a new lock if the key has none. -/
def acquire [DecidableEq κ] (key : κ) (owner : Nat) (locks : KeyedLocks κ) :
    Nat × KeyedLocks κ :=
  match locks.retained.lookup key with
  | some lock =>
    (lock, { locks with entries := locks.retained, handles := (owner, lock) :: locks.handles })
  | none =>
    (locks.next,
      { entries := (key, locks.next) :: locks.retained
        handles := (owner, locks.next) :: locks.handles
        guards := locks.guards
        next := locks.next + 1 })

def isFree (locks : KeyedLocks κ) (lock : Nat) : Bool := locks.guards.all (·.1 != lock)

def hold (lock owner : Nat) (locks : KeyedLocks κ) : KeyedLocks κ :=
  { locks with guards := (lock, owner) :: locks.guards }

/-- An owner drops its handle and its guard. -/
def release (owner : Nat) (locks : KeyedLocks κ) : KeyedLocks κ :=
  { locks with
    handles := locks.handles.filter (·.1 ≠ owner)
    guards := locks.guards.filter (·.2 ≠ owner) }

/-- Every handle is on the lock its owner's key maps to, and only owners of handles hold
locks, one each lock. -/
structure Valid (locks : KeyedLocks κ) (keyOf : Nat → Option κ) : Prop where
  keyed : (locks.entries.map Prod.fst).Nodup
  mapped : ∀ owner lock, (owner, lock) ∈ locks.handles →
    ∃ key, keyOf owner = some key ∧ (key, lock) ∈ locks.entries
  held : ∀ owner lock, (lock, owner) ∈ locks.guards → (owner, lock) ∈ locks.handles
  exclusive : ∀ lock owner other, (lock, owner) ∈ locks.guards → (lock, other) ∈ locks.guards →
    owner = other

variable {locks : KeyedLocks κ} {keyOf keyOf' : Nat → Option κ} {owner lock : Nat} {key : κ}

theorem valid_empty : Valid (empty : KeyedLocks κ) keyOf := by
  constructor <;> simp [empty]

/-- The keys of owners without a handle are free. -/
theorem Valid.renamed (valid : Valid locks keyOf)
    (same : ∀ owner lock, (owner, lock) ∈ locks.handles → keyOf' owner = keyOf owner) :
    Valid locks keyOf' := by
  refine ⟨valid.keyed, fun owner lock handle => ?_, valid.held, valid.exclusive⟩
  rw [same owner lock handle]
  exact valid.mapped owner lock handle

theorem keyed_same {entries : List (κ × Nat)} (keyed : (entries.map Prod.fst).Nodup)
    {a b : Nat} (left : (key, a) ∈ entries) (right : (key, b) ∈ entries) : a = b :=
  congrArg Prod.snd (List.inj_on_of_nodup_map keyed left right rfl)

/-- Two owners under one key that hold locks are the same. -/
theorem Valid.alone (valid : Valid locks keyOf) {other lock' : Nat}
    (holds : (lock, owner) ∈ locks.guards) (also : (lock', other) ∈ locks.guards)
    (same : keyOf owner = keyOf other) : owner = other := by
  obtain ⟨key, named, mapped⟩ := valid.mapped owner lock (valid.held owner lock holds)
  obtain ⟨key', named', mapped'⟩ := valid.mapped other lock' (valid.held other lock' also)
  obtain rfl : key = key' := Option.some.inj (named.symm.trans (same.trans named'))
  obtain rfl := keyed_same valid.keyed mapped mapped'
  exact valid.exclusive lock owner other holds also

theorem retained_keyed (keyed : (locks.entries.map Prod.fst).Nodup) :
    (locks.retained.map Prod.fst).Nodup :=
  keyed.sublist (List.filter_sublist.map _)

theorem mem_retained (handle : (owner, lock) ∈ locks.handles)
    (mapped : (key, lock) ∈ locks.entries) : (key, lock) ∈ locks.retained :=
  List.mem_filter.mpr ⟨mapped, List.any_eq_true.mpr ⟨_, handle, by simp⟩⟩

theorem acquire_guards [DecidableEq κ] : (locks.acquire key owner).2.guards = locks.guards := by
  unfold acquire
  cases locks.retained.lookup key <;> rfl

theorem acquire_handle [DecidableEq κ] :
    (locks.acquire key owner).2.handles = (owner, (locks.acquire key owner).1) :: locks.handles := by
  unfold acquire
  cases locks.retained.lookup key <;> rfl

theorem mem_of_lookup [DecidableEq κ] {entries : List (κ × Nat)}
    (found : entries.lookup key = some lock) : (key, lock) ∈ entries := by
  obtain ⟨front, back, rfl, _⟩ := List.lookup_eq_some_iff.mp found
  simp

/-- An owner without a handle gets one under its key. -/
theorem Valid.acquire [DecidableEq κ] (valid : Valid locks keyOf)
    (fresh : ∀ lock, (owner, lock) ∉ locks.handles) (named : keyOf' owner = some key)
    (others : ∀ other, other ≠ owner → keyOf' other = keyOf other) :
    Valid (locks.acquire key owner).2 keyOf' := by
  have entries : ∀ entry, entry ∈ locks.retained →
      entry ∈ (locks.acquire key owner).2.entries := by
    intro entry member
    unfold KeyedLocks.acquire
    cases locks.retained.lookup key with
    | some lock => exact member
    | none => exact List.mem_cons_of_mem _ member
  constructor
  · unfold KeyedLocks.acquire
    cases found : locks.retained.lookup key with
    | some lock => exact retained_keyed valid.keyed
    | none =>
      refine List.nodup_cons.mpr ⟨fun member => ?_, retained_keyed valid.keyed⟩
      obtain ⟨⟨_, lock⟩, present, rfl⟩ := List.mem_map.mp member
      have apart := List.lookup_eq_none_iff.mp found _ present
      simp at apart
  · intro other lock handle
    rw [acquire_handle] at handle
    obtain same | older := List.mem_cons.mp handle
    · cases same
      refine ⟨key, named, ?_⟩
      unfold KeyedLocks.acquire
      cases found : locks.retained.lookup key with
      | some lock => exact mem_of_lookup found
      | none => exact List.mem_cons_self ..
    · have apart : other ≠ owner := by
        rintro rfl
        exact fresh lock older
      obtain ⟨key', named', mapped⟩ := valid.mapped other lock older
      exact ⟨key', (others other apart).trans named', entries _ (mem_retained older mapped)⟩
  · intro other lock guard
    rw [acquire_guards] at guard
    rw [acquire_handle]
    exact List.mem_cons_of_mem _ (valid.held other lock guard)
  · rw [acquire_guards]
    exact valid.exclusive

theorem Valid.hold (valid : Valid locks keyOf) (handle : (owner, lock) ∈ locks.handles)
    (free : locks.isFree lock = true) : Valid (locks.hold lock owner) keyOf := by
  have unheld : ∀ other, (lock, other) ∉ locks.guards := by
    intro other guard
    have apart := List.all_eq_true.mp free _ guard
    simp at apart
  refine ⟨valid.keyed, valid.mapped, fun other lock' guard => ?_, fun lock' a b left right => ?_⟩
  · obtain same | older := List.mem_cons.mp guard
    · cases same
      exact handle
    · exact valid.held other lock' older
  · obtain same | older := List.mem_cons.mp left <;> obtain same' | older' := List.mem_cons.mp right
    · cases same
      cases same'
      rfl
    · cases same
      exact absurd older' (unheld b)
    · cases same'
      exact absurd older (unheld a)
    · exact valid.exclusive lock' a b older older'

theorem mem_release_handles {other : Nat} : (other, lock) ∈ (locks.release owner).handles ↔
    (other, lock) ∈ locks.handles ∧ other ≠ owner := by
  simp [release]

theorem mem_release_guards {other : Nat} : (lock, other) ∈ (locks.release owner).guards ↔
    (lock, other) ∈ locks.guards ∧ other ≠ owner := by
  simp [release]

theorem Valid.release (valid : Valid locks keyOf)
    (others : ∀ other, other ≠ owner → keyOf' other = keyOf other) :
    Valid (locks.release owner) keyOf' := by
  refine ⟨valid.keyed, fun other lock handle => ?_, fun other lock guard => ?_,
    fun lock a b left right => ?_⟩
  · obtain ⟨older, apart⟩ := mem_release_handles.mp handle
    rw [others other apart]
    exact valid.mapped other lock older
  · obtain ⟨older, apart⟩ := mem_release_guards.mp guard
    exact mem_release_handles.mpr ⟨valid.held other lock older, apart⟩
  · exact valid.exclusive lock a b (mem_release_guards.mp left).1 (mem_release_guards.mp right).1

end KeyedLocks
