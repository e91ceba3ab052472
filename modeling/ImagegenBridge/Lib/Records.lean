import Mathlib.Data.List.Basic

/-!
# Codecs of records

A codec writes a value and reads it back. It carries its two laws: what it writes it reads, and
what it accepts is within its shape. A record is described once, field by field, and the laws of
the record follow from those of the fields.
-/

namespace Records

variable {V E S ρ α β τ : Type} {within : S → V → Prop}

structure Codec (V E S : Type) (within : S → V → Prop) (τ : Type) where
  shape : S
  Fits : τ → Prop
  encode : τ → V
  decode : V → Except E τ
  restores : ∀ value, Fits value → decode (encode value) = .ok value
  strict : ∀ v value, decode v = .ok value → within shape v

/-- Some fields of a record of type `ρ`, from which an `α` is read. A field may stand in an
object under its name or in an array at its place. -/
structure Fields (V E S : Type) (within : S → V → Prop) (ρ α : Type) where
  shapes : List (String × S)
  Fits : ρ → Prop
  value : ρ → α
  write : ρ → List (String × V)
  check : String → V → Except E Unit
  read : (String → Option V) → Except E α
  items : List V → Except E (α × List V)
  covered : ∀ r, ∀ entry ∈ write r, entry.1 ∈ shapes.map Prod.fst
  checked : ∀ r, Fits r → ∀ entry ∈ write r, check entry.1 entry.2 = .ok ()
  restored : ∀ r, Fits r → ∀ found : String → Option V,
    (∀ name ∈ shapes.map Prod.fst, found name = (write r).lookup name) → read found = .ok (value r)
  guarded : ∀ entry ∈ shapes, ∀ v, check entry.1 v = .ok () → within entry.2 v
  positional : ∀ vs a rest, items vs = .ok (a, rest) →
    rest = vs.drop shapes.length ∧ ∀ pair ∈ shapes.zip vs, within pair.1.2 pair.2

theorem bind_ok {x : Except E α} {f : α → Except E β} {b : β} :
    (x >>= f) = .ok b ↔ ∃ a, x = .ok a ∧ f a = .ok b := by
  cases x with
  | error e => simp [bind, Except.bind]
  | ok a => simp [bind, Except.bind]

theorem map_ok {x : Except E α} {f : α → β} {b : β} :
    x.map f = .ok b ↔ ∃ a, x = .ok a ∧ f a = b := by
  cases x with
  | error e => simp [Except.map]
  | ok a => simp [Except.map]

theorem forM_ok {xs : List α} {f : α → Except E Unit} :
    forM xs f = .ok () ↔ ∀ x ∈ xs, f x = .ok () := by
  induction xs with
  | nil => simp [pure, Except.pure]
  | cons x xs ih =>
    rw [List.forM_cons, bind_ok, List.forall_mem_cons, ← ih]
    constructor
    · rintro ⟨⟨⟩, first, later⟩
      exact ⟨first, later⟩
    · rintro ⟨first, later⟩
      exact ⟨(), first, later⟩

theorem zip_split (xs ys : List α) (vs : List β) :
    (xs ++ ys).zip vs = xs.zip vs ++ ys.zip (vs.drop xs.length) := by
  induction xs generalizing vs with
  | nil => simp
  | cons x xs ih =>
    cases vs with
    | nil => simp
    | cons v vs => simp [ih]

theorem lookup_mem {entries : List (String × V)} {key : String} {v : V}
    (found : entries.lookup key = some v) : (key, v) ∈ entries := by
  obtain ⟨before, after, rfl, _⟩ := List.lookup_eq_some_iff.mp found
  simp

theorem lookup_of_name {entries : List (String × V)} {key : String}
    (named : key ∈ entries.map Prod.fst) : ∃ v, entries.lookup key = some v := by
  obtain ⟨⟨name, v⟩, among, rfl⟩ := List.mem_map.mp named
  have some : (entries.lookup name).isSome = true :=
    List.lookup_isSome_iff.mpr ⟨(name, v), among, by simp⟩
  exact Option.isSome_iff_exists.mp some

theorem lookup_none {entries : List (String × V)} {key : String}
    (absent : key ∉ entries.map Prod.fst) : entries.lookup key = none := by
  rw [List.lookup_eq_none_iff]
  rintro ⟨name, v⟩ among
  have differs : key ≠ name := by
    rintro rfl
    exact absent (List.mem_map_of_mem among)
  simpa using differs

theorem lookup_filter {entries : List (String × V)} {kept : String × V → Bool} {key : String}
    (keeps : ∀ v, kept (key, v) = true) : (entries.filter kept).lookup key = entries.lookup key := by
  induction entries with
  | nil => rfl
  | cons entry rest ih =>
    obtain ⟨name, v⟩ := entry
    by_cases same : key = name
    · subst same
      rw [List.filter_cons_of_pos (keeps v), List.lookup_cons_self, List.lookup_cons_self]
    · have differs : (key == name) = false := by simpa using same
      rw [List.lookup_cons, differs, ← ih, List.filter_cons]
      split
      · rw [List.lookup_cons, differs]
      · rfl

/-- The entries of some names, in their order. -/
def select (keys : List String) (entries : List (String × V)) : List (String × V) :=
  keys.filterMap fun key => (entries.lookup key).map fun v => (key, v)

theorem mem_select {keys : List String} {entries : List (String × V)} {key : String} {v : V} :
    (key, v) ∈ select keys entries ↔ key ∈ keys ∧ entries.lookup key = some v := by
  simp only [select, List.mem_filterMap, Option.map_eq_some_iff, Prod.mk.injEq]
  constructor
  · rintro ⟨name, among, w, found, rfl, rfl⟩
    exact ⟨among, found⟩
  · rintro ⟨among, found⟩
    exact ⟨key, among, v, found, rfl, rfl⟩

theorem lookup_select {keys : List String} {entries : List (String × V)} {key : String}
    (among : key ∈ keys) : (select keys entries).lookup key = entries.lookup key := by
  induction keys with
  | nil => cases among
  | cons name rest ih =>
    by_cases same : key = name
    · subst same
      cases found : entries.lookup key with
      | some v => simp [select, found]
      | none =>
        rw [List.lookup_eq_none_iff]
        rintro ⟨other, v⟩ selected
        have there := (mem_select.mp selected).2
        have differs : key ≠ other := by
          rintro rfl
          rw [found] at there
          cases there
        simpa using differs
    · have later : key ∈ rest := (List.mem_cons.mp among).resolve_left same
      have differs : (key == name) = false := by simpa using same
      rw [← ih later]
      cases found : entries.lookup name with
      | some v => simp [select, found, List.lookup_cons, differs]
      | none => simp [select, found]

namespace Fields

abbrev names (f : Fields V E S within ρ α) : List String := f.shapes.map Prod.fst

/-- No field yet. -/
def start (a : α) : Fields V E S within ρ α where
  shapes := []
  Fits _ := True
  value _ := a
  write _ := []
  check _ _ := .ok ()
  read _ := .ok a
  items vs := .ok (a, vs)
  covered := by simp
  checked := by simp
  restored := by simp
  guarded := by simp
  positional := by
    intro vs b rest read
    cases read
    simp

/-- One field. `skip` says when it is left out of an object, `absent` what its absence means there
and `short` what the end of an array before it means. -/
def single (name : String) (codec : Codec V E S within τ) (get : ρ → τ) (skip : τ → Bool)
    (absent short : Except E τ) (skipped : ∀ t, skip t = true → absent = .ok t) :
    Fields V E S within ρ τ where
  shapes := [(name, codec.shape)]
  Fits r := codec.Fits (get r)
  value := get
  write r := if skip (get r) then [] else [(name, codec.encode (get r))]
  check _ v := (codec.decode v).map fun _ => ()
  read found := match found name with
    | none => absent
    | some v => codec.decode v
  items
    | [] => short.map fun t => (t, [])
    | v :: vs => (codec.decode v).map fun t => (t, vs)
  covered := by
    intro r entry among
    split at among
    · cases among
    · rw [List.mem_singleton.mp among]
      exact List.mem_singleton_self _
  checked := by
    intro r fits entry among
    split at among
    · cases among
    · rw [List.mem_singleton.mp among, codec.restores _ fits]
      rfl
  restored := by
    intro r fits found agrees
    rw [agrees name (List.mem_singleton_self _)]
    cases left : skip (get r) with
    | true => simpa using skipped _ left
    | false => simpa using codec.restores _ fits
  guarded := by
    intro entry among v accepted
    rw [List.mem_singleton.mp among]
    obtain ⟨t, decoded, _⟩ := map_ok.mp accepted
    exact codec.strict v t decoded
  positional := by
    intro vs a rest read
    cases vs with
    | nil =>
      obtain ⟨t, _, same⟩ := map_ok.mp read
      cases same
      simp
    | cons v vs =>
      obtain ⟨t, decoded, same⟩ := map_ok.mp read
      cases same
      simpa using codec.strict v a decoded

/-- One more field. -/
def ap (f : Fields V E S within ρ (α → β)) (x : Fields V E S within ρ α)
    (apart : ∀ name ∈ f.names, name ∉ x.names) : Fields V E S within ρ β where
  shapes := f.shapes ++ x.shapes
  Fits r := f.Fits r ∧ x.Fits r
  value r := f.value r (x.value r)
  write r := f.write r ++ x.write r
  check name v := if name ∈ f.names then f.check name v else x.check name v
  read found := do
    let g ← f.read found
    let a ← x.read found
    .ok (g a)
  items vs := do
    let (g, vs) ← f.items vs
    let (a, vs) ← x.items vs
    .ok (g a, vs)
  covered := by
    intro r entry among
    rw [List.map_append, List.mem_append]
    obtain first | later := List.mem_append.mp among
    · exact Or.inl (f.covered r entry first)
    · exact Or.inr (x.covered r entry later)
  checked := by
    rintro r ⟨first, later⟩ entry among
    obtain left | right := List.mem_append.mp among
    · rw [if_pos (f.covered r entry left)]
      exact f.checked r first entry left
    · rw [if_neg fun named => apart _ named (x.covered r entry right)]
      exact x.checked r later entry right
  restored := by
    rintro r ⟨first, later⟩ found agrees
    have left : f.read found = .ok (f.value r) := by
      refine f.restored r first found fun name named => ?_
      have foreign : (x.write r).lookup name = none := by
        apply lookup_none
        intro written
        obtain ⟨entry, among, rfl⟩ := List.mem_map.mp written
        exact apart _ named (x.covered r entry among)
      rw [agrees name (by simp [named]), List.lookup_append, foreign, Option.or_none]
    have right : x.read found = .ok (x.value r) := by
      refine x.restored r later found fun name named => ?_
      have foreign : (f.write r).lookup name = none := by
        apply lookup_none
        intro written
        obtain ⟨entry, among, rfl⟩ := List.mem_map.mp written
        exact apart _ (f.covered r entry among) named
      rw [agrees name (by simp [named]), List.lookup_append, foreign, Option.none_or]
    rw [left, right]
    rfl
  guarded := by
    intro entry among v accepted
    have inside := List.mem_map_of_mem (f := Prod.fst) among
    obtain left | right := List.mem_append.mp among
    · rw [if_pos (List.mem_map_of_mem left)] at accepted
      exact f.guarded entry left v accepted
    · rw [if_neg fun named => apart _ named (List.mem_map_of_mem right)] at accepted
      exact x.guarded entry right v accepted
  positional := by
    intro vs b rest read
    obtain ⟨⟨g, mid⟩, first, next⟩ := bind_ok.mp read
    obtain ⟨⟨a, last⟩, second, same⟩ := bind_ok.mp next
    cases same
    obtain ⟨rfl, left⟩ := f.positional vs g mid first
    obtain ⟨rfl, right⟩ := x.positional _ a _ second
    refine ⟨by simp, ?_⟩
    rw [zip_split]
    exact List.forall_mem_append.mpr ⟨left, right⟩

variable (unknown : String → List String → E) (f : Fields V E S within ρ α)

/-- Reads an object: every entry must be a field that its codec accepts. -/
def ofEntries (entries : List (String × V)) : Except E α := do
  forM entries fun entry =>
    if entry.1 ∈ f.names then f.check entry.1 entry.2 else .error (unknown entry.1 f.names)
  f.read fun name => entries.lookup name

/-- Reads an array that ends with its last field. -/
def ofItems (long : Nat → E) (vs : List V) : Except E α := do
  let (a, rest) ← f.items vs
  if rest.length = 0 then .ok a else .error (long vs.length)

/-- What is written is read back, also among the entries of an object that lists them elsewhere. -/
theorem ofEntries_restores {r : ρ} (fits : f.Fits r) {entries : List (String × V)}
    (ours : ∀ entry ∈ entries, entry ∈ f.write r)
    (agrees : ∀ name ∈ f.names, entries.lookup name = (f.write r).lookup name) :
    f.ofEntries unknown entries = .ok (f.value r) := by
  refine bind_ok.mpr ⟨(), forM_ok.mpr ?_, f.restored r fits _ agrees⟩
  intro entry among
  rw [if_pos (f.covered r entry (ours entry among))]
  exact f.checked r fits entry (ours entry among)

theorem ofEntries_write {r : ρ} (fits : f.Fits r) :
    f.ofEntries unknown (f.write r) = .ok (f.value r) :=
  f.ofEntries_restores unknown fits (fun _ among => among) fun _ _ => rfl

/-- Every entry of an object that is read is a field, within the shape of the field. -/
theorem ofEntries_strict {entries : List (String × V)} {a : α}
    (read : f.ofEntries unknown entries = .ok a) {key : String} {v : V}
    (among : (key, v) ∈ entries) : ∃ shape, f.shapes.lookup key = some shape ∧ within shape v := by
  obtain ⟨_, accepted, _⟩ := bind_ok.mp read
  have entry := forM_ok.mp accepted (key, v) among
  by_cases named : key ∈ f.names
  · rw [if_pos named] at entry
    obtain ⟨shape, found⟩ := lookup_of_name named
    exact ⟨shape, found, f.guarded _ (lookup_mem found) v entry⟩
  · rw [if_neg named] at entry
    cases entry

theorem ofItems_strict {long : Nat → E} {vs : List V} {a : α} (read : f.ofItems long vs = .ok a) :
    vs.length ≤ f.shapes.length ∧ ∀ pair ∈ f.shapes.zip vs, within pair.1.2 pair.2 := by
  obtain ⟨⟨b, rest⟩, first, done⟩ := bind_ok.mp read
  obtain ⟨rfl, inside⟩ := f.positional vs b rest first
  refine ⟨?_, inside⟩
  by_contra longer
  have left : ¬(vs.drop f.shapes.length).length = 0 := by
    rw [List.length_drop]
    omega
  simp only [if_neg left] at done
  cases done

end Fields

end Records
