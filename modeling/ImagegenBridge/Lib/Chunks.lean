import Mathlib.Algebra.Group.Nat.Defs
import Mathlib.Data.List.Basic

/-!
# Streams of records

A reader takes one record after the other off the front of a stream. What it takes are the
record's own bytes, whatever follows them, so that a stream which is written record by record is
read record by record.
-/

namespace Chunks

variable {β ρ σ ε : Type}

/-! ## Bytes and numbers -/

/-- The next elements of a stream, or an error where there are fewer. -/
def slice (size : Nat) (error : ε) (stream : List β) : Except ε (List β × List β) :=
  if size ≤ stream.length then .ok (stream.take size, stream.drop size) else .error error

theorem slice_append {part : List β} {size : Nat} (exact : part.length = size) (error : ε)
    (rest : List β) : slice size error (part ++ rest) = .ok (part, rest) := by
  subst exact
  rw [slice, if_pos (by rw [List.length_append]; omega), List.take_left, List.drop_left]

theorem slice_ok {size : Nat} {error : ε} {stream part rest : List β}
    (taken : slice size error stream = .ok (part, rest)) :
    stream = part ++ rest ∧ part.length = size := by
  unfold slice at taken
  split at taken
  · cases taken
    exact ⟨(List.take_append_drop ..).symm, List.length_take_of_le ‹_›⟩
  · cases taken

def littleEndian : List UInt8 → Nat
  | [] => 0
  | b :: rest => b.toNat + 256 * littleEndian rest

def bigEndian (bytes : List UInt8) : Nat := littleEndian bytes.reverse

def toLittleEndian : Nat → Nat → List UInt8
  | 0, _ => []
  | width + 1, n => UInt8.ofNat n :: toLittleEndian width (n / 256)

def toBigEndian (width n : Nat) : List UInt8 := (toLittleEndian width n).reverse

@[simp] theorem length_toLittleEndian (width n : Nat) : (toLittleEndian width n).length = width := by
  induction width generalizing n with
  | zero => rfl
  | succ width ih => rw [toLittleEndian, List.length_cons, ih]

@[simp] theorem length_toBigEndian (width n : Nat) : (toBigEndian width n).length = width := by
  rw [toBigEndian, List.length_reverse, length_toLittleEndian]

theorem littleEndian_toLittleEndian {width n : Nat} (fits : n < 256 ^ width) :
    littleEndian (toLittleEndian width n) = n := by
  induction width generalizing n with
  | zero =>
    rw [Nat.pow_zero] at fits
    rw [toLittleEndian, littleEndian]
    omega
  | succ width ih =>
    have later : n / 256 < 256 ^ width := by
      rw [Nat.pow_succ] at fits
      omega
    rw [toLittleEndian, littleEndian, ih later, UInt8.toNat_ofNat']
    omega

theorem littleEndian_lt (bytes : List UInt8) : littleEndian bytes < 256 ^ bytes.length := by
  induction bytes with
  | nil => decide
  | cons b rest ih =>
    have small := b.toNat_lt
    rw [littleEndian, List.length_cons, Nat.pow_succ]
    omega

theorem bigEndian_toBigEndian {width n : Nat} (fits : n < 256 ^ width) :
    bigEndian (toBigEndian width n) = n := by
  rw [bigEndian, toBigEndian, List.reverse_reverse, littleEndian_toLittleEndian fits]

/-! ## Marks in a text -/

section Cut

variable [DecidableEq β]

/-- What stands before the first occurrence of a mark, and what follows it. -/
def cut (mark : List β) : List β → Option (List β × List β)
  | [] => if mark = [] then some ([], []) else none
  | c :: rest =>
    if mark <+: c :: rest then some ([], (c :: rest).drop mark.length)
    else (cut mark rest).map fun (before, after) => (c :: before, after)

theorem cut_split {mark text before after : List β} (found : cut mark text = some (before, after)) :
    text = before ++ (mark ++ after) := by
  induction text generalizing before with
  | nil =>
    rw [cut] at found
    split at found
    · cases found
      subst ‹mark = []›
      rfl
    · cases found
  | cons c rest ih =>
    rw [cut] at found
    split at found
    · rename_i here
      cases found
      obtain ⟨tail, split⟩ := here
      rw [← split, List.drop_left, List.nil_append]
    · obtain ⟨⟨first, last⟩, later, same⟩ := Option.map_eq_some_iff.mp found
      cases same
      rw [ih later, List.cons_append]

/-- A mark that was found is found in a longer text. -/
theorem cut_append {mark text before after : List β} (found : cut mark text = some (before, after))
    (more : List β) : cut mark (text ++ more) = some (before, after ++ more) := by
  induction text generalizing before with
  | nil =>
    rw [cut] at found
    split at found
    · cases found
      subst ‹mark = []›
      cases more <;> simp [cut]
    · cases found
  | cons c rest ih =>
    rw [cut] at found
    rw [List.cons_append, cut]
    split at found
    · rename_i here
      cases found
      have longer : mark <+: c :: (rest ++ more) :=
        here.trans (List.prefix_append (c :: rest) more)
      rw [if_pos longer, ← List.cons_append, List.drop_append_of_le_length here.length_le]
    · rename_i elsewhere
      obtain ⟨⟨first, last⟩, later, same⟩ := Option.map_eq_some_iff.mp found
      cases same
      have long : mark.length ≤ (c :: rest).length := by
        rw [cut_split later]
        simp only [List.length_cons, List.length_append]
        omega
      have outside : ¬mark <+: c :: (rest ++ more) := fun here => elsewhere
        (List.prefix_of_prefix_length_le here (List.prefix_append (c :: rest) more) long)
      rw [if_neg outside, ih later]
      rfl

/-- A mark is found at the first place of its first element. -/
theorem cut_fresh {c : β} {mark before : List β} (fresh : c ∉ before) (after : List β) :
    cut (c :: mark) (before ++ (c :: mark ++ after)) = some (before, after) := by
  induction before with
  | nil =>
    have here : c :: mark <+: c :: (mark ++ after) := ⟨after, rfl⟩
    simp [cut, here]
  | cons b before ih =>
    rw [List.mem_cons, not_or] at fresh
    have elsewhere : ¬c :: mark <+: b :: (before ++ (c :: mark ++ after)) := fun here =>
      fresh.1 (List.cons_prefix_cons.mp here).1
    rw [List.cons_append, cut, if_neg elsewhere, ih fresh.2]
    rfl

end Cut

/-! ## Readers -/

structure Reader (ε β ρ : Type) where
  read : List β → Except ε (ρ × List β)
  /-- The bytes of a record. -/
  raw : ρ → List β
  splits : ∀ {stream r rest}, read stream = .ok (r, rest) → stream = raw r ++ rest ∧ raw r ≠ []
  keeps : ∀ {stream r rest}, read stream = .ok (r, rest) →
    ∀ other, read (raw r ++ other) = .ok (r, other)

/-- What a visitor makes of a record: the walk goes on or is over. -/
inductive Verdict (σ : Type) where
  | onward (s : σ)
  | done (s : σ)

namespace Reader

variable (reader : Reader ε β ρ)

/-- A record that is read back from its own bytes. -/
def Reads (r : ρ) : Prop := reader.raw r ≠ [] ∧ ∀ rest, reader.read (reader.raw r ++ rest) = .ok (r, rest)

variable {reader}

theorem reads {stream rest : List β} {r : ρ} (taken : reader.read stream = .ok (r, rest)) :
    reader.Reads r :=
  ⟨(reader.splits taken).2, reader.keeps taken⟩

theorem shorter {stream rest : List β} {r : ρ} (taken : reader.read stream = .ok (r, rest)) :
    rest.length < stream.length := by
  obtain ⟨split, filled⟩ := reader.splits taken
  have some_bytes := List.length_pos_of_ne_nil filled
  rw [split, List.length_append]
  omega

variable (reader)

/-- Visits the records of a stream, after a check at each of them. -/
def walk (enter : σ → Except ε σ) (visit : σ → ρ → Except ε (Verdict σ)) (s : σ) :
    List β → Except ε σ
  | [] => .ok s
  | b :: stream =>
    match enter s with
    | .error e => .error e
    | .ok s =>
      match _taken : reader.read (b :: stream) with
      | .error e => .error e
      | .ok (r, rest) =>
        match visit s r with
        | .error e => .error e
        | .ok (.done s) => .ok s
        | .ok (.onward s) => walk enter visit s rest
termination_by stream => stream.length
decreasing_by exact shorter _taken

/-- The same visit on records that have been read already. -/
def follow (enter : σ → Except ε σ) (visit : σ → ρ → Except ε (Verdict σ)) :
    σ → List ρ → Except ε (Verdict σ)
  | s, [] => .ok (.onward s)
  | s, r :: rs =>
    match enter s with
    | .error e => .error e
    | .ok s =>
      match visit s r with
      | .error e => .error e
      | .ok (.done s) => .ok (.done s)
      | .ok (.onward s) => follow enter visit s rs

/-- The records a stream begins with. -/
def records : List β → List ρ
  | [] => []
  | b :: stream =>
    match _taken : reader.read (b :: stream) with
    | .error _ => []
    | .ok (r, rest) => r :: records rest
termination_by stream => stream.length
decreasing_by exact shorter _taken

variable {reader} {enter : σ → Except ε σ} {visit : σ → ρ → Except ε (Verdict σ)} {s t : σ}

theorem walk_read {r : ρ} (reads : reader.Reads r) (rest : List β) :
    reader.walk enter visit s (reader.raw r ++ rest) =
      match enter s with
      | .error e => .error e
      | .ok s =>
        match visit s r with
        | .error e => .error e
        | .ok (.done s) => .ok s
        | .ok (.onward s) => reader.walk enter visit s rest := by
  obtain ⟨filled, read⟩ := reads
  obtain ⟨b, stream, split⟩ := List.exists_cons_of_ne_nil
    (List.append_ne_nil_of_left_ne_nil filled rest)
  have taken := read rest
  rw [split] at taken ⊢
  rw [walk]
  split
  · rfl
  · split
    · rename_i failed
      rw [taken] at failed
      cases failed
    · rename_i again
      rw [taken] at again
      cases again
      rfl

/-- A walk over records that stand in a stream is the same visit on the records. -/
theorem walk_records {rs : List ρ} (reads : ∀ r ∈ rs, reader.Reads r) (tail : List β) :
    reader.walk enter visit s (rs.flatMap reader.raw ++ tail) =
      match follow enter visit s rs with
      | .error e => .error e
      | .ok (.done s) => .ok s
      | .ok (.onward s) => reader.walk enter visit s tail := by
  induction rs generalizing s with
  | nil => rfl
  | cons r rs ih =>
    obtain ⟨first, later⟩ := List.forall_mem_cons.mp reads
    rw [List.flatMap_cons, List.append_assoc, walk_read first, follow]
    cases enter s with
    | error e => rfl
    | ok s =>
      cases visited : visit s r with
      | error e => simp [visited]
      | ok verdict =>
        cases verdict with
        | done s => simp [visited]
        | onward s => simp only [visited, ih later]

/-- A walk to the end of a stream visits its records. -/
theorem walk_all {rs : List ρ} (reads : ∀ r ∈ rs, reader.Reads r) :
    reader.walk enter visit s (rs.flatMap reader.raw) =
      (follow enter visit s rs).map fun | .done s => s | .onward s => s := by
  have whole := @walk_records _ _ _ _ reader enter visit s rs reads []
  rw [List.append_nil] at whole
  rw [whole]
  cases follow enter visit s rs with
  | error e => rfl
  | ok verdict => cases verdict <;> simp [walk, Except.map]

/-- A walk that no visitor ends has read the whole stream. -/
theorem walk_ok (goes : ∀ s r verdict, visit s r = .ok verdict → ∃ s', verdict = .onward s')
    {stream : List β} (walked : reader.walk enter visit s stream = .ok t) :
    ∃ rs, stream = rs.flatMap reader.raw ∧ (∀ r ∈ rs, reader.Reads r) ∧
      follow enter visit s rs = .ok (.onward t) := by
  induction long : stream.length using Nat.strongRecOn generalizing s stream with
  | ind size ih =>
    cases stream with
    | nil =>
      rw [walk] at walked
      cases walked
      refine ⟨[], rfl, ?_, rfl⟩
      intro r absent
      cases absent
    | cons b stream =>
      cases taken : reader.read (b :: stream) with
      | error e =>
        rw [walk] at walked
        split at walked
        · cases walked
        · split at walked
          · cases walked
          · rename_i again
            rw [taken] at again
            cases again
      | ok parts =>
        obtain ⟨r, rest⟩ := parts
        have split := (reader.splits taken).1
        rw [split, walk_read (reader.reads taken)] at walked
        cases admitted : enter s with
        | error e =>
          rw [admitted] at walked
          cases walked
        | ok s' =>
          simp only [admitted] at walked
          cases visited : visit s' r with
          | error e =>
            rw [visited] at walked
            cases walked
          | ok verdict =>
            obtain ⟨next, rfl⟩ := goes s' r verdict visited
            simp only [visited] at walked
            obtain ⟨rs, rest_split, later, followed⟩ :=
              ih rest.length (long ▸ shorter taken) walked rfl
            refine ⟨r :: rs, ?_, List.forall_mem_cons.mpr ⟨reader.reads taken, later⟩, ?_⟩
            · rw [split, List.flatMap_cons, rest_split]
            · simp only [follow, admitted, visited, followed]

theorem records_append {rs : List ρ} (reads : ∀ r ∈ rs, reader.Reads r) (tail : List β) :
    reader.records (rs.flatMap reader.raw ++ tail) = rs ++ reader.records tail := by
  induction rs with
  | nil => rfl
  | cons r rs ih =>
    obtain ⟨⟨filled, read⟩, later⟩ := List.forall_mem_cons.mp reads
    rw [List.flatMap_cons, List.append_assoc]
    obtain ⟨b, stream, split⟩ := List.exists_cons_of_ne_nil
      (List.append_ne_nil_of_left_ne_nil filled (rs.flatMap reader.raw ++ tail))
    have taken := read (rs.flatMap reader.raw ++ tail)
    rw [split] at taken ⊢
    rw [records]
    split
    · rename_i failed
      rw [taken] at failed
      cases failed
    · rename_i again
      rw [taken] at again
      cases again
      rw [ih later, List.cons_append]

/-- The records of a stream that holds nothing else. -/
theorem records_all {rs : List ρ} (reads : ∀ r ∈ rs, reader.Reads r) :
    reader.records (rs.flatMap reader.raw) = rs := by
  have whole := records_append reads []
  rw [List.append_nil, records, List.append_nil] at whole
  exact whole

/-- A stream is its records and a rest that no record begins. -/
theorem records_split (stream : List β) : ∃ tail,
    stream = (reader.records stream).flatMap reader.raw ++ tail ∧
      (∀ r ∈ reader.records stream, reader.Reads r) ∧
      (tail ≠ [] → ∃ e, reader.read tail = .error e) := by
  induction long : stream.length using Nat.strongRecOn generalizing stream with
  | ind size ih =>
    cases stream with
    | nil =>
      refine ⟨[], by simp [records], ?_, fun filled => absurd rfl filled⟩
      intro r absent
      rw [records] at absent
      cases absent
    | cons b stream =>
      cases taken : reader.read (b :: stream) with
      | error e =>
        have none_read : reader.records (b :: stream) = [] := by
          rw [records]
          split
          · rfl
          · rename_i again
            rw [taken] at again
            cases again
        rw [none_read]
        refine ⟨b :: stream, rfl, ?_, fun _ => ⟨e, taken⟩⟩
        intro r absent
        cases absent
      | ok parts =>
        obtain ⟨r, rest⟩ := parts
        have first := reader.reads taken
        have cons_read : reader.records (b :: stream) = r :: reader.records rest := by
          rw [records]
          split
          · rename_i failed
            rw [taken] at failed
            cases failed
          · rename_i again
            rw [taken] at again
            cases again
            rfl
        obtain ⟨tail, split, later, stuck⟩ := ih rest.length (long ▸ shorter taken) rest rfl
        rw [cons_read]
        refine ⟨tail, ?_, List.forall_mem_cons.mpr ⟨first, later⟩, stuck⟩
        rw [(reader.splits taken).1, List.flatMap_cons, List.append_assoc, ← split]

/-- Nothing but records stands in the stream. -/
def Whole (reader : Reader ε β ρ) (stream : List β) : Prop :=
  (reader.records stream).flatMap reader.raw = stream

/-- A walk decides itself on the records, or goes on to what is no record. -/
theorem walk_scan (stream : List β) : ∃ tail, (reader.Whole stream ↔ tail = []) ∧
    (tail ≠ [] → ∃ e, reader.read tail = .error e) ∧
    reader.walk enter visit s stream =
      match follow enter visit s (reader.records stream) with
      | .error e => .error e
      | .ok (.done s) => .ok s
      | .ok (.onward s) => reader.walk enter visit s tail := by
  obtain ⟨tail, split, reads, stuck⟩ := reader.records_split stream
  refine ⟨tail, ?_, stuck, ?_⟩
  · unfold Whole
    constructor
    · intro whole
      rw [whole] at split
      exact List.append_right_eq_self.mp split.symm
    · rintro rfl
      rw [List.append_nil] at split
      exact split.symm
  · rw [← walk_records reads tail, ← split]

theorem walk_stuck {tail : List β} (filled : tail ≠ [])
    (stuck : ∃ e, reader.read tail = .error e) : ∃ e, reader.walk enter visit s tail = .error e := by
  obtain ⟨b, stream, rfl⟩ := List.exists_cons_of_ne_nil filled
  obtain ⟨e, failed⟩ := stuck
  rw [walk]
  cases enter s with
  | error e' => exact ⟨e', rfl⟩
  | ok s' =>
    refine ⟨e, ?_⟩
    dsimp only
    split
    · rename_i again
      rw [failed] at again
      cases again
      rfl
    · rename_i again
      rw [failed] at again
      cases again

/-- A walk that no record ends is well exactly where nothing but records stands. -/
theorem walk_onward {stream : List β}
    (followed : follow enter visit s (reader.records stream) = .ok (.onward t)) :
    (reader.Whole stream → reader.walk enter visit s stream = .ok t) ∧
      (¬reader.Whole stream → ∃ e, reader.walk enter visit s stream = .error e) := by
  obtain ⟨tail, whole, stuck, walked⟩ := @walk_scan _ _ _ _ reader enter visit s stream
  rw [walked, followed, whole]
  constructor
  · rintro rfl
    exact walk.eq_1 ..
  · exact fun filled => walk_stuck filled (stuck filled)

/-- A record ends the walk. -/
theorem walk_ended {stream : List β} (result : Except ε σ)
    (followed : follow enter visit s (reader.records stream) = result.map .done) :
    reader.walk enter visit s stream = result := by
  obtain ⟨_, _, _, walked⟩ := @walk_scan _ _ _ _ reader enter visit s stream
  rw [walked, followed]
  cases result <;> rfl

theorem walk_refused {stream : List β} {e : ε}
    (followed : follow enter visit s (reader.records stream) = .error e) :
    reader.walk enter visit s stream = .error e :=
  walk_ended (.error e) followed

/-! ## Searches -/

/-- A visitor that looks for the first marked record before a stop. -/
def Seeks {α : Type} (stops marked : ρ → Bool) (take : ρ → Except ε α)
    (visit : Option α → ρ → Except ε (Verdict (Option α))) : Prop :=
  ∀ r, visit none r =
    if stops r then .ok (.done none)
    else if marked r then (take r).map (.done <| some ·)
    else .ok (.onward none)

section Search

variable {α : Type} {stops marked : ρ → Bool} {take : ρ → Except ε α}
  {visit : Option α → ρ → Except ε (Verdict (Option α))}

theorem follow_found (seeks : Seeks stops marked take visit) {rs : List ρ} {r : ρ}
    (found : (rs.takeWhile (!stops ·)).find? marked = some r) :
    follow .ok visit none rs = ((take r).map some).map .done := by
  induction rs with
  | nil => cases found
  | cons first rs ih =>
    rw [follow]
    dsimp only
    rw [seeks first]
    cases stop : stops first with
    | true => simp [stop] at found
    | false =>
      cases mark : marked first with
      | true =>
        simp only [List.takeWhile_cons, stop, Bool.not_false, if_true, List.find?_cons, mark,
          Option.some.injEq] at found
        subst found
        cases take first <;> rfl
      | false =>
        simp only [List.takeWhile_cons, stop, Bool.not_false, if_true, List.find?_cons, mark] at found
        exact ih found

theorem follow_missed (seeks : Seeks stops marked take visit) {rs : List ρ}
    (missed : (rs.takeWhile (!stops ·)).find? marked = none) :
    follow .ok visit none rs = .ok (if rs.any stops then .done none else .onward none) := by
  induction rs with
  | nil => rfl
  | cons first rs ih =>
    rw [follow, List.any_cons]
    dsimp only
    rw [seeks first]
    cases stop : stops first with
    | true => rfl
    | false =>
      cases mark : marked first with
      | true => simp [stop, mark] at missed
      | false =>
        simp only [List.takeWhile_cons, stop, Bool.not_false, if_true, List.find?_cons, mark] at missed
        exact ih missed

end Search

end Reader

end Chunks
