import Mathlib.Data.List.Nodup

/-!
# Base64

Three bytes are four symbols of six bits. A last group of one or two bytes has two or three
symbols, whose unused bits are zero. The text for URLs has no padding; the standard text has
two other symbols and is padded to groups of four.
-/

namespace Base64

def alphabet : List Char :=
  "ABCDEFGHIJKLMNOPQRSTUVWXYZabcdefghijklmnopqrstuvwxyz0123456789-_".toList

def symbol (n : Nat) : Char := alphabet.getD n 'A'

def index (c : Char) : Option Nat := alphabet.findIdx? (· == c)

theorem alphabet_codes : alphabet.map Char.toNat =
    List.range' 65 26 ++ (List.range' 97 26 ++ (List.range' 48 10 ++ [45, 95])) :=
  (congrArg (List.map Char.toNat) String.toList_ofList).trans rfl

theorem alphabet_nodup : alphabet.Nodup := by
  apply List.Nodup.of_map Char.toNat
  rw [alphabet_codes]
  refine List.nodup_append'.mpr ⟨List.nodup_range', List.nodup_append'.mpr
    ⟨List.nodup_range', List.nodup_append'.mpr ⟨List.nodup_range', by decide, ?_⟩,
      ?_⟩, ?_⟩
  all_goals
    simp only [List.disjoint_left, List.mem_range'_1, List.mem_append, List.mem_cons,
      List.not_mem_nil, or_false]
    omega

theorem length_alphabet : alphabet.length = 64 := by
  rw [← List.length_map Char.toNat, alphabet_codes]
  rfl

theorem symbol_eq {n : Nat} (small : n < alphabet.length) : symbol n = alphabet[n] := by
  rw [symbol, List.getD_eq_getElem?_getD, List.getElem?_eq_getElem small, Option.getD_some]

theorem index_symbol : ∀ n < 64, index (symbol n) = some n := by
  intro n small
  rw [← length_alphabet] at small
  rw [index, List.findIdx?_eq_some_iff_getElem]
  refine ⟨small, ?_, ?_⟩
  · rw [symbol_eq small]
    exact beq_self_eq_true _
  · intro m before
    rw [symbol_eq small, Bool.not_eq_true, beq_eq_false_iff_ne]
    intro same
    exact absurd ((alphabet_nodup.getElem_inj_iff).mp same) (by omega)

theorem symbol_mem {n : Nat} (small : n < 64) : symbol n ∈ alphabet := by
  rw [← length_alphabet] at small
  rw [symbol_eq small]
  exact List.getElem_mem small

def encode : List UInt8 → List Char
  | [] => []
  | [a] => [symbol (a.toNat / 4), symbol (a.toNat % 4 * 16)]
  | [a, b] => [symbol (a.toNat / 4), symbol (a.toNat % 4 * 16 + b.toNat / 16),
      symbol (b.toNat % 16 * 4)]
  | a :: b :: c :: rest => symbol (a.toNat / 4) :: symbol (a.toNat % 4 * 16 + b.toNat / 16) ::
      symbol (b.toNat % 16 * 4 + c.toNat / 64) :: symbol (c.toNat % 64) :: encode rest

/-- The byte of the bits from two symbols. -/
def byte (n : Nat) : UInt8 := .ofNat n

def decode : List Char → Option (List UInt8)
  | [] => some []
  | [_] => none
  | [w, x] => do
    let w ← index w
    let x ← index x
    if x % 16 = 0 then some [byte (w * 4 + x / 16)] else none
  | [w, x, y] => do
    let w ← index w
    let x ← index x
    let y ← index y
    if y % 4 = 0 then some [byte (w * 4 + x / 16), byte (x % 16 * 16 + y / 4)] else none
  | w :: x :: y :: z :: rest => do
    let w ← index w
    let x ← index x
    let y ← index y
    let z ← index z
    let later ← decode rest
    some (byte (w * 4 + x / 16) :: byte (x % 16 * 16 + y / 4) :: byte (y % 4 * 64 + z) :: later)

theorem byte_eq {a : UInt8} {n : Nat} (same : n = a.toNat) : byte n = a := by
  rw [same, byte, UInt8.ofNat_toNat]

theorem decode_encode (bytes : List UInt8) : decode (encode bytes) = some bytes := by
  induction bytes using encode.induct with
  | case1 => rfl
  | case2 a =>
    have small := a.toNat_lt
    have first := index_symbol (a.toNat / 4) (by omega)
    have second := index_symbol (a.toNat % 4 * 16) (by omega)
    have whole : byte (a.toNat / 4 * 4 + a.toNat % 4 * 16 / 16) = a := byte_eq (by omega)
    have spare : a.toNat % 4 * 16 % 16 = 0 := by omega
    simp only [encode, decode, first, second, whole, spare, if_pos, Option.bind_eq_bind,
      Option.bind_some]
  | case3 a b =>
    have small := a.toNat_lt
    have small' := b.toNat_lt
    have first := index_symbol (a.toNat / 4) (by omega)
    have second := index_symbol (a.toNat % 4 * 16 + b.toNat / 16) (by omega)
    have third := index_symbol (b.toNat % 16 * 4) (by omega)
    have whole : byte (a.toNat / 4 * 4 + (a.toNat % 4 * 16 + b.toNat / 16) / 16) = a :=
      byte_eq (by omega)
    have whole' : byte ((a.toNat % 4 * 16 + b.toNat / 16) % 16 * 16 + b.toNat % 16 * 4 / 4) = b :=
      byte_eq (by omega)
    have spare : b.toNat % 16 * 4 % 4 = 0 := by omega
    simp only [encode, decode, first, second, third, whole, whole', spare, if_pos,
      Option.bind_eq_bind, Option.bind_some]
  | case4 a b c rest ih =>
    have small := a.toNat_lt
    have small' := b.toNat_lt
    have small'' := c.toNat_lt
    have first := index_symbol (a.toNat / 4) (by omega)
    have second := index_symbol (a.toNat % 4 * 16 + b.toNat / 16) (by omega)
    have third := index_symbol (b.toNat % 16 * 4 + c.toNat / 64) (by omega)
    have fourth := index_symbol (c.toNat % 64) (by omega)
    have whole : byte (a.toNat / 4 * 4 + (a.toNat % 4 * 16 + b.toNat / 16) / 16) = a :=
      byte_eq (by omega)
    have whole' : byte ((a.toNat % 4 * 16 + b.toNat / 16) % 16 * 16 +
        (b.toNat % 16 * 4 + c.toNat / 64) / 4) = b := byte_eq (by omega)
    have whole'' : byte ((b.toNat % 16 * 4 + c.toNat / 64) % 4 * 64 + c.toNat % 64) = c :=
      byte_eq (by omega)
    simp only [encode, decode, first, second, third, fourth, whole, whole', whole'', ih,
      Option.bind_eq_bind, Option.bind_some]

theorem length_encode (bytes : List UInt8) : (encode bytes).length = (4 * bytes.length + 2) / 3 := by
  induction bytes using encode.induct with
  | case1 => rfl
  | case2 a => simp [encode]
  | case3 a b => simp [encode]
  | case4 a b c rest ih =>
    simp only [encode, List.length_cons, ih]
    omega

theorem encode_symbols (bytes : List UInt8) : ∀ c ∈ encode bytes, ∃ n < 64, c = symbol n := by
  induction bytes using encode.induct with
  | case1 => simp [encode]
  | case2 a =>
    have small := a.toNat_lt
    simp only [encode, List.forall_mem_cons, List.not_mem_nil, false_implies, implies_true, and_true]
    exact ⟨⟨_, by omega, rfl⟩, ⟨_, by omega, rfl⟩⟩
  | case3 a b =>
    have small := a.toNat_lt
    have small' := b.toNat_lt
    simp only [encode, List.forall_mem_cons, List.not_mem_nil, false_implies, implies_true, and_true]
    exact ⟨⟨_, by omega, rfl⟩, ⟨_, by omega, rfl⟩, ⟨_, by omega, rfl⟩⟩
  | case4 a b c rest ih =>
    have small := a.toNat_lt
    have small' := b.toNat_lt
    have small'' := c.toNat_lt
    simp only [encode, List.forall_mem_cons]
    exact ⟨⟨_, by omega, rfl⟩, ⟨_, by omega, rfl⟩, ⟨_, by omega, rfl⟩, ⟨_, by omega, rfl⟩, ih⟩

theorem alphabet_ascii : ∀ c ∈ alphabet, c.utf8Size = 1 := by
  have table : alphabet.all (fun c => c.utf8Size == 1) = true := by
    unfold alphabet
    rw [String.toList_ofList]
    rfl
  exact fun c among => beq_iff_eq.mp (List.all_eq_true.mp table c among)

/-- Symbols are ASCII. -/
theorem encode_ascii (bytes : List UInt8) : ∀ c ∈ encode bytes, c.utf8Size = 1 := by
  intro c among
  obtain ⟨n, small, rfl⟩ := encode_symbols bytes c among
  exact alphabet_ascii _ (symbol_mem small)

/-! ## The standard text -/

/-- The byte `=`. -/
def pad : UInt8 := 61

/-- The standard text has `+` and `/` for `-` and `_`. -/
def standardSymbol (c : Char) : UInt8 :=
  if c = '-' then 43 else if c = '_' then 47 else UInt8.ofNat c.toNat

def urlSymbol (b : UInt8) : Option Char :=
  if b = 43 then some '-'
  else if b = 47 then some '_'
  else if b = 45 ∨ b = 95 then none
  else some (Char.ofNat b.toNat)

def encodePadded (bytes : List UInt8) : List UInt8 :=
  (encode bytes).map standardSymbol ++ List.replicate ((3 - bytes.length % 3) % 3) pad

def decodePadded (text : List UInt8) : Option (List UInt8) :=
  let symbols := text.takeWhile (· != pad)
  let padding := text.length - symbols.length
  if text = symbols ++ List.replicate padding pad ∧ padding ≤ 2 ∧ text.length % 4 = 0 then do
    decode (← symbols.mapM urlSymbol)
  else none

theorem alphabet_standard : alphabet.all (fun c => decide (urlSymbol (standardSymbol c) = some c ∧
    standardSymbol c ≠ pad ∧ standardSymbol c ≠ 60 ∧ (standardSymbol c).toNat < 128)) = true := by
  unfold alphabet
  rw [String.toList_ofList]
  rfl

theorem symbol_table (n : Nat) (small : n < 64) :
    urlSymbol (standardSymbol (symbol n)) = some (symbol n) ∧ standardSymbol (symbol n) ≠ pad ∧
      standardSymbol (symbol n) ≠ 60 ∧ (standardSymbol (symbol n)).toNat < 128 :=
  of_decide_eq_true (List.all_eq_true.mp alphabet_standard _ (symbol_mem small))

theorem urlSymbols (bytes : List UInt8) :
    ((encode bytes).map standardSymbol).mapM urlSymbol = some (encode bytes) := by
  have each := encode_symbols bytes
  generalize encode bytes = symbols at each ⊢
  induction symbols with
  | nil => rfl
  | cons c rest ih =>
    obtain ⟨⟨n, small, rfl⟩, later⟩ := List.forall_mem_cons.mp each
    rw [List.map_cons, List.mapM_cons, (symbol_table n small).1, ih later]
    rfl

theorem length_encodePadded (bytes : List UInt8) :
    (encodePadded bytes).length = (bytes.length + 2) / 3 * 4 := by
  rw [encodePadded, List.length_append, List.length_map, length_encode, List.length_replicate]
  omega

theorem decodePadded_encodePadded (bytes : List UInt8) :
    decodePadded (encodePadded bytes) = some bytes := by
  have symbols : (encodePadded bytes).takeWhile (· != pad) = (encode bytes).map standardSymbol := by
    have fresh : ∀ b ∈ (encode bytes).map standardSymbol, (b != pad) = true := by
      intro b among
      obtain ⟨c, inside, rfl⟩ := List.mem_map.mp among
      obtain ⟨n, small, rfl⟩ := encode_symbols bytes c inside
      exact bne_iff_ne.mpr (symbol_table n small).2.1
    rw [encodePadded, List.takeWhile_append_of_pos fresh]
    cases (3 - bytes.length % 3) % 3 <;> simp [List.replicate_succ]
  have padding : (encodePadded bytes).length - ((encode bytes).map standardSymbol).length =
      (3 - bytes.length % 3) % 3 := by
    rw [encodePadded, List.length_append, List.length_replicate]
    omega
  have whole : (encodePadded bytes).length % 4 = 0 := by
    rw [length_encodePadded]
    omega
  have few : (3 - bytes.length % 3) % 3 ≤ 2 := by omega
  unfold decodePadded
  dsimp only
  rw [symbols, padding, if_pos ⟨rfl, few, whole⟩, urlSymbols]
  exact decode_encode bytes

/-- No symbol and no padding opens a tag. -/
theorem encodePadded_plain (bytes : List UInt8) : 60 ∉ encodePadded bytes := by
  intro among
  obtain symbol | padding := List.mem_append.mp among
  · obtain ⟨c, inside, same⟩ := List.mem_map.mp symbol
    obtain ⟨n, small, rfl⟩ := encode_symbols bytes c inside
    exact (symbol_table n small).2.2.1 same
  · exact absurd (List.eq_of_mem_replicate padding) (by decide)

theorem encodePadded_ascii (bytes : List UInt8) : ∀ b ∈ encodePadded bytes, b.toNat < 128 := by
  intro b among
  obtain symbol | padding := List.mem_append.mp among
  · obtain ⟨c, inside, rfl⟩ := List.mem_map.mp symbol
    obtain ⟨n, small, rfl⟩ := encode_symbols bytes c inside
    exact (symbol_table n small).2.2.2
  · rw [List.eq_of_mem_replicate padding]
    decide

end Base64
