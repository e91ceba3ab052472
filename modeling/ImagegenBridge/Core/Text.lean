import Mathlib.Algebra.Order.Ring.Nat

/-!
# Text predicates of the Rust standard library

Lengths are UTF-8 byte counts, whitespace and control characters are Unicode's.
-/

namespace ImagegenBridge.Text

/-- `str::len`. -/
abbrev len (text : String) : Nat := text.utf8ByteSize

/-- `char::is_whitespace`: the Unicode property White_Space. -/
def isWhitespace (c : Char) : Bool :=
  let n := c.toNat
  (decide (0x9 ≤ n) && decide (n ≤ 0xD)) || n == 0x20 || n == 0x85 || n == 0xA0 || n == 0x1680
    || (decide (0x2000 ≤ n) && decide (n ≤ 0x200A)) || n == 0x2028 || n == 0x2029
    || n == 0x202F || n == 0x205F || n == 0x3000

/-- `text.trim().is_empty()`. -/
def isBlank (text : String) : Bool := text.toList.all isWhitespace

/-- `char::is_control`: the Unicode category Cc. -/
def isControl (c : Char) : Bool :=
  let n := c.toNat
  decide (n ≤ 0x1F) || (decide (0x7F ≤ n) && decide (n ≤ 0x9F))

def hasControl (text : String) : Bool := text.toList.any isControl

def isAsciiAlphanumeric (c : Char) : Bool :=
  let n := c.toNat
  (decide (0x30 ≤ n) && decide (n ≤ 0x39)) || (decide (0x41 ≤ n) && decide (n ≤ 0x5A))
    || (decide (0x61 ≤ n) && decide (n ≤ 0x7A))

def isAsciiHexdigit (c : Char) : Bool :=
  let n := c.toNat
  (decide (0x30 ≤ n) && decide (n ≤ 0x39)) || (decide (0x41 ≤ n) && decide (n ≤ 0x46))
    || (decide (0x61 ≤ n) && decide (n ≤ 0x66))

def toAsciiLowercase (c : Char) : Char :=
  if 0x41 ≤ c.toNat ∧ c.toNat ≤ 0x5A then Char.ofNat (c.toNat + 0x20) else c

def lowercase (text : List Char) : List Char := text.map toAsciiLowercase

def eqIgnoreAsciiCase (left right : List Char) : Bool := lowercase left == lowercase right

/-- A byte a portable file name may contain. -/
def isPortable (c : Char) : Bool := isAsciiAlphanumeric c || c == '-' || c == '_' || c == '.'

/-- `text.split(separator)`: the components between separators, at least one. -/
def splitOn (separator : Char) : List Char → List (List Char)
  | [] => [[]]
  | c :: rest =>
    if c = separator then [] :: splitOn separator rest
    else match splitOn separator rest with
      | [] => [[c]]
      | first :: others => (c :: first) :: others

/-- `text.rsplit_once('.')`: what follows the last dot, when there is one. -/
def extension? (name : List Char) : Option (List Char) :=
  if name.contains '.' then (splitOn '.' name).getLast? else none

def startsWith (text start : List Char) : Bool := start.isPrefixOf text

/-- `text.contains(pattern)`. -/
def containsSlice (pattern : List Char) : List Char → Bool
  | [] => pattern.isEmpty
  | c :: rest => pattern.isPrefixOf (c :: rest) || containsSlice pattern rest

/-- `text.trim()`. -/
def trim (text : String) : String :=
  String.ofList (((text.toList.dropWhile isWhitespace).reverse.dropWhile isWhitespace).reverse)

/-- `text.strip_prefix(start)`. -/
def stripStart (start text : String) : Option String :=
  if startsWith text.toList start.toList then some (String.ofList (text.toList.drop start.length))
  else none

/-- Insertion into a `BTreeSet` of texts, listed in order. -/
def insertSorted (texts : List String) (text : String) : List String :=
  match texts with
  | [] => [text]
  | head :: rest =>
    if head = text then head :: rest
    else if text < head then text :: head :: rest
    else head :: insertSorted rest text

@[simp] theorem len_append (a b : String) : len (a ++ b) = len a + len b := by
  simp [len]

theorem len_append_le {a b : String} {m n : Nat} (first : len a ≤ m) (second : len b ≤ n) :
    len (a ++ b) ≤ m + n := by
  rw [len_append]
  exact Nat.add_le_add first second

/-- No character takes more than four bytes. -/
theorem len_le (text : List Char) : len (String.ofList text) ≤ 4 * text.length := by
  unfold len
  induction text with
  | nil => exact Nat.le_of_eq (by rfl)
  | cons c text ih =>
    have more : String.ofList (c :: text) = String.ofList [c] ++ String.ofList text := by
      rw [← String.ofList_append]
      rfl
    have one : (String.ofList [c]).utf8ByteSize = c.utf8Size := String.utf8ByteSize_singleton
    have short := c.utf8Size_le_four
    rw [more, String.utf8ByteSize_append, one, List.length_cons]
    omega

theorem len_joined {a b : String} {m n : Nat} (first : len a = m) (second : len b = n) :
    len (a ++ b) = m + n := by
  rw [len_append, first, second]

theorem len_spelled {text : String} {chars : List Char} (spelled : text = String.ofList chars) :
    len text = (chars.map Char.utf8Size).sum := by
  subst spelled
  unfold len
  induction chars with
  | nil => rfl
  | cons c chars ih =>
    have more : String.ofList (c :: chars) = String.ofList [c] ++ String.ofList chars := by
      rw [← String.ofList_append]
      rfl
    have one : (String.ofList [c]).utf8ByteSize = c.utf8Size := String.utf8ByteSize_singleton
    rw [more, String.utf8ByteSize_append, one, ih, List.map_cons, List.sum_cons]

theorem length_spelled {text : String} {chars : List Char} {bound : Nat}
    (spelled : text = String.ofList chars) (short : Nat.ble chars.length bound = true) :
    text.length ≤ bound := by
  rw [spelled, String.length_ofList]
  exact Nat.le_of_ble_eq_true short

theorem lowercase_spelled {text : String} {chars : List Char} (spelled : text = String.ofList chars)
    (small : chars.map toAsciiLowercase = chars) :
    String.ofList (text.toList.map toAsciiLowercase) = text := by
  subst spelled
  rw [String.toList_ofList, small]

/-- Appending never makes a text blank. -/
theorem isBlank_append {a : String} (b : String) (h : isBlank a = false) :
    isBlank (a ++ b) = false := by
  simp only [isBlank, String.toList_append, List.all_append, Bool.and_eq_false_iff] at h ⊢
  exact Or.inl h

end ImagegenBridge.Text
