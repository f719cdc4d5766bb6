import Mathlib.Data.Int.Notation
import Mathlib.Data.Nat.Notation

/-! Strings of C and C++ as lists of bytes. `atoi` skips white space and an optional
sign and reads decimal digits up to the first byte that is not one; a terminating
NUL is such a byte. Values outside the range of `int` are undefined in C and
unbounded here. `rfind` and `substr` are those of `std::string`, where the position
`npos` is `none` and so is the exception `std::out_of_range`. -/

namespace BluezTutorial.CString

def isSpace (c : UInt8) : Bool := c = 32 || (9 ≤ c && c ≤ 13)

def isDigit (c : UInt8) : Bool := 48 ≤ c && c ≤ 57

def digitValue (c : UInt8) : ℕ := c.toNat - 48

/-- Read digits behind the value `acc` of those already read. -/
def digits (acc : ℕ) : List UInt8 → ℕ
  | [] => acc
  | c :: rest => if isDigit c then digits (10 * acc + digitValue c) rest else acc

def atoi (text : List UInt8) : ℤ :=
  match text.dropWhile isSpace with
  | [] => 0
  | c :: rest =>
      if c = 45 then -(digits 0 rest)
      else if c = 43 then digits 0 rest
      else digits 0 (c :: rest)

/-- The byte that writes a number below 10. -/
def digit (n : ℕ) : UInt8 := UInt8.ofNat (48 + n)

def byte (c : Char) : UInt8 := UInt8.ofNat c.toNat

/-- The bytes of an ASCII literal. -/
def bytes (text : String) : List UInt8 := text.toList.map byte

/-- A number as `printf` writes it with `%u`. -/
def decimal (n : ℕ) : List UInt8 := (Nat.toDigits 10 n).map byte

/-- The position of the last occurrence of `c`. -/
def rfind {α : Type} [DecidableEq α] (c : α) : List α → Option ℕ
  | [] => none
  | head :: rest =>
      match rfind c rest with
      | some position => some (position + 1)
      | none => if head = c then some 0 else none

/-- The text from a position to its end. -/
def substr {α : Type} (text : List α) : Option ℕ → Option (List α)
  | none => none
  | some position => if position ≤ text.length then some (text.drop position) else none

/-- A command line split at blanks. -/
def words (line : List UInt8) : List (List UInt8) := (line.splitOn 32).filter (· ≠ [])

theorem isDigit_iff {c : UInt8} : isDigit c = true ↔ 48 ≤ c.toNat ∧ c.toNat ≤ 57 := by
  simp [isDigit, UInt8.le_iff_toNat_le]

theorem not_isSpace_of_isDigit {c : UInt8} (h : isDigit c = true) : isSpace c = false := by
  rw [isDigit_iff] at h
  have notBlank : c ≠ 32 := by
    rintro rfl
    simp at h
  simp only [isSpace, notBlank, decide_false, Bool.false_or, Bool.and_eq_false_iff,
    decide_eq_false_iff_not, UInt8.le_iff_toNat_le]
  right
  simp
  omega

theorem atoi_of_isDigit {c : UInt8} (h : isDigit c = true) (rest : List UInt8) :
    atoi (c :: rest) = digits 0 (c :: rest) := by
  have notSpace := not_isSpace_of_isDigit h
  have notMinus : c ≠ 45 := by
    rintro rfl
    simp [isDigit] at h
  have notPlus : c ≠ 43 := by
    rintro rfl
    simp [isDigit] at h
  simp [atoi, List.dropWhile, notSpace, notMinus, notPlus]

/-- One byte is its own value when it is a digit and is worth nothing otherwise. -/
theorem atoi_singleton (c : UInt8) :
    atoi [c] = if isDigit c then (digitValue c : ℤ) else 0 := by
  by_cases h : isDigit c = true
  · rw [atoi_of_isDigit h]
    simp [digits, h]
  · cases space : isSpace c with
    | true => simp [atoi, List.dropWhile, space, h]
    | false => simp [atoi, List.dropWhile, space, digits, h]

theorem atoi_singleton_le (c : UInt8) : (atoi [c]).toNat ≤ 9 := by
  rw [atoi_singleton]
  by_cases h : isDigit c = true
  · rw [if_pos h, Int.toNat_natCast, digitValue]
    rw [isDigit_iff] at h
    omega
  · simp [h]

theorem atoi_digit {n : ℕ} (small : n ≤ 9) : atoi [digit n] = n := by
  have value : (digit n).toNat = 48 + n := by
    rw [digit, UInt8.toNat_ofNat_of_lt']
    simp [UInt8.size]
    omega
  have isDigit : isDigit (digit n) = true := by
    rw [isDigit_iff]
    omega
  rw [atoi_singleton, if_pos isDigit, digitValue, value]
  omega

section Decimal

theorem byte_toNat {c : Char} (small : c.toNat < 256) : (byte c).toNat = c.toNat := by
  rw [byte, UInt8.toNat_ofNat_of_lt']
  exact small

theorem isDigit_byte {c : Char} (h : c.isDigit = true) :
    isDigit (byte c) = true ∧ digitValue (byte c) = c.toNat - 48 := by
  have range : 48 ≤ c.toNat ∧ c.toNat ≤ 57 := Char.isDigit_iff_toNat.mp h
  have value : (byte c).toNat = c.toNat := byte_toNat (by omega)
  constructor
  · rw [isDigit_iff, value]
    exact range
  · rw [digitValue, value]

theorem digits_map_byte {text : List Char} (all : ∀ c ∈ text, c.isDigit = true) (acc : ℕ) :
    digits acc (text.map byte) = Nat.ofDigitChars 10 text acc := by
  induction text generalizing acc with
  | nil => rfl
  | cons c text ih =>
      obtain ⟨digit, value⟩ := isDigit_byte (all c List.mem_cons_self)
      have rest : ∀ c ∈ text, c.isDigit = true := fun c hc => all c (List.mem_cons_of_mem _ hc)
      rw [List.map_cons, digits, if_pos digit, value, ih rest, Nat.ofDigitChars_cons]
      rfl

theorem isDigit_of_mem_toDigits {n : ℕ} : ∀ c ∈ Nat.toDigits 10 n, c.isDigit = true :=
  fun _ hc => Nat.isDigit_of_mem_toDigits (by omega) (by omega) hc

theorem isDigit_of_mem_decimal {n : ℕ} {c : UInt8} (hc : c ∈ decimal n) : isDigit c = true := by
  obtain ⟨char, hchar, rfl⟩ := List.mem_map.mp hc
  exact (isDigit_byte (isDigit_of_mem_toDigits char hchar)).1

/-- A byte that is not a digit does not occur in a number. -/
theorem not_mem_decimal {n : ℕ} {c : UInt8} (other : isDigit c = false) : c ∉ decimal n := by
  intro hc
  rw [isDigit_of_mem_decimal hc] at other
  exact Bool.noConfusion other

theorem atoi_decimal (n : ℕ) : atoi (decimal n) = n := by
  cases h : decimal n with
  | nil => exact absurd (List.map_eq_nil_iff.mp h) Nat.toDigits_ne_nil
  | cons c rest =>
      have first : isDigit c = true := isDigit_of_mem_decimal (h ▸ List.mem_cons_self)
      rw [atoi_of_isDigit first, ← h, decimal, digits_map_byte isDigit_of_mem_toDigits,
        Nat.ofDigitChars_ten_toDigits]

end Decimal

section Positions

variable {α : Type} [DecidableEq α] {c : α} {leaf : List α}

theorem rfind_of_not_mem (absent : c ∉ leaf) : rfind c leaf = none := by
  induction leaf with
  | nil => rfl
  | cons head leaf ih =>
      simp only [List.mem_cons, not_or] at absent
      rw [rfind, ih absent.2]
      exact if_neg (Ne.symm absent.1)

theorem rfind_append_cons (front : List α) (absent : c ∉ leaf) :
    rfind c (front ++ c :: leaf) = some front.length := by
  induction front with
  | nil => simp [rfind, rfind_of_not_mem absent]
  | cons head front ih => simp [rfind, ih]

/-- What `substr` takes from the last separator on starts with the separator. -/
theorem substr_rfind (front : List α) (absent : c ∉ leaf) :
    substr (front ++ c :: leaf) (rfind c (front ++ c :: leaf)) = some (c :: leaf) := by
  rw [rfind_append_cons front absent, substr]
  simp

end Positions

theorem words_append_cons {word : List UInt8} (absent : 32 ∉ word) (nonempty : word ≠ [])
    (rest : List UInt8) : words (word ++ 32 :: rest) = word :: words rest := by
  rw [words, List.splitOn_append_cons_self_of_not_mem absent, List.filter_cons_of_pos, words]
  simp [nonempty]

end BluezTutorial.CString
