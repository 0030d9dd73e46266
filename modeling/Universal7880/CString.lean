import Mathlib.Data.Nat.Notation

/-!
# Text as the C library reads it

A C string is the list of its bytes before the terminating zero; an `int` is an `Int`, with the limits of the C type where
they matter.
-/

namespace Universal7880

/-! ## Limits of `int` and `long` -/

def INT_MIN : Int := -2147483648

def INT_MAX : Int := 2147483647

def LONG_MIN : Int := -9223372036854775808

def LONG_MAX : Int := 9223372036854775807

/-! ## Strings -/

/-- The bytes of a C string, without the terminating zero. -/
abbrev CString := List UInt8

/-- `isspace` in the C locale. -/
def isspace (c : UInt8) : Bool := c == 32 || (9 ≤ c && c ≤ 13)

/-- `isdigit`. -/
def isdigit (c : UInt8) : Bool := 48 ≤ c && c ≤ 57

/-- The value of the decimal digits a string begins with; zero if it begins with none. -/
def leadingNumber (s : CString) : ℕ := (s.takeWhile isdigit).foldl (fun n c => 10 * n + (c.toNat - 48)) 0

/-- The number that a string begins with, as the C library reads it: leading white space and one sign are skipped, and what
follows the digits is ignored. Zero if there is none. -/
def leadingInt (s : CString) : Int :=
  match s.dropWhile isspace with
  | [] => 0
  | c :: rest =>
    if c = 45 then -(leadingNumber rest : Int)
    else if c = 43 then leadingNumber rest
    else leadingNumber (c :: rest)

/-- `strtol` in base ten. A number that does not fit a `long`, which has 64 bits on arm64, becomes the limit that it is
beyond. -/
def strtol (s : CString) : Int := max LONG_MIN (min LONG_MAX (leadingInt s))

/-- `atoi`. C leaves it undefined where the number does not fit an `int`; the library of the platform returns
`(int) strtol(s, NULL, 10)`, of which the conversion keeps the low 32 bits. -/
def atoi (s : CString) : Int := (strtol s).bmod 4294967296

/-- What `atoi` returns is an `int`. -/
theorem fits_atoi (s : CString) : INT_MIN ≤ atoi s ∧ atoi s ≤ INT_MAX := by
  have hlow : -(((4294967296 : ℕ) : Int) / 2) ≤ atoi s := Int.le_bmod (by decide)
  have hhigh : atoi s < (((4294967296 : ℕ) : Int) + 1) / 2 := Int.bmod_lt (by decide)
  simp only [INT_MIN, INT_MAX]
  omega

/-- A number that fits an `int` is read as it is written. -/
theorem atoi_of_fits {s : CString} (hmin : INT_MIN ≤ leadingInt s) (hmax : leadingInt s ≤ INT_MAX) :
    atoi s = leadingInt s := by
  simp only [INT_MIN, INT_MAX] at hmin hmax
  have hlong : strtol s = leadingInt s := by
    simp only [strtol, LONG_MIN, LONG_MAX]
    omega
  rw [atoi, hlong]
  exact Int.bmod_eq_of_le (by omega) (by omega)

/-- `4294967298` is read as 2, and `-4294967291` as 5. -/
example : atoi [52, 50, 57, 52, 57, 54, 55, 50, 57, 56] = 2 ∧ atoi [45, 52, 50, 57, 52, 57, 54, 55, 50, 57, 49] = 5 := by
  decide +kernel

end Universal7880
