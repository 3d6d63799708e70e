set_option autoImplicit false

/-! The parts of Python's `str` and `int` that the port metadata goes through. -/

namespace Anyserial.Kit

/-- `str.isspace`. -/
def isSpace (c : Char) : Bool :=
  let code := c.toNat
  (9 ≤ code && code ≤ 13) || (28 ≤ code && code ≤ 32) || code = 0x85 || code = 0xA0 || code = 0x1680 ||
    (0x2000 ≤ code && code ≤ 0x200A) || code = 0x2028 || code = 0x2029 || code = 0x202F || code = 0x205F || code = 0x3000

/-- `str.strip`. -/
def strip (text : String) : String :=
  String.ofList ((text.toList.dropWhile isSpace).reverse.dropWhile isSpace).reverse

/-- Python's `0{width}x`: the sign comes before the zeros and counts to the width. -/
def hexDigits (width : Nat) (value : Int) : List Char :=
  let sign := if value < 0 then ['-'] else []
  let digits := Nat.toDigits 16 value.natAbs
  sign ++ List.replicate (width - sign.length - digits.length) '0' ++ digits

def upperHex (value : Int) : String := String.ofList ((hexDigits 4 value).map Char.toUpper)

def hexDigit (c : Char) : Option Nat :=
  if '0' ≤ c ∧ c ≤ '9' then some (c.toNat - '0'.toNat)
  else if 'a' ≤ c ∧ c ≤ 'f' then some (c.toNat - 'a'.toNat + 10)
  else if 'A' ≤ c ∧ c ≤ 'F' then some (c.toNat - 'A'.toNat + 10)
  else none

/-- The zeros of the decimal digits beyond ASCII. The other nine digits follow each zero. -/
def decimalZeros : List Nat :=
  [0x660, 0x6F0, 0x7C0, 0x966, 0x9E6, 0xA66, 0xAE6, 0xB66, 0xBE6, 0xC66, 0xCE6, 0xD66, 0xDE6, 0xE50, 0xED0,
    0xF20, 0x1040, 0x1090, 0x17E0, 0x1810, 0x1946, 0x19D0, 0x1A80, 0x1A90, 0x1B50, 0x1BB0, 0x1C40, 0x1C50,
    0xA620, 0xA8D0, 0xA900, 0xA9D0, 0xA9F0, 0xAA50, 0xABF0, 0xFF10, 0x104A0, 0x10D30, 0x11066, 0x110F0,
    0x11136, 0x111D0, 0x112F0, 0x11450, 0x114D0, 0x11650, 0x116C0, 0x11730, 0x118E0, 0x11950, 0x11C50,
    0x11D50, 0x11DA0, 0x11F50, 0x16A60, 0x16AC0, 0x16B50, 0x1D7CE, 0x1D7D8, 0x1D7E2, 0x1D7EC, 0x1D7F6,
    0x1E140, 0x1E2F0, 0x1E4F0, 0x1E950, 0x1FBF0]

/-- `int` reads a decimal digit of any script as the ASCII digit. -/
def asciiDigit (c : Char) : Char :=
  match decimalZeros.find? fun start => start ≤ c.toNat ∧ c.toNat < start + 10 with
  | some start => Char.ofNat ('0'.toNat + (c.toNat - start))
  | none => c

/-- The digits after the first: an underscore may stand between two of them. -/
def hexNumber (value : Nat) : List Char → Option Nat
  | [] => some value
  | '_' :: c :: rest => do hexNumber (16 * value + (← hexDigit c)) rest
  | c :: rest => do hexNumber (16 * value + (← hexDigit c)) rest

/-- `int(text, 16)`: a sign and a `0x` may come first. -/
def intBase16 (text : String) : Option Int :=
  let (negative, unsigned) := match (strip text).toList.map asciiDigit with
    | '+' :: rest => (false, rest)
    | '-' :: rest => (true, rest)
    | rest => (false, rest)
  let digits := match unsigned with
    | '0' :: 'x' :: '_' :: rest | '0' :: 'X' :: '_' :: rest => rest
    | '0' :: 'x' :: rest | '0' :: 'X' :: rest => rest
    | rest => rest
  match digits with
  | [] => none
  | c :: rest => do
      let value ← hexNumber (← hexDigit c) rest
      some (if negative then -value else value)

example : intBase16 " 0x0403\n" = some 0x403 := by decide

section Ascii

variable {c : Char}

/-- What is true of ASCII, character by character, and of everything beyond it. -/
theorem ascii_cases {motive : Char → Prop} (ascii : ∀ n < 128, motive (Char.ofNat n)) (beyond : ∀ c, 128 ≤ c.toNat → motive c)
    (c : Char) : motive c := by
  by_cases inside : c.toNat < 128
  · exact Char.ofNat_toNat c ▸ ascii c.toNat inside
  · exact beyond c (Nat.not_lt.mp inside)

theorem not_le_of_beyond (beyond : 128 ≤ c.toNat) {d : Char} (ascii : d.toNat < 128) : ¬c ≤ d := by
  intro le
  have toNat := UInt32.le_iff_toNat_le.mp (Char.le_def.mp le)
  exact absurd (Nat.lt_of_le_of_lt toNat ascii) (Nat.not_lt.mpr beyond)

theorem toLower_beyond (beyond : 128 ≤ c.toNat) : c.toLower = c :=
  dif_neg fun range => not_le_of_beyond beyond (by decide : 'Z'.toNat < 128) range.2

theorem toUpper_beyond (beyond : 128 ≤ c.toNat) : c.toUpper = c :=
  dif_neg fun range => not_le_of_beyond beyond (by decide : 'z'.toNat < 128) range.2

theorem toUpper_toUpper (c : Char) : c.toUpper.toUpper = c.toUpper :=
  ascii_cases (motive := fun c => c.toUpper.toUpper = c.toUpper) (by decide +kernel)
    (fun c beyond => by rw [toUpper_beyond beyond, toUpper_beyond beyond]) c

theorem toUpper_toLower (c : Char) : c.toLower.toUpper = c.toUpper :=
  ascii_cases (motive := fun c => c.toLower.toUpper = c.toUpper) (by decide +kernel)
    (fun c beyond => by rw [toLower_beyond beyond]) c

theorem toLower_toUpper (c : Char) : c.toUpper.toLower = c.toLower :=
  ascii_cases (motive := fun c => c.toUpper.toLower = c.toLower) (by decide +kernel)
    (fun c beyond => by rw [toUpper_beyond beyond]) c

theorem hexDigit_beyond (beyond : 128 ≤ c.toNat) : hexDigit c = none := by
  have above (d : Char) (ascii : d.toNat < 128) : ¬c ≤ d := not_le_of_beyond beyond ascii
  rw [hexDigit, if_neg fun range => above '9' (by decide) range.2, if_neg fun range => above 'f' (by decide) range.2,
    if_neg fun range => above 'F' (by decide) range.2]

theorem asciiDigit_of_hexDigit {digit : Nat} (value : hexDigit c = some digit) : asciiDigit c = c := by
  have inside : c.toNat < 128 := by
    refine Nat.lt_of_not_le fun outside => ?_
    rw [hexDigit_beyond outside] at value
    cases value
  have above : ∀ start ∈ decimalZeros, 128 ≤ start := by decide
  have other : decimalZeros.find? (fun start => start ≤ c.toNat ∧ c.toNat < start + 10) = none := by
    refine List.find?_eq_none.mpr fun start member => ?_
    have beyond := above start member
    simp only [decide_eq_true_eq]
    omega
  rw [asciiDigit, other]

/-- A digit is known by its lower case. -/
theorem hexDigit_eq_some {digit : Nat} : hexDigit c = some digit ↔ digit < 16 ∧ c.toLower = Nat.digitChar digit := by
  by_cases inside : c.toNat < 128
  · have known : ∀ n < 128, (∀ digit < 16, hexDigit (Char.ofNat n) = some digit ↔ (Char.ofNat n).toLower = Nat.digitChar digit) ∧
        ∀ digit ∈ hexDigit (Char.ofNat n), digit < 16 := by decide +kernel
    obtain ⟨spelled, small⟩ := Char.ofNat_toNat c ▸ known c.toNat inside
    exact ⟨fun value => ⟨small digit value, (spelled digit (small digit value)).mp value⟩, fun ⟨lt, same⟩ => (spelled digit lt).mpr same⟩
  · have beyond := Nat.not_lt.mp inside
    rw [hexDigit_beyond beyond, toLower_beyond beyond]
    constructor
    · rintro ⟨⟩
    · rintro ⟨small, rfl⟩
      have ascii : ∀ digit < 16, (Nat.digitChar digit).toNat < 128 := by decide
      exact absurd (ascii digit small) inside

end Ascii

section Hexadecimal

variable {a b c d : Char} {i j k l : Nat}

theorem hexDigits_snoc {width n digit : Nat} (wide : 1 ≤ width) (small : digit < 16) :
    hexDigits (width + 1) ((16 * n + digit : Nat) : Int) = hexDigits width (n : Int) ++ [Nat.digitChar digit] := by
  have last : Nat.toDigits 16 digit = [Nat.digitChar digit] := Nat.toDigits_of_lt_base small
  have positive (value : Nat) : ¬((value : Int) < 0) := Int.not_lt.mpr (Int.natCast_nonneg value)
  simp only [hexDigits, positive, if_false, Int.natAbs_natCast, List.length_nil, Nat.sub_zero, List.nil_append]
  by_cases zero : n = 0
  · subst zero
    rw [Nat.mul_zero, Nat.zero_add, last, Nat.toDigits_zero, List.length_singleton, List.length_singleton, Nat.add_sub_cancel]
    obtain ⟨width, rfl⟩ := Nat.exists_eq_add_of_le' wide
    rw [Nat.add_sub_cancel, List.replicate_succ']
  · rw [← Nat.toDigits_append_toDigits (by decide) (Nat.pos_of_ne_zero zero) small, last, List.length_append, List.length_singleton,
      Nat.add_sub_add_right, List.append_assoc]

/-- The number of four digits, the most significant first. -/
def ofHexDigits (i j k l : Nat) : Nat := 16 * (16 * (16 * i + j) + k) + l

theorem hexDigits_four (first : i < 16) (second : j < 16) (third : k < 16) (fourth : l < 16) :
    hexDigits 4 ((ofHexDigits i j k l : Nat) : Int) = [i, j, k, l].map Nat.digitChar := by
  have one : hexDigits 1 (i : Int) = [Nat.digitChar i] := by
    have positive : ¬((i : Int) < 0) := Int.not_lt.mpr (Int.natCast_nonneg i)
    simp only [hexDigits, positive, if_false, Int.natAbs_natCast, Nat.toDigits_of_lt_base first]
    rfl
  rw [ofHexDigits, hexDigits_snoc (by decide) fourth, hexDigits_snoc (by decide) third, hexDigits_snoc (by decide) second, one]
  rfl

/-- A digit is neither white space nor one of the signs of a number. -/
theorem plain_of_hexDigit (digit : hexDigit c = some i) :
    isSpace c = false ∧ c ≠ '+' ∧ c ≠ '-' ∧ c ≠ 'x' ∧ c ≠ 'X' ∧ c ≠ '_' := by
  have plain : (hexDigit c).isSome = true → isSpace c = false ∧ c ≠ '+' ∧ c ≠ '-' ∧ c ≠ 'x' ∧ c ≠ 'X' ∧ c ≠ '_' :=
    ascii_cases (motive := fun c => (hexDigit c).isSome = true →
      isSpace c = false ∧ c ≠ '+' ∧ c ≠ '-' ∧ c ≠ 'x' ∧ c ≠ 'X' ∧ c ≠ '_') (by decide +kernel)
      (fun c beyond some => by simp [hexDigit_beyond beyond] at some) c
  exact plain (by simp [digit])

theorem intBase16_four (first : hexDigit a = some i) (second : hexDigit b = some j) (third : hexDigit c = some k)
    (fourth : hexDigit d = some l) : intBase16 (String.ofList [a, b, c, d]) = some (ofHexDigits i j k l : Nat) := by
  obtain ⟨spaceA, plusA, minusA, _, _, _⟩ := plain_of_hexDigit first
  obtain ⟨_, _, _, lowerX, upperX, underscoreB⟩ := plain_of_hexDigit second
  obtain ⟨_, _, _, _, _, underscoreC⟩ := plain_of_hexDigit third
  obtain ⟨spaceD, _, _, _, _, underscoreD⟩ := plain_of_hexDigit fourth
  have chars : (strip (String.ofList [a, b, c, d])).toList = [a, b, c, d] := by
    rw [strip, String.toList_ofList, String.toList_ofList]
    simp [spaceA, spaceD]
  unfold intBase16
  simp only [chars, List.map_cons, List.map_nil, asciiDigit_of_hexDigit first, asciiDigit_of_hexDigit second,
    asciiDigit_of_hexDigit third, asciiDigit_of_hexDigit fourth]
  simp [plusA, minusA, lowerX, upperX, hexNumber, first, second, third, fourth, ofHexDigits, underscoreC, underscoreB]

end Hexadecimal

end Anyserial.Kit
