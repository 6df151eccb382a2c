import DesktopTags.Text.Hex

/-!
# Digits and the numbers of characters

A run of characters of one kind ends where another character follows. The decimal digits
of a number spell that number, and only zero has a leading zero. Every character is found
by its number.
-/

namespace DesktopTags.Text

/-! ## Runs of characters -/

section Runs

variable {holds : Char → Bool}

theorem ne_of_holds
    {c other : Char} (isTrue : holds c = true) (isFalse : holds other = false) : c ≠ other := by
  rintro rfl
  rw [isTrue] at isFalse
  cases isFalse

variable {rest : List Char}

theorem takeWhile_append_of_stops
    (stops : ∀ c ∈ rest.head?, holds c = false) (ahead : List Char) :
    (ahead ++ rest).takeWhile holds = ahead.takeWhile holds := by
  have ended : rest.takeWhile holds = [] := by
    cases rest with
    | nil => rfl
    | cons c others => exact List.takeWhile_cons_of_neg (by simp [stops c rfl])
  rw [List.takeWhile_append, ended, List.append_nil]
  split
  · rename_i taken
    exact ((List.takeWhile_prefix holds).eq_of_length taken).symm
  · rfl

theorem dropWhile_append_of_stops
    (stops : ∀ c ∈ rest.head?, holds c = false) (ahead : List Char) :
    (ahead ++ rest).dropWhile holds = ahead.dropWhile holds ++ rest := by
  have ended : rest.dropWhile holds = rest := by
    cases rest with
    | nil => rfl
    | cons c others => exact List.dropWhile_cons_of_neg (by simp [stops c rfl])
  rw [List.dropWhile_append, ended]
  split
  · rename_i dropped
    rw [List.isEmpty_iff.mp dropped, List.nil_append]
  · rfl

end Runs

/-! ## What digits spell -/

theorem isDigit_of_mem_toDigits {n : Nat} {digit : Char} (member : digit ∈ Nat.toDigits 10 n) :
    digit.isDigit = true :=
  Nat.isDigit_of_mem_toDigits (by decide) (by decide) member

theorem hexValue?_of_isDigit
    {digit : Char} (decimal : digit.isDigit = true) :
    hexValue? digit = some (digit.toNat - '0'.toNat) := by
  have bounds := Char.isDigit_iff_toNat.mp decimal
  have range : '0' ≤ digit ∧ digit ≤ '9' := by
    rw [Char.le_def, Char.le_def, UInt32.le_iff_toNat_le, UInt32.le_iff_toNat_le]
    exact bounds
  simp [hexValue?, range]

/-- Decimal digits have a value, whatever stands in front of them. -/
theorem foldl_digits
    {digits : List Char}
    (decimal : ∀ digit ∈ digits, digit.isDigit = true)
    (front : Nat) :
    digits.foldl
        (fun value? digit => do
          let value ← value?
          let d ← hexValue? digit
          if d < 10 then some (value * 10 + d) else none)
        (some front) =
      some (Nat.ofDigitChars 10 digits front) := by
  induction digits generalizing front with
  | nil =>
      simp
  | cons digit rest inductionHypothesis =>
      have first := decimal digit List.mem_cons_self
      have small : digit.toNat - '0'.toNat < 10 := by
        have bounds : 48 ≤ digit.toNat ∧ digit.toNat ≤ 57 :=
          Char.isDigit_iff_toNat.mp first
        change digit.toNat - 48 < 10
        omega
      rw [List.foldl_cons, Nat.ofDigitChars_cons,
        ← inductionHypothesis fun later isLater =>
          decimal later (List.mem_cons_of_mem digit isLater)]
      simp only [hexValue?_of_isDigit first, Option.bind_eq_bind, Option.bind_some,
        if_pos small, Nat.mul_comm]

theorem digitsValue?_toDigits (n : Nat) :
    digitsValue? 10 (Nat.toDigits 10 n) = some n := by
  rw [digitsValue?, foldl_digits fun _ => isDigit_of_mem_toDigits,
    Nat.ofDigitChars_ten_toDigits]

/-! ## No leading zero -/

/-- The first digit of a number is zero only if the number is. -/
theorem eq_zero_of_head_toDigits
    {n : Nat} (leading : (Nat.toDigits 10 n).head? = some '0') :
    n = 0 := by
  induction n using Nat.base_induction 10 (by decide) with
  | single n small =>
      rw [Nat.toDigits_of_lt_base small, List.head?_cons, Option.some_inj] at leading
      have spelled := Nat.toNat_digitChar_sub_48_of_lt_ten small
      rw [leading] at spelled
      exact spelled.symm
  | digit front last small positive inductionHypothesis =>
      rw [← Nat.toDigits_append_toDigits (by decide) positive small,
        List.head?_append, List.head?_eq_some_head Nat.toDigits_ne_nil,
        Option.some_or, ← List.head?_eq_some_head] at leading
      have zero := inductionHypothesis leading
      omega

/-- The digits of a number, first and rest. -/
theorem toDigits_eq_cons (n : Nat) :
    ∃ digit others, Nat.toDigits 10 n = digit :: others ∧
      (∀ d ∈ digit :: others, d.isDigit = true) ∧ (digit = '0' → others = []) := by
  cases digits : Nat.toDigits 10 n with
  | nil =>
      exact absurd digits Nat.toDigits_ne_nil
  | cons digit others =>
      refine ⟨digit, others, rfl, fun d member => ?_, ?_⟩
      · exact isDigit_of_mem_toDigits (digits ▸ member)
      · rintro rfl
        have zero : n = 0 := eq_zero_of_head_toDigits (by rw [digits]; rfl)
        subst zero
        exact (List.cons.inj digits).2.symm

/-! ## Characters by their numbers -/

theorem charOfNat?_toNat (c : Char) : charOfNat? c.toNat = some c := by
  have valid : c.toNat.isValidChar := c.valid
  rw [charOfNat?, if_pos, Char.ofNat_toNat]
  simp only [Nat.isValidChar] at valid
  simpa using valid

theorem digitsValue?_four
    {base n : Nat} {d₁ d₂ d₃ d₄ : Char}
    (spells : digitsValue? base [d₁, d₂, d₃, d₄] = some n) :
    ∃ v₁ v₂ v₃ v₄, hexValue? d₁ = some v₁ ∧ hexValue? d₂ = some v₂ ∧ hexValue? d₃ = some v₃ ∧
      hexValue? d₄ = some v₄ ∧ ((v₁ * base + v₂) * base + v₃) * base + v₄ = n := by
  simp only [digitsValue?, List.foldl_cons, List.foldl_nil, Option.bind_eq_bind,
    Option.bind_some, Option.bind_eq_some_iff, Option.ite_none_right_eq_some,
    Option.some.injEq, Nat.zero_mul, Nat.zero_add] at spells
  obtain ⟨_, ⟨_, ⟨_, ⟨v₁, first, -, rfl⟩, v₂, second, -, rfl⟩, v₃, third, -, rfl⟩,
    v₄, fourth, -, sum⟩ := spells
  exact ⟨v₁, v₂, v₃, v₄, first, second, third, fourth, sum⟩

/-- The number that four hexadecimal digits behind a backslash and a `u` spell. -/
def codeValue? : List Char → Option Nat
  | ['\\', 'u', d₁, d₂, d₃, d₄] => digitsValue? 16 [d₁, d₂, d₃, d₄]
  | _ => none

theorem eq_of_codeValue? {chars : List Char} {n : Nat} (spells : codeValue? chars = some n) :
    ∃ d₁ d₂ d₃ d₄, chars = ['\\', 'u', d₁, d₂, d₃, d₄] ∧
      digitsValue? 16 [d₁, d₂, d₃, d₄] = some n := by
  unfold codeValue? at spells
  split at spells
  · exact ⟨_, _, _, _, rfl, spells⟩
  · cases spells

end DesktopTags.Text
