import DesktopTags.Proofs.QuotedText
import DesktopTags.Toml.Reader
import Mathlib.Tactic.ByContra

/-!
# TOML values in one line

Numbers, truth values, strings and arrays of strings are read back from the text of a
settings line.
-/

namespace DesktopTags.Toml

/-! ## Numbers -/

/-- Digits, one at least, and the end of the line. -/
def Numeral (ahead : List Char) : Prop :=
  ∃ digits rest, ahead = digits ++ '\n' :: rest ∧ ∀ digit ∈ digits, digit.isDigit = true

theorem Numeral.readFixed
    {ahead left : List Char} {count value : Nat}
    (numeral : Numeral ahead) (read : Toml.readFixed count ahead = some (value, left)) :
    Numeral left := by
  obtain ⟨digits, rest, rfl, decimal⟩ := numeral
  simp only [Toml.readFixed] at read
  split at read
  · rename_i fixed
    simp only [Bool.and_eq_true, decide_eq_true_eq, List.all_eq_true] at fixed
    obtain ⟨_, -, same⟩ := Option.map_eq_some_iff.mp read
    have within : count ≤ digits.length := by
      by_contra beyond
      obtain ⟨further, ahead⟩ : ∃ further, count - digits.length = further + 1 :=
        ⟨count - digits.length - 1, by omega⟩
      have taken : '\n' ∈ (digits ++ '\n' :: rest).take count := by
        simp [List.take_append, ahead]
      exact absurd (fixed.2 '\n' taken) (by decide)
    rw [← (Prod.mk.inj same).2, List.drop_append_of_le_length within]
    exact ⟨digits.drop count, rest, rfl,
      fun digit member => decimal digit (List.mem_of_mem_drop member)⟩
  · cases read

theorem Numeral.readWithin
    {ahead left : List Char} {count least greatest value : Nat}
    (numeral : Numeral ahead)
    (read : Toml.readWithin count least greatest ahead = some (value, left)) :
    Numeral left := by
  simp only [Toml.readWithin, Option.bind_eq_bind, Option.bind_eq_some_iff] at read
  obtain ⟨⟨value, left⟩, fixed, bounded⟩ := read
  obtain ⟨-, same⟩ := Option.ite_none_right_eq_some.mp bounded
  cases same
  exact numeral.readFixed fixed

/-- Behind digits stands neither a hyphen nor a colon. -/
theorem Numeral.pass?
    {ahead : List Char} {c : Char}
    (numeral : Numeral ahead) (decimal : c.isDigit = false) (lineFeed : c ≠ '\n') :
    Toml.pass? c ahead = none := by
  obtain ⟨digits, rest, rfl, all⟩ := numeral
  cases digits with
  | nil => simp [Toml.pass?, lineFeed.symm]
  | cons digit others =>
      have other : digit ≠ c := Text.ne_of_holds (all digit List.mem_cons_self) decimal
      simp [Toml.pass?, other]

theorem Numeral.readMoment {ahead : List Char} (numeral : Numeral ahead) :
    Toml.readMoment ahead = none := by
  have date : readDate ahead = none := by
    cases year : Toml.readFixed 4 ahead with
    | none => simp [readDate, year]
    | some read =>
        have stuck := (numeral.readFixed year).pass? (c := '-') rfl (by decide)
        simp [readDate, year, stuck]
  have time : readTime ahead = none := by
    cases hour : Toml.readWithin 2 0 23 ahead with
    | none => simp [readTime, hour]
    | some read =>
        have stuck := (numeral.readWithin hour).pass? (c := ':') rfl (by decide)
        simp [readTime, hour, stuck]
  simp [Toml.readMoment, date, time]

theorem isDigitOf_ten {digit : Char} (decimal : digit.isDigit = true) :
    isDigitOf 10 digit = true := by
  have bounds : 48 ≤ digit.toNat ∧ digit.toNat ≤ 57 := Char.isDigit_iff_toNat.mp decimal
  simp only [isDigitOf, Text.hexValue?_of_isDigit decimal, Option.any_some, decide_eq_true_eq]
  change digit.toNat - 48 < 10
  omega

theorem readMoreDigits_append
    {digits : List Char} (decimal : ∀ digit ∈ digits, digit.isDigit = true) (rest : List Char) :
    readMoreDigits 10 (digits ++ '\n' :: rest) = some (digits, '\n' :: rest) := by
  induction digits with
  | nil =>
      rw [List.nil_append, readMoreDigits.eq_def]
      rfl
  | cons digit others inductionHypothesis =>
      have more := inductionHypothesis fun later member =>
        decimal later (List.mem_cons_of_mem digit member)
      rw [List.cons_append, readMoreDigits.eq_def]
      simp [isDigitOf_ten (decimal digit List.mem_cons_self), more]

theorem readCount_toDigits (n : Nat) (rest : List Char) :
    readCount (Nat.toDigits 10 n ++ '\n' :: rest) = some (Nat.toDigits 10 n, '\n' :: rest) := by
  obtain ⟨digit, others, digits, decimal, leading⟩ := Text.toDigits_eq_cons n
  rw [digits, List.cons_append]
  unfold readCount
  split
  · rename_i same
    obtain ⟨rfl, rfl⟩ := List.cons.inj same
    rw [leading rfl, List.nil_append]
  · have more := readMoreDigits_append
      (fun d member => decimal d (List.mem_cons_of_mem digit member)) rest
    simp [readDigits, isDigitOf_ten (decimal digit List.mem_cons_self), more]

theorem readSign_toDigits (n : Nat) (rest : List Char) :
    readSign (Nat.toDigits 10 n ++ rest) = (false, Nat.toDigits 10 n ++ rest) := by
  obtain ⟨digit, others, digits, decimal, -⟩ := Text.toDigits_eq_cons n
  have isDigit := decimal digit List.mem_cons_self
  rw [digits, List.cons_append]
  unfold readSign
  split
  · rename_i same
    exact absurd (List.cons.inj same).1 (Text.ne_of_holds isDigit rfl)
  · rename_i same
    exact absurd (List.cons.inj same).1 (Text.ne_of_holds isDigit rfl)
  · rfl

theorem ofInt?_natCast {n : Nat} (small : n < 0x8000000000000000) :
    ofInt? n = some (.integer n) := by
  have bounds : -0x8000000000000000 ≤ (n : Int) ∧ (n : Int) < 0x8000000000000000 := by
    omega
  exact if_pos bounds

theorem readDecimal_of_unsigned {ahead : List Char} (unsigned : readSign ahead = (false, ahead)) :
    readDecimal ahead =
      (readCount ahead).bind fun (digits, left) =>
        (ofInt? (withSign false (valueOf 10 digits))).bind fun value => some (value, left) := by
  rw [readDecimal, unsigned]
  rfl

/-- What digits that are read stand for. It is stated for any meaning of digits, so
that no bound of 64 bits is unfolded where it is used. -/
theorem bind_digits
    {read : Option (List Char × List Char)} {digits left : List Char}
    {value? : List Char → Option Toml} {value : Toml}
    (isRead : read = some (digits, left)) (means : value? digits = some value) :
    (read.bind fun (digits, left) => (value? digits).bind fun value => some (value, left)) =
      some (value, left) := by
  rw [isRead]
  simp only [Option.bind_some, means]

theorem readDecimal_toDigits {n : Nat} (small : n < 0x8000000000000000) (rest : List Char) :
    readDecimal (Nat.toDigits 10 n ++ '\n' :: rest) = some (.integer n, '\n' :: rest) := by
  have value : withSign false (valueOf 10 (Nat.toDigits 10 n)) = n := by
    rw [withSign, valueOf, Text.digitsValue?_toDigits]
    rfl
  have means : ofInt? (withSign false (valueOf 10 (Nat.toDigits 10 n))) = some (.integer n) :=
    (congrArg ofInt? value).trans (ofInt?_natCast small)
  exact (readDecimal_of_unsigned (readSign_toDigits n _)).trans <|
    @bind_digits _ _ _ (fun digits => ofInt? (withSign false (valueOf 10 digits))) _
      (readCount_toDigits n rest) means

theorem readInteger_toDigits {n : Nat} (small : n < 0x8000000000000000) (rest : List Char) :
    readInteger (Nat.toDigits 10 n ++ '\n' :: rest) = some (.integer n, '\n' :: rest) := by
  have read := readDecimal_toDigits small rest
  obtain ⟨digit, others, digits, decimal, leading⟩ := Text.toDigits_eq_cons n
  rw [digits, List.cons_append] at read ⊢
  unfold readInteger
  split
  · rename_i same
    obtain ⟨rfl, same⟩ := List.cons.inj same
    rw [leading rfl] at same
    cases same
  · rename_i same
    obtain ⟨rfl, same⟩ := List.cons.inj same
    rw [leading rfl] at same
    cases same
  · rename_i same
    obtain ⟨rfl, same⟩ := List.cons.inj same
    rw [leading rfl] at same
    cases same
  · exact read

theorem readFraction_toDigits (n : Nat) (rest : List Char) :
    readFraction (Nat.toDigits 10 n ++ '\n' :: rest) = none := by
  simp [readFraction, readSign_toDigits, readCount_toDigits, readPlaces, readPower]

theorem readSpecial_toDigits (n : Nat) (rest : List Char) :
    readSpecial (Nat.toDigits 10 n ++ rest) = none := by
  obtain ⟨digit, others, digits, decimal, -⟩ := Text.toDigits_eq_cons n
  have isDigit := decimal digit List.mem_cons_self
  rw [readSpecial, readSign_toDigits, digits, List.cons_append]
  split
  · rename_i same
    exact absurd (List.cons.inj same).1 (Text.ne_of_holds isDigit rfl)
  · rename_i same
    exact absurd (List.cons.inj same).1 (Text.ne_of_holds isDigit rfl)
  · rfl

theorem readScalar_toDigits {n : Nat} (small : n < 0x8000000000000000) (rest : List Char) :
    readScalar (Nat.toDigits 10 n ++ '\n' :: rest) = some (.integer n, '\n' :: rest) := by
  have moment : readMoment (Nat.toDigits 10 n ++ '\n' :: rest) = none :=
    Numeral.readMoment ⟨_, rest, rfl, fun _ => Text.isDigit_of_mem_toDigits⟩
  have number : readNumber (Nat.toDigits 10 n ++ '\n' :: rest) =
      some (.integer n, '\n' :: rest) := by
    rw [readNumber, readFraction_toDigits, readSpecial_toDigits, readInteger_toDigits small]
    rfl
  obtain ⟨digit, others, digits, decimal, -⟩ := Text.toDigits_eq_cons n
  have isDigit := decimal digit List.mem_cons_self
  have other (c : Char) (isOther : c.isDigit = false) : digit ≠ c :=
    Text.ne_of_holds isDigit isOther
  rw [digits, List.cons_append] at moment number ⊢
  simp [readScalar, other '"' rfl, other '\'' rfl, other 't' rfl, other 'f' rfl, isDigit, moment,
    number]

/-! ## Values by their first characters -/

/-- What begins with no bracket is a value without brackets. -/
theorem readValue_of_plain
    {c : Char} (bracket : c ≠ '[') (brace : c ≠ '\x7b') (depth : Nat) (rest : List Char) :
    readValue depth (c :: rest) = readScalar (c :: rest) := by
  cases depth with
  | zero =>
      rfl
  | succ depth =>
      rw [readValue]
      · exact fun _ same => bracket (List.cons.inj same).1
      · exact fun _ same => brace (List.cons.inj same).1

theorem readValue_toDigits
    {n : Nat} (small : n < 0x8000000000000000) (depth : Nat) (rest : List Char) :
    readValue depth (Nat.toDigits 10 n ++ '\n' :: rest) = some (.integer n, '\n' :: rest) := by
  have read := readScalar_toDigits small rest
  obtain ⟨digit, others, digits, decimal, -⟩ := Text.toDigits_eq_cons n
  have isDigit := decimal digit List.mem_cons_self
  rw [digits, List.cons_append] at read ⊢
  rw [readValue_of_plain (Text.ne_of_holds isDigit rfl) (Text.ne_of_holds isDigit rfl), read]

theorem writeString_eq_cons (text : List Char) :
    ∃ mark others, writeString text = mark :: others ∧ (mark = '"' ∨ mark = '\'') := by
  have isMark : (Quote.forText text).mark = '"' ∨ (Quote.forText text).mark = '\'' := by
    rw [Quote.mark]
    split
    · exact .inr rfl
    · exact .inl rfl
  rw [writeString, Quote.write_eq, Quote.fence_eq, List.cons_append]
  exact ⟨_, _, rfl, isMark⟩

theorem readValue_writeString
    (text : List Char) {rest : List Char} (unquoted : Unquoted rest) (depth : Nat) :
    readValue depth (writeString text ++ rest) = some (.string (.ofList text), rest) := by
  have read := readString_writeString text unquoted
  obtain ⟨mark, others, begins, isMark⟩ := writeString_eq_cons text
  rw [begins, List.cons_append] at read ⊢
  rcases isMark with rfl | rfl <;>
  · rw [readValue_of_plain (by decide) (by decide)]
    simp [readScalar, read]

/-! ## Arrays -/

theorem skipLines_of_mark
    {mark : Char} (isMark : mark = '"' ∨ mark = '\'') (rest : List Char) :
    skipLines false (mark :: rest) = mark :: rest := by
  rcases isMark with rfl | rfl <;> simp [skipLines, isBlank]

theorem readItems_blank
    (readItem : List Char → Option (Toml × List Char)) (fuel : Nat) (ahead : List Char) :
    readItems readItem fuel (' ' :: ahead) = readItems readItem fuel ahead := by
  have skipped : skipLines false (' ' :: ahead) = skipLines false ahead := by
    simp [skipLines, isBlank]
  cases fuel with
  | zero => rfl
  | succ fuel => rw [readItems, readItems, skipped]

theorem readItems_lastString
    (depth fuel : Nat) (text rest : List Char) :
    readItems (readValue depth) (fuel + 1) (writeString text ++ ']' :: rest) =
      some ([.string (.ofList text)], rest) := by
  have read := readValue_writeString text ⟨']', rest, rfl, by decide, by decide⟩ depth
  obtain ⟨mark, inside, begins, isMark⟩ := writeString_eq_cons text
  rw [begins, List.cons_append] at read ⊢
  rw [readItems, skipLines_of_mark isMark]
  rcases isMark with rfl | rfl <;> simp [read, skipLines, isBlank]

theorem readItems_nextString
    (depth fuel : Nat) (text rest : List Char) :
    readItems (readValue depth) (fuel + 1) (writeString text ++ ',' :: rest) =
      (readItems (readValue depth) fuel rest).map
        fun (items, left) => (.string (.ofList text) :: items, left) := by
  have read := readValue_writeString text ⟨',', rest, rfl, by decide, by decide⟩ depth
  obtain ⟨mark, inside, begins, isMark⟩ := writeString_eq_cons text
  rw [begins, List.cons_append] at read ⊢
  rw [readItems, skipLines_of_mark isMark]
  rcases isMark with rfl | rfl <;>
    cases more : readItems (readValue depth) fuel rest <;>
      simp [read, skipLines, isBlank, more]

/-- Strings with commas between are read up to the closing bracket. -/
theorem readItems_writeString
    (depth : Nat) (texts : List String) {fuel : Nat}
    (enough :
      ([',', ' '].intercalate (texts.map fun text => writeString text.toList)).length < fuel)
    (rest : List Char) :
    readItems (readValue depth) fuel
        ([',', ' '].intercalate (texts.map fun text => writeString text.toList)
          ++ ']' :: rest) =
      some (texts.map Toml.string, rest) := by
  induction texts generalizing fuel with
  | nil =>
      obtain ⟨fuel, rfl⟩ := Nat.exists_eq_add_one_of_ne_zero (show fuel ≠ 0 by omega)
      simp [readItems, skipLines, isBlank]
  | cons text others inductionHypothesis =>
      obtain ⟨fuel, rfl⟩ := Nat.exists_eq_add_one_of_ne_zero (show fuel ≠ 0 by omega)
      cases others with
      | nil =>
          simp only [List.map_cons, List.map_nil, List.intercalate_singleton]
          rw [readItems_lastString, String.ofList_toList]
      | cons next others =>
          simp only [List.map_cons, List.intercalate_cons_cons, List.append_assoc,
            List.cons_append, List.nil_append, List.length_append,
            List.length_cons] at enough inductionHypothesis ⊢
          rw [readItems_nextString, readItems_blank, inductionHypothesis (by omega),
            String.ofList_toList]
          rfl

end DesktopTags.Toml
