import DesktopTags.Json.Printer
import DesktopTags.Json.Reader
import DesktopTags.Proofs.Digits
import Mathlib.Data.List.TakeWhile

/-!
# A JSON value and its text

The reader gives back every value that the printer wrote: `Json.ofText?_compact`.
-/

namespace DesktopTags.Json

/-! ## Strings -/

/-- A code is read as the number that it spells, whatever follows. -/
theorem readUnits_code
    {d₁ d₂ d₃ d₄ : Char} {unit : Nat}
    (spells : Text.digitsValue? 16 [d₁, d₂, d₃, d₄] = some unit)
    (ahead : List Char) :
    readUnits ('\\' :: 'u' :: d₁ :: d₂ :: d₃ :: d₄ :: ahead) =
      (readUnits ahead).map fun (units, left) => (unit :: units, left) := by
  rw [readUnits.eq_def]
  cases tail : readUnits ahead <;> simp [spells, tail]

/-- The ways in which a character can stand in a string literal. -/
inductive Stands (c : Char) : List Char → Prop
  | short (letter : Char) (other : letter ≠ 'u') (means : shortEscape? letter = some c) :
      Stands c ['\\', letter]
  | code (d₁ d₂ d₃ d₄ : Char) (spells : Text.digitsValue? 16 [d₁, d₂, d₃, d₄] = some c.toNat) :
      Stands c ['\\', 'u', d₁, d₂, d₃, d₄]
  | plain (quote : c ≠ '"') (backslash : c ≠ '\\') (printed : ¬c.toNat < 0x20) :
      Stands c [c]

/-- However a character stands, it is read as its number. -/
theorem Stands.readUnits
    {c : Char} {chars : List Char}
    (stands : Stands c chars) (ahead : List Char) :
    Json.readUnits (chars ++ ahead) =
      (Json.readUnits ahead).map fun (units, left) => (c.toNat :: units, left) := by
  cases stands with
  | short letter other means =>
      rw [Json.readUnits.eq_def]
      cases tail : Json.readUnits ahead <;> simp [means, other, tail]
  | code d₁ d₂ d₃ d₄ spells =>
      exact readUnits_code spells ahead
  | plain quote backslash printed =>
      rw [Json.readUnits.eq_def]
      cases tail : Json.readUnits ahead <;> simp [quote, backslash, printed, tail]

/-- The character that a letter behind a backslash stands for. -/
def shortValue? : List Char → Option Char
  | ['\\', letter] => shortEscape? letter
  | _ => none

theorem Stands.of_shortValue?
    {c : Char} {chars : List Char} (means : shortValue? chars = some c) : Stands c chars := by
  unfold shortValue? at means
  split at means
  · refine .short _ ?_ means
    rintro rfl
    cases means
  · cases means

theorem Stands.of_codeValue?
    {c : Char} {chars : List Char} (spells : Text.codeValue? chars = some c.toNat) :
    Stands c chars := by
  obtain ⟨d₁, d₂, d₃, d₄, rfl, value⟩ := Text.eq_of_codeValue? spells
  exact .code d₁ d₂ d₃ d₄ value

/-- A control character is written by its number or by a letter. -/
theorem escapedChar_control :
    ∀ n : Fin 0x20,
      Text.codeValue? (escapedChar (Char.ofNat n)) = some n.val ∨
        shortValue? (escapedChar (Char.ofNat n)) = some (Char.ofNat n) := by
  decide

theorem stands_escapedChar (c : Char) : Stands c (escapedChar c) := by
  by_cases control : c.toNat < 0x20
  · have known := escapedChar_control ⟨c.toNat, control⟩
    rw [Char.ofNat_toNat] at known
    exact known.elim .of_codeValue? .of_shortValue?
  · have printed (other : Char) (small : other.toNat < 0x20) : c ≠ other :=
      fun same => control (same ▸ small)
    by_cases quote : c = '"'
    · exact quote ▸ .short '"' (by decide) rfl
    by_cases backslash : c = '\\'
    · exact backslash ▸ .short '\\' (by decide) rfl
    have written : escapedChar c = [c] := by
      rw [escapedChar, if_neg quote, if_neg backslash, if_neg (printed '\x08' (by decide)),
        if_neg (printed '\x0c' (by decide)), if_neg (printed '\n' (by decide)),
        if_neg (printed '\r' (by decide)), if_neg (printed '\t' (by decide)),
        if_neg control]
    rw [written]
    exact .plain quote backslash control

theorem readUnits_escaped (text : List Char) (rest : List Char) :
    readUnits (text.flatMap escapedChar ++ '"' :: rest) =
      some (text.map Char.toNat, rest) := by
  induction text with
  | nil =>
      rw [List.flatMap_nil, List.nil_append, readUnits.eq_def]
      rfl
  | cons c text inductionHypothesis =>
      rw [List.flatMap_cons, List.append_assoc, (stands_escapedChar c).readUnits,
        inductionHypothesis]
      rfl

theorem isHighHalf_toNat (c : Char) : isHighHalf c.toNat = false := by
  have valid : c.toNat.isValidChar := c.valid
  simp only [Nat.isValidChar] at valid
  simp only [isHighHalf, Bool.and_eq_false_iff, decide_eq_false_iff_not]
  omega

/-- No character is half of a pair, so nothing is joined. -/
theorem joinHalves_map_toNat (text : List Char) :
    joinHalves (text.map Char.toNat) = some text := by
  induction text with
  | nil =>
      rfl
  | cons c rest inductionHypothesis =>
      cases rest with
      | nil =>
          simp [joinHalves, Text.charOfNat?_toNat]
      | cons next others =>
          simp only [List.map_cons] at inductionHypothesis ⊢
          simp [joinHalves, isHighHalf_toNat, Text.charOfNat?_toNat, inductionHypothesis]

theorem readString_literal (text : String) (rest : List Char) :
    readString (text.toList.flatMap escapedChar ++ '"' :: rest) = some (some text, rest) := by
  simp [readString, readUnits_escaped, joinHalves_map_toNat]

/-- Half of a pair is read as a literal that denotes nothing. -/
theorem readString_half (rest : List Char) :
    readString ('\\' :: 'u' :: 'd' :: '8' :: '0' :: '0' :: '"' :: rest) = some (none, rest) := by
  have ended : readUnits ('"' :: rest) = some ([], rest) :=
    readUnits_escaped [] rest
  have spells : Text.digitsValue? 16 ['d', '8', '0', '0'] = some 0xd800 := by
    decide
  rw [readString, readUnits_code spells, ended]
  rfl

/-! ## What stands behind a value -/

/-- Behind a value the text is over, or a comma or a closing bracket follows. -/
def Closed (rest : List Char) : Prop :=
  ∀ c ∈ rest.head?, c ∈ [',', ']', '}']

theorem closed_nil : Closed [] := by
  simp [Closed]

theorem closed_cons {c : Char} (closing : c ∈ [',', ']', '}']) (rest : List Char) :
    Closed (c :: rest) := by
  simpa [Closed] using closing

theorem Closed.eq_nil_or_cons {rest : List Char} (closed : Closed rest) :
    rest = [] ∨ ∃ c others, rest = c :: others ∧ (c = ',' ∨ c = ']' ∨ c = '}') := by
  cases rest with
  | nil => exact .inl rfl
  | cons c others => exact .inr ⟨c, others, rfl, by simpa [Closed] using closed⟩

/-- So a run of other characters ends there. -/
theorem Closed.stops
    {rest : List Char} (closed : Closed rest)
    {holds : Char → Bool}
    (comma : holds ',' = false) (bracket : holds ']' = false) (brace : holds '}' = false) :
    ∀ c ∈ rest.head?, holds c = false := by
  rcases closed.eq_nil_or_cons with rfl | ⟨c, others, rfl, rfl | rfl | rfl⟩
  · exact nofun
  · simpa using comma
  · simpa using bracket
  · simpa using brace

theorem Closed.skipSpace {rest : List Char} (closed : Closed rest) :
    Json.skipSpace rest = rest :=
  Text.dropWhile_append_of_stops (closed.stops rfl rfl rfl) []

/-! ## Numbers -/

theorem readDigits_append
    {ahead digits left rest : List Char}
    (isRead : readDigits ahead = some (digits, left)) (closed : Closed rest) :
    readDigits (ahead ++ rest) = some (digits, left ++ rest) := by
  have stops : ∀ c ∈ rest.head?, c.isDigit = false := closed.stops rfl rfl rfl
  unfold readDigits at isRead ⊢
  rw [Text.takeWhile_append_of_stops stops, Text.dropWhile_append_of_stops stops]
  dsimp only at isRead ⊢
  split at isRead
  · cases isRead
  · rename_i some
    rw [if_neg some]
    cases isRead
    rfl

theorem readDigits_toDigits (n : Nat) {rest : List Char} (closed : Closed rest) :
    readDigits (Nat.toDigits 10 n ++ rest) = some (Nat.toDigits 10 n, rest) := by
  have decimal : ∀ digit ∈ Nat.toDigits 10 n, digit.isDigit = true :=
    fun _ => Text.isDigit_of_mem_toDigits
  have alone : readDigits (Nat.toDigits 10 n) = some (Nat.toDigits 10 n, []) := by
    rw [readDigits, List.takeWhile_eq_self_iff.mpr decimal, List.dropWhile_eq_nil_iff.mpr decimal]
    exact if_neg (by simp [Nat.toDigits_ne_nil])
  exact readDigits_append alone closed

theorem readUnsigned_toDigits (n : Nat) {rest : List Char} (closed : Closed rest) :
    readUnsigned (Nat.toDigits 10 n ++ rest) = some (.nat n, rest) := by
  have leading : ¬((Nat.toDigits 10 n).head? = some '0' ∧ (Nat.toDigits 10 n).length > 1) := by
    rintro ⟨zero, long⟩
    rw [Text.eq_zero_of_head_toDigits zero] at long
    exact absurd long (by decide)
  rw [readUnsigned, readDigits_toDigits n closed]
  rcases closed.eq_nil_or_cons with rfl | ⟨c, others, rfl, rfl | rfl | rfl⟩ <;>
    simp [leading, Text.digitsValue?_toDigits]

/-- What begins with a digit or a minus is read as a number. -/
theorem readValue_numeral
    {c : Char} (numeral : c.isDigit = true ∨ c = '-')
    (fuel : Nat) (rest : List Char) :
    readValue (fuel + 1) (c :: rest) = readNumber (c :: rest) := by
  have other (letter : Char) (isOther : letter.isDigit = false ∧ letter ≠ '-') : c ≠ letter := by
    rintro rfl
    simp_all
  have space : isSpace c = false := by
    simp [isSpace, other ' ' (by decide), other '\t' (by decide), other '\n' (by decide),
      other '\r' (by decide)]
  rw [readValue, skipSpace, List.dropWhile_cons_of_neg (by simp [space])]
  simp [other '"' (by decide), other '[' (by decide), other '\x7b' (by decide),
    other 'n' (by decide), other 't' (by decide), other 'f' (by decide)]

theorem readValue_nat (fuel n : Nat) {rest : List Char} (closed : Closed rest) :
    readValue (fuel + 1) (Nat.toDigits 10 n ++ rest) = some (.nat n, rest) := by
  have read := readUnsigned_toDigits n closed
  obtain ⟨digit, others, digits, decimal, -⟩ := Text.toDigits_eq_cons n
  have isDigit := decimal digit List.mem_cons_self
  rw [digits, List.cons_append] at read ⊢
  rw [readValue_numeral (.inl isDigit), readNumber]
  · exact read
  · exact fun _ negative => Text.ne_of_holds isDigit rfl (List.cons.inj negative).1

theorem readValue_signed (fuel : Nat) {rest : List Char} (closed : Closed rest) :
    readValue (fuel + 1) ('-' :: '1' :: rest) = some (.signed, rest) := by
  have read : readUnsigned ('1' :: rest) = some (.nat 1, rest) :=
    readUnsigned_toDigits 1 closed
  rw [readValue_numeral (.inr rfl), readNumber, read]
  rfl

/-! ## Values -/

theorem readString_literalOrHalf (text : Option String) :
    ∃ inside, literalOrHalf text = '"' :: inside ∧
      ∀ rest, readString (inside ++ rest) = some (text, rest) := by
  cases text with
  | none =>
      exact ⟨['\\', 'u', 'd', '8', '0', '0', '"'], rfl, readString_half⟩
  | some text =>
      refine ⟨text.toList.flatMap escapedChar ++ ['"'], rfl, fun rest => ?_⟩
      rw [List.append_assoc]
      exact readString_literal text rest

theorem readValue_literal (fuel : Nat) (text : Option String) (rest : List Char) :
    readValue (fuel + 1) (literalOrHalf text ++ rest) = some (.string text, rest) := by
  obtain ⟨inside, written, read⟩ := readString_literalOrHalf text
  rw [written, List.cons_append, readValue, skipSpace,
    List.dropWhile_cons_of_neg (by decide)]
  simp [read]

theorem readName_literal (text : Option String) (rest : List Char) :
    readName (literalOrHalf text ++ ':' :: rest) = some (text, rest) := by
  obtain ⟨inside, written, read⟩ := readString_literalOrHalf text
  rw [written, List.cons_append, readName, skipSpace,
    List.dropWhile_cons_of_neg (by decide)]
  simp [read, skipSpace, isSpace]

/-- A text that begins with what neither is blank nor closes anything. -/
def Opens (text : List Char) : Prop :=
  ∃ first others, text = first :: others ∧ isSpace first = false ∧ first ∉ [']', '\x7d']

theorem Opens.skipSpace_append {text : List Char} (opens : Opens text) (rest : List Char) :
    skipSpace (text ++ rest) = text ++ rest := by
  obtain ⟨first, others, rfl, space, -⟩ := opens
  rw [List.cons_append, skipSpace, List.dropWhile_cons_of_neg (by simp [space])]

theorem opens_toDigits (n : Nat) : Opens (Nat.toDigits 10 n) := by
  obtain ⟨digit, others, digits, decimal, -⟩ := Text.toDigits_eq_cons n
  have other (letter : Char) (isOther : letter.isDigit = false) : digit ≠ letter :=
    Text.ne_of_holds (decimal digit List.mem_cons_self) isOther
  refine ⟨digit, others, digits, ?_, ?_⟩
  · simp [isSpace, other ' ' rfl, other '\t' rfl, other '\n' rfl, other '\r' rfl]
  · simp [other ']' rfl, other '\x7d' rfl]

theorem compactChars_nat (n : Nat) : compactChars (.nat n) = Nat.toDigits 10 n := by
  simp [compactChars, scalarChars, Nat.toString_eq_repr, Nat.toList_repr]

theorem opens_compactChars (value : Json) : Opens value.compactChars := by
  cases value with
  | null => exact ⟨_, _, rfl, rfl, by decide⟩
  | bool value => cases value <;> exact ⟨_, _, rfl, rfl, by decide⟩
  | nat n => exact compactChars_nat n ▸ opens_toDigits n
  | signed => exact ⟨_, _, rfl, rfl, by decide⟩
  | string text => cases text <;> exact ⟨_, _, rfl, rfl, by decide⟩
  | array items => exact ⟨_, _, rfl, rfl, by decide⟩
  | object members => exact ⟨_, _, rfl, rfl, by decide⟩

theorem Opens.intercalate {part : List Char} (opens : Opens part) (parts : List (List Char)) :
    Opens ([','].intercalate (part :: parts)) := by
  obtain ⟨first, others, rfl, facts⟩ := opens
  exact ⟨first, _, List.intercalate_cons_cons_left, facts⟩

theorem opens_literalOrHalf (text : Option String) (rest : List Char) :
    Opens (literalOrHalf text ++ rest) := by
  obtain ⟨inside, written, -⟩ := readString_literalOrHalf text
  rw [written]
  exact ⟨'"', inside ++ rest, rfl, rfl, by decide⟩

/-- Reading the text of a value gives the value, whatever closes it off. -/
def Reads (value : Json) : Prop :=
  ∀ fuel rest, 2 * value.compactChars.length ≤ fuel → Closed rest →
    readValue fuel (value.compactChars ++ rest) = some (value, rest)

/-- The items of an array, one at least, are read up to the bracket. -/
theorem readItems_compactItems
    {items : List Json}
    (reads : ∀ item ∈ items, Reads item)
    (several : items ≠ [])
    {fuel : Nat}
    (enough : 2 * ([','].intercalate (compactItems items)).length + 1 ≤ fuel)
    (rest : List Char) :
    readItems fuel ([','].intercalate (compactItems items) ++ ']' :: rest) =
      some (items, rest) := by
  induction items generalizing fuel with
  | nil =>
      exact absurd rfl several
  | cons item others inductionHypothesis =>
      obtain ⟨fuel, rfl⟩ := Nat.exists_eq_add_one_of_ne_zero (show fuel ≠ 0 by omega)
      have first := reads item List.mem_cons_self
      rw [readItems]
      cases others with
      | nil =>
          simp only [compactItems, List.intercalate_singleton] at enough ⊢
          rw [first fuel _ (by omega) (closed_cons (by decide) rest)]
          rfl
      | cons next others =>
          simp only [compactItems, List.intercalate_cons_cons, List.append_assoc,
            List.length_append, List.cons_append, List.nil_append,
            List.length_cons] at enough ⊢
          have later := @inductionHypothesis
            (fun item member => reads item (List.mem_cons_of_mem _ member))
            (List.cons_ne_nil next others) fuel
            (by simp only [compactItems]; omega)
          simp only [compactItems] at later
          rw [first fuel _ (by omega) (closed_cons (by decide) _)]
          simp [skipSpace, isSpace, later]

/-- A text that is read as a member of an object, whatever closes it off. -/
structure ReadsMember (text : List Char) (member : Option String × Json) : Prop where
  opens : Opens text
  reads : ∀ fuel rest, 2 * text.length ≤ fuel → Closed rest →
    ∃ behind left, readName (text ++ rest) = some (member.1, behind) ∧
      readValue fuel behind = some (member.2, left) ∧ skipSpace left = rest

theorem readsMember_compactChars {value : Json} (reads : Reads value) (name : Option String) :
    ReadsMember (literalOrHalf name ++ ':' :: value.compactChars) (name, value) where
  opens := opens_literalOrHalf name _
  reads fuel rest enough closed := by
    rw [List.length_append, List.length_cons] at enough
    refine ⟨value.compactChars ++ rest, rest, ?_, reads fuel rest (by omega) closed,
      closed.skipSpace⟩
    rw [List.append_assoc]
    exact readName_literal name _

/-- The members of an object, one at least, are read up to the brace. -/
theorem readMembers_map
    {α : Type} {elements : List α} {text : α → List Char} {member : α → Option String × Json}
    (reads : ∀ element ∈ elements, ReadsMember (text element) (member element))
    (several : elements ≠ [])
    {fuel : Nat}
    (enough : 2 * ([','].intercalate (elements.map text)).length + 1 ≤ fuel)
    (rest : List Char) :
    readMembers fuel ([','].intercalate (elements.map text) ++ '\x7d' :: rest) =
      some (elements.map member, rest) := by
  induction elements generalizing fuel with
  | nil =>
      exact absurd rfl several
  | cons element others inductionHypothesis =>
      obtain ⟨fuel, rfl⟩ := Nat.exists_eq_add_one_of_ne_zero (show fuel ≠ 0 by omega)
      have first := reads element List.mem_cons_self
      rw [readMembers]
      cases others with
      | nil =>
          simp only [List.map_cons, List.map_nil, List.intercalate_singleton] at enough ⊢
          obtain ⟨behind, left, named, read, ends⟩ :=
            first.reads fuel _ (by omega) (closed_cons (c := '\x7d') (by decide) rest)
          simp [named, read, ends]
      | cons next others =>
          have later := @inductionHypothesis
            (fun element isElement => reads element (List.mem_cons_of_mem _ isElement))
            (List.cons_ne_nil next others) fuel
          simp only [List.map_cons, List.intercalate_cons_cons, List.append_assoc,
            List.length_append, List.cons_append, List.nil_append,
            List.length_cons] at enough later ⊢
          obtain ⟨behind, left, named, read, ends⟩ :=
            first.reads fuel _ (by omega) (closed_cons (c := ',') (by decide) _)
          rw [named]
          simp only [Option.bind_eq_bind, Option.bind_some]
          rw [read]
          simp [ends, later (by omega)]

theorem compactMembers_eq_map (members : List (Option String × Json)) :
    compactMembers members =
      members.map fun (name, value) => literalOrHalf name ++ ':' :: value.compactChars := by
  induction members with
  | nil => rfl
  | cons member others inductionHypothesis =>
      rw [compactMembers, inductionHypothesis, List.map_cons]

theorem readValue_array
    {items : List Json} {fuel : Nat} {inside rest : List Char}
    (opens : Opens inside)
    (read : readItems fuel (inside ++ ']' :: rest) = some (items, rest)) :
    readValue (fuel + 1) ('[' :: (inside ++ ']' :: rest)) = some (.array items, rest) := by
  rw [readValue, skipSpace, List.dropWhile_cons_of_neg (by decide)]
  simp only [opens.skipSpace_append]
  obtain ⟨first, others, rfl, -, notClosing⟩ := opens
  rw [List.cons_append] at read
  simp only [List.mem_cons, not_or] at notClosing
  simp [notClosing.1, read]

theorem readValue_object
    {members : List (Option String × Json)} {fuel : Nat} {inside rest : List Char}
    (opens : Opens inside)
    (read : readMembers fuel (inside ++ '\x7d' :: rest) = some (members, rest)) :
    readValue (fuel + 1) ('\x7b' :: (inside ++ '\x7d' :: rest)) =
      some (.object members, rest) := by
  rw [readValue, skipSpace, List.dropWhile_cons_of_neg (by decide)]
  simp only [opens.skipSpace_append]
  obtain ⟨first, others, rfl, -, notClosing⟩ := opens
  rw [List.cons_append] at read
  simp only [List.mem_cons, not_or] at notClosing
  simp [notClosing.2.1, read]

theorem reads_array {items : List Json} (reads : ∀ item ∈ items, Reads item) :
    Reads (.array items) := by
  intro fuel rest enough closed
  rw [compactChars, bracketed, List.cons_append, List.append_assoc, List.singleton_append]
  rw [compactChars, bracketed, List.length_cons, List.length_append,
    List.length_singleton] at enough
  obtain ⟨fuel, rfl⟩ := Nat.exists_eq_add_one_of_ne_zero (show fuel ≠ 0 by omega)
  cases items with
  | nil =>
      simp [compactItems, readValue, skipSpace, isSpace]
  | cons item others =>
      exact readValue_array
        ((opens_compactChars item).intercalate (compactItems others))
        (readItems_compactItems reads (List.cons_ne_nil item others) (by omega) rest)

/-- An object is read from the texts of its members. -/
theorem readValue_bracketed
    {α : Type} {elements : List α} {text : α → List Char} {member : α → Option String × Json}
    (reads : ∀ element ∈ elements, ReadsMember (text element) (member element))
    {fuel : Nat}
    (enough : 2 * (bracketed '\x7b' '\x7d' (elements.map text)).length ≤ fuel)
    (rest : List Char) :
    readValue fuel (bracketed '\x7b' '\x7d' (elements.map text) ++ rest) =
      some (.object (elements.map member), rest) := by
  rw [bracketed, List.length_cons, List.length_append, List.length_singleton] at enough
  rw [bracketed, List.cons_append, List.append_assoc, List.singleton_append]
  obtain ⟨fuel, rfl⟩ := Nat.exists_eq_add_one_of_ne_zero (show fuel ≠ 0 by omega)
  cases elements with
  | nil =>
      simp [readValue, skipSpace, isSpace]
  | cons element others =>
      exact readValue_object
        ((reads element List.mem_cons_self).opens.intercalate (others.map text))
        (readMembers_map reads (List.cons_ne_nil element others) (by omega) rest)

theorem reads_object
    {members : List (Option String × Json)} (reads : ∀ member ∈ members, Reads member.2) :
    Reads (.object members) := by
  intro fuel rest enough closed
  rw [compactChars, compactMembers_eq_map] at enough ⊢
  have inside := @readValue_bracketed _ members
    (fun (name, value) => literalOrHalf name ++ ':' :: value.compactChars) id
    (fun member isMember => readsMember_compactChars (reads member isMember) member.1)
    fuel enough rest
  rw [List.map_id] at inside
  exact inside

theorem reads_scalar
    {value : Json}
    (read : ∀ fuel rest, Closed rest →
      readValue (fuel + 1) (value.compactChars ++ rest) = some (value, rest)) :
    Reads value := by
  intro fuel rest enough closed
  obtain ⟨first, others, written, -⟩ := opens_compactChars value
  rw [written, List.length_cons] at enough
  obtain ⟨fuel, rfl⟩ := Nat.exists_eq_add_one_of_ne_zero (show fuel ≠ 0 by omega)
  exact read fuel rest closed

theorem reads : (value : Json) → Reads value
  | .null =>
      reads_scalar fun fuel rest _ => by
        change readValue (fuel + 1) ('n' :: 'u' :: 'l' :: 'l' :: rest) = _
        simp [readValue, skipSpace, isSpace, readWord]
  | .bool true =>
      reads_scalar fun fuel rest _ => by
        change readValue (fuel + 1) ('t' :: 'r' :: 'u' :: 'e' :: rest) = _
        simp [readValue, skipSpace, isSpace, readWord]
  | .bool false =>
      reads_scalar fun fuel rest _ => by
        change readValue (fuel + 1) ('f' :: 'a' :: 'l' :: 's' :: 'e' :: rest) = _
        simp [readValue, skipSpace, isSpace, readWord]
  | .nat n =>
      reads_scalar fun fuel rest closed => by
        rw [compactChars_nat]
        exact readValue_nat fuel n closed
  | .signed => reads_scalar fun fuel _ closed => readValue_signed fuel closed
  | .string text => reads_scalar fun fuel rest _ => readValue_literal fuel text rest
  | .array items => reads_array fun item _ => reads item
  | .object members =>
      reads_object fun (_, value) isMember =>
        have smaller : sizeOf value < sizeOf members := by
          have member := List.sizeOf_lt_of_mem isMember
          rw [Prod.mk.sizeOf_spec] at member
          omega
        reads value

/-- Every value is read back from its text. -/
theorem ofText?_compact (value : Json) : ofText? value.compact = some value := by
  have read := reads value (2 * value.compactChars.length + 2) [] (by omega) closed_nil
  rw [List.append_nil] at read
  rw [compact, ofText?, String.toList_ofList, ofChars?, read]
  rfl

end DesktopTags.Json
