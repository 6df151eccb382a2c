import DesktopTags.Proofs.Digits
import DesktopTags.Toml.Reader
import Mathlib.Tactic.SplitIfs

/-!
# Numbers and moments at a line end

To the readers of words, numbers, dates and times the end of a line is like the end of
the text: `Toml.keepsToLine_readNumber`, `Toml.keepsToLine_readMoment`. They try one form
after the other, so it has to be known of a form that is refused as well that later lines
do not change that.
-/

namespace DesktopTags.Toml

variable {α β : Type}

/-! ## Readers that keep to their line -/

/-- Later lines change nothing: what is read is read, what is refused is refused, and
they are left over. -/
def KeepsToLine (read : List Char → Option (α × List Char)) : Prop :=
  ∀ ahead later, read (ahead ++ '\n' :: later) =
    (read ahead).map fun (value, left) => (value, left ++ '\n' :: later)

/-- The same of a reader that gives no value. -/
def PassesInLine (pass : List Char → Option (List Char)) : Prop :=
  ∀ ahead later, pass (ahead ++ '\n' :: later) = (pass ahead).map (· ++ '\n' :: later)

theorem keepsToLine_some (value : α) : KeepsToLine fun left => some (value, left) :=
  fun _ _ => rfl

theorem keepsToLine_none : KeepsToLine fun _ => (none : Option (α × List Char)) :=
  fun _ _ => rfl

theorem keepsToLine_of_value? (value? : Option α) :
    KeepsToLine (fun left => value? >>= fun value => some (value, left)) := by
  intro left later
  cases value? <;> rfl

theorem passesInLine_some : PassesInLine some :=
  fun _ _ => rfl

/-- What the second of two steps reads may change with what the first one leaves. -/
theorem bind_of_map
    {read changed : Option α} {next : α → Option β} {change : α → α} {changeNext : β → β}
    (first : changed = read.map change)
    (second : ∀ value, next (change value) = (next value).map changeNext) :
    changed.bind next = (read.bind next).map changeNext := by
  subst first
  cases read with
  | none => rfl
  | some value => exact second value

theorem KeepsToLine.bind
    {first : List Char → Option (α × List Char)}
    {next : α → List Char → Option (β × List Char)}
    (keeps : KeepsToLine first) (continues : ∀ value, KeepsToLine (next value)) :
    KeepsToLine fun ahead => first ahead >>= fun (value, left) => next value left :=
  fun ahead later =>
    bind_of_map (keeps ahead later) fun (value, left) => continues value left later

theorem KeepsToLine.pass
    {first : List Char → Option (α × List Char)} {next : α → List Char → Option (List Char)}
    (keeps : KeepsToLine first) (passes : ∀ value, PassesInLine (next value)) :
    PassesInLine fun ahead => first ahead >>= fun (value, left) => next value left :=
  fun ahead later =>
    bind_of_map (keeps ahead later) fun (value, left) => passes value left later

theorem PassesInLine.pass
    {first next : List Char → Option (List Char)}
    (passes : PassesInLine first) (continues : PassesInLine next) :
    PassesInLine fun ahead => first ahead >>= next :=
  fun ahead later => bind_of_map (passes ahead later) fun left => continues left later

theorem KeepsToLine.or
    {first second : List Char → Option (α × List Char)}
    (keeps : KeepsToLine first) (alternative : KeepsToLine second) :
    KeepsToLine fun ahead => (first ahead).or (second ahead) := by
  intro ahead later
  dsimp only
  rw [keeps ahead later, alternative ahead later]
  cases first ahead <;> rfl

theorem keepsToLine_ite
    (condition : Prop) [Decidable condition]
    {first second : List Char → Option (α × List Char)}
    (keeps : KeepsToLine first) (alternative : KeepsToLine second) :
    KeepsToLine fun ahead => if condition then first ahead else second ahead := by
  intro ahead later
  dsimp only
  split_ifs
  · exact keeps ahead later
  · exact alternative ahead later

/-! ## What a text begins with -/

/-- A word without a line end stands at the front of a text, or it does not, whatever
lines follow. -/
theorem isPrefix_append_lineEnd
    {word : List Char} (oneLine : '\n' ∉ word) (ahead later : List Char) :
    word <+: ahead ++ '\n' :: later ↔ word <+: ahead := by
  refine ⟨fun ⟨rest, same⟩ => ?_, fun begins => begins.trans (List.prefix_append ahead _)⟩
  rcases List.append_eq_append_iff.mp same with ⟨more, begins, -⟩ | ⟨more, written, ends⟩
  · exact ⟨more, begins.symm⟩
  · cases more with
    | nil => exact ⟨[], by simpa using written⟩
    | cons first others =>
        have lineFeed : first = '\n' := (List.cons.inj ends).1.symm
        exact absurd (written ▸ List.mem_append_right ahead (lineFeed ▸ List.mem_cons_self)) oneLine

/-- It is stated with `False`, as the equations of a match ask for it. -/
theorem ne_append_lineEnd
    (word : List Char) {ahead : List Char} (oneLine : '\n' ∉ word)
    (other : ∀ rest, ahead = word ++ rest → False) (later : List Char) :
    ∀ rest, ahead ++ '\n' :: later = word ++ rest → False := by
  intro rest same
  obtain ⟨left, begins⟩ := (isPrefix_append_lineEnd oneLine ahead later).mp ⟨rest, same.symm⟩
  exact other left begins.symm

theorem takeWhile_append_lineEnd
    {holds : Char → Bool} (lineFeed : holds '\n' = false) (ahead later : List Char) :
    (ahead ++ '\n' :: later).takeWhile holds = ahead.takeWhile holds :=
  Text.takeWhile_append_of_stops (by simpa using lineFeed) ahead

theorem dropWhile_append_lineEnd
    {holds : Char → Bool} (lineFeed : holds '\n' = false) (ahead later : List Char) :
    (ahead ++ '\n' :: later).dropWhile holds = ahead.dropWhile holds ++ '\n' :: later :=
  Text.dropWhile_append_of_stops (by simpa using lineFeed) ahead

theorem keepsToLine_readWord {word : List Char} (oneLine : '\n' ∉ word) (value : Toml) :
    KeepsToLine (readWord word value) := by
  intro ahead later
  have same : word.isPrefixOf (ahead ++ '\n' :: later) = word.isPrefixOf ahead := by
    rw [Bool.eq_iff_iff, List.isPrefixOf_iff_prefix, List.isPrefixOf_iff_prefix]
    exact isPrefix_append_lineEnd oneLine ahead later
  rw [readWord, readWord, same]
  split_ifs with begins
  · have within := (List.isPrefixOf_iff_prefix.mp begins).length_le
    rw [List.drop_append_of_le_length within]
    rfl
  · rfl

/-! ## Numbers -/

theorem keepsToLine_readMoreDigits (base : Nat) : KeepsToLine (readMoreDigits base) := by
  intro ahead later
  have lineFeed : isDigitOf base '\n' = false := rfl
  fun_induction readMoreDigits base ahead with
  | case1 =>
      rw [List.nil_append, readMoreDigits.eq_def]
      rfl
  | case2 c rest digit inductionHypothesis =>
      rw [List.cons_append, readMoreDigits.eq_def]
      simp only [digit, if_true, inductionHypothesis, Option.map_map]
      rfl
  | case3 d rest underscore digit inductionHypothesis =>
      rw [List.cons_append, readMoreDigits.eq_def]
      simp only [underscore, List.cons_append, digit, if_true, inductionHypothesis,
        Option.map_map]
      rfl
  | case4 d rest underscore noDigit =>
      rw [List.cons_append, readMoreDigits.eq_def]
      simp [underscore, noDigit]
  | case5 underscore =>
      rw [List.cons_append, readMoreDigits.eq_def]
      simp [underscore, lineFeed]
  | case6 c rest noDigit other =>
      rw [List.cons_append, readMoreDigits.eq_def]
      simp [noDigit, other]

theorem keepsToLine_readDigits (base : Nat) : KeepsToLine (readDigits base) := by
  rintro (_ | ⟨c, rest⟩) later
  · rfl
  · rw [List.cons_append, readDigits, readDigits, keepsToLine_readMoreDigits base rest later]
    split_ifs
    · simp only [Option.map_map, Function.comp_def]
    · rfl

theorem keepsToLine_readCount : KeepsToLine readCount := by
  intro ahead later
  fun_cases readCount ahead with
  | case1 rest => rfl
  | case2 ahead other =>
      rw [readCount.eq_2 _ (ne_append_lineEnd ['0'] (by decide) other later)]
      exact keepsToLine_readDigits 10 ahead later

theorem readSign_append (ahead later : List Char) :
    readSign (ahead ++ '\n' :: later) =
      ((readSign ahead).1, (readSign ahead).2 ++ '\n' :: later) := by
  fun_cases readSign ahead with
  | case1 rest => rfl
  | case2 rest => rfl
  | case3 ahead plus minus =>
      rw [readSign.eq_3 _ (ne_append_lineEnd ['+'] (by decide) plus later)
        (ne_append_lineEnd ['-'] (by decide) minus later)]

theorem KeepsToLine.signed
    {read : Bool → List Char → Option (α × List Char)}
    (keeps : ∀ negative, KeepsToLine (read negative)) :
    KeepsToLine fun ahead => read (readSign ahead).1 (readSign ahead).2 := by
  intro ahead later
  dsimp only
  rw [readSign_append]
  exact keeps _ _ later

/-! ### Integers

What is read is put together as a fact of its own first, or else the bounds of 64 bits
are unfolded where it is compared with the reader. -/

theorem keepsToLine_readDecimal : KeepsToLine readDecimal := by
  have unsigned (negative : Bool) :=
    keepsToLine_readCount.bind fun digits =>
      keepsToLine_of_value? (ofInt? (withSign negative (valueOf 10 digits)))
  exact KeepsToLine.signed unsigned

theorem keepsToLine_readInBase (base : Nat) : KeepsToLine (readInBase base) := by
  have unsigned :=
    (keepsToLine_readDigits base).bind fun digits =>
      keepsToLine_of_value? (ofInt? (valueOf base digits))
  exact unsigned

theorem keepsToLine_readInteger : KeepsToLine readInteger := by
  intro ahead later
  fun_cases readInteger ahead with
  | case1 rest => exact keepsToLine_readInBase 16 rest later
  | case2 rest => exact keepsToLine_readInBase 8 rest later
  | case3 rest => exact keepsToLine_readInBase 2 rest later
  | case4 ahead hexadecimal octal binary =>
      rw [readInteger.eq_4]
      · exact keepsToLine_readDecimal ahead later
      · exact ne_append_lineEnd ['0', 'x'] (by decide) hexadecimal later
      · exact ne_append_lineEnd ['0', 'o'] (by decide) octal later
      · exact ne_append_lineEnd ['0', 'b'] (by decide) binary later

/-! ### Fractions -/

theorem keepsToLine_readPower : KeepsToLine readPower := by
  rintro (_ | ⟨c, rest⟩) later
  · rfl
  · have power (negative : Bool) :=
      (keepsToLine_readDigits 10).bind fun digits =>
        keepsToLine_some (some (withSign negative (valueOf 10 digits)))
    rw [List.cons_append, readPower, readPower]
    split_ifs
    · exact KeepsToLine.signed power rest later
    · rfl

theorem keepsToLine_readPlaces : KeepsToLine readPlaces := by
  intro ahead later
  fun_cases readPlaces ahead with
  | case1 rest =>
      exact (keepsToLine_readDigits 10).bind (fun digits => keepsToLine_some (some digits))
        rest later
  | case2 ahead point =>
      rw [readPlaces.eq_2 _ (ne_append_lineEnd ['.'] (by decide) point later)]
      rfl

theorem keepsToLine_readFraction : KeepsToLine readFraction := by
  have unsigned (negative : Bool) :=
    keepsToLine_readCount.bind fun whole =>
      keepsToLine_readPlaces.bind fun places? =>
        keepsToLine_readPower.bind fun power? =>
          keepsToLine_ite ((places?.isNone && power?.isNone) = true) keepsToLine_none <|
            keepsToLine_ite
              ((!negative && overflows (whole ++ places?.getD [])
                (power?.getD 0 - (places?.getD []).length)) = true)
              keepsToLine_none (keepsToLine_some Toml.fraction)
  exact KeepsToLine.signed unsigned

theorem keepsToLine_readSpecial : KeepsToLine readSpecial := by
  intro ahead later
  rw [readSpecial, readSign_append]
  fun_cases readSpecial ahead with
  | case1 left same => simp only [same, List.cons_append, Option.map_some]
  | case2 left same => simp only [same, List.cons_append, Option.map_some]
  | case3 infinity noNumber =>
      split
      · rename_i same
        exact (ne_append_lineEnd ['i', 'n', 'f'] (by decide) infinity later _ same).elim
      · rename_i same
        exact (ne_append_lineEnd ['n', 'a', 'n'] (by decide) noNumber later _ same).elim
      · rfl

theorem keepsToLine_readNumber : KeepsToLine readNumber :=
  (keepsToLine_readFraction.or keepsToLine_readSpecial).or keepsToLine_readInteger

/-! ## Dates and times -/

/-- Where there are too few characters, the line end is taken for a digit and is none. -/
theorem keepsToLine_readFixed (count : Nat) : KeepsToLine (readFixed count) := by
  intro ahead later
  by_cases within : count ≤ ahead.length
  · rw [readFixed, readFixed, List.take_append_of_le_length within,
      List.drop_append_of_le_length within]
    dsimp only
    split_ifs
    · rw [Option.map_map]
      rfl
    · rfl
  · have short : ¬(ahead.take count).length = count := by
      rw [List.length_take]
      omega
    have stopped : ¬((ahead ++ '\n' :: later).take count).all Char.isDigit = true := by
      obtain ⟨further, same⟩ : ∃ further, count - ahead.length = further + 1 :=
        ⟨count - ahead.length - 1, by omega⟩
      simp [List.take_append, same, show '\n'.isDigit = false from rfl]
    simp only [readFixed, Bool.and_eq_true, decide_eq_true_eq, short, false_and, if_false,
      if_neg fun fixed : _ ∧ _ => stopped fixed.2, Option.map_none]

theorem keepsToLine_readWithin (count least greatest : Nat) :
    KeepsToLine (readWithin count least greatest) :=
  (keepsToLine_readFixed count).bind fun value =>
    keepsToLine_ite (least ≤ value ∧ value ≤ greatest) (keepsToLine_some value)
      keepsToLine_none

theorem passesInLine_pass? {c : Char} (other : '\n' ≠ c) : PassesInLine (pass? c) := by
  rintro (_ | ⟨d, rest⟩) later
  · exact if_neg other
  · rw [List.cons_append, pass?, pass?]
    split_ifs <;> rfl

theorem passesInLine_colon : PassesInLine (pass? ':') :=
  passesInLine_pass? (by decide)

theorem passesInLine_readDate : PassesInLine readDate :=
  have hyphen : PassesInLine (pass? '-') := passesInLine_pass? (by decide)
  (keepsToLine_readFixed 4).pass fun year =>
    hyphen.pass <| (keepsToLine_readWithin 2 1 12).pass fun month =>
      hyphen.pass <| (keepsToLine_readWithin 2 1 (daysOf year month)).pass fun _ =>
        passesInLine_some

/-- A point in front of the line end stays, for no digit follows it. -/
theorem skipSecondParts_append (ahead later : List Char) :
    skipSecondParts (ahead ++ '\n' :: later) = skipSecondParts ahead ++ '\n' :: later := by
  rcases ahead with _ | ⟨point, _ | ⟨c, rest⟩⟩
  · rfl
  · by_cases isPoint : point = '.'
    · subst isPoint
      rfl
    · simp [skipSecondParts, isPoint]
  · by_cases isPoint : point = '.'
    · subst isPoint
      simp only [skipSecondParts, List.cons_append]
      split_ifs
      · exact dropWhile_append_lineEnd rfl rest later
      · rfl
    · simp [skipSecondParts, isPoint]

theorem passesInLine_skipSecondParts : PassesInLine fun left => some (skipSecondParts left) :=
  fun left later => congrArg some (skipSecondParts_append left later)

theorem passesInLine_readTime : PassesInLine readTime :=
  (keepsToLine_readWithin 2 0 23).pass fun _ =>
    passesInLine_colon.pass <| (keepsToLine_readWithin 2 0 59).pass fun _ =>
      passesInLine_colon.pass <| (keepsToLine_readWithin 2 0 60).pass fun _ =>
        passesInLine_skipSecondParts

theorem passesInLine_readOffset : PassesInLine readOffset := by
  rintro (_ | ⟨c, rest⟩) later
  · rfl
  · have distance :=
      (keepsToLine_readWithin 2 0 23).pass fun _ =>
        passesInLine_colon.pass <| (keepsToLine_readWithin 2 0 59).pass fun _ =>
          passesInLine_some
    rw [List.cons_append, readOffset, readOffset]
    split_ifs
    · rfl
    · exact distance rest later
    · rfl

theorem timeFollows_append (ahead later : List Char) :
    timeFollows (ahead ++ '\n' :: later) = timeFollows ahead := by
  have hour := (keepsToLine_readWithin 2 0 23).pass (fun _ => passesInLine_colon) ahead later
  exact (congrArg Option.isSome hour).trans Option.isSome_map

theorem passesInLine_readTimeOfDay : PassesInLine readTimeOfDay := by
  rintro (_ | ⟨c, rest⟩) later
  · rfl
  · rw [List.cons_append, readTimeOfDay, readTimeOfDay, timeFollows_append]
    split_ifs
    · exact passesInLine_readTime.pass passesInLine_readOffset rest later
    · rfl

theorem keepsToLine_readMoment : KeepsToLine readMoment := by
  intro ahead later
  have date :
      (readDate (ahead ++ '\n' :: later)).bind readTimeOfDay =
        ((readDate ahead).bind readTimeOfDay).map (· ++ '\n' :: later) :=
    passesInLine_readDate.pass passesInLine_readTimeOfDay ahead later
  have time := passesInLine_readTime ahead later
  rw [readMoment, readMoment, date, time]
  cases (readDate ahead).bind readTimeOfDay <;> cases readTime ahead <;> rfl

end DesktopTags.Toml
