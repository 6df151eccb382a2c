import DesktopTags.Proofs.LaterLines
import Mathlib.Data.List.TakeWhile

/-!
# Documents of plain lines

A document whose lines give values to bare keys, or are remarks, is read as the table of
these keys and values in their order, if no key stands in it twice: `Toml.Spells.ofChars?`.
-/

namespace DesktopTags.Toml

/-! ## What a document spells -/

/-- A key that needs no quotes. -/
def IsBareKey (key : String) : Prop :=
  key.toList ≠ [] ∧ key.toList.all isBareKeyChar = true

instance : DecidablePred IsBareKey :=
  fun key => inferInstanceAs (Decidable (key.toList ≠ [] ∧ key.toList.all isBareKeyChar = true))

/-- A text that is read as a value, up to the end of its line. -/
def FillsLine (text : List Char) (value : Toml) : Prop :=
  ∀ later, readValue depthLimit (text ++ '\n' :: later) = some (value, '\n' :: later)

/-- Blanks, and perhaps a comment behind them. -/
inductive IsRemark : List Char → Prop
  | nothing : IsRemark []
  | comment {words : List Char} (plain : words.all isPlain = true) : IsRemark ('#' :: words)
  | blank {c : Char} {text : List Char} (isBlank : isBlank c = true) (remark : IsRemark text) :
      IsRemark (c :: text)

def IsLineEnd (chars : List Char) : Prop :=
  chars = ['\n'] ∨ chars = ['\r', '\n']

/-- A key and the text of its value as a line. -/
def entryLine (key : String) (text : List Char) : List Char :=
  key.toList ++ " = ".toList ++ text ++ ['\n']

/-- A document gives values to keys, line by line. Remarks may stand between these
lines, and behind the last one without a line end. -/
inductive Spells : List Char → Entries → Prop
  | ending {text : List Char} (remark : IsRemark text) : Spells text []
  | remark {text lineEnd later : List Char} {entries : Entries}
      (remark : IsRemark text) (ends : IsLineEnd lineEnd) (others : Spells later entries) :
      Spells (text ++ (lineEnd ++ later)) entries
  | entry {key : String} {text later : List Char} {value : Toml} {entries : Entries}
      (bare : IsBareKey key) (fills : FillsLine text value) (others : Spells later entries) :
      Spells (entryLine key text ++ later) ((key, value) :: entries)

/-- What stands for a value on its own fills a line. -/
theorem fillsLine_of_readValue
    {text : List Char} {value : Toml} (stands : readValue depthLimit text = some (value, [])) :
    FillsLine text value :=
  ignoresLaterLines_readValue depthLimit stands

/-! ## A line with a value -/

theorem IsBareKey.allowed {key : String} (bare : IsBareKey key) :
    ∀ c ∈ key.toList, isBareKeyChar c = true :=
  List.all_eq_true.mp bare.2

theorem IsBareKey.eq_cons {key : String} (bare : IsBareKey key) :
    ∃ first others, key.toList = first :: others ∧ isBareKeyChar first = true := by
  obtain ⟨first, others, chars⟩ := List.exists_cons_of_ne_nil bare.1
  exact ⟨first, others, chars, bare.allowed first (chars ▸ List.mem_cons_self)⟩

theorem entryLine_eq_cons {key : String} (bare : IsBareKey key) (text later : List Char) :
    ∃ first others, entryLine key text ++ later = first :: others ∧
      isBareKeyChar first = true := by
  obtain ⟨first, others, chars, allowed⟩ := bare.eq_cons
  rw [entryLine, chars]
  exact ⟨first, _, rfl, allowed⟩

theorem skipBlanks_of_unblank {c : Char} (unblank : isBlank c = false) (rest : List Char) :
    skipBlanks (c :: rest) = c :: rest :=
  List.dropWhile_cons_of_neg (by simp [unblank])

theorem isBlank_of_isBareKeyChar {c : Char} (allowed : isBareKeyChar c = true) :
    isBlank c = false := by
  have space : c ≠ ' ' := Text.ne_of_holds allowed rfl
  have tab : c ≠ '\t' := Text.ne_of_holds allowed rfl
  simp [isBlank, space, tab]

theorem readKey_bare {key : String} (bare : IsBareKey key) (rest : List Char) :
    readKey (key.toList ++ ' ' :: rest) = some (key, ' ' :: rest) := by
  obtain ⟨first, others, chars, allowed⟩ := bare.eq_cons
  have stops : ¬isBareKeyChar ' ' = true := by decide
  have taken : (key.toList ++ ' ' :: rest).takeWhile isBareKeyChar = key.toList := by
    rw [List.takeWhile_append_of_pos bare.allowed, List.takeWhile_cons_of_neg stops, List.append_nil]
  have dropped : (key.toList ++ ' ' :: rest).dropWhile isBareKeyChar = ' ' :: rest := by
    rw [List.dropWhile_append_of_pos bare.allowed, List.dropWhile_cons_of_neg stops]
  rw [readKey.eq_3, taken, dropped, String.ofList_toList]
  · simp [bare.1]
  · rw [chars]
    exact fun _ same => Text.ne_of_holds allowed rfl (List.cons.inj same).1
  · rw [chars]
    exact fun _ same => Text.ne_of_holds allowed rfl (List.cons.inj same).1

theorem readPath_bare {key : String} (bare : IsBareKey key) (rest : List Char) :
    readPath depthLimit (key.toList ++ ' ' :: '=' :: rest) = some (⟨[], key⟩, '=' :: rest) := by
  have unblank :
      skipBlanks (key.toList ++ ' ' :: '=' :: rest) = key.toList ++ ' ' :: '=' :: rest := by
    obtain ⟨first, others, chars, allowed⟩ := bare.eq_cons
    rw [chars, List.cons_append, skipBlanks_of_unblank (isBlank_of_isBareKeyChar allowed)]
  rw [depthLimit, readPath, unblank, readKey_bare bare]
  rfl

theorem readPair_entryLine
    {key : String} {text : List Char} {value : Toml}
    (bare : IsBareKey key) (fills : FillsLine text value) (later : List Char) :
    readPair (readValue depthLimit) (entryLine key text ++ later) =
      some ((⟨[], key⟩, value), '\n' :: later) := by
  have line :
      entryLine key text ++ later = key.toList ++ ' ' :: '=' :: ' ' :: (text ++ '\n' :: later) := by
    simp [entryLine]
  have skipped : skipBlanks (' ' :: (text ++ '\n' :: later)) = text ++ '\n' :: later := by
    obtain ⟨first, others, begins, unblank, -⟩ := startsAtOnce_readValue depthLimit (fills later)
    rw [begins]
    exact (List.dropWhile_cons_of_pos rfl).trans (skipBlanks_of_unblank unblank others)
  rw [line, readPair, readPath_bare bare]
  simp only [Option.bind_eq_bind, Option.bind_some, skipped, fills later]

theorem readStatements_of_statement
    {c : Char} {tail rest later : List Char} {statement : Statement}
    (unblank : isBlank c = false) (speaks : isSilent (c :: tail) = false)
    (first : readStatement (c :: tail) = some (statement, rest))
    (ends : lineEnd? rest = some later)
    (fuel : Nat) :
    readStatements (fuel + 1) (c :: tail) =
      (readStatements fuel later).map (statement :: ·) := by
  rw [readStatements, skipBlanks_of_unblank unblank]
  cases more : readStatements fuel later <;> simp [speaks, first, ends, more]

theorem readStatements_entryLine
    {key : String} {text : List Char} {value : Toml}
    (bare : IsBareKey key) (fills : FillsLine text value) (fuel : Nat) (later : List Char) :
    readStatements (fuel + 1) (entryLine key text ++ later) =
      (readStatements fuel later).map (.assignment ⟨[], key⟩ value :: ·) := by
  have pair := readPair_entryLine bare fills later
  have ends : lineEnd? ('\n' :: later) = some later := rfl
  obtain ⟨first, others, begins, allowed⟩ := entryLine_eq_cons bare text later
  have other (c : Char) (isOther : isBareKeyChar c = false) : first ≠ c :=
    Text.ne_of_holds allowed isOther
  rw [begins] at pair ⊢
  refine readStatements_of_statement (isBlank_of_isBareKeyChar allowed) ?_ ?_ ends fuel
  · simp [isSilent, other '#' rfl, other '\n' rfl, other '\r' rfl]
  · simp [readStatement, other '[' rfl, pair]

/-! ## Remarks -/

theorem readStatements_blank
    {c : Char} (blank : isBlank c = true) (fuel : Nat) (rest : List Char) :
    readStatements fuel (c :: rest) = readStatements fuel rest := by
  have skipped : skipBlanks (c :: rest) = skipBlanks rest := List.dropWhile_cons_of_pos blank
  cases fuel with
  | zero => rfl
  | succ fuel => rw [readStatements, readStatements, skipped]

theorem readStatements_of_comment
    {rest later : List Char} (ends : lineEnd? ('#' :: rest) = some later) (fuel : Nat) :
    readStatements (fuel + 1) ('#' :: rest) = readStatements fuel later := by
  rw [readStatements, skipBlanks_of_unblank rfl]
  simp [isSilent, ends]

theorem lineEnd?_comment (rest : List Char) :
    lineEnd? ('#' :: rest) =
      match rest.dropWhile isPlain with
      | [] => some []
      | rest => newline? rest := by
  rw [lineEnd?, skipBlanks_of_unblank rfl]
  rfl

theorem readStatements_remark
    {text lineEnd : List Char} (remark : IsRemark text) (ends : IsLineEnd lineEnd)
    (fuel : Nat) (later : List Char) :
    readStatements (fuel + 1) (text ++ (lineEnd ++ later)) = readStatements fuel later := by
  induction remark with
  | nothing =>
      rcases ends with rfl | rfl <;> rfl
  | comment plain =>
      refine readStatements_of_comment ?_ fuel
      rw [List.append_eq, lineEnd?_comment,
        List.dropWhile_append_of_pos (List.all_eq_true.mp plain)]
      rcases ends with rfl | rfl <;> rfl
  | blank isBlank remark inductionHypothesis =>
      rw [List.cons_append, readStatements_blank isBlank, inductionHypothesis]

theorem readStatements_lastRemark
    {text : List Char} (remark : IsRemark text) {fuel : Nat} (enough : text.length < fuel) :
    readStatements fuel text = some [] := by
  induction remark with
  | nothing =>
      obtain ⟨fuel, rfl⟩ := Nat.exists_eq_add_one_of_ne_zero (show fuel ≠ 0 by omega)
      rfl
  | @comment words plain =>
      obtain ⟨fuel, rfl⟩ : ∃ further, fuel = further + 1 + 1 := by
        rw [List.length_cons] at enough
        exact ⟨fuel - 2, by omega⟩
      have ends : lineEnd? ('#' :: words) = some [] := by
        rw [lineEnd?_comment, List.dropWhile_eq_nil_iff.mpr (List.all_eq_true.mp plain)]
      rw [readStatements_of_comment ends]
      rfl
  | blank isBlank remark inductionHypothesis =>
      rw [readStatements_blank isBlank, inductionHypothesis (Nat.lt_of_succ_lt enough)]

/-! ## The table of a document -/

namespace Entries

variable {entries : Entries} {key : String}

theorem put_of_absent (absent : key ∉ entries.map Prod.fst) (value : Toml) :
    entries.put key value = entries ++ [(key, value)] := by
  induction entries with
  | nil =>
      rfl
  | cons entry rest inductionHypothesis =>
      rw [List.map_cons, List.mem_cons, not_or] at absent
      rw [put, if_neg (Ne.symm absent.1), inductionHypothesis absent.2, List.cons_append]

theorem get?_of_absent (absent : key ∉ entries.map Prod.fst) : entries.get? key = none := by
  rw [get?, Option.map_eq_none_iff, List.find?_eq_none]
  intro entry isEntry same
  exact absent (of_decide_eq_true same ▸ List.mem_map_of_mem isEntry)

theorem get?_of_mem
    (distinct : (entries.map Prod.fst).Nodup) {value : Toml} (isEntry : (key, value) ∈ entries) :
    entries.get? key = some value := by
  induction entries with
  | nil =>
      cases isEntry
  | cons first rest inductionHypothesis =>
      obtain ⟨absent, distinctRest⟩ := List.nodup_cons.mp distinct
      rcases List.mem_cons.mp isEntry with rfl | later
      · simp [get?]
      · have other : first.1 ≠ key := fun same => absent (same ▸ List.mem_map_of_mem later)
        rw [get?, List.find?_cons_of_neg (by simpa using other)]
        exact inductionHypothesis distinctRest later

theorem absorb_of_absent (absent : key ∉ entries.map Prod.fst) (value : Toml) :
    absorb ([], entries) (.assignment ⟨[], key⟩ value) = some ([], entries ++ [(key, value)]) := by
  simp [absorb, alter, assign, get?_of_absent absent, put_of_absent absent]

theorem foldlM_absorb
    {before : Entries} (distinct : ((before ++ entries).map Prod.fst).Nodup) :
    (entries.map fun (key, value) => Statement.assignment ⟨[], key⟩ value).foldlM absorb
        ([], before) =
      some ([], before ++ entries) := by
  induction entries generalizing before with
  | nil =>
      rw [List.append_nil]
      rfl
  | cons entry rest inductionHypothesis =>
      have absent : entry.1 ∉ before.map Prod.fst := by
        rw [List.map_append, List.map_cons, List.nodup_append] at distinct
        exact fun early => distinct.2.2 _ early _ List.mem_cons_self rfl
      rw [List.append_cons] at distinct ⊢
      rw [List.map_cons, List.foldlM_cons, absorb_of_absent absent]
      exact inductionHypothesis distinct

/-- Keys that are given once each make a table of just these. -/
theorem ofStatements?_of_distinct (distinct : (entries.map Prod.fst).Nodup) :
    ofStatements? (entries.map fun (key, value) => .assignment ⟨[], key⟩ value) =
      some entries := by
  have absorbed := @foldlM_absorb entries [] distinct
  rw [ofStatements?, absorbed]
  rfl

end Entries

namespace Spells

variable {text : List Char} {entries : Entries}

/-- Each line ends with one character at least, so the characters outnumber the lines. -/
theorem readStatements (spells : Spells text entries) {fuel : Nat} (enough : text.length < fuel) :
    Toml.readStatements fuel text =
      some (entries.map fun (key, value) => .assignment ⟨[], key⟩ value) := by
  induction spells generalizing fuel with
  | ending remark =>
      exact readStatements_lastRemark remark enough
  | @remark text lineEnd later entries remark ends others inductionHypothesis =>
      obtain ⟨fuel, rfl⟩ := Nat.exists_eq_add_one_of_ne_zero (show fuel ≠ 0 by omega)
      have shorter : later.length < fuel := by
        have nonempty : 0 < lineEnd.length := by
          rcases ends with rfl | rfl <;> decide
        simp only [List.length_append] at enough
        omega
      rw [readStatements_remark remark ends, inductionHypothesis shorter]
  | @entry key text later value entries bare fills others inductionHypothesis =>
      obtain ⟨fuel, rfl⟩ := Nat.exists_eq_add_one_of_ne_zero (show fuel ≠ 0 by omega)
      have shorter : later.length < fuel := by
        simp only [entryLine, List.length_append, List.length_singleton] at enough
        omega
      rw [readStatements_entryLine bare fills, inductionHypothesis shorter]
      rfl

/-- A document does not begin with the mark of a byte order. -/
theorem unmarked (spells : Spells text entries) : skipByteOrderMark text = text := by
  have other {c : Char} (isOther : c ≠ '\ufeff') (rest : List Char) :
      skipByteOrderMark (c :: rest) = c :: rest :=
    skipByteOrderMark.eq_2 _ fun _ same => isOther (List.cons.inj same).1
  have blank {c : Char} (isBlank : isBlank c = true) : c ≠ '\ufeff' :=
    Text.ne_of_holds isBlank rfl
  cases spells with
  | ending remark =>
      cases remark with
      | nothing => rfl
      | comment => rfl
      | blank isBlank => exact other (blank isBlank) _
  | remark remark ends =>
      cases remark with
      | nothing => rcases ends with rfl | rfl <;> rfl
      | comment => rfl
      | blank isBlank => exact other (blank isBlank) _
  | @entry key text later value entries bare =>
      obtain ⟨first, others, begins, allowed⟩ := entryLine_eq_cons bare text later
      rw [begins]
      exact other (Text.ne_of_holds allowed rfl) others

theorem ofChars? (spells : Spells text entries) (distinct : (entries.map Prod.fst).Nodup) :
    Toml.ofChars? text = some entries := by
  rw [Toml.ofChars?, spells.unmarked, spells.readStatements (Nat.lt_succ_self _),
    Option.bind_some, Entries.ofStatements?_of_distinct distinct]

end Spells

end DesktopTags.Toml
