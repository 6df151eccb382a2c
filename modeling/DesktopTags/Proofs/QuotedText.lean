import DesktopTags.Proofs.Digits
import DesktopTags.Toml.Quote
import Mathlib.Tactic.SplitIfs

/-!
# Quoted strings

Every text is read back from its string literal, whichever quotes it was written in:
`Toml.readString_writeString`.
-/

namespace DesktopTags.Toml

/-! ## Reading on -/

/-- What a reader comes to is known from what it comes to behind one more character. -/
theorem Quote.readFrom_of_add
    {quote : Quote} {place next : Place} {c : Char} {chars ahead more left : List Char}
    (moves : quote.move place c = .add chars next)
    (later : quote.readFrom next ahead = some (more, left)) :
    quote.readFrom place (c :: ahead) = some (chars ++ more, left) := by
  rw [readFrom, moves]
  simp only [later, Option.map_some]

/-- How many quotes in a row a string can hold without an escape. -/
def Quote.limit (quote : Quote) : Nat :=
  if quote.block then 2 else 0

/-- What stands behind a literal: no quote. -/
def Unquoted (rest : List Char) : Prop :=
  ∃ c others, rest = c :: others ∧ c ≠ '"' ∧ c ≠ '\''

theorem Unquoted.ne_mark
    {c : Char} (facts : c ≠ '"' ∧ c ≠ '\'') (quote : Quote) : c ≠ quote.mark := by
  rw [Quote.mark]
  split
  · exact facts.2
  · exact facts.1

/-- The quotes on the right end a string. Those right before them are text. -/
theorem Quote.readFrom_fence
    (quote : Quote) {count : Nat} (few : count ≤ quote.limit)
    {rest : List Char} (unquoted : Unquoted rest) :
    quote.readFrom (.text count) (quote.fence ++ rest) = some (quote.quotes count, rest) := by
  obtain ⟨c, others, rfl, facts⟩ := unquoted
  have other : c ≠ quote.mark := Unquoted.ne_mark facts quote
  cases block : quote.block with
  | false =>
      have zero : count = 0 := by
        simpa [limit, block] using few
      subst zero
      simp [fence, block, quotes, readFrom, move, textMove]
  | true =>
      have small : count = 0 ∨ count = 1 ∨ count = 2 := by
        simp only [limit, block, if_true] at few
        omega
      rcases small with rfl | rfl | rfl <;>
        simp [fence, block, quotes, readFrom, move, textMove, other, List.replicate]

/-! ## Escapes -/

/-- The ways in which a character can stand between double quotes. -/
inductive Stands (block : Bool) (c : Char) : List Char → Prop
  | plain (isPlain : isPlain c = true) (quote : c ≠ '"') (backslash : c ≠ '\\') :
      Stands block c [c]
  | lineFeed (inBlock : block = true) (isLineFeed : c = '\n') : Stands block c [c]
  | short (letter : Char) (means : shortEscape? letter = some c) :
      Stands block c ['\\', letter]
  | code (d₁ d₂ d₃ d₄ : Char) (spells : Text.digitsValue? 16 [d₁, d₂, d₃, d₄] = some c.toNat) :
      Stands block c ['\\', 'u', d₁, d₂, d₃, d₄]

namespace Quote

section

variable {quote : Quote} {ahead more left : List Char} {count : Nat}

/-- Any character but a quote and a backslash, behind a few quotes, is text, and
so are the quotes. -/
theorem readFrom_text
    {c : Char}
    (isText : isPlain c = true ∨ quote.block = true ∧ c = '\n')
    (mark : c ≠ quote.mark) (backslash : c ≠ '\\' ∨ quote.single = true)
    (few : count ≤ 2)
    (later : quote.readFrom (.text 0) ahead = some (more, left)) :
    quote.readFrom (.text count) (c :: ahead) = some (quote.quotes count ++ c :: more, left) := by
  have moves : quote.move (.text count) c = .add (quote.quotes count ++ [c]) (.text 0) := by
    have escapes : ¬(c = '\\' ∧ quote.single = false) := by
      rintro ⟨rfl, double⟩
      simp [double] at backslash
    have enough : ¬3 ≤ count := by omega
    rcases isText with printed | ⟨inBlock, rfl⟩
    · simp [move, textMove, mark, enough, escapes, printed]
    · simp [move, textMove, mark, enough, inBlock, show isPlain '\n' = false from rfl]
  rw [readFrom_of_add moves later, List.append_assoc, List.singleton_append]

/-- A backslash between double quotes begins an escape. -/
theorem readFrom_backslash
    (double : quote.single = false) (few : count ≤ 2)
    (later : quote.readFrom .escape ahead = some (more, left)) :
    quote.readFrom (.text count) ('\\' :: ahead) = some (quote.quotes count ++ more, left) := by
  have moves : quote.move (.text count) '\\' = .add (quote.quotes count) .escape := by
    have enough : ¬3 ≤ count := by omega
    simp [move, textMove, Quote.mark, double, enough]
  exact readFrom_of_add moves later

theorem readFrom_short
    {letter c : Char} (means : shortEscape? letter = some c)
    (later : quote.readFrom (.text 0) ahead = some (more, left)) :
    quote.readFrom .escape (letter :: ahead) = some (c :: more, left) := by
  have moves : quote.move .escape letter = .add [c] (.text 0) := by
    simp [move, escapeMove, means]
  exact readFrom_of_add moves later

theorem move_digit
    {digit : Char} {value : Nat} (means : Text.hexValue? digit = some value)
    (missing before : Nat) :
    quote.move (.code (missing + 2) before) digit =
      .add [] (.code (missing + 1) (before * 16 + value)) := by
  simp [move, codeMove, means]

theorem move_lastDigit
    {digit c : Char} {value before : Nat} (means : Text.hexValue? digit = some value)
    (sum : before * 16 + value = c.toNat) :
    quote.move (.code 1 before) digit = .add [c] (.text 0) := by
  simp [move, codeMove, means, sum, Text.charOfNat?_toNat]

theorem readFrom_code
    {d₁ d₂ d₃ d₄ c : Char}
    (spells : Text.digitsValue? 16 [d₁, d₂, d₃, d₄] = some c.toNat)
    (later : quote.readFrom (.text 0) ahead = some (more, left)) :
    quote.readFrom .escape ('u' :: d₁ :: d₂ :: d₃ :: d₄ :: ahead) = some (c :: more, left) := by
  obtain ⟨v₁, v₂, v₃, v₄, first, second, third, fourth, sum⟩ := Text.digitsValue?_four spells
  rw [← Nat.zero_add v₁, ← Nat.zero_mul 16] at sum
  have fourthRead := readFrom_of_add (move_lastDigit fourth sum) later
  have thirdRead := readFrom_of_add (move_digit third 0 _) fourthRead
  have secondRead := readFrom_of_add (move_digit second 1 _) thirdRead
  have firstRead := readFrom_of_add (move_digit first 2 _) secondRead
  have begins : quote.move .escape 'u' = .add [] (.code 4 0) := rfl
  exact readFrom_of_add begins firstRead

end

/-- However a character stands, it is read as itself. -/
theorem readFrom_stands
    {block : Bool} {c : Char} {chars ahead more left : List Char} {count : Nat}
    (stands : Stands block c chars) (few : count ≤ 2)
    (later : Quote.readFrom ⟨false, block⟩ (.text 0) ahead = some (more, left)) :
    Quote.readFrom ⟨false, block⟩ (.text count) (chars ++ ahead) =
      some (Quote.quotes ⟨false, block⟩ count ++ c :: more, left) := by
  cases stands with
  | plain isPlain quote backslash =>
      exact readFrom_text (.inl isPlain) quote (.inl backslash) few later
  | lineFeed inBlock isLineFeed =>
      subst isLineFeed
      exact readFrom_text (.inr ⟨inBlock, rfl⟩) (show '\n' ≠ '"' by decide)
        (.inl (by decide)) few later
  | short letter means =>
      exact readFrom_backslash rfl few (readFrom_short means later)
  | code d₁ d₂ d₃ d₄ spells =>
      exact readFrom_backslash rfl few (readFrom_code spells later)

end Quote

/-- The character that a letter behind a backslash stands for. -/
def shortValue? : List Char → Option Char
  | ['\\', letter] => shortEscape? letter
  | _ => none

theorem Stands.of_shortValue?
    {block : Bool} {c : Char} {chars : List Char} (means : shortValue? chars = some c) :
    Stands block c chars := by
  unfold shortValue? at means
  split at means
  · exact .short _ means
  · cases means

theorem Stands.of_codeValue?
    {block : Bool} {c : Char} {chars : List Char}
    (spells : Text.codeValue? chars = some c.toNat) :
    Stands block c chars := by
  obtain ⟨d₁, d₂, d₃, d₄, rfl, value⟩ := Text.eq_of_codeValue? spells
  exact .code d₁ d₂ d₃ d₄ value

/-- A character that is not plain is written by its number or by a letter; in a
block, a line end is left as it is. -/
theorem escapedChar_control :
    ∀ (block : Bool) (n : Fin 0x80), isPlain (Char.ofNat n) = false →
      Text.codeValue? (escapedChar block (Char.ofNat n)) = some n.val ∨
        shortValue? (escapedChar block (Char.ofNat n)) = some (Char.ofNat n) ∨
        block = true ∧ n.val = 10 ∧ escapedChar block (Char.ofNat n) = ['\n'] := by
  decide

theorem stands_escapedChar (block : Bool) {c : Char} (quote : c ≠ '"') :
    Stands block c (escapedChar block c) := by
  cases printed : isPlain c with
  | false =>
      have small : c.toNat < 0x80 := by
        simp only [isPlain, Bool.or_eq_false_iff, Bool.and_eq_false_iff, decide_eq_false_iff_not,
          ne_eq, Decidable.not_not] at printed
        omega
      have known := escapedChar_control block ⟨c.toNat, small⟩
      rw [Char.ofNat_toNat] at known
      rcases known printed with spells | means | ⟨inBlock, ten, written⟩
      · exact .of_codeValue? spells
      · exact .of_shortValue? means
      · have lineFeed : c = '\n' := Char.toNat_inj.mp ten
        rw [written, ← lineFeed]
        exact .lineFeed inBlock lineFeed
  | true =>
      by_cases backslash : c = '\\'
      · exact backslash ▸ .short '\\' rfl
      by_cases tab : c = '\t'
      · exact tab ▸ .short 't' rfl
      have other (control : Char) (unprinted : isPlain control = false) : c ≠ control := by
        rintro rfl
        rw [printed] at unprinted
        cases unprinted
      have written : escapedChar block c = [c] := by
        rw [escapedChar, if_neg backslash, if_neg tab, if_neg (other '\n' rfl),
          if_neg (other '\x08' rfl), if_neg (other '\x0c' rfl), if_neg (other '\r' rfl),
          if_pos printed]
      rw [written]
      exact .plain printed quote backslash

theorem Stands.head
    {block : Bool} {c : Char} {chars : List Char}
    (stands : Stands block c chars) (lineFeed : ¬(block = true ∧ c = '\n')) :
    ∃ first others, chars = first :: others ∧ Toml.isPlain first = true ∧ first ≠ '"' := by
  cases stands with
  | plain isPlain quote backslash => exact ⟨c, [], rfl, isPlain, quote⟩
  | lineFeed inBlock isLineFeed => exact absurd ⟨inBlock, isLineFeed⟩ lineFeed
  | short letter means => exact ⟨'\\', [letter], rfl, rfl, by decide⟩
  | code d₁ d₂ d₃ d₄ spells => exact ⟨'\\', _, rfl, rfl, by decide⟩

/-! ## Texts between quotes -/

namespace Quote

theorem limit_le_two (quote : Quote) : quote.limit ≤ 2 := by
  rw [limit]
  split <;> omega

/-- A quote that a string can hold is kept back until it is known to be text. -/
theorem readFrom_mark
    {quote : Quote} {count : Nat} {ahead more left : List Char}
    (block : quote.block = true) (few : count < 4)
    (later : quote.readFrom (.text (count + 1)) ahead =
      some (quote.quotes (count + 1) ++ more, left)) :
    quote.readFrom (.text count) (quote.mark :: ahead) =
      some (quote.quotes count ++ quote.mark :: more, left) := by
  have moves : quote.move (.text count) quote.mark = .add [] (.text (count + 1)) := by
    have below : count ≠ 4 := by omega
    simp [move, textMove, block, below]
  rw [readFrom_of_add moves later, quotes, quotes, List.replicate_succ']
  simp

/-- A text between double quotes is read back, behind the quotes in front of it. -/
theorem readFrom_escaped
    (block : Bool) (text : List Char) {count : Nat}
    (few : count ≤ Quote.limit ⟨false, block⟩)
    {rest : List Char} (unquoted : Unquoted rest) :
    Quote.readFrom ⟨false, block⟩ (.text count)
        (escaped block count text ++ (Quote.fence ⟨false, block⟩ ++ rest)) =
      some (Quote.quotes ⟨false, block⟩ count ++ text, rest) := by
  have small : count ≤ 2 := Nat.le_trans few (limit_le_two _)
  induction text generalizing count with
  | nil =>
      rw [escaped, List.nil_append, List.append_nil]
      exact readFrom_fence ⟨false, block⟩ few unquoted
  | cons c text inductionHypothesis =>
      have fresh := @inductionHypothesis 0 (Nat.zero_le _) (Nat.zero_le _)
      rw [escaped]
      split_ifs with quote room
      · subst quote
        simp only [Bool.and_eq_true, decide_eq_true_eq] at room
        have more := @inductionHypothesis (count + 1) (by simp [limit, room.1]; omega) (by omega)
        exact readFrom_mark room.1 (by omega) more
      · subst quote
        exact readFrom_backslash rfl small (readFrom_short rfl fresh)
      · rw [List.append_assoc]
        exact readFrom_stands (stands_escapedChar block quote) small fresh

theorem le_longestRun (c : Char) (behind : Nat) (text : List Char) :
    behind ≤ longestRun c behind text := by
  induction text generalizing behind with
  | nil =>
      exact Nat.le_refl behind
  | cons d rest inductionHypothesis =>
      rw [longestRun]
      split
      · exact Nat.le_of_succ_le (inductionHypothesis (behind + 1))
      · exact Nat.le_max_left _ _

/-- A text between single quotes is read back as it stands. -/
theorem readFrom_raw
    (block : Bool) {text : List Char} {count : Nat}
    (few : longestRun '\'' count text ≤ Quote.limit ⟨true, block⟩)
    (isText : ∀ c ∈ text, isPlain c = true ∨ block = true ∧ c = '\n')
    {rest : List Char} (unquoted : Unquoted rest) :
    Quote.readFrom ⟨true, block⟩ (.text count)
        (text ++ (Quote.fence ⟨true, block⟩ ++ rest)) =
      some (Quote.quotes ⟨true, block⟩ count ++ text, rest) := by
  have within : count ≤ Quote.limit ⟨true, block⟩ :=
    Nat.le_trans (le_longestRun '\'' count text) few
  induction text generalizing count with
  | nil =>
      rw [List.nil_append, List.append_nil]
      exact readFrom_fence ⟨true, block⟩ within unquoted
  | cons c text inductionHypothesis =>
      have small : count ≤ 2 := Nat.le_trans within (limit_le_two _)
      have others : ∀ c ∈ text, isPlain c = true ∨ block = true ∧ c = '\n' :=
        fun c member => isText c (List.mem_cons_of_mem _ member)
      rw [longestRun] at few
      split_ifs at few with mark
      · subst mark
        have next := Nat.le_trans (le_longestRun '\'' (count + 1) text) few
        have more := @inductionHypothesis (count + 1) few others next
        have inBlock : block = true := by
          cases block with
          | false => exact absurd next (Nat.not_succ_le_zero count)
          | true => rfl
        exact readFrom_mark inBlock (by omega) more
      · have fresh := @inductionHypothesis 0 (by omega) others (Nat.zero_le _)
        exact readFrom_text (isText c List.mem_cons_self) mark (.inr rfl) small fresh

/-- A text as it stands between the quotes. -/
def inside (quote : Quote) (text : List Char) : List Char :=
  if quote.single then text else escaped quote.block 0 text

/-- Whether a text can stand between these quotes: double ones take every text,
single ones those that need no escape. -/
structure Suits (quote : Quote) (text : List Char) : Prop where
  run : quote.single = true → longestRun '\'' 0 text ≤ quote.limit
  isText : quote.single = true →
    ∀ c ∈ text, isPlain c = true ∨ quote.block = true ∧ c = '\n'

theorem readFrom_inside
    {quote : Quote} {text rest : List Char}
    (suits : quote.Suits text) (unquoted : Unquoted rest) :
    quote.readFrom (.text 0) (quote.inside text ++ (quote.fence ++ rest)) =
      some (text, rest) := by
  obtain ⟨single, block⟩ := quote
  cases single with
  | false => exact readFrom_escaped block text (Nat.zero_le _) unquoted
  | true => exact readFrom_raw block (suits.run rfl) (suits.isText rfl) unquoted

/-- Unless a line end stands in front, the text begins with a plain character, and
in a line with another one than the quotes. -/
theorem head_inside
    {quote : Quote} {text : List Char}
    (suits : quote.Suits text) (oneLine : ¬(quote.block = true ∧ '\n' ∈ text)) :
    quote.inside text = [] ∨
      ∃ c others, quote.inside text = c :: others ∧ isPlain c = true ∧
        (quote.block = false → c ≠ quote.mark) := by
  obtain ⟨single, block⟩ := quote
  cases text with
  | nil =>
      cases single <;> exact .inl rfl
  | cons c text =>
      right
      have lineFeed : ¬(block = true ∧ c = '\n') :=
        fun ⟨inBlock, isLineFeed⟩ => oneLine ⟨inBlock, isLineFeed ▸ List.mem_cons_self⟩
      cases single with
      | true =>
          refine ⟨c, text, rfl, (suits.isText rfl c List.mem_cons_self).resolve_right lineFeed, ?_⟩
          rintro rfl rfl
          have run := Nat.le_trans (le_longestRun '\'' 1 text) (suits.run rfl)
          exact absurd run (Nat.not_succ_le_zero 0)
      | false =>
          by_cases quote : c = '"'
          · subst quote
            cases block with
            | false => exact ⟨'\\', _, rfl, rfl, fun _ => by decide⟩
            | true => exact ⟨'"', _, rfl, rfl, nofun⟩
          · have written : inside ⟨false, block⟩ (c :: text) =
                escapedChar block c ++ escaped block 0 text := by
              simp [inside, escaped, quote]
            rw [written]
            obtain ⟨first, others, chars, isPlain, other⟩ :=
              (stands_escapedChar block quote).head lineFeed
            exact ⟨first, _, by rw [chars, List.cons_append], isPlain, fun _ => other⟩

theorem newline?_of_plain
    {c : Char} (printed : isPlain c = true) (rest : List Char) :
    newline? (c :: rest) = none := by
  have lineFeed : c ≠ '\n' := by
    rintro rfl
    cases printed
  have carriage : c ≠ '\r' := by
    rintro rfl
    cases printed
  unfold newline?
  split
  · rename_i same
    exact absurd (List.cons.inj same).1 lineFeed
  · rename_i same
    exact absurd (List.cons.inj same).1 carriage
  · rfl

/-- There is one quote on each side at least. -/
theorem fence_eq (quote : Quote) :
    quote.fence = quote.mark :: quote.quotes (if quote.block then 2 else 0) := by
  rw [fence]
  cases quote.block <;> rfl

theorem isPlain_mark (quote : Quote) : isPlain quote.mark = true := by
  obtain ⟨single, block⟩ := quote
  cases single <;> rfl

/-- What stands between the opening quotes and the text: a line end, if the text has
several lines. -/
def lead (quote : Quote) (text : List Char) : List Char :=
  if quote.block && text.contains '\n' then ['\n'] else []

theorem write_eq (quote : Quote) (text : List Char) :
    quote.write text = quote.fence ++ (quote.lead text ++ (quote.inside text ++ quote.fence)) := by
  simp only [write, lead, inside, List.append_assoc]

theorem read_inside
    {quote : Quote} {text rest : List Char}
    (suits : quote.Suits text) (unquoted : Unquoted rest) :
    quote.read (quote.lead text ++ (quote.inside text ++ (quote.fence ++ rest))) =
      some (text, rest) := by
  have inside := readFrom_inside suits unquoted
  by_cases several : quote.block = true ∧ '\n' ∈ text
  · have led : quote.lead text = ['\n'] := by
      simp [lead, several]
    rw [led, read, if_pos several.1]
    exact inside
  · have led : quote.lead text = [] := by
      simpa [lead] using several
    have kept : newline? (quote.inside text ++ (quote.fence ++ rest)) = none := by
      rcases head_inside suits several with empty | ⟨c, others, begins, printed, -⟩
      · rw [empty, List.nil_append, fence_eq, List.cons_append]
        exact newline?_of_plain (isPlain_mark quote) _
      · rw [begins, List.cons_append]
        exact newline?_of_plain printed _
    rw [led, List.nil_append, read, kept, Option.getD_none, ite_self]
    exact inside

/-- One quote opens a line, unless it is the first of three. -/
theorem readString_mark
    {quote : Quote} {ahead : List Char}
    (line : quote.block = false)
    (alone : ∀ more, ahead ≠ quote.mark :: quote.mark :: more) :
    readString (quote.mark :: ahead) = quote.read ahead := by
  obtain ⟨single, block⟩ := quote
  cases line
  cases single with
  | false =>
      change ∀ more, ahead ≠ '"' :: '"' :: more at alone
      change readString ('"' :: ahead) = _
      unfold readString
      split <;> simp_all
  | true =>
      change ∀ more, ahead ≠ '\'' :: '\'' :: more at alone
      change readString ('\'' :: ahead) = _
      unfold readString
      split <;> simp_all

theorem readString_fence
    {quote : Quote} {text rest : List Char}
    (suits : quote.Suits text) (unquoted : Unquoted rest) :
    readString (quote.write text ++ rest) =
      quote.read (quote.lead text ++ (quote.inside text ++ (quote.fence ++ rest))) := by
  rw [write_eq]
  simp only [List.append_assoc]
  cases block : quote.block with
  | true =>
      obtain ⟨single, block⟩ := quote
      cases block
      cases single <;> rfl
  | false =>
      have led : quote.lead text = [] := by
        simp [lead, block]
      have fenced : quote.fence = [quote.mark] := by
        simp [fence, block, quotes]
      rw [led, fenced, List.nil_append]
      refine readString_mark block fun more same => ?_
      rcases head_inside suits (fun several => by simp [block] at several) with
        empty | ⟨first, others, begins, -, other⟩
      · obtain ⟨c, others, rfl, facts⟩ := unquoted
        rw [empty] at same
        exact Unquoted.ne_mark facts quote (List.cons.inj (List.cons.inj same).2).1
      · rw [begins] at same
        exact other block (List.cons.inj same).1

end Quote

theorem isText_of_no_control
    {text : List Char} (uncontrolled : text.any isControl = false) :
    ∀ c ∈ text, isPlain c = true ∨ c = '\n' := by
  intro c member
  have one := List.any_eq_false.mp uncontrolled c member
  by_cases printed : isPlain c = true
  · exact .inl printed
  · exact .inr (by simpa [isControl, printed] using one)

theorem suits_forText (text : List Char) : (Quote.forText text).Suits text := by
  simp only [Quote.forText]
  split_ifs with basic literal basicBlock literalBlock
  · exact ⟨nofun, nofun⟩
  · simp only [Bool.and_eq_true, Bool.not_eq_true', decide_eq_true_eq] at literal
    obtain ⟨⟨uncontrolled, unquoted⟩, oneLine⟩ := literal
    refine ⟨fun _ => Nat.le_of_eq unquoted, fun _ c member => .inl ?_⟩
    refine (isText_of_no_control uncontrolled c member).resolve_right ?_
    rintro rfl
    simp [member] at oneLine
  · exact ⟨nofun, nofun⟩
  · simp only [Bool.and_eq_true, Bool.not_eq_true', decide_eq_true_eq] at literalBlock
    exact ⟨fun _ => literalBlock.2, fun _ c member =>
      (isText_of_no_control literalBlock.1 c member).imp_right fun lineFeed => ⟨rfl, lineFeed⟩⟩
  · exact ⟨nofun, nofun⟩

/-- Whatever a text holds, it is read back from its literal. -/
theorem readString_writeString
    (text : List Char) {rest : List Char} (unquoted : Unquoted rest) :
    readString (writeString text ++ rest) = some (text, rest) := by
  have suits := suits_forText text
  rw [writeString, Quote.readString_fence suits unquoted, Quote.read_inside suits unquoted]

end DesktopTags.Toml
