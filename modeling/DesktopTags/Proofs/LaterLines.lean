import DesktopTags.Proofs.LineEnds

/-!
# A value and the lines behind it

What stands for a value on its own stands for the same value in front of further lines,
which are left as they are: `Toml.ignoresLaterLines_readValue`. It is strings, arrays and
tables that may run over several lines, and where the text ends within one of them it is
refused, though later lines could complete it.
-/

namespace DesktopTags.Toml

variable {α β : Type}

/-! ## Readers that ignore later lines -/

/-- What is read from a text is read from it as well when more lines follow. -/
def IgnoresLaterLines (read : List Char → Option (α × List Char)) : Prop :=
  ∀ ⦃ahead value left⦄, read ahead = some (value, left) →
    ∀ later, read (ahead ++ '\n' :: later) = some (value, left ++ '\n' :: later)

theorem KeepsToLine.ignoresLaterLines
    {read : List Char → Option (α × List Char)} (keeps : KeepsToLine read) :
    IgnoresLaterLines read := by
  intro ahead value left isRead later
  rw [keeps ahead later, isRead]
  rfl

theorem IgnoresLaterLines.map
    {read : List Char → Option (α × List Char)}
    (ignores : IgnoresLaterLines read) (make : α → β) :
    IgnoresLaterLines fun ahead => (read ahead).map fun (value, left) => (make value, left) := by
  intro ahead value left isRead later
  obtain ⟨⟨first, rest⟩, read, same⟩ := Option.map_eq_some_iff.mp isRead
  cases same
  simp only [ignores read later, Option.map_some]

/-! ## Strings -/

namespace Quote

/-- Quotes that end a block at the end of the text end it in front of a line end. -/
theorem readFrom_lineEnd_of_atEnd?
    {quote : Quote} {place : Place} {chars : List Char}
    (ends : quote.atEnd? place = some chars) (later : List Char) :
    quote.readFrom place ('\n' :: later) = some (chars, '\n' :: later) := by
  cases place with
  | text count =>
      obtain ⟨enough, same⟩ := Option.ite_none_right_eq_some.mp ends
      obtain rfl := Option.some_inj.mp same
      have other : '\n' ≠ quote.mark := by
        rw [mark]
        split <;> decide
      have moves : quote.move (.text count) '\n' = .closed (quote.quotes (count - 3)) := by
        simp only [move, textMove, if_neg other, if_pos enough]
      rw [readFrom, moves]
  | _ => cases ends

theorem ignoresLaterLines_readFrom (quote : Quote) (place : Place) :
    IgnoresLaterLines (quote.readFrom place) := by
  intro ahead chars left isRead later
  fun_induction readFrom quote place ahead generalizing chars left with
  | case1 place =>
      obtain ⟨ended, ends, same⟩ := Option.map_eq_some_iff.mp isRead
      cases same
      exact readFrom_lineEnd_of_atEnd? ends later
  | case2 place c rest added next moves inductionHypothesis =>
      obtain ⟨⟨more, left⟩, readMore, same⟩ := Option.map_eq_some_iff.mp isRead
      cases same
      rw [List.cons_append, readFrom, moves]
      simp only [inductionHypothesis readMore, Option.map_some]
  | case3 place c rest ended moves =>
      cases isRead
      rw [List.cons_append, readFrom, moves]
  | case4 place c rest ended moves =>
      cases isRead
      rw [List.cons_append, readFrom, moves]
  | case5 =>
      cases isRead

/-- Where the text of a string is over before it began, or in the middle of its first
line end. Later lines could then be taken for its own. -/
def Unbegun (ahead : List Char) : Prop :=
  ahead = [] ∨ ahead = ['\r']

theorem Unbegun.read (quote : Quote) {ahead : List Char} (unbegun : Unbegun ahead) :
    quote.read ahead = none := by
  obtain ⟨single, block⟩ := quote
  rcases unbegun with rfl | rfl <;> cases single <;> cases block <;> rfl

theorem newline?_append
    {ahead : List Char} (begun : ¬Unbegun ahead) (later : List Char) :
    newline? (ahead ++ '\n' :: later) = (newline? ahead).map (· ++ '\n' :: later) := by
  fun_cases newline? ahead with
  | case1 rest => rfl
  | case2 rest => rfl
  | case3 ahead lineFeed carriage =>
      rcases ahead with _ | ⟨c, _ | ⟨d, rest⟩⟩ <;> simp_all [newline?, Unbegun]

theorem ignoresLaterLines_read (quote : Quote) : IgnoresLaterLines quote.read := by
  intro ahead chars left isRead later
  have begun : ¬Unbegun ahead := by
    intro unbegun
    rw [unbegun.read] at isRead
    cases isRead
  rw [read, newline?_append begun]
  rw [read] at isRead
  split_ifs at isRead ⊢
  · cases started : newline? ahead <;> rw [started] at isRead <;>
      exact ignoresLaterLines_readFrom quote _ isRead later
  · exact ignoresLaterLines_readFrom quote _ isRead later

end Quote

theorem ignoresLaterLines_readString : IgnoresLaterLines readString := by
  intro ahead chars left isRead later
  unfold readString at isRead
  split at isRead
  · exact Quote.ignoresLaterLines_read _ isRead later
  · rename_i rest alone
    rw [List.cons_append, readString.eq_2]
    · exact Quote.ignoresLaterLines_read _ isRead later
    · exact ne_append_lineEnd ['"', '"'] (by decide) alone later
  · exact Quote.ignoresLaterLines_read _ isRead later
  · rename_i rest alone
    rw [List.cons_append, readString.eq_4]
    · exact Quote.ignoresLaterLines_read _ isRead later
    · exact ne_append_lineEnd ['\'', '\''] (by decide) alone later
  · cases isRead

theorem ignoresLaterLines_readScalar : IgnoresLaterLines readScalar := by
  rintro (_ | ⟨c, rest⟩) value left isRead later
  · cases isRead
  · rw [readScalar] at isRead
    rw [List.cons_append, readScalar, ← List.cons_append]
    split_ifs at isRead ⊢
    · exact ignoresLaterLines_readString.map (fun text => Toml.string (.ofList text)) isRead later
    · exact (keepsToLine_readWord (by decide) _).ignoresLaterLines isRead later
    · exact (keepsToLine_readWord (by decide) _).ignoresLaterLines isRead later
    · exact (keepsToLine_readMoment.or keepsToLine_readNumber).ignoresLaterLines isRead later
    · exact keepsToLine_readSpecial.ignoresLaterLines isRead later

/-! ## Keys -/

theorem skipBlanks_append (ahead later : List Char) :
    skipBlanks (ahead ++ '\n' :: later) = skipBlanks ahead ++ '\n' :: later :=
  dropWhile_append_lineEnd rfl ahead later

theorem ignoresLaterLines_readKey : IgnoresLaterLines readKey := by
  intro ahead key left isRead later
  unfold readKey at isRead
  split at isRead
  · exact (Quote.ignoresLaterLines_read _).map String.ofList isRead later
  · exact (Quote.ignoresLaterLines_read _).map String.ofList isRead later
  · rename_i basic literal
    rw [readKey.eq_3 _ (ne_append_lineEnd ['"'] (by decide) basic later)
      (ne_append_lineEnd ['\''] (by decide) literal later)]
    dsimp only at isRead ⊢
    rw [takeWhile_append_lineEnd rfl, dropWhile_append_lineEnd rfl]
    split_ifs at isRead ⊢
    cases isRead
    rfl

theorem ignoresLaterLines_readPath (limit : Nat) : IgnoresLaterLines (readPath limit) := by
  induction limit with
  | zero =>
      intro ahead path left isRead
      cases isRead
  | succ limit inductionHypothesis =>
      intro ahead path left isRead later
      rw [readPath] at isRead ⊢
      simp only [Option.bind_eq_bind, Option.bind_eq_some_iff] at isRead
      obtain ⟨⟨key, rest⟩, first, isRead⟩ := isRead
      rw [skipBlanks_append, ignoresLaterLines_readKey first later]
      simp only [Option.bind_eq_bind, Option.bind_some, skipBlanks_append]
      split at isRead
      · rename_i behind point
        obtain ⟨⟨path, left⟩, others, isRead⟩ := Option.bind_eq_some_iff.mp isRead
        cases isRead
        rw [point]
        simp [inductionHypothesis others later]
      · rename_i point
        cases isRead
        split
        · exact (ne_append_lineEnd ['.'] (by decide) point later _ ‹_›).elim
        · rfl

/-! ## Blanks, line ends and comments -/

theorem skipLines_cons {c : Char} (carriage : c ≠ '\r') (comment : Bool) (rest : List Char) :
    skipLines comment (c :: rest) =
      if c = '\n' then skipLines false rest
      else if comment then if isPlain c then skipLines true rest else c :: rest
      else if isBlank c then skipLines false rest
      else if c = '#' then skipLines true rest
      else c :: rest :=
  skipLines.eq_3 comment c rest fun _ isCarriage _ => carriage isCarriage

/-- What is found behind line ends and comments is found when more lines follow, unless
it is a carriage return, which a line feed behind it would complete. -/
theorem skipLines_append
    {comment : Bool} {ahead rest : List Char} {c : Char}
    (skipped : skipLines comment ahead = c :: rest) (carriage : c ≠ '\r') (later : List Char) :
    skipLines comment (ahead ++ '\n' :: later) = c :: (rest ++ '\n' :: later) := by
  fun_induction skipLines comment ahead with
  | case1 =>
      cases skipped
  | case2 comment rest inductionHypothesis =>
      exact inductionHypothesis skipped
  | case3 comment rest other inductionHypothesis =>
      rw [List.cons_append, skipLines_cons (by decide), if_pos rfl]
      exact inductionHypothesis skipped
  | case4 d rest other lineFeed plain inductionHypothesis =>
      rw [List.cons_append, skipLines_cons (Text.ne_of_holds plain rfl), if_neg lineFeed, if_pos rfl,
        if_pos plain]
      exact inductionHypothesis skipped
  | case5 d rest other lineFeed unprinted =>
      obtain ⟨rfl, rfl⟩ := List.cons.inj skipped
      rw [List.cons_append, skipLines_cons carriage, if_neg lineFeed, if_pos rfl,
        if_neg unprinted]
  | case6 comment d rest other lineFeed outside blank inductionHypothesis =>
      rw [List.cons_append, skipLines_cons (Text.ne_of_holds blank rfl), if_neg lineFeed,
        if_neg outside, if_pos blank]
      exact inductionHypothesis skipped
  | case7 comment rest outside other lineFeed blank inductionHypothesis =>
      rw [List.cons_append, skipLines_cons (by decide), if_neg lineFeed, if_neg outside,
        if_neg blank, if_pos rfl]
      exact inductionHypothesis skipped
  | case8 comment d rest other lineFeed outside blank sign =>
      obtain ⟨rfl, rfl⟩ := List.cons.inj skipped
      rw [List.cons_append, skipLines_cons carriage, if_neg lineFeed, if_neg outside,
        if_neg blank, if_neg sign]

/-! ## Arrays and tables -/

/-- What is read as a value begins neither with a blank nor with a carriage return. -/
def StartsAtOnce (readItem : List Char → Option (Toml × List Char)) : Prop :=
  ∀ ⦃ahead item left⦄, readItem ahead = some (item, left) →
    ∃ first others, ahead = first :: others ∧ isBlank first = false ∧ first ≠ '\r'

section Collections

variable {readItem : List Char → Option (Toml × List Char)}

/-! ### Items one after the other -/

theorem readItems_of_closed
    {ahead left : List Char} (closed : skipLines false ahead = ']' :: left) (fuel : Nat) :
    readItems readItem (fuel + 1) ahead = some ([], left) := by
  rw [readItems, closed]
  rfl

theorem readItems_of_last
    {ahead rest left : List Char} {item : Toml}
    (bracket : ∀ behind, skipLines false ahead ≠ ']' :: behind)
    (first : readItem (skipLines false ahead) = some (item, rest))
    (closed : skipLines false rest = ']' :: left)
    (fuel : Nat) :
    readItems readItem (fuel + 1) ahead = some ([item], left) := by
  rw [readItems]
  split
  · exact absurd ‹_› (bracket _)
  · simp [first, closed]

theorem readItems_of_next
    {ahead rest behind : List Char} {item : Toml}
    (bracket : ∀ behind, skipLines false ahead ≠ ']' :: behind)
    (first : readItem (skipLines false ahead) = some (item, rest))
    (comma : skipLines false rest = ',' :: behind)
    (fuel : Nat) :
    readItems readItem (fuel + 1) ahead =
      (readItems readItem fuel behind).map fun (items, left) => (item :: items, left) := by
  rw [readItems]
  split
  · exact absurd ‹_› (bracket _)
  · cases more : readItems readItem fuel behind <;> simp [first, comma, more]

/-- More lines are more characters, so the bound on the number of items grows. -/
theorem readItems_append
    (ignores : IgnoresLaterLines readItem) (starts : StartsAtOnce readItem)
    {fuel more : Nat} {ahead left : List Char} {items : List Toml}
    (isRead : readItems readItem fuel ahead = some (items, left)) (enough : fuel ≤ more)
    (later : List Char) :
    readItems readItem more (ahead ++ '\n' :: later) = some (items, left ++ '\n' :: later) := by
  induction fuel generalizing more ahead items with
  | zero =>
      cases isRead
  | succ fuel inductionHypothesis =>
      obtain ⟨more, rfl⟩ := Nat.exists_eq_add_one_of_ne_zero (show more ≠ 0 by omega)
      rw [readItems] at isRead
      split at isRead
      · rename_i behind closed
        cases isRead
        exact readItems_of_closed (skipLines_append closed (by decide) later) more
      · rename_i bracket
        simp only [Option.bind_eq_bind, Option.bind_eq_some_iff] at isRead
        obtain ⟨⟨item, rest⟩, first, isRead⟩ := isRead
        obtain ⟨c, others, skipped, -, carriage⟩ := starts first
        have skippedLater := skipLines_append skipped carriage later
        have firstLater := ignores first later
        rw [skipped, List.cons_append, ← skippedLater] at firstLater
        have bracketLater :
            ∀ behind, skipLines false (ahead ++ '\n' :: later) ≠ ']' :: behind := by
          intro behind same
          rw [skippedLater] at same
          rw [skipped] at bracket
          exact bracket others (congrArg (· :: others) (List.cons.inj same).1)
        split at isRead
        · rename_i behind comma
          obtain ⟨⟨items, left⟩, next, isRead⟩ := Option.bind_eq_some_iff.mp isRead
          cases isRead
          rw [readItems_of_next bracketLater firstLater
              (skipLines_append comma (by decide) later),
            inductionHypothesis next (by omega)]
          rfl
        · rename_i behind closed
          cases isRead
          exact readItems_of_last bracketLater firstLater
            (skipLines_append closed (by decide) later) more
        · cases isRead

/-! ### Pairs one after the other -/

theorem ignoresLaterLines_readPair (ignores : IgnoresLaterLines readItem) :
    IgnoresLaterLines (readPair readItem) := by
  intro ahead pair left isRead later
  rw [readPair] at isRead ⊢
  simp only [Option.bind_eq_bind, Option.bind_eq_some_iff] at isRead
  obtain ⟨⟨path, rest⟩, first, isRead⟩ := isRead
  rw [ignoresLaterLines_readPath depthLimit first later]
  split at isRead
  · rename_i behind equals
    obtain rfl : rest = '=' :: behind := equals
    obtain ⟨⟨value, left⟩, second, isRead⟩ := Option.bind_eq_some_iff.mp isRead
    cases isRead
    simp [skipBlanks_append, ignores second later]
  · cases isRead

theorem readPairs_append
    (ignores : IgnoresLaterLines readItem)
    {fuel more : Nat} {ahead left : List Char} {pairs : List (Path × Toml)}
    (isRead : readPairs readItem fuel ahead = some (pairs, left)) (enough : fuel ≤ more)
    (later : List Char) :
    readPairs readItem more (ahead ++ '\n' :: later) = some (pairs, left ++ '\n' :: later) := by
  induction fuel generalizing more ahead pairs with
  | zero =>
      cases isRead
  | succ fuel inductionHypothesis =>
      obtain ⟨more, rfl⟩ := Nat.exists_eq_add_one_of_ne_zero (show more ≠ 0 by omega)
      rw [readPairs] at isRead ⊢
      simp only [Option.bind_eq_bind, Option.bind_eq_some_iff] at isRead
      obtain ⟨⟨pair, rest⟩, first, isRead⟩ := isRead
      rw [ignoresLaterLines_readPair ignores first later]
      simp only [Option.bind_eq_bind, Option.bind_some, skipBlanks_append]
      split at isRead
      · rename_i behind comma
        obtain ⟨⟨pairs, left⟩, others, isRead⟩ := Option.bind_eq_some_iff.mp isRead
        cases isRead
        simp [comma, inductionHypothesis others (Nat.le_of_succ_le_succ enough)]
      · rename_i behind brace
        cases isRead
        simp [brace]
      · cases isRead

theorem ignoresLaterLines_readInlineTable (ignores : IgnoresLaterLines readItem) :
    IgnoresLaterLines (readInlineTable readItem) := by
  intro ahead table left isRead later
  rw [readInlineTable] at isRead ⊢
  rw [skipBlanks_append]
  split at isRead
  · rename_i behind brace
    cases isRead
    simp [brace]
  · rename_i brace
    simp only [Option.bind_eq_bind, Option.bind_eq_some_iff] at isRead
    obtain ⟨⟨pairs, left⟩, inside, entries, made, isRead⟩ := isRead
    cases isRead
    have enough : ahead.length + 1 ≤ (ahead ++ '\n' :: later).length + 1 := by simp
    have insideLater := readPairs_append ignores inside enough later
    split
    · exact (ne_append_lineEnd ['\x7d'] (by decide) brace later _ ‹_›).elim
    · simp only [insideLater, Option.bind_eq_bind, Option.bind_some, made]

end Collections

/-! ## Values -/

theorem startsAtOnce_readScalar : StartsAtOnce readScalar := by
  rintro (_ | ⟨c, rest⟩) value left isRead
  · cases isRead
  · refine ⟨c, rest, rfl, Bool.eq_false_iff.mpr fun blank => ?_, ?_⟩
    · simp only [isBlank, Bool.or_eq_true, decide_eq_true_eq] at blank
      rcases blank with rfl | rfl <;> cases isRead
    · rintro rfl
      cases isRead

theorem startsAtOnce_readValue (depth : Nat) : StartsAtOnce (readValue depth) := by
  intro ahead value left isRead
  unfold readValue at isRead
  split at isRead
  · exact startsAtOnce_readScalar isRead
  · split at isRead
    · exact ⟨'[', _, rfl, rfl, by decide⟩
    · exact ⟨'\x7b', _, rfl, rfl, by decide⟩
    · exact startsAtOnce_readScalar isRead

/-- The induction is on the depth to which a value may be nested. -/
theorem ignoresLaterLines_readValue (depth : Nat) : IgnoresLaterLines (readValue depth) := by
  induction depth with
  | zero =>
      exact ignoresLaterLines_readScalar
  | succ depth inductionHypothesis =>
      intro ahead value left isRead later
      unfold readValue at isRead
      split at isRead
      · rename_i rest
        obtain ⟨⟨items, left⟩, inside, same⟩ := Option.map_eq_some_iff.mp isRead
        cases same
        have enough : rest.length + 1 ≤ (rest ++ '\n' :: later).length + 1 := by simp
        have insideLater :=
          readItems_append inductionHypothesis (startsAtOnce_readValue depth) inside enough later
        rw [List.cons_append, readValue, insideLater]
        rfl
      · exact ignoresLaterLines_readInlineTable inductionHypothesis isRead later
      · rename_i bracket brace
        rw [readValue.eq_4]
        · exact ignoresLaterLines_readScalar isRead later
        · exact ne_append_lineEnd ['['] (by decide) bracket later
        · exact ne_append_lineEnd ['\x7b'] (by decide) brace later

end DesktopTags.Toml
