import DesktopTags.Proofs.JsonText
import Mathlib.Tactic.SplitIfs

/-!
# A JSON text as a part

What is a value on its own is the same value as a member of an object, whatever members
stand beside it: `Json.readsMember_of_ofChars?`. Only numbers depend on what follows them;
strings, arrays and objects close themselves.
-/

namespace DesktopTags.Json

/-! ## Blanks and words -/

theorem skipSpace_append
    {ahead others : List Char} {c : Char} (begins : skipSpace ahead = c :: others)
    (rest : List Char) :
    skipSpace (ahead ++ rest) = c :: (others ++ rest) := by
  have begins : ahead.dropWhile isSpace = c :: others := begins
  rw [skipSpace, List.dropWhile_append, begins]
  rfl

theorem skipSpace_append_ne
    {ahead : List Char} {c : Char}
    (some : skipSpace ahead ≠ []) (other : ∀ others, skipSpace ahead = c :: others → False)
    (rest : List Char) :
    ∀ others, skipSpace (ahead ++ rest) = c :: others → False := by
  obtain ⟨first, behind, begins⟩ := List.exists_cons_of_ne_nil some
  rw [skipSpace_append begins]
  intro others same
  exact other behind (begins.trans (congrArg (· :: behind) (List.cons.inj same).1))

theorem skipSpace_append_blank
    {ahead rest : List Char} (blank : skipSpace ahead = []) (closed : Closed rest) :
    skipSpace (ahead ++ rest) = rest := by
  have blank : ahead.dropWhile isSpace = [] := blank
  rw [skipSpace, List.dropWhile_append, blank]
  exact closed.skipSpace

theorem readWord_append
    {word ahead left : List Char} {made value : Json}
    (isRead : readWord word made ahead = some (value, left)) (rest : List Char) :
    readWord word made (ahead ++ rest) = some (value, left ++ rest) := by
  rw [readWord] at isRead ⊢
  split_ifs at isRead with begins
  cases isRead
  have begins := List.isPrefixOf_iff_prefix.mp begins
  rw [if_pos (List.isPrefixOf_iff_prefix.mpr (begins.trans (List.prefix_append ahead rest))),
    List.drop_append_of_le_length begins.length_le]

/-! ## Strings -/

theorem readUnits_append
    {ahead left : List Char} {units : List Nat}
    (isRead : readUnits ahead = some (units, left)) (rest : List Char) :
    readUnits (ahead ++ rest) = some (units, left ++ rest) := by
  fun_induction readUnits ahead generalizing units left with
  | case1 =>
      cases isRead
  | case2 =>
      cases isRead
      rw [List.cons_append, readUnits.eq_def]
      rfl
  | case3 d₁ d₂ d₃ d₄ behind quote inductionHypothesis =>
      simp only [Option.bind_eq_bind, Option.bind_eq_some_iff] at isRead
      obtain ⟨unit, spells, ⟨units, left⟩, others, same⟩ := isRead
      cases same
      have later := readUnits_code spells (behind ++ rest)
      rw [inductionHypothesis others] at later
      exact later
  | case4 letter behind code quote inductionHypothesis =>
      simp only [Option.bind_eq_bind, Option.bind_eq_some_iff] at isRead
      obtain ⟨escaped, means, ⟨units, left⟩, others, same⟩ := isRead
      cases same
      have short : letter ≠ 'u' := by
        rintro rfl
        cases means
      rw [List.cons_append, List.cons_append, readUnits.eq_def]
      simp [short, means, inductionHypothesis others]
  | case5 =>
      cases isRead
  | case6 =>
      cases isRead
  | case7 c behind quote backslash printed inductionHypothesis =>
      simp only [Option.bind_eq_bind, Option.bind_eq_some_iff] at isRead
      obtain ⟨⟨units, left⟩, others, same⟩ := isRead
      cases same
      rw [List.cons_append, readUnits.eq_def]
      simp [quote, backslash, printed, inductionHypothesis others]

theorem readString_append
    {ahead left : List Char} {text : Option String}
    (isRead : readString ahead = some (text, left)) (rest : List Char) :
    readString (ahead ++ rest) = some (text, left ++ rest) := by
  simp only [readString, Option.bind_eq_bind, Option.bind_eq_some_iff] at isRead ⊢
  obtain ⟨⟨units, left⟩, first, same⟩ := isRead
  cases same
  exact ⟨_, readUnits_append first rest, rfl⟩

theorem readName_append
    {ahead left : List Char} {name : Option String}
    (isRead : readName ahead = some (name, left)) (rest : List Char) :
    readName (ahead ++ rest) = some (name, left ++ rest) := by
  unfold readName at isRead
  split at isRead
  · rename_i behind begins
    obtain ⟨⟨name, middle⟩, first, second⟩ := Option.bind_eq_some_iff.mp isRead
    dsimp only at second
    split at second
    · rename_i ends
      cases second
      rw [readName, skipSpace_append begins]
      simp [readString_append first rest, skipSpace_append ends rest]
    · cases second
  · cases isRead

/-! ## Numbers -/

/-- The digits behind a point, if there is one; whether there is. -/
def readPoint : List Char → Option (Bool × List Char)
  | '.' :: rest => (readDigits rest).map fun (_, left) => (true, left)
  | ahead => some (false, ahead)

def skipSign (ahead : List Char) : List Char :=
  match ahead with
  | c :: rest => if c = '+' || c = '-' then rest else ahead
  | [] => []

/-- An exponent, if there is one; whether there is. -/
def readExponent (ahead : List Char) : Option (Bool × List Char) :=
  match ahead with
  | c :: rest =>
      if c = 'e' || c = 'E' then
        (readDigits (skipSign rest)).map fun (_, left) => (true, left)
      else some (false, ahead)
  | [] => some (false, [])

theorem bind_readExponent
    {α : Type} (ahead : List Char) (next : Bool × List Char → Option α) :
    (readExponent ahead).bind next =
      match ahead with
      | c :: rest =>
          if c = 'e' || c = 'E' then
            (readDigits (skipSign rest)).bind fun (_, left) => next (true, left)
          else next (false, ahead)
      | [] => next (false, []) := by
  unfold readExponent
  split
  · split_ifs
    · exact Option.bind_map
    · rfl
  · rfl

/-- A numeral without its sign, part by part. -/
theorem readUnsigned_eq (ahead : List Char) :
    readUnsigned ahead =
      (readDigits ahead).bind fun (digits, left) =>
        if digits.head? = some '0' && digits.length > 1 then none
        else
          (readPoint left).bind fun (broken, left) =>
            (readExponent left).bind fun (scaled, left) =>
              if broken || scaled then some (.signed, left)
              else (Text.digitsValue? 10 digits).bind fun value => some (.nat value, left) := by
  rw [readUnsigned]
  cases readDigits ahead with
  | none => rfl
  | some read =>
      obtain ⟨digits, left⟩ := read
      simp only [bind_readExponent, Option.bind_eq_bind, Option.bind_some]
      split
      · rfl
      · split
        · rw [readPoint, Option.bind_map]
          rfl
        · rename_i point
          rw [readPoint.eq_2 _ point]
          rfl

section Numbers

variable {ahead left rest : List Char}

theorem readPoint_append
    {broken : Bool}
    (isRead : readPoint ahead = some (broken, left)) (closed : Closed rest) :
    readPoint (ahead ++ rest) = some (broken, left ++ rest) := by
  unfold readPoint at isRead
  split at isRead
  · obtain ⟨⟨digits, left⟩, first, same⟩ := Option.map_eq_some_iff.mp isRead
    cases same
    rw [List.cons_append, readPoint, readDigits_append first closed]
    rfl
  · rename_i point
    cases isRead
    rw [readPoint.eq_2]
    intro behind same
    cases ahead with
    | nil =>
        rcases closed.eq_nil_or_cons with rfl | ⟨c, others, rfl, rfl | rfl | rfl⟩ <;> cases same
    | cons c others =>
        exact point others (congrArg (· :: others) (List.cons.inj same).1)

theorem readExponent_append
    {scaled : Bool}
    (isRead : readExponent ahead = some (scaled, left)) (closed : Closed rest) :
    readExponent (ahead ++ rest) = some (scaled, left ++ rest) := by
  cases ahead with
  | nil =>
      cases isRead
      rcases closed.eq_nil_or_cons with rfl | ⟨c, others, rfl, rfl | rfl | rfl⟩ <;> rfl
  | cons c others =>
      rw [readExponent] at isRead
      rw [List.cons_append, readExponent]
      split_ifs at isRead ⊢
      · obtain ⟨⟨digits, left⟩, first, same⟩ := Option.map_eq_some_iff.mp isRead
        cases same
        cases others with
        | nil =>
            cases first
        | cons sign others =>
            have skipped :
                skipSign (sign :: others ++ rest) = skipSign (sign :: others) ++ rest := by
              rw [List.cons_append, skipSign, skipSign]
              split_ifs <;> rfl
            rw [skipped, readDigits_append first closed]
            rfl
      · cases isRead
        rfl

theorem readUnsigned_append
    {value : Json}
    (isRead : readUnsigned ahead = some (value, left)) (closed : Closed rest) :
    readUnsigned (ahead ++ rest) = some (value, left ++ rest) := by
  rw [readUnsigned_eq] at isRead ⊢
  simp only [Option.bind_eq_some_iff] at isRead
  obtain ⟨⟨digits, left⟩, first, isRead⟩ := isRead
  rw [readDigits_append first closed, Option.bind_some]
  dsimp only at isRead ⊢
  split_ifs at isRead ⊢
  simp only [Option.bind_eq_some_iff] at isRead
  obtain ⟨⟨broken, left⟩, second, ⟨scaled, left⟩, third, isRead⟩ := isRead
  rw [readPoint_append second closed, Option.bind_some]
  dsimp only
  rw [readExponent_append third closed, Option.bind_some]
  dsimp only at isRead ⊢
  split_ifs at isRead ⊢
  · cases isRead
    rfl
  · obtain ⟨value, means, same⟩ := Option.bind_eq_some_iff.mp isRead
    cases same
    rw [means]
    rfl

theorem readNumber_append
    {value : Json}
    (isRead : readNumber ahead = some (value, left)) (closed : Closed rest) :
    readNumber (ahead ++ rest) = some (value, left ++ rest) := by
  unfold readNumber at isRead
  split at isRead
  · obtain ⟨⟨value, left⟩, first, same⟩ := Option.map_eq_some_iff.mp isRead
    cases same
    rw [List.cons_append, readNumber, readUnsigned_append first closed]
    rfl
  · rename_i minus
    rw [readNumber.eq_2]
    · exact readUnsigned_append isRead closed
    · intro behind same
      cases ahead with
      | nil => cases isRead
      | cons c others => exact minus others (congrArg (· :: others) (List.cons.inj same).1)

end Numbers

/-! ## Values -/

section Blank

variable {ahead : List Char}

theorem readValue_of_blank (blank : skipSpace ahead = []) (fuel : Nat) :
    readValue fuel ahead = none := by
  cases fuel with
  | zero => rfl
  | succ fuel => rw [readValue, blank]

theorem skipSpace_ne_nil_of_readItems
    {fuel : Nat} {read : List Json × List Char} (isRead : readItems fuel ahead = some read) :
    skipSpace ahead ≠ [] := by
  intro blank
  cases fuel with
  | zero => cases isRead
  | succ fuel =>
      rw [readItems, readValue_of_blank blank] at isRead
      cases isRead

theorem skipSpace_ne_nil_of_readMembers
    {fuel : Nat} {read : List (Option String × Json) × List Char}
    (isRead : readMembers fuel ahead = some read) :
    skipSpace ahead ≠ [] := by
  intro blank
  cases fuel with
  | zero => cases isRead
  | succ fuel =>
      rw [readMembers, readName, blank] at isRead
      cases isRead

end Blank

/-- What is read with some bound on the nesting is read with a greater one, in front of
what closes a value off. -/
structure ReadsOn (fuel : Nat) : Prop where
  value : ∀ ⦃more ahead value left rest⦄, fuel ≤ more → Closed rest →
    readValue fuel ahead = some (value, left) →
      readValue more (ahead ++ rest) = some (value, left ++ rest)
  items : ∀ ⦃more ahead items left rest⦄, fuel ≤ more → Closed rest →
    readItems fuel ahead = some (items, left) →
      readItems more (ahead ++ rest) = some (items, left ++ rest)
  members : ∀ ⦃more ahead members left rest⦄, fuel ≤ more → Closed rest →
    readMembers fuel ahead = some (members, left) →
      readMembers more (ahead ++ rest) = some (members, left ++ rest)

namespace ReadsOn

variable {fuel more : Nat} {ahead left rest : List Char}

theorem readValue_succ
    {value : Json} (readsOn : ReadsOn fuel) (enough : fuel + 1 ≤ more) (closed : Closed rest)
    (isRead : readValue (fuel + 1) ahead = some (value, left)) :
    readValue more (ahead ++ rest) = some (value, left ++ rest) := by
  obtain ⟨more, rfl⟩ := Nat.exists_eq_add_one_of_ne_zero (show more ≠ 0 by omega)
  have enough := Nat.le_of_succ_le_succ enough
  rw [readValue] at isRead ⊢
  cases begins : skipSpace ahead with
  | nil =>
      rw [begins] at isRead
      cases isRead
  | cons c behind =>
      rw [begins] at isRead
      rw [skipSpace_append begins]
      dsimp only at isRead ⊢
      split_ifs at isRead ⊢
      · obtain ⟨⟨text, left⟩, first, same⟩ := Option.map_eq_some_iff.mp isRead
        cases same
        rw [readString_append first]
        rfl
      · split at isRead
        · rename_i closing
          cases isRead
          rw [skipSpace_append closing]
          rfl
        · rename_i closing
          obtain ⟨⟨items, left⟩, inside, same⟩ := Option.map_eq_some_iff.mp isRead
          cases same
          have opens := skipSpace_ne_nil_of_readItems inside
          split
          · exact (skipSpace_append_ne opens closing rest _ ‹_›).elim
          · rw [readsOn.items enough closed inside]
            rfl
      · split at isRead
        · rename_i closing
          cases isRead
          rw [skipSpace_append closing]
          rfl
        · rename_i closing
          obtain ⟨⟨members, left⟩, inside, same⟩ := Option.map_eq_some_iff.mp isRead
          cases same
          have opens := skipSpace_ne_nil_of_readMembers inside
          split
          · exact (skipSpace_append_ne opens closing rest _ ‹_›).elim
          · rw [readsOn.members enough closed inside]
            rfl
      · exact readWord_append isRead rest
      · exact readWord_append isRead rest
      · exact readWord_append isRead rest
      · exact readNumber_append isRead closed

theorem readItems_succ
    {items : List Json} (readsOn : ReadsOn fuel) (enough : fuel + 1 ≤ more) (closed : Closed rest)
    (isRead : readItems (fuel + 1) ahead = some (items, left)) :
    readItems more (ahead ++ rest) = some (items, left ++ rest) := by
  obtain ⟨more, rfl⟩ := Nat.exists_eq_add_one_of_ne_zero (show more ≠ 0 by omega)
  have enough := Nat.le_of_succ_le_succ enough
  rw [readItems] at isRead ⊢
  simp only [Option.bind_eq_bind, Option.bind_eq_some_iff] at isRead
  obtain ⟨⟨item, middle⟩, first, isRead⟩ := isRead
  rw [readsOn.value enough closed first]
  simp only [Option.bind_eq_bind, Option.bind_some]
  split at isRead
  · rename_i behind comma
    obtain ⟨⟨items, left⟩, others, same⟩ := Option.bind_eq_some_iff.mp isRead
    cases same
    rw [skipSpace_append comma]
    simp [readsOn.items enough closed others]
  · rename_i behind bracket
    cases isRead
    rw [skipSpace_append bracket]
    rfl
  · cases isRead

theorem readMembers_succ
    {members : List (Option String × Json)}
    (readsOn : ReadsOn fuel) (enough : fuel + 1 ≤ more) (closed : Closed rest)
    (isRead : readMembers (fuel + 1) ahead = some (members, left)) :
    readMembers more (ahead ++ rest) = some (members, left ++ rest) := by
  obtain ⟨more, rfl⟩ := Nat.exists_eq_add_one_of_ne_zero (show more ≠ 0 by omega)
  have enough := Nat.le_of_succ_le_succ enough
  rw [readMembers] at isRead ⊢
  simp only [Option.bind_eq_bind, Option.bind_eq_some_iff] at isRead
  obtain ⟨⟨name, named⟩, first, ⟨value, middle⟩, second, isRead⟩ := isRead
  rw [readName_append first]
  simp only [Option.bind_eq_bind, Option.bind_some]
  rw [readsOn.value enough closed second]
  simp only [Option.bind_some]
  split at isRead
  · rename_i behind comma
    obtain ⟨⟨members, left⟩, others, same⟩ := Option.bind_eq_some_iff.mp isRead
    cases same
    rw [skipSpace_append comma]
    simp [readsOn.members enough closed others]
  · rename_i behind brace
    cases isRead
    rw [skipSpace_append brace]
    rfl
  · cases isRead

end ReadsOn

theorem readsOn (fuel : Nat) : ReadsOn fuel := by
  induction fuel with
  | zero =>
      constructor <;>
      · intro more ahead read left rest enough closed isRead
        cases isRead
  | succ fuel inductionHypothesis =>
      exact {
        value := fun _ _ _ _ _ => inductionHypothesis.readValue_succ
        items := fun _ _ _ _ _ => inductionHypothesis.readItems_succ
        members := fun _ _ _ _ _ => inductionHypothesis.readMembers_succ }

/-! ## Members of an object -/

/-- A text that is a value on its own is that value as a member. Blanks may be left
behind it. -/
theorem readsMember_of_ofChars?
    {text : List Char} {value : Json} (isValue : ofChars? text = some value)
    (name : Option String) :
    ReadsMember (literalOrHalf name ++ ':' :: text) (name, value) where
  opens := opens_literalOrHalf name _
  reads fuel rest enough closed := by
    simp only [ofChars?, Option.bind_eq_bind, Option.bind_eq_some_iff] at isValue
    obtain ⟨⟨read, left⟩, isRead, same⟩ := isValue
    obtain ⟨blank, same⟩ := Option.ite_none_right_eq_some.mp same
    obtain rfl := Option.some_inj.mp same
    have within : 2 * text.length + 2 ≤ fuel := by
      obtain ⟨inside, written, -⟩ := readString_literalOrHalf name
      rw [written, List.length_append, List.length_cons, List.length_cons] at enough
      omega
    refine ⟨text ++ rest, left ++ rest, ?_, (readsOn _).value within closed isRead,
      skipSpace_append_blank (List.isEmpty_iff.mp blank) closed⟩
    rw [List.append_assoc]
    exact readName_literal name _

/-- A text of members between braces is an object of these. -/
theorem ofChars?_bracketed
    {α : Type} {elements : List α} {text : α → List Char} {member : α → Option String × Json}
    (reads : ∀ element ∈ elements, ReadsMember (text element) (member element)) :
    ofChars? (bracketed '\x7b' '\x7d' (elements.map text)) =
      some (.object (elements.map member)) := by
  have read := readValue_bracketed reads
    (Nat.le_add_right (2 * (bracketed '\x7b' '\x7d' (elements.map text)).length) 2) []
  rw [List.append_nil] at read
  rw [ofChars?, read]
  rfl

end DesktopTags.Json
