import Mathlib.Data.List.Basic
import Finality.Json.Reader
import Finality.Proofs.Outcome

/-!
# The steps of the reader

The reader counts its steps down, and a text on which the count ran out would be called malformed.
It never runs out: whatever is read leaves an end of the text (`leavesEnd`), so two
steps for each character are enough, and any two counts that are enough agree on every text, be
it well formed or not (`readValue_congr`). Within a quoted text one step for each character is
enough (`readCodes?_congr`).
-/

namespace Finality.Json

variable {depth fuel other : Nat} {text rest : List Char}

/-! ## What is left is the end of the text -/

theorem skipBlanks_suffix (text : List Char) : skipBlanks text <:+ text := List.dropWhile_suffix _

theorem suffix_of_skipBlanks {char : Char} (found : skipBlanks text = char :: rest) :
    rest <:+ text := by
  have blanks := skipBlanks_suffix text
  rw [found] at blanks
  exact (List.suffix_cons char rest).trans blanks

theorem suffix_of_readUnit? {unit : Nat} (read : readUnit? text = some (unit, rest)) :
    rest <:+ text := by
  unfold readUnit? at read
  split at read
  · next a b c d after =>
    split at read
    · cases read
      exact List.suffix_append [a, b, c, d] rest
    · cases read
  · cases read

theorem suffix_of_readCodes? {codes : List Nat} (read : readCodes? fuel text = some (codes, rest)) :
    rest <:+ text := by
  fun_induction readCodes? fuel text generalizing codes with
  | case1 | case2 | case4 | case6 | case8 | case9 => cases read
  | case3 fuel rest =>
      cases read
      exact List.suffix_cons _ _
  | case5 fuel after unit last found ih =>
      rcases Option.map_eq_some_iff.1 read with ⟨⟨others, left⟩, again, equal⟩
      cases equal
      refine (ih again).trans ((suffix_of_readUnit? found).trans ?_)
      exact List.suffix_append ['\\', 'u'] after
  | case7 fuel letter after noUnit code found ih =>
      rcases Option.map_eq_some_iff.1 read with ⟨⟨others, left⟩, again, equal⟩
      cases equal
      exact (ih again).trans (List.suffix_append ['\\', letter] after)
  | case10 fuel char after noQuote noUnit noLetter noEnd plain ih =>
      rcases Option.map_eq_some_iff.1 read with ⟨⟨others, left⟩, again, equal⟩
      cases equal
      exact (ih again).trans (List.suffix_cons _ _)

theorem readDigits_suffix (text : List Char) : (readDigits text).2 <:+ text :=
  List.dropWhile_suffix _

theorem readFraction_suffix (text : List Char) : (readFraction text).2 <:+ text := by
  fun_cases readFraction text with
  | case1 | case3 => exact List.suffix_rfl
  | case2 after digits left read =>
      have digitsRead := readDigits_suffix after
      rw [read] at digitsRead
      exact digitsRead.trans (List.suffix_cons _ _)

/-- An exponent without digits is none, and the text is left as it is. -/
theorem readDigits_or_suffix {digits : List Char} (inText : digits <:+ text) (exponent : Int) :
    (if (readDigits digits).1.isEmpty then (none, text)
      else (some exponent, (readDigits digits).2)).2 <:+ text := by
  split
  · exact List.suffix_rfl
  · exact (readDigits_suffix digits).trans inText

theorem readExponent_suffix (text : List Char) : (readExponent text).2 <:+ text := by
  fun_cases readExponent text with
  | case1 mark isMark digits => exact readDigits_or_suffix (List.suffix_append [mark, '-'] digits) _
  | case2 mark isMark digits => exact readDigits_or_suffix (List.suffix_append [mark, '+'] digits) _
  | case3 mark isMark digits => exact readDigits_or_suffix (List.suffix_cons mark digits) _
  | case4 | case5 => exact List.suffix_rfl

theorem suffix_of_readNumber? {number : Datum} (read : readNumber? text = some (number, rest)) :
    rest <:+ text := by
  unfold readNumber? at read
  split at read
  next negative unsigned signed =>
  split at read
  next whole after counted =>
  have unsignedSuffix : unsigned <:+ text := by
    split at signed
    · cases signed
      exact List.suffix_cons _ _
    · cases signed
      exact List.suffix_rfl
  have wholeSuffix : after <:+ unsigned := by
    split at counted
    · cases counted
      exact List.suffix_cons _ _
    · have digitsRead := readDigits_suffix unsigned
      rw [counted] at digitsRead
      exact digitsRead
  have numberSuffix : (readExponent (readFraction after).2).2 <:+ text :=
    (readExponent_suffix _).trans
      ((readFraction_suffix after).trans (wholeSuffix.trans unsignedSuffix))
  split at read
  · cases read
  · dsimp only at read
    split at read
    · split at read
      · cases read
      · cases read
        exact numberSuffix
    · cases read
      exact numberSuffix

theorem suffix_of_afterWord? {word : String} (found : afterWord? word text = some rest) :
    rest <:+ text := by
  rw [afterWord?] at found
  split at found
  · cases found
    exact List.drop_suffix _ _
  · cases found

theorem suffix_of_orMalformed {α : Type} {given : Option (α × List Char)} {value : α}
    (found : orMalformed given = .ok (value, rest))
    (suffix : ∀ left, given = some (value, left) → left <:+ text) : rest <:+ text := by
  cases given with
  | none => cases found
  | some pair =>
      cases found
      exact suffix _ rfl

/-- Whatever is read in a number of steps, an end of the text is left. -/
structure LeavesEnd (fuel : Nat) : Prop where
  value : ∀ {depth text value rest}, readValue depth fuel text = .ok (value, rest) → rest <:+ text
  items : ∀ {depth text items rest}, readItems depth fuel text = .ok (items, rest) → rest <:+ text
  members : ∀ {depth known text entries rest},
    readMembers depth fuel known text = .ok (entries, rest) → rest <:+ text

namespace LeavesEnd

theorem value_succ (ends : LeavesEnd fuel) {value : Datum}
    (read : readValue depth (fuel + 1) text = .ok (value, rest)) : rest <:+ text := by
  unfold readValue at read
  split at read
  · next after =>
    rcases Outcome.map_eq_ok_iff.1 read with ⟨⟨codes, left⟩, found, equal⟩
    cases equal
    refine (suffix_of_orMalformed found fun _ => suffix_of_readCodes?).trans ?_
    exact List.suffix_cons _ _
  · next after =>
    cases depth with
    | zero => cases read
    | succ depth =>
        dsimp only at read
        split at read
        · next closed =>
          cases read
          exact (suffix_of_skipBlanks closed).trans (List.suffix_cons _ _)
        · rcases Outcome.map_eq_ok_iff.1 read with ⟨⟨found, last⟩, itemsRead, equal⟩
          cases equal
          refine (ends.items itemsRead).trans ((skipBlanks_suffix after).trans ?_)
          exact List.suffix_cons _ _
  · next after =>
    cases depth with
    | zero => cases read
    | succ depth =>
        dsimp only at read
        split at read
        · next closed =>
          cases read
          exact (suffix_of_skipBlanks closed).trans (List.suffix_cons _ _)
        · rcases Outcome.map_eq_ok_iff.1 read with ⟨⟨found, last⟩, membersRead, equal⟩
          cases equal
          refine (ends.members membersRead).trans ((skipBlanks_suffix after).trans ?_)
          exact List.suffix_cons _ _
  · split at read
    · next found search =>
      cases read
      rcases List.exists_of_findSome?_eq_some search with ⟨⟨word, datum⟩, -, matched⟩
      rcases Option.map_eq_some_iff.1 matched with ⟨left, spelt, equal⟩
      cases equal
      exact suffix_of_afterWord? spelt
    · exact suffix_of_orMalformed read fun _ => suffix_of_readNumber?

theorem items_succ (ends : LeavesEnd fuel) {items : List Datum}
    (read : readItems depth (fuel + 1) text = .ok (items, rest)) : rest <:+ text := by
  rw [readItems] at read
  rcases Outcome.bind_eq_ok_iff.1 read with ⟨⟨item, left⟩, itemRead, read⟩
  dsimp only at read
  split at read
  · next closed =>
    cases read
    exact (suffix_of_skipBlanks closed).trans (ends.value itemRead)
  · next after comma =>
    rcases Outcome.bind_eq_ok_iff.1 read with ⟨⟨others, last⟩, othersRead, read⟩
    cases read
    refine (ends.items othersRead).trans ((skipBlanks_suffix after).trans ?_)
    exact (suffix_of_skipBlanks comma).trans (ends.value itemRead)
  · cases read

theorem members_succ (ends : LeavesEnd fuel) {known entries : List (Datum × Datum)}
    (read : readMembers depth (fuel + 1) known text = .ok (entries, rest)) : rest <:+ text := by
  unfold readMembers at read
  split at read
  · next afterQuote =>
    rcases Outcome.bind_eq_ok_iff.1 read with ⟨⟨codes, left⟩, nameRead, read⟩
    have name := (suffix_of_orMalformed nameRead fun _ => suffix_of_readCodes?).trans
      (List.suffix_cons '"' afterQuote)
    dsimp only at read
    split at read
    · next afterColon colon =>
      rcases Outcome.bind_eq_ok_iff.1 read with ⟨⟨value, last⟩, valueRead, read⟩
      have member := (ends.value valueRead).trans ((skipBlanks_suffix afterColon).trans
        ((suffix_of_skipBlanks colon).trans name))
      dsimp only at read
      split at read
      · next closed =>
        cases read
        exact (suffix_of_skipBlanks closed).trans member
      · next after comma =>
        refine (ends.members read).trans ((skipBlanks_suffix after).trans ?_)
        exact (suffix_of_skipBlanks comma).trans member
      · cases read
    · cases read
  · cases read

end LeavesEnd

theorem leavesEnd (fuel : Nat) : LeavesEnd fuel := by
  induction fuel with
  | zero => exact ⟨nofun, nofun, nofun⟩
  | succ fuel ends => exact ⟨ends.value_succ, ends.items_succ, ends.members_succ⟩

/-! ## Two counts that are enough -/

/-- A text is closed, or found to be malformed, within a step for each of its characters and one
more. -/
theorem readCodes?_congr (enough : text.length < fuel) (otherEnough : text.length < other) :
    readCodes? fuel text = readCodes? other text := by
  induction fuel generalizing other text with
  | zero => cases enough
  | succ fuel ih =>
      cases other with
      | zero => cases otherEnough
      | succ other =>
          unfold readCodes?
          split
          · rfl
          · rfl
          · next after =>
            split
            · rfl
            · next unit left found =>
              have shorter := (suffix_of_readUnit? found).length_le
              simp only [List.length_cons] at enough otherEnough
              have same : readCodes? fuel left = readCodes? other left :=
                ih (by omega) (by omega)
              rw [same]
          · next letter after isLetter =>
            split
            · rfl
            · simp only [List.length_cons] at enough otherEnough
              have same : readCodes? fuel after = readCodes? other after :=
                ih (by omega) (by omega)
              rw [same]
          · rfl
          · next char after _ _ _ _ =>
            split
            · rfl
            · have same : readCodes? fuel after = readCodes? other after :=
                ih (Nat.lt_of_succ_lt_succ enough) (Nat.lt_of_succ_lt_succ otherEnough)
              rw [same]

/-- Both numbers of steps are enough for texts, so they give the same. -/
structure Agree (fuel other : Nat) : Prop where
  value : ∀ {depth text}, 2 * text.length + 1 ≤ fuel → 2 * text.length + 1 ≤ other →
    readValue depth fuel text = readValue depth other text
  items : ∀ {depth text}, 2 * text.length + 2 ≤ fuel → 2 * text.length + 2 ≤ other →
    readItems depth fuel text = readItems depth other text
  members : ∀ {depth known text}, 2 * text.length + 2 ≤ fuel → 2 * text.length + 2 ≤ other →
    readMembers depth fuel known text = readMembers depth other known text

namespace Agree

theorem value_succ (agree : Agree fuel other) (enough : 2 * text.length + 1 ≤ fuel + 1)
    (otherEnough : 2 * text.length + 1 ≤ other + 1) :
    readValue depth (fuel + 1) text = readValue depth (other + 1) text := by
  unfold readValue
  split
  · rfl
  · next after =>
    cases depth with
    | zero => rfl
    | succ depth =>
        dsimp only
        have shorter := (skipBlanks_suffix after).length_le
        rw [List.length_cons] at enough otherEnough
        split
        · rfl
        · rw [agree.items (by omega) (by omega)]
  · next after =>
    cases depth with
    | zero => rfl
    | succ depth =>
        dsimp only
        have shorter := (skipBlanks_suffix after).length_le
        rw [List.length_cons] at enough otherEnough
        split
        · rfl
        · rw [agree.members (by omega) (by omega)]
  · rfl

theorem items_succ (agree : Agree fuel other) (enough : 2 * text.length + 2 ≤ fuel + 1)
    (otherEnough : 2 * text.length + 2 ≤ other + 1) :
    readItems depth (fuel + 1) text = readItems depth (other + 1) text := by
  rw [readItems, readItems, agree.value (by omega) (by omega)]
  refine Outcome.bind_congr fun pair itemRead => ?_
  have left := ((leavesEnd other).value itemRead).length_le
  dsimp only
  split
  · rfl
  · next after comma =>
    -- The comma is one character less for the items after it.
    have counted := (skipBlanks_suffix pair.2).length_le
    rw [comma, List.length_cons] at counted
    have shorter := (skipBlanks_suffix after).length_le
    rw [agree.items (by omega) (by omega)]
  · rfl

theorem members_succ (agree : Agree fuel other) {known : List (Datum × Datum)}
    (enough : 2 * text.length + 2 ≤ fuel + 1) (otherEnough : 2 * text.length + 2 ≤ other + 1) :
    readMembers depth (fuel + 1) known text = readMembers depth (other + 1) known text := by
  unfold readMembers
  split
  · next afterQuote =>
    rw [List.length_cons] at enough otherEnough
    refine Outcome.bind_congr fun name nameRead => ?_
    have named := (suffix_of_orMalformed nameRead fun _ => suffix_of_readCodes?).length_le
    dsimp only
    split
    · next afterColon colon =>
      have value := (suffix_of_skipBlanks colon).length_le
      have blanks := (skipBlanks_suffix afterColon).length_le
      rw [agree.value (by omega) (by omega)]
      refine Outcome.bind_congr fun member memberRead => ?_
      have left := ((leavesEnd other).value memberRead).length_le
      split
      · rfl
      · next after comma =>
        have afterComma := (suffix_of_skipBlanks comma).length_le
        have shorter := (skipBlanks_suffix after).length_le
        exact agree.members (by omega) (by omega)
      · rfl
    · rfl
  · rfl

end Agree

theorem agree (fuel : Nat) : ∀ other, Agree fuel other := by
  induction fuel with
  | zero =>
      intro other
      exact ⟨fun enough => absurd enough (by omega), fun enough => absurd enough (by omega),
        fun enough => absurd enough (by omega)⟩
  | succ fuel ih =>
      intro other
      cases other with
      | zero =>
          exact ⟨fun _ enough => absurd enough (by omega), fun _ enough => absurd enough (by omega),
            fun _ enough => absurd enough (by omega)⟩
      | succ other => exact ⟨(ih other).value_succ, (ih other).items_succ, (ih other).members_succ⟩

/-- Two steps for each character and one more are enough, and no more steps change anything: not
the value, not what is left, and not the fault. -/
theorem readValue_congr (enough : 2 * text.length + 1 ≤ fuel)
    (otherEnough : 2 * text.length + 1 ≤ other) :
    readValue depth fuel text = readValue depth other text :=
  (agree fuel other).value enough otherEnough

end Finality.Json
