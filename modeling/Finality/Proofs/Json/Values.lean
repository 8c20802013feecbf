import Finality.Proofs.Json.Texts
import Finality.Proofs.Outcome

/-!
# Lists and objects in JSON are read back

`Reads` says of characters that the reader takes them for a datum, whatever follows, if it goes
as deep as they nest. It holds for a text between quotes, and it passes from items to their list
(`Reads.list`) and from values to the object that they are members of (`Reads.map`), which are
one level deeper, with any blanks between the parts.
-/

namespace Finality.Json

/-! ## Values -/

/-- Blanks between the parts of a value. -/
def IsGap (gap : List Char) : Prop := ∀ char ∈ gap, isJsonBlank char = true

instance (gap : List Char) : Decidable (IsGap gap) :=
  decidable_of_iff (gap.all isJsonBlank = true) List.all_eq_true

/-- A mark between two parts, with blanks after it. -/
def IsSeparator (mark : Char) (separator : List Char) : Prop :=
  ∃ gap, separator = mark :: gap ∧ IsGap gap

/-- Neither a blank nor a closing bracket comes first. -/
def StartsValue (chars : List Char) : Prop :=
  ∃ first rest, chars = first :: rest ∧ isJsonBlank first = false ∧ first ≠ ']' ∧ first ≠ '\x7d'

/-- A reader that goes deep enough takes characters for a datum, whatever follows them. -/
structure Reads (depth : Nat) (chars : List Char) (datum : Datum) : Prop where
  starts : StartsValue chars
  read : ∀ level fuel rest, depth ≤ level → chars.length ≤ fuel →
    readValue level fuel (chars ++ rest) = .ok (datum, rest)

section

variable {depth level fuel : Nat} {chars more gap before after comma colon rest : List Char}
  {datum : Datum}

theorem enclosed_append {opening closing : Char} :
    opening :: chars ++ [closing] ++ rest = opening :: (chars ++ closing :: rest) := by
  rw [List.append_assoc, List.cons_append, List.singleton_append]

theorem StartsValue.append (starts : StartsValue chars) : StartsValue (chars ++ rest) := by
  rcases starts with ⟨first, others, rfl, unblanked, other⟩
  exact ⟨first, others ++ rest, rfl, unblanked, other⟩

theorem skipBlanks_gap (isGap : IsGap gap) (starts : StartsValue chars) :
    skipBlanks (gap ++ (chars ++ rest)) = chars ++ rest := by
  rcases starts with ⟨first, others, rfl, unblanked, -, -⟩
  refine Text.dropWhile_run isGap ?_
  rintro _ ⟨⟩
  exact unblanked

theorem skipBlanks_mark {mark : Char} (isGap : IsGap gap) (unblanked : isJsonBlank mark = false) :
    skipBlanks (gap ++ mark :: rest) = mark :: rest := by
  refine Text.dropWhile_run isGap ?_
  rintro _ ⟨⟩
  exact unblanked

/-- Parts between separators start as the first of them does. -/
theorem starts_intercalate {parts : List (List Char)} (nonempty : parts ≠ [])
    (starts : ∀ part ∈ parts, StartsValue part) : StartsValue (comma.intercalate parts) := by
  cases parts with
  | nil => exact absurd rfl nonempty
  | cons part parts =>
      have first := starts part List.mem_cons_self
      cases parts with
      | nil => rwa [List.intercalate_singleton]
      | cons next parts =>
          rw [List.intercalate_cons_cons, List.append_assoc]
          exact first.append

namespace Reads

/-- A text between quotes is read. -/
theorem text {units : List Nat} (spells : Spells chars units) :
    Reads depth ('"' :: chars ++ ['"']) (textOfCodes units) where
  starts := ⟨'"', chars ++ ['"'], rfl, rfl, by decide, by decide⟩
  read := by
    intro level fuel rest _ enough
    cases fuel with
    | zero => cases enough
    | succ fuel =>
        have taken : readValue level (fuel + 1) ('"' :: (chars ++ '"' :: rest)) =
            (orMalformed
              (readCodes? ((chars ++ '"' :: rest).length + 1) (chars ++ '"' :: rest))).map
              fun found => (textOfCodes found.1, found.2) := rfl
        rw [enclosed_append, taken, spells.read_length]
        rfl

theorem readItems_last (reads : Reads depth chars datum) (isAfter : IsGap after)
    (deep : depth ≤ level) (enough : chars.length ≤ fuel) :
    readItems level (fuel + 1) (chars ++ (after ++ ']' :: rest)) = .ok ([datum], rest) := by
  rw [readItems, reads.read level fuel _ deep enough, Outcome.bind_of_ok rfl]
  simp only [skipBlanks_mark isAfter (rfl : isJsonBlank ']' = false)]
  rfl

theorem readItems_more (reads : Reads depth chars datum) (isGap : IsGap gap)
    (starts : StartsValue more) (deep : depth ≤ level) (enough : chars.length ≤ fuel) :
    readItems level (fuel + 1) (chars ++ (',' :: gap ++ (more ++ rest))) =
      (readItems level fuel (more ++ rest)).map fun (items, rest) => (datum :: items, rest) := by
  have comma : skipBlanks (',' :: gap ++ (more ++ rest)) = ',' :: (gap ++ (more ++ rest)) := rfl
  rw [readItems, reads.read level fuel _ deep enough, Outcome.bind_of_ok rfl]
  simp only [comma, skipBlanks_gap isGap starts]
  rfl

/-- What follows an opening bracket. -/
theorem readValue_bracket (text : List Char) :
    readValue (level + 1) (fuel + 1) ('[' :: text) =
      match skipBlanks text with
      | ']' :: rest => .ok (.list [], rest)
      | rest => (readItems level fuel rest).map fun (items, rest) => (.list items, rest) :=
  rfl

theorem readValue_list (isGap : IsGap gap) (starts : StartsValue chars) :
    readValue (level + 1) (fuel + 1) ('[' :: (gap ++ (chars ++ rest))) =
      (readItems level fuel (chars ++ rest)).map fun (items, rest) => (.list items, rest) := by
  rw [readValue_bracket, skipBlanks_gap isGap starts]
  rcases starts with ⟨first, others, rfl, -, other, -⟩
  split
  · next equal => exact absurd (List.cons.inj equal).1 other
  · rfl

/-- Items that are read one by one are read up to the closing bracket. -/
theorem readItems_intercalate {items : List (List Char × Datum)} (nonempty : items ≠ [])
    (reads : ∀ item ∈ items, Reads depth item.1 item.2) (isComma : IsSeparator ',' comma)
    (isAfter : IsGap after) (deep : depth ≤ level)
    (enough : (comma.intercalate (items.map Prod.fst)).length < fuel) :
    readItems level fuel (comma.intercalate (items.map Prod.fst) ++ (after ++ ']' :: rest)) =
      .ok (items.map Prod.snd, rest) := by
  induction items generalizing fuel with
  | nil => exact absurd rfl nonempty
  | cons item items ih =>
      rcases List.forall_mem_cons.1 reads with ⟨first, others⟩
      cases fuel with
      | zero => exact absurd enough (Nat.not_lt_zero _)
      | succ fuel =>
          cases items with
          | nil =>
              rw [List.map_singleton, List.intercalate_singleton] at enough ⊢
              exact readItems_last first isAfter deep (Nat.le_of_lt_succ enough)
          | cons next items =>
              rcases isComma with ⟨gap, rfl, isGap⟩
              have starts : StartsValue
                  ((',' :: gap).intercalate ((next :: items).map Prod.fst)) := by
                refine starts_intercalate (List.cons_ne_nil _ _) fun part member => ?_
                rcases List.mem_map.1 member with ⟨other, among, rfl⟩
                exact (others other among).starts
              have joined : (',' :: gap).intercalate ((item :: next :: items).map Prod.fst) =
                  item.1 ++ (',' :: gap ++
                    (',' :: gap).intercalate ((next :: items).map Prod.fst)) := by
                rw [List.map_cons, List.map_cons, List.intercalate_cons_cons, List.append_assoc]
              rw [joined, List.length_append, List.length_append, List.length_cons] at enough
              rw [joined, List.append_assoc, List.append_assoc,
                readItems_more first isGap starts deep (by omega),
                ih (List.cons_ne_nil next items) others (by omega)]
              rfl

/-- A list of items is read, with blanks after its brackets and commas. -/
theorem list {items : List (List Char × Datum)} (nonempty : items ≠ [])
    (reads : ∀ item ∈ items, Reads depth item.1 item.2) (isBefore : IsGap before)
    (isComma : IsSeparator ',' comma) (isAfter : IsGap after) :
    Reads (depth + 1)
      ('[' :: (before ++ comma.intercalate (items.map Prod.fst) ++ after) ++ [']'])
      (.list (items.map Prod.snd)) where
  starts := ⟨'[', _, rfl, rfl, by decide, by decide⟩
  read := by
    intro level fuel rest deep enough
    obtain ⟨below, rfl⟩ : ∃ below, level = below + 1 := ⟨level - 1, by omega⟩
    cases fuel with
    | zero => cases enough
    | succ fuel =>
        have starts : StartsValue (comma.intercalate (items.map Prod.fst)) := by
          refine starts_intercalate (mt List.map_eq_nil_iff.1 nonempty) fun part member => ?_
          rcases List.mem_map.1 member with ⟨item, among, rfl⟩
          exact (reads item among).starts
        rw [List.length_append, List.length_cons, List.length_append, List.length_append,
          List.length_singleton] at enough
        rw [enclosed_append, List.append_assoc, List.append_assoc,
          readValue_list isBefore starts,
          readItems_intercalate nonempty reads isComma isAfter (Nat.le_of_succ_le_succ deep)
            (by omega)]
        rfl

end Reads

end

/-! ## Objects -/

/-- A member of an object: its name, and the characters that stand for its value. -/
structure Member where
  name : String
  chars : List Char
  datum : Datum

namespace Member

/-- The characters of a member. -/
def text (colon : List Char) (member : Member) : List Char :=
  '"' :: written member.name ++ ['"'] ++ (colon ++ member.chars)

/-- The entries of an object with those of a member. -/
def insert (entries : List (Datum × Datum)) (member : Member) : List (Datum × Datum) :=
  Datum.insertEntry (.text member.name) member.datum entries

end Member

section

variable {depth level fuel : Nat} {gap before after comma colon rest : List Char}
  {member : Member}
  {members : List Member} {entries : List (Datum × Datum)}

theorem Member.starts_text (member : Member) : StartsValue (member.text colon) :=
  ⟨'"', _, rfl, rfl, by decide, by decide⟩

theorem Member.length_chars_lt : member.chars.length + 1 < (member.text colon).length := by
  rw [text, List.length_append, List.length_append, List.length_append, List.length_cons,
    List.length_singleton]
  omega

/-- A member is read, and what follows it decides whether there are more. -/
theorem readMembers_text (reads : Reads depth member.chars member.datum)
    (isColon : IsSeparator ':' colon) (deep : depth ≤ level)
    (enough : member.chars.length ≤ fuel) :
    readMembers level (fuel + 1) entries (member.text colon ++ rest) =
      match skipBlanks rest with
      | '\x7d' :: rest => .ok (member.insert entries, rest)
      | ',' :: rest => readMembers level fuel (member.insert entries) (skipBlanks rest)
      | _ => .error .malformed := by
  rcases isColon with ⟨gap, rfl, isGap⟩
  have parts : member.text (':' :: gap) ++ rest =
      '"' :: (written member.name ++ '"' :: (':' :: gap ++ (member.chars ++ rest))) := by
    rw [Member.text, List.append_assoc, enclosed_append, List.append_assoc]
  have colon : skipBlanks (':' :: gap ++ (member.chars ++ rest)) =
      ':' :: (gap ++ (member.chars ++ rest)) := rfl
  rw [parts, readMembers, (spells_written member.name).read_length,
    orMalformed, Outcome.bind_of_ok rfl]
  simp only [colon, skipBlanks_gap isGap reads.starts]
  rw [reads.read level fuel _ deep enough, Outcome.bind_of_ok rfl, textOfCodes_units]
  rfl

theorem starts_members (nonempty : members ≠ []) :
    StartsValue (comma.intercalate (members.map (Member.text colon))) := by
  refine starts_intercalate (mt List.map_eq_nil_iff.1 nonempty) fun part among => ?_
  rcases List.mem_map.1 among with ⟨member, -, rfl⟩
  exact member.starts_text

/-- Members that are read one by one are read up to the closing brace. -/
theorem readMembers_intercalate (nonempty : members ≠ [])
    (reads : ∀ member ∈ members, Reads depth member.chars member.datum)
    (isColon : IsSeparator ':' colon) (isComma : IsSeparator ',' comma) (isAfter : IsGap after)
    (deep : depth ≤ level)
    (enough : (comma.intercalate (members.map (Member.text colon))).length < fuel) :
    readMembers level fuel entries
        (comma.intercalate (members.map (Member.text colon)) ++ (after ++ '\x7d' :: rest)) =
      .ok (members.foldl Member.insert entries, rest) := by
  induction members generalizing fuel entries with
  | nil => exact absurd rfl nonempty
  | cons member members ih =>
      rcases List.forall_mem_cons.1 reads with ⟨first, others⟩
      have short := @Member.length_chars_lt colon member
      cases fuel with
      | zero => exact absurd enough (Nat.not_lt_zero _)
      | succ fuel =>
          cases members with
          | nil =>
              rw [List.map_singleton, List.intercalate_singleton] at enough ⊢
              rw [readMembers_text first isColon deep (by omega)]
              simp only [skipBlanks_mark isAfter (rfl : isJsonBlank '\x7d' = false)]
              rfl
          | cons next members =>
              rcases isComma with ⟨gap, rfl, isGap⟩
              have starts : StartsValue
                  ((',' :: gap).intercalate ((next :: members).map (Member.text colon))) :=
                starts_members (List.cons_ne_nil next members)
              have joined : (',' :: gap).intercalate
                  ((member :: next :: members).map (Member.text colon)) =
                    member.text colon ++ (',' :: gap ++
                      (',' :: gap).intercalate ((next :: members).map (Member.text colon))) := by
                rw [List.map_cons, List.map_cons, List.intercalate_cons_cons, List.append_assoc]
              have mark : ∀ text : List Char, skipBlanks (',' :: gap ++ text) =
                  ',' :: (gap ++ text) := fun _ => rfl
              rw [joined, List.length_append, List.length_append, List.length_cons] at enough
              rw [joined, List.append_assoc, List.append_assoc,
                readMembers_text first isColon deep (by omega)]
              simp only [mark, skipBlanks_gap isGap starts]
              exact ih (List.cons_ne_nil next members) others (by omega)

/-- What follows an opening brace. -/
theorem readValue_brace (text : List Char) :
    readValue (level + 1) (fuel + 1) ('\x7b' :: text) =
      match skipBlanks text with
      | '\x7d' :: rest => .ok (.map [], rest)
      | rest =>
        (readMembers level fuel [] rest).map fun (entries, rest) => (.map entries, rest) :=
  rfl

theorem readValue_map {chars : List Char} (isGap : IsGap gap) (starts : StartsValue chars) :
    readValue (level + 1) (fuel + 1) ('\x7b' :: (gap ++ (chars ++ rest))) =
      (readMembers level fuel [] (chars ++ rest)).map
        fun (entries, rest) => (.map entries, rest) := by
  rw [readValue_brace, skipBlanks_gap isGap starts]
  rcases starts with ⟨first, others, rfl, -, -, other⟩
  split
  · next equal => exact absurd (List.cons.inj equal).1 other
  · rfl

/-- An object of members is read, with blanks after its brackets, colons and commas. -/
theorem Reads.map (nonempty : members ≠ [])
    (reads : ∀ member ∈ members, Reads depth member.chars member.datum)
    (isBefore : IsGap before) (isColon : IsSeparator ':' colon)
    (isComma : IsSeparator ',' comma) (isAfter : IsGap after) :
    Reads (depth + 1)
      ('\x7b' :: (before ++ comma.intercalate (members.map (Member.text colon)) ++ after)
        ++ ['\x7d'])
      (.map (members.foldl Member.insert [])) where
  starts := ⟨'\x7b', _, rfl, rfl, by decide, by decide⟩
  read := by
    intro level fuel rest deep enough
    obtain ⟨below, rfl⟩ : ∃ below, level = below + 1 := ⟨level - 1, by omega⟩
    cases fuel with
    | zero => cases enough
    | succ fuel =>
        rw [List.length_append, List.length_cons, List.length_append, List.length_append,
          List.length_singleton] at enough
        rw [enclosed_append, List.append_assoc, List.append_assoc,
          readValue_map isBefore (starts_members nonempty),
          readMembers_intercalate nonempty reads isColon isComma isAfter
            (Nat.le_of_succ_le_succ deep) (by omega)]
        rfl

end

/-- The text of a value is read by a reader that goes deep enough. -/
theorem Reads.read_ofList {depth level : Nat} {chars : List Char} {datum : Datum}
    (reads : Reads depth chars datum) (deep : depth ≤ level) :
    Json.read level (String.ofList chars) = .ok datum := by
  have first : skipBlanks chars = chars := by
    have unblanked := @skipBlanks_gap chars [] [] (by decide) reads.starts
    rwa [List.nil_append, List.append_nil] at unblanked
  have value := reads.read level (2 * chars.length + 1) [] deep (by omega)
  rw [List.append_nil] at value
  rw [Json.read, String.toList_ofList]
  simp only [first, value]
  rfl

/-! ## Layouts -/

namespace Layout

/-- A layout sets parts apart with a comma or a colon and blanks after it. -/
structure IsLegible (layout : Layout) : Prop where
  comma : IsSeparator ',' layout.comma.toList
  colon : IsSeparator ':' layout.colon.toList

theorem spaced_isLegible : spaced.IsLegible where
  comma := ⟨[' '], rfl, by decide⟩
  colon := ⟨[' '], rfl, by decide⟩

/-- Between the brackets, only blanks come before the first part and after the last one. -/
theorem IsLegible.bracketed {layout : Layout} (legible : layout.IsLegible)
    (opening closing : String) (depth : Nat) {parts : List String} (nonempty : parts ≠ []) :
    ∃ before comma after, IsGap before ∧ IsSeparator ',' comma ∧ IsGap after ∧
      (layout.bracketed opening closing depth parts).toList =
        opening.toList ++ (before ++ comma.intercalate (parts.map String.toList) ++ after)
          ++ closing.toList := by
  have filled : ¬parts.isEmpty = true := mt List.isEmpty_iff.1 nonempty
  have none : IsGap [] := by decide
  rw [Layout.bracketed, if_neg filled]
  cases layout.indent with
  | none =>
      refine ⟨[], layout.comma.toList, [], none, legible.comma, none, ?_⟩
      rw [String.toList_append, String.toList_append, String.toList_intercalate]
      simp
  | some width =>
      have line : ∀ depth, IsGap ('
' :: List.replicate (width * depth) ' ') := by
        intro depth char member
        rcases List.mem_cons.1 member with rfl | member
        · rfl
        · rw [List.eq_of_mem_replicate member]
          rfl
      rcases legible.comma with ⟨gap, comma, isGap⟩
      refine ⟨_, layout.comma.toList ++ '
' :: List.replicate (width * (depth + 1)) ' ', _,
        line (depth + 1), ⟨gap ++ _, ?_, List.forall_mem_append.2 ⟨isGap, line (depth + 1)⟩⟩,
        line depth, ?_⟩
      · rw [comma, List.cons_append]
      · simp only [String.toList_append, String.toList_intercalate, String.toList_ofList,
          List.append_assoc]

end Layout

end Finality.Json
