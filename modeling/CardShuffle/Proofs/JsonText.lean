import CardShuffle.Settings.Json
import Mathlib.Data.List.TakeWhile
import Mathlib.Tactic.Common

/-!
# JSON texts in front of other text

A value stands in an object in front of a comma or the closing brace. `Json.Denotes` says that
the reader takes a text for a value in front of either of these, or of nothing, and leaves only
blanks of it. A text counts for as many steps of the reader as it has characters, which is
enough for whatever it denotes.

Numbers are where the text behind a value matters. A comma and a brace go on with none of the
parts of a number, so the reader finds the same number as in the text alone
(`readNumber_append`). An object denotes its members when their values are denoted
(`denotes_object`), by induction on the members.
-/

namespace CardShuffle

namespace Json

/-! ## Behind a value -/

/-- What may stand behind a value that is in an object, or is all of a text. -/
inductive Delimited : List Char → Prop where
  | nothing : Delimited []
  | comma (rest : List Char) : Delimited (',' :: rest)
  | brace (rest : List Char) : Delimited ('}' :: rest)

namespace Delimited

variable {tail : List Char}

/-- No blanks stand in front of it. -/
theorem skipBlanks_eq (delimited : Delimited tail) : skipBlanks tail = tail := by
  cases delimited <;> rfl

/-- No digits stand in front of it, so a run of digits ends where it does alone. -/
theorem spanDigits_append (delimited : Delimited tail) (chars : List Char) :
    spanDigits (chars ++ tail) = ((spanDigits chars).1, (spanDigits chars).2 ++ tail) := by
  induction chars with
  | nil => cases delimited <;> rfl
  | cons char chars ih =>
      by_cases digit : char.isDigit = true
      · simpa [spanDigits, digit] using ih
      · simp [spanDigits, digit]

/-! ## Numbers -/

/-- The digits before the point are the same in front of it. -/
theorem readInteger_append (delimited : Delimited tail) {chars digits rest : List Char}
    (read : readInteger chars = some (digits, rest)) :
    readInteger (chars ++ tail) = some (digits, rest ++ tail) := by
  cases chars with
  | nil => cases read
  | cons first others =>
      simp only [readInteger, List.cons_append] at read ⊢
      split_ifs at read ⊢ with zero digit
      · cases read
        rfl
      · rw [← List.cons_append, delimited.spanDigits_append]
        cases read
        rfl

/-- So are the digits behind the point, as it does not begin with a point. -/
theorem readFraction_append (delimited : Delimited tail) {chars rest : List Char}
    {places : Option (List Char)} (read : readFraction chars = some (places, rest)) :
    readFraction (chars ++ tail) = some (places, rest ++ tail) := by
  rcases chars with _ | ⟨first, others⟩
  · cases read
    cases delimited <;> rfl
  · by_cases point : first = '.'
    · subst point
      simp only [List.cons_append, readFraction, delimited.spanDigits_append] at read ⊢
      generalize spanDigits others = span at read ⊢
      obtain ⟨_ | ⟨digit, digits⟩, behind⟩ := span
      · cases read
      · cases read
        rfl
    · have unread : ∀ behind, readFraction (first :: behind) = some (none, first :: behind) := by
        intro behind
        rw [readFraction]
        rintro _ ⟨rfl, -⟩
        exact point rfl
      rw [unread] at read
      cases read
      exact unread _

theorem readSign_append (delimited : Delimited tail) (chars : List Char) :
    Text.readSign (chars ++ tail) =
      ((Text.readSign chars).1, (Text.readSign chars).2 ++ tail) := by
  rcases chars with _ | ⟨sign, others⟩
  · cases delimited <;> rfl
  · simp only [List.cons_append, Text.readSign]
    split <;> simp_all

/-- So is the exponent, as it begins with no mark of one. -/
theorem readExponent_append (delimited : Delimited tail) {chars rest : List Char}
    {exponent : Option (Bool × List Char)} (read : readExponent chars = some (exponent, rest)) :
    readExponent (chars ++ tail) = some (exponent, rest ++ tail) := by
  rcases chars with _ | ⟨mark, others⟩
  · cases read
    cases delimited <;> rfl
  · by_cases marked : mark = 'e' ∨ mark = 'E'
    · simp only [List.cons_append, readExponent, if_pos marked, delimited.readSign_append,
        delimited.spanDigits_append] at read ⊢
      generalize spanDigits (Text.readSign others).2 = span at read ⊢
      obtain ⟨_ | ⟨digit, digits⟩, behind⟩ := span
      · cases read
      · cases read
        rfl
    · have unread : ∀ behind, readExponent (mark :: behind) = some (none, mark :: behind) :=
        fun behind => if_neg marked
      rw [unread] at read
      cases read
      exact unread _

theorem readUnsigned_append (delimited : Delimited tail) {negative : Bool}
    {chars rest : List Char} {number : Number}
    (read : readUnsigned negative chars = some (number, rest)) :
    readUnsigned negative (chars ++ tail) = some (number, rest ++ tail) := by
  simp only [readUnsigned, Option.bind_eq_bind, Option.bind_eq_some_iff, Prod.exists] at read
  obtain ⟨integer, afterInteger, integerRead, fraction, afterFraction, fractionRead, exponent,
    afterExponent, exponentRead, built⟩ := read
  cases built
  simp only [readUnsigned, delimited.readInteger_append integerRead,
    delimited.readFraction_append fractionRead, delimited.readExponent_append exponentRead,
    Option.bind_eq_bind, Option.bind_some]
  rfl

/-- A number is the same in front of it, and what is left of the text stays there. -/
theorem readNumber_append (delimited : Delimited tail) {chars rest : List Char}
    {number : Number} (read : readNumber chars = some (number, rest)) :
    readNumber (chars ++ tail) = some (number, rest ++ tail) := by
  rcases chars with _ | ⟨first, others⟩
  · cases read
  · by_cases minus : first = '-'
    · subst minus
      exact delimited.readUnsigned_append read
    · have unsigned : ∀ behind, readNumber (first :: behind) =
          readUnsigned false (first :: behind) := by
        intro behind
        rw [readNumber]
        rintro _ ⟨rfl, -⟩
        exact minus rfl
      rw [unsigned] at read
      rw [List.cons_append, unsigned]
      exact delimited.readUnsigned_append read

end Delimited

/-- A number begins with a minus or a digit. -/
theorem exists_cons_of_readNumber {chars rest : List Char} {number : Number}
    (read : readNumber chars = some (number, rest)) :
    ∃ first others, chars = first :: others ∧ (first = '-' ∨ first.isDigit = true) := by
  rcases chars with _ | ⟨first, others⟩
  · cases read
  · refine ⟨first, others, rfl, ?_⟩
    by_contra neither
    simp only [not_or] at neither
    obtain ⟨minus, digit⟩ := neither
    have zero : first ≠ '0' := by
      rintro rfl
      exact digit rfl
    rw [readNumber] at read
    · simp [readUnsigned, readInteger, zero, digit] at read
    · rintro _ ⟨rfl, -⟩
      exact minus rfl

/-- What is read as a number by itself is read as that number among the values. -/
theorem readValue_of_readNumber {chars rest : List Char} {number : Number}
    (read : readNumber (skipBlanks chars) = some (number, rest)) (fuel : Nat) :
    readValue (fuel + 1) chars = some (.number number, rest) := by
  obtain ⟨first, others, begins, start⟩ := exists_cons_of_readNumber read
  rw [begins] at read
  rw [readValue, begins]
  split <;> simp_all

/-- A value that is a number has been read as a number by itself. -/
theorem readNumber_of_readValue {fuel : Nat} {chars rest : List Char} {number : Number}
    (read : readValue fuel chars = some (.number number, rest)) :
    readNumber (skipBlanks chars) = some (number, rest) := by
  cases fuel with
  | zero => simp [readValue] at read
  | succ fuel =>
      rw [readValue] at read
      split at read <;> simp_all
      -- What is left are an array and an object, each of which may be empty.
      · split at read <;> simp_all
      · split at read <;> simp_all

/-! ## Values -/

/-- A text denotes a value: in front of whatever may stand behind it, it is read as the
value in as many steps as it has characters, and only blanks are left of it. -/
def Denotes (chars : List Char) (value : Value) : Prop :=
  ∀ fuel tail, chars.length ≤ fuel → Delimited tail →
    ∃ rest, readValue fuel (chars ++ tail) = some (value, rest) ∧ skipBlanks rest = tail

/-- A text is parsed as the value that it denotes. -/
theorem Denotes.parse?_eq {text : String} {value : Value} (denotes : Denotes text.toList value) :
    parse? text = some value := by
  obtain ⟨rest, read, blank⟩ := denotes (2 * text.toList.length + 2) [] (by omega) .nothing
  rw [List.append_nil] at read
  have blanks : rest.all isBlank = true := by
    simpa [skipBlanks, List.dropWhile_eq_nil_iff] using blank
  simp only [parse?, read, blanks, if_true]

theorem denotes_null : Denotes "null".toList .null := by
  intro fuel tail enough delimited
  cases fuel with
  | zero => simp at enough
  | succ fuel => exact ⟨tail, rfl, delimited.skipBlanks_eq⟩

/-- What is read as a number by itself, but for blanks, denotes the number. -/
theorem denotes_of_readNumber {chars rest : List Char} {number : Number}
    (read : readNumber (skipBlanks chars) = some (number, rest))
    (blank : rest.all isBlank = true) : Denotes chars (.number number) := by
  intro fuel tail enough delimited
  have skipped : skipBlanks (chars ++ tail) = skipBlanks chars ++ tail := by
    obtain ⟨first, others, begins, -⟩ := exists_cons_of_readNumber read
    rw [skipBlanks] at begins
    simp [skipBlanks, List.dropWhile_append, begins]
  cases fuel with
  | zero =>
    have none : chars = [] := by simpa using enough
    subst none
    cases read
  | succ fuel =>
      refine ⟨rest ++ tail, readValue_of_readNumber ?_ fuel, ?_⟩
      · rw [skipped]
        exact delimited.readNumber_append read
      · rw [skipBlanks, List.dropWhile_append_of_pos (by simpa using blank)]
        exact delimited.skipBlanks_eq

/-- A text that is parsed as a number denotes it. -/
theorem denotes_of_parse? {text : String} {number : Number}
    (parsed : parse? text = some (.number number)) : Denotes text.toList (.number number) := by
  unfold parse? at parsed
  simp only at parsed
  split at parsed
  · next value rest read =>
      split_ifs at parsed with blank
      cases parsed
      exact denotes_of_readNumber (readNumber_of_readValue read) blank
  · cases parsed

/-- A number is written with digits, and only zero with a zero in front. -/
theorem exists_cons_toDigits (number : Nat) :
    ∃ first others, Nat.toDigits 10 number = first :: others ∧
      (∀ char ∈ first :: others, char.isDigit = true) ∧ (0 < number → first ≠ '0') := by
  have begins : ∃ first others, Nat.toDigits 10 number = first :: others ∧
      (0 < number → first ≠ '0') := by
    induction number using Nat.strongRecOn with
    | ind number ih =>
        rcases Nat.lt_or_ge number 10 with small | large
        · have nonzero : ∀ digit < 10, 0 < digit → digit.digitChar ≠ '0' := by decide
          exact ⟨_, [], Nat.toDigits_of_lt_base small, nonzero number small⟩
        · obtain ⟨first, others, digits, nonzero⟩ := ih (number / 10) (by omega)
          rw [Nat.toDigits_of_base_le (by decide) large, digits]
          exact ⟨first, _, rfl, fun _ => nonzero (by omega)⟩
  obtain ⟨first, others, digits, nonzero⟩ := begins
  refine ⟨first, others, digits, fun char member => ?_, nonzero⟩
  exact Nat.isDigit_of_mem_toDigits (by decide) (by decide) (digits ▸ member)

/-- The digits of a number are read as the digits before the point, all of them. -/
theorem readInteger_toDigits (number : Nat) :
    readInteger (Nat.toDigits 10 number) = some (Nat.toDigits 10 number, []) := by
  rcases Nat.eq_zero_or_pos number with rfl | positive
  · rfl
  · obtain ⟨first, others, begins, digits, nonzero⟩ := exists_cons_toDigits number
    rw [begins, readInteger, if_neg (nonzero positive), if_pos (digits first List.mem_cons_self),
      spanDigits, List.takeWhile_eq_self_iff.mpr digits, List.dropWhile_eq_nil_iff.mpr digits]

/-- The digits of a number denote it. -/
theorem denotes_digitsOf (number : Nat) :
    Denotes (Decimal.digitsOf number) (.number ⟨false, Decimal.digitsOf number, none, none⟩) := by
  obtain ⟨first, others, begins, digits, -⟩ := exists_cons_toDigits number
  have digit : first.isDigit = true := digits first List.mem_cons_self
  have unsigned : readNumber (first :: others) = readUnsigned false (first :: others) := by
    rw [readNumber]
    rintro _ ⟨rfl, -⟩
    exact absurd digit (by decide)
  have read : readNumber (skipBlanks (Nat.toDigits 10 number)) =
      some (⟨false, Nat.toDigits 10 number, none, none⟩, []) := by
    rw [begins, skipBlanks_of_isDigit digit, unsigned, ← begins, readUnsigned,
      readInteger_toDigits]
    rfl
  exact denotes_of_readNumber read rfl

/-- Characters that stand for themselves in a text in quotes. -/
def Plain (text : String) : Prop :=
  ∀ char ∈ text.toList, char ≠ '"' ∧ char ≠ '\\' ∧ 0x20 ≤ char.toNat

instance (text : String) : Decidable (Plain text) :=
  List.decidableBAll _ text.toList

/-- A plain text is read up to its closing quote. -/
theorem readString_plain {text : String} (plain : Plain text) (rest : List Char) :
    readString {} (text.toList ++ '"' :: rest) = some (some text, rest) := by
  -- The characters found so far stand in reverse in front of those that are left.
  have continued : ∀ (chars found : List Char),
      (∀ char ∈ chars, char ≠ '"' ∧ char ≠ '\\' ∧ 0x20 ≤ char.toNat) →
        readString { found := some found } (chars ++ '"' :: rest) =
          some (some (String.ofList (found.reverse ++ chars)), rest) := by
    intro chars
    induction chars with
    | nil => simp [readString, StringState.text]
    | cons char chars ih =>
        intro found plain
        obtain ⟨⟨quote, backslash, visible⟩, others⟩ := List.forall_mem_cons.mp plain
        rw [List.cons_append, readString]
        · simp only [Nat.not_lt.mpr visible, if_false, StringState.push, Option.map_some]
          rw [ih _ others]
          simp
        all_goals simp [quote, backslash]
  simpa using continued text.toList [] plain

/-- A plain text in quotes denotes the text. -/
theorem denotes_quoted {text : String} (plain : Plain text) :
    Denotes (Settings.quoted text) (.string (some text)) := by
  intro fuel tail enough delimited
  cases fuel with
  | zero => simp [Settings.quoted] at enough
  | succ fuel =>
      refine ⟨tail, ?_, delimited.skipBlanks_eq⟩
      have quote : skipBlanks (Settings.quoted text ++ tail) =
          '"' :: (text.toList ++ '"' :: tail) := by
        simp [Settings.quoted, skipBlanks, isBlank]
      rw [readValue, quote]
      simp only [readString_plain plain, Option.map_some]

/-! ## Objects -/

/-- A member of an object: its name, and a text for its value. -/
structure Member where
  name : String
  chars : List Char
  value : Value

namespace Member

/-- The name can be put in quotes, and the text denotes the value. -/
structure Sound (member : Member) : Prop where
  plain : Plain member.name
  denotes : Denotes member.chars member.value

/-- The text of the member. -/
def text (member : Member) : List Char := Settings.member member.name member.chars

/-- The text of the member has a quote in front, and is longer than that of the value. -/
theorem exists_cons_text (member : Member) :
    ∃ others, member.text = '"' :: others ∧ member.chars.length ≤ others.length := by
  refine ⟨member.name.toList ++ ['"'] ++ ':' :: member.chars, rfl, ?_⟩
  simp only [List.length_append, List.length_cons]
  omega

/-- What is read of the member. -/
def entry (member : Member) : Option String × Value := (some member.name, member.value)

end Member

/-- The text of members up to the closing brace. -/
def listing : Member -> List Member -> List Char
  | member, [] => member.text ++ ['}']
  | member, next :: members => member.text ++ ',' :: listing next members

/-- The name and the value of a member are read, and then what stands behind it. -/
theorem readMembers_member {member : Member} (sound : member.Sound) {fuel : Nat}
    (enough : member.chars.length ≤ fuel) (tail : List Char) :
    readMembers (fuel + 1) (member.text ++ '}' :: tail) = some ([member.entry], tail) ∧
      readMembers (fuel + 1) (member.text ++ ',' :: tail) =
        (readMembers fuel tail).map fun (members, rest) => (member.entry :: members, rest) := by
  have text : ∀ behind, skipBlanks (member.text ++ behind) =
      '"' :: (member.name.toList ++ '"' :: ':' :: (member.chars ++ behind)) := by
    intro behind
    simp [Member.text, Settings.member, Settings.quoted, skipBlanks, isBlank]
  have colon : ∀ others, skipBlanks (':' :: others) = ':' :: others := fun _ => rfl
  constructor
  · obtain ⟨rest, value, blank⟩ := sound.denotes fuel _ enough (.brace tail)
    rw [readMembers, text]
    simp only [readString_plain sound.plain, Option.bind_eq_bind, Option.bind_some, colon, value,
      blank]
    rfl
  · obtain ⟨rest, value, blank⟩ := sound.denotes fuel _ enough (.comma tail)
    rw [readMembers, text]
    simp only [readString_plain sound.plain, Option.bind_eq_bind, Option.bind_some, colon, value,
      blank]
    cases readMembers fuel tail <;> rfl

/-- Members are read up to the closing brace. -/
theorem readMembers_listing {member : Member} {members : List Member}
    (sound : ∀ other ∈ member :: members, other.Sound) {fuel : Nat}
    (enough : (listing member members).length ≤ fuel) (tail : List Char) :
    readMembers fuel (listing member members ++ tail) =
      some ((member :: members).map Member.entry, tail) := by
  induction members generalizing member fuel with
  | nil =>
      obtain ⟨others, begins, shorter⟩ := member.exists_cons_text
      have steps : others.length + 2 ≤ fuel := by
        simp only [listing, begins, List.length_append, List.length_cons, List.length_nil]
          at enough
        omega
      obtain ⟨fuel, rfl⟩ : ∃ fewer, fuel = fewer + 1 := ⟨fuel - 1, by omega⟩
      rw [listing, List.append_assoc, List.singleton_append]
      exact (readMembers_member (sound member List.mem_cons_self) (by omega) tail).1
  | cons next members ih =>
      obtain ⟨first, following⟩ := List.forall_mem_cons.mp sound
      obtain ⟨others, begins, shorter⟩ := member.exists_cons_text
      have steps : others.length + (listing next members).length + 2 ≤ fuel := by
        simp only [listing, begins, List.cons_append, List.length_cons, List.length_append]
          at enough
        omega
      obtain ⟨fuel, rfl⟩ : ∃ fewer, fuel = fewer + 1 := ⟨fuel - 1, by omega⟩
      rw [listing, List.append_assoc, List.cons_append,
        (readMembers_member first (by omega) _).2, ih following (by omega)]
      rfl

/-- An object of members denotes them. -/
theorem denotes_object {member : Member} {members : List Member}
    (sound : ∀ other ∈ member :: members, other.Sound) :
    Denotes ('{' :: listing member members) (.object ((member :: members).map Member.entry)) := by
  intro fuel tail enough delimited
  cases fuel with
  | zero => simp at enough
  | succ fuel =>
      refine ⟨tail, ?_, delimited.skipBlanks_eq⟩
      have read := readMembers_listing sound (Nat.le_of_succ_le_succ enough) tail
      obtain ⟨others, begins⟩ : ∃ others, listing member members ++ tail = '"' :: others := by
        obtain ⟨others, begins, -⟩ := member.exists_cons_text
        cases members <;> exact ⟨_, by rw [listing, begins]; rfl⟩
      have brace : skipBlanks ('{' :: listing member members ++ tail) =
          '{' :: '"' :: others := by
        rw [List.cons_append, begins]
        rfl
      rw [begins] at read
      rw [readValue, brace]
      change (readMembers fuel ('"' :: others)).map _ = _
      rw [read]
      rfl

end Json

end CardShuffle
