import CardShuffle.Proofs.Decks

/-!
# Reading back a deck

A list of ids stands in a text as entries with commas between them, each entry an id
in decimal digits with blanks around it. Digit by digit the reader builds up the id
that the digits denote (`read_digits`). The blanks around an id change nothing, and a
comma or the closing bracket completes it (`read_after`). So the reader finds the ids
of the entries, in whatever layout they stand (`read_listing`); `Content` says what may
stand between the brackets. A written deck is such a list, and its ids make the deck
again (`ofJson_write`).
-/

namespace CardShuffle

namespace CardList

open Json (isBlank)

/-! ## Blanks -/

/-- Blanks are passed over wherever no id has begun. -/
theorem read_blanks {expect : Expect} (between : ∀ value, expect ≠ .digits value)
    {blanks : List Char} (blank : ∀ char ∈ blanks, isBlank char = true) (found : List Nat)
    (rest : List Char) : read expect found (blanks ++ rest) = read expect found rest := by
  induction blanks with
  | nil => rfl
  | cons char blanks ih =>
      obtain ⟨first, others⟩ := List.forall_mem_cons.mp blank
      rw [← ih others, List.cons_append]
      cases expect with
      | digits value => exact absurd rfl (between value)
      | opening | first | id | separator => rw [read, if_pos first]

/-! ## Ids -/

/-- A decimal digit is read as its value, and nothing else is made of it. -/
theorem digitValue?_digitChar {digit : Nat} (small : digit < 10) :
    Text.digitValue? digit.digitChar = some digit ∧ isBlank digit.digitChar = false ∧
      digit.digitChar ≠ ',' ∧ digit.digitChar ≠ ']' := by
  have all : ∀ digit < 10, Text.digitValue? digit.digitChar = some digit ∧
      isBlank digit.digitChar = false ∧ digit.digitChar ≠ ',' ∧ digit.digitChar ≠ ']' := by
    decide
  exact all digit small

/-- Where an id may begin, its decimal digits are read as the id. -/
theorem read_digits {expect : Expect} (begins : expect = .first ∨ expect = .id) {id : Nat}
    (fits : id ≤ maximumId) (found : List Nat) (rest : List Char) :
    read expect found (Nat.toDigits 10 id ++ rest) = read (.digits id) found rest := by
  induction id using Nat.strongRecOn generalizing rest with
  | ind id ih =>
      rcases Nat.lt_or_ge id 10 with small | large
      · obtain ⟨value, notBlank, -, notClosing⟩ := digitValue?_digitChar small
        rw [Nat.toDigits_of_lt_base small, List.singleton_append]
        rcases begins with rfl | rfl
        · simp [read, value, notBlank, notClosing]
        · simp [read, value, notBlank]
      · -- The last digit extends the id that the digits before it denote.
        have fewer : id / 10 < id := Nat.div_lt_self (by omega) (by decide)
        have rejoined : id / 10 * 10 + id % 10 = id := by omega
        have extended : extend? (id / 10) (id % 10) = some id := by
          rw [extend?, rejoined, if_pos ⟨by omega, fits⟩]
        obtain ⟨value, notBlank, notComma, notClosing⟩ :=
          digitValue?_digitChar (Nat.mod_lt id (by decide : 10 > 0))
        rw [Nat.toDigits_of_base_le (by decide) large, List.append_assoc, List.singleton_append,
          ih (id / 10) fewer (by omega)]
        simp [read, value, notBlank, notComma, notClosing, extended]

/-- An id with the blanks that stand before and after it. -/
structure Entry where
  before : List Char
  id : Nat
  after : List Char

namespace Entry

/-- The text of an entry. -/
def chars (entry : Entry) : List Char :=
  entry.before ++ (Nat.toDigits 10 entry.id ++ entry.after)

/-- There are blanks around the id, and it is the id of a card. -/
structure Plain (entry : Entry) : Prop where
  before_blank : ∀ char ∈ entry.before, isBlank char = true
  after_blank : ∀ char ∈ entry.after, isBlank char = true
  fits : entry.id ≤ maximumId

end Entry

/-- The blanks after an id end it, and a comma or the closing bracket decides how the
list goes on. -/
theorem read_after {blanks : List Char} (blank : ∀ char ∈ blanks, isBlank char = true)
    (id : Nat) (found : List Nat) (rest : List Char) :
    read (.digits id) found (blanks ++ ',' :: rest) = read .id (id :: found) rest ∧
      read (.digits id) found (blanks ++ ']' :: rest) =
        some ((id :: found).reverse, rest) := by
  cases blanks with
  | nil => exact ⟨rfl, rfl⟩
  | cons char blanks =>
      obtain ⟨first, others⟩ := List.forall_mem_cons.mp blank
      have between : ∀ value, Expect.separator ≠ .digits value := by simp
      rw [List.cons_append, List.cons_append, read, if_pos first, read, if_pos first,
        read_blanks between others, read_blanks between others]
      exact ⟨rfl, rfl⟩

/-- The text of an entry is read as its id, up to the blanks after it. -/
theorem read_entry {expect : Expect} (begins : expect = .first ∨ expect = .id) {entry : Entry}
    (plain : entry.Plain) (found : List Nat) (rest : List Char) :
    read expect found (entry.chars ++ rest) =
      read (.digits entry.id) found (entry.after ++ rest) := by
  have between : ∀ value, expect ≠ .digits value := by
    rintro value rfl
    simp at begins
  rw [Entry.chars, List.append_assoc, read_blanks between plain.before_blank, List.append_assoc,
    read_digits begins plain.fits]

/-! ## Lists -/

/-- Entries with commas between them and a closing bracket are read as their ids. -/
theorem read_listing {expect : Expect} (begins : expect = .first ∨ expect = .id) {first : Entry}
    {others : List Entry} (plain : ∀ entry ∈ first :: others, entry.Plain) (found : List Nat)
    (rest : List Char) :
    read expect found ([','].intercalate ((first :: others).map Entry.chars) ++ ']' :: rest) =
      some (found.reverse ++ (first :: others).map Entry.id, rest) := by
  induction others generalizing expect first found with
  | nil =>
      have plainFirst := plain first (List.mem_singleton_self first)
      rw [List.map_singleton, List.intercalate_singleton, read_entry begins plainFirst,
        (read_after plainFirst.after_blank _ _ _).2, List.reverse_cons]
      rfl
  | cons next others ih =>
      obtain ⟨plainFirst, plainOthers⟩ := List.forall_mem_cons.mp plain
      have more : (next :: others).map Entry.chars ≠ [] := by simp
      rw [List.map_cons, List.intercalate_cons_of_ne_nil more, List.append_assoc,
        List.append_assoc, List.singleton_append, read_entry begins plainFirst,
        (read_after plainFirst.after_blank _ _ _).1, ih (.inr rfl) plainOthers,
        List.reverse_cons, List.append_assoc]
      rfl

/-- The id of an entry that has no blanks after it. -/
def spaced (blanks : List Char) (id : Nat) : Entry := ⟨blanks, id, []⟩

theorem plain_spaced {blanks : List Char} (blank : ∀ char ∈ blanks, isBlank char = true)
    {id : Nat} (fits : id ≤ maximumId) : (spaced blanks id).Plain :=
  ⟨blank, by simp [spaced], fits⟩

/-- Spaced ids are entries of these ids. -/
theorem map_id_spaced (blanks : List Char) (ids : List Nat) :
    (ids.map (spaced blanks)).map Entry.id = ids := by
  simp [spaced, Function.comp_def]

/-- A separator of a comma and blanks puts the blanks before each entry but the first. -/
theorem intercalate_comma_blanks (blanks before : List Char) (id : Nat) (ids : List Nat) :
    before ++ (',' :: blanks).intercalate ((id :: ids).map (Nat.toDigits 10)) =
      [','].intercalate ((spaced before id :: ids.map (spaced blanks)).map Entry.chars) := by
  induction ids generalizing before id with
  | nil => simp [Entry.chars, spaced]
  | cons next ids ih =>
      have more : (next :: ids).map (Nat.toDigits 10) ≠ [] := by simp
      have moreEntries : (spaced blanks next :: ids.map (spaced blanks)).map Entry.chars ≠ [] := by
        simp
      calc before ++ (',' :: blanks).intercalate ((id :: next :: ids).map (Nat.toDigits 10))
          = (spaced before id).chars ++ [','] ++
              (blanks ++ (',' :: blanks).intercalate ((next :: ids).map (Nat.toDigits 10))) := by
            rw [List.map_cons, List.intercalate_cons_of_ne_nil more]
            simp [Entry.chars, spaced]
        _ = (spaced before id).chars ++ [','] ++
              [','].intercalate ((spaced blanks next :: ids.map (spaced blanks)).map Entry.chars) := by
            rw [ih blanks next]
        _ = _ := (List.intercalate_cons_of_ne_nil moreEntries).symm

/-- What may stand between the brackets of an array of ids. -/
inductive Content : List Nat -> List Char -> Prop where
  | blanks {blanks : List Char} (blank : ∀ char ∈ blanks, isBlank char = true) :
      Content [] blanks
  | entries {first : Entry} {others : List Entry}
      (plain : ∀ entry ∈ first :: others, entry.Plain) :
      Content ((first :: others).map Entry.id)
        ([','].intercalate ((first :: others).map Entry.chars))

/-- The content of an array is read as its ids. -/
theorem Content.read_eq {ids : List Nat} {content : List Char} (inside : Content ids content)
    (rest : List Char) : read .first [] (content ++ ']' :: rest) = some (ids, rest) := by
  cases inside with
  | blanks blank =>
      rw [read_blanks (by simp) blank]
      rfl
  | entries plain => exact read_listing (.inl rfl) plain [] rest

/-- Ids with commas between them, and the same blanks after every comma, are the content
of an array. -/
theorem content_intercalate {blanks : List Char} (blank : ∀ char ∈ blanks, isBlank char = true)
    {ids : List Nat} (fits : ∀ id ∈ ids, id ≤ maximumId) :
    Content ids ((',' :: blanks).intercalate (ids.map (Nat.toDigits 10))) := by
  cases ids with
  | nil => exact .blanks (by simp)
  | cons id ids =>
      obtain ⟨fitsFirst, fitsOthers⟩ := List.forall_mem_cons.mp fits
      have plain : ∀ entry ∈ spaced [] id :: ids.map (spaced blanks), entry.Plain := by
        rw [List.forall_mem_cons, List.forall_mem_map]
        exact ⟨plain_spaced (by simp) fitsFirst,
          fun other member => plain_spaced blank (fitsOthers other member)⟩
      have content := Content.entries plain
      rw [← intercalate_comma_blanks, List.map_cons (f := Entry.id), map_id_spaced] at content
      exact content

end CardList

namespace Deck

/-- Every id of a complete deck is below the largest size. -/
theorem Complete.id_lt {deck : Deck} (complete : deck.Complete) {id : Nat}
    (member : id ∈ deck.ids) : id < maximumSize :=
  Nat.lt_of_lt_of_le (List.mem_range.mp (complete.ids_perm.mem_iff.mp member)) complete.size_le

/-- The ids of a complete deck make the deck. -/
theorem Complete.ofIds_ids {deck : Deck} (complete : deck.Complete) :
    ofIds deck.ids = .ok deck := by
  have same : deck.ids.map Card.ofId = deck.cards.toList := by
    rw [ids, List.map_map]
    exact List.map_id'' (fun card => congrArg Card.mk (UInt16.ofNat_toNat (x := card.index))) _
  rw [ofIds_eq_ok_iff, length_ids, same, Array.toArray_toList]
  exact ⟨complete.size_le, complete.ids_perm, rfl⟩

/-- The characters of a written deck. -/
theorem toList_write (separator : String) (deck : Deck) :
    (deck.write separator).toList =
      '[' :: (separator.toList.intercalate (deck.ids.map (Nat.toDigits 10)) ++ [']']) := by
  have digits : String.toList ∘ Card.text = Nat.toDigits 10 ∘ Card.id := by
    funext card
    simp [Card.text]
  simp [write, ids, String.toList_intercalate, digits]

/-- A written deck is read back, whatever blanks stand after its commas. -/
theorem ofJson_write {deck : Deck} (complete : deck.Complete) {separator : String}
    (blanks : List Char) (comma : separator.toList = ',' :: blanks)
    (blank : ∀ char ∈ blanks, Json.isBlank char = true) :
    ofJson (deck.write separator) = .ok deck := by
  have fits : ∀ id ∈ deck.ids, id ≤ CardList.maximumId :=
    fun id member => Nat.le_of_lt_succ (complete.id_lt member)
  have found : CardList.read .opening [] (deck.write separator).toList =
      some (deck.ids, []) := by
    rw [toList_write, comma]
    exact (CardList.content_intercalate blank fits).read_eq []
  rw [ofJson, found]
  simp [complete.ofIds_ids]

/-- A complete deck is read back from its text in JSON. -/
theorem Complete.ofJson_toJson {deck : Deck} (complete : deck.Complete) :
    ofJson deck.toJson = .ok deck :=
  ofJson_write complete [] rfl (by simp)

/-- A complete deck is read back from its text for people. -/
theorem Complete.ofJson_display {deck : Deck} (complete : deck.Complete) :
    ofJson deck.display = .ok deck :=
  ofJson_write complete [' '] rfl (by simp [Json.isBlank])

end Deck

end CardShuffle
