import CardShuffle.Proofs.Inventory
import CardShuffle.Proofs.Validated

/-!
# The texts that make a deck

Which decks are there, and which texts make them? A deck can be obtained exactly when it
is complete (`obtainable_iff`), so a deck that was obtained in any way is read back from
either of its texts. The other way around, `CardList.Layout` says which texts are an
array of ids, with blanks wherever JSON allows them. `ofJson_layout` decides all of
them: an array makes a deck when its ids are the numbers below their count, each once.
-/

namespace CardShuffle

universe u

namespace CardList

open Json (isBlank)

/-- Whether an entry is plain can be told from its characters. -/
instance (entry : Entry) : Decidable entry.Plain :=
  decidable_of_iff
    (entry.before.all isBlank = true ∧ entry.after.all isBlank = true ∧ entry.id ≤ maximumId) <| by
      simp only [List.all_eq_true]
      exact ⟨fun ⟨before, after, fits⟩ => ⟨before, after, fits⟩,
        fun plain => ⟨plain.before_blank, plain.after_blank, plain.fits⟩⟩

/-- An array of ids, and what may stand before and after it. -/
inductive Layout (ids : List Nat) : List Char -> Prop where
  | array {before content after : List Char}
      (before_blank : ∀ char ∈ before, isBlank char = true) (inside : Content ids content)
      (after_blank : ∀ char ∈ after, isBlank char = true) :
      Layout ids (before ++ '[' :: (content ++ ']' :: after))

/-- In every layout the ids of the array are found, and only blanks are left over. -/
theorem Layout.read_eq {ids : List Nat} {chars : List Char} (layout : Layout ids chars) :
    ∃ rest, read .opening [] chars = some (ids, rest) ∧ rest.all isBlank = true := by
  cases layout with
  | @array before content after before_blank inside after_blank =>
      refine ⟨after, ?_, List.all_eq_true.mpr after_blank⟩
      rw [read_blanks (by simp) before_blank]
      exact inside.read_eq after

/-- The ids of an array are ids of cards. -/
theorem Layout.fits {ids : List Nat} {chars : List Char} (layout : Layout ids chars) :
    ∀ id ∈ ids, id ≤ maximumId := by
  cases layout with
  | array _ inside _ =>
      cases inside with
      | blanks _ => simp
      | entries plain => exact List.forall_mem_map.mpr fun entry member => (plain entry member).fits

end CardList

namespace Deck

/-- Some operations, with services of any settings and with sources that may answer
anything, leave the deck in the inventory. -/
def Obtainable (deck : Deck) : Prop :=
  ∃ (σ : Nat → Type) (_ : ∀ number, RandomSource (σ number)) (source : ∀ number, σ number)
    (collector : Nat → Metrics) (operations : List Operation),
    deck ∈ ((Inventory.opened source collector).performAll operations).decks

/-- The decks that can be obtained are those of any size up to the largest one, in any
order. -/
theorem obtainable_iff {deck : Deck} : deck.Obtainable ↔ deck.Complete := by
  constructor
  · rintro ⟨σ, _, source, collector, operations, member⟩
    exact Inventory.complete_performAll _ operations (by simp [Inventory.opened]) deck member
  · intro complete
    refine ⟨fun _ => FixedSource, fun _ => inferInstance, fun _ => FixedSource.first, fun _ => {},
      [.ofIds deck.ids], ?_⟩
    simp [Inventory.performAll, Inventory.perform, Inventory.add, complete.ofIds_ids]

/-- An array of ids makes the deck that its ids make, in every layout. -/
theorem ofJson_layout {ids : List Nat} {text : String}
    (layout : CardList.Layout ids text.toList) (deck : Deck) :
    ofJson text = .ok deck ↔ ofIds ids = .ok deck := by
  obtain ⟨rest, found, blank⟩ := layout.read_eq
  rw [ofJson, found]
  cases made : ofIds ids <;> simp [made, blank]

/-- Ids of cards make a deck exactly when they are the numbers below their count, each
once. -/
theorem exists_ofIds_iff {ids : List Nat} (fits : ∀ id ∈ ids, id ≤ CardList.maximumId) :
    (∃ deck, ofIds ids = .ok deck) ↔ ids.Perm (List.range ids.length) := by
  constructor
  · rintro ⟨deck, made⟩
    exact (ofIds_eq_ok_iff.mp made).2.1
  · intro same
    refine ⟨_, ofIds_eq_ok_iff.mpr ⟨?_, same, rfl⟩⟩
    -- Were there more ids than numbers in range, the last number below their count
    -- would be one of the ids.
    by_contra long
    have last : maximumSize ∈ ids := same.mem_iff.mpr (List.mem_range.mpr (Nat.lt_of_not_le long))
    exact absurd (fits maximumSize last) (by decide)

end Deck

namespace Run

variable {σ : Type u} [RandomSource σ]

/-- A dealt deck is complete, whatever source it is dealt from. -/
theorem complete_dealFrom {source : σ} {settings : Settings} {dealt : Deck}
    (answered : dealFrom source settings = .ok dealt) : dealt.Complete := by
  unfold dealFrom at answered
  split at answered
  next deck outcome completed =>
      cases answered
      obtain ⟨fits, same⟩ := Service.ids_of_deal completed
      exact Deck.complete_of_ids_perm same fits
  next => cases answered

/-- The text of a deal is read back as the dealt deck. -/
theorem exists_deal_of_shuffle {entropy : σ} {settings : Settings} {json : Bool} {text : String}
    (written : shuffle entropy settings json = .ok text) :
    ∃ dealt, deal entropy settings = .ok dealt ∧ Deck.ofJson text = .ok dealt := by
  cases answered : deal entropy settings with
  | error error =>
      rw [shuffle, answered] at written
      cases written
  | ok dealt =>
      have complete : dealt.Complete := by
        unfold deal at answered
        split at answered
        next => exact complete_dealFrom answered
        next => exact complete_dealFrom answered
      obtain ⟨output, same, readBack⟩ := ofJson_shuffle answered complete json
      obtain rfl : output = text := Except.ok.inj (same.symm.trans written)
      exact ⟨dealt, rfl, readBack⟩

end Run

/-- A deck that was obtained, of any size and in any order, is read back from its text in
JSON and from its text for people, so a text of either form is of one deck only; and the
text that a deal puts out is read back as the dealt deck. An array of ids, in any layout
of blanks, makes a deck exactly when the ids are the numbers below their count, each
once, and the deck then holds these ids in their order. -/
theorem Deck.texts_identify_decks :
    (∀ deck : Deck, deck.Obtainable ↔
      deck.size ≤ 65536 ∧ deck.ids.Perm (List.range deck.size)) ∧
      (∀ deck : Deck, deck.Obtainable →
        ofJson deck.toJson = .ok deck ∧ ofJson deck.display = .ok deck) ∧
      (∀ deck other : Deck, deck.Obtainable → other.Obtainable →
        ∀ text ∈ [deck.toJson, deck.display], text ∈ [other.toJson, other.display] →
          deck = other) ∧
      (∀ (σ : Type u) [RandomSource σ] (entropy : σ) (settings : Settings) (json : Bool)
        (text : String), Run.shuffle entropy settings json = .ok text →
          ∃ dealt, Run.deal entropy settings = .ok dealt ∧ ofJson text = .ok dealt) ∧
      ∀ (ids : List Nat) (text : String), CardList.Layout ids text.toList →
        ((∃ deck, ofJson text = .ok deck) ↔ ids.Perm (List.range ids.length)) ∧
          ∀ deck, ofJson text = .ok deck → deck.ids = ids := by
  have readBack : ∀ deck : Deck, deck.Obtainable →
      ofJson deck.toJson = .ok deck ∧ ofJson deck.display = .ok deck := by
    intro deck obtained
    have complete := obtainable_iff.mp obtained
    exact ⟨complete.ofJson_toJson, complete.ofJson_display⟩
  have ofText : ∀ deck : Deck, deck.Obtainable → ∀ text ∈ [deck.toJson, deck.display],
      ofJson text = .ok deck := by
    intro deck obtained
    simpa using readBack deck obtained
  refine ⟨?_, readBack, ?_, fun σ _ entropy settings json text => Run.exists_deal_of_shuffle, ?_⟩
  · intro deck
    rw [obtainable_iff]
    exact ⟨fun complete => ⟨complete.size_le, complete.ids_perm⟩,
      fun ⟨fits, same⟩ => ⟨same, fits⟩⟩
  · intro deck other obtained otherObtained text ofDeck ofOther
    have first := ofText deck obtained text ofDeck
    have second := ofText other otherObtained text ofOther
    exact Except.ok.inj (first.symm.trans second)
  · intro ids text layout
    simp only [ofJson_layout layout]
    exact ⟨exists_ofIds_iff layout.fits, fun deck => ids_of_ofIds⟩

/-- A deck of three cards, its two texts, and an array of its ids among blanks. -/
theorem Deck.texts_identify_decks_three_cards :
    let deck : Deck := ⟨#[⟨2⟩, ⟨0⟩, ⟨1⟩]⟩
    let text : String := " [ 2,0 ,\n1 ]\t"
    deck.Obtainable ∧ ofJson deck.toJson = .ok deck ∧ ofJson deck.display = .ok deck ∧
      CardList.Layout [2, 0, 1] text.toList ∧ ∃ made, ofJson text = .ok made := by
  intro deck text
  let entries : List CardList.Entry := [⟨[' '], 2, []⟩, ⟨[], 0, [' ']⟩, ⟨['\n'], 1, [' ']⟩]
  have plain : ∀ entry ∈ entries, entry.Plain := by decide
  have chars : text.toList =
      [' '] ++ '[' :: ([','].intercalate (entries.map CardList.Entry.chars) ++ [']', '\t']) := by
    clear plain
    decide +kernel +revert
  have layout : CardList.Layout [2, 0, 1] text.toList := by
    rw [chars]
    exact .array (by simp [Json.isBlank]) (.entries plain) (by simp [Json.isBlank])
  obtain ⟨obtainable, readBack, -, -, arrays⟩ := Deck.texts_identify_decks.{0}
  have obtained : deck.Obtainable := (obtainable deck).mpr (by decide)
  obtain ⟨json, display⟩ := readBack deck obtained
  exact ⟨obtained, json, display, layout, (arrays [2, 0, 1] text layout).1.mpr (by decide)⟩

end CardShuffle
