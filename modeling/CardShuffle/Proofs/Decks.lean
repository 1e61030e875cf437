import CardShuffle.Deck.Text
import CardShuffle.Proofs.Protocol
import CardShuffle.Service
import Mathlib.Data.List.Perm.Subperm

/-!
# Complete decks

A deck is complete when it holds each id below its size exactly once and its size
leaves room for every id in 16 bits. Whatever makes a deck makes a complete one and
stores the ids it was asked for as they are: sorted decks by their size alone, decks
from ids because a list of ids without repetitions that stay below its length has
them all (`perm_range_of_nodup`). A shuffle of any kind keeps the cards of a deck, so
it keeps a deck complete.
-/

namespace CardShuffle

universe u

namespace Deck

/-- Each id below the size is held once, and the size is at most the largest one. -/
structure Complete (deck : Deck) : Prop where
  ids_perm : deck.ids.Perm (List.range deck.size)
  size_le : deck.size ≤ maximumSize

@[simp]
theorem length_ids (deck : Deck) : deck.ids.length = deck.size := by
  simp [ids, size]

/-- The ids of a deck made of the cards of a list of ids are these ids, when they fit. -/
theorem ids_of_map_ofId {deck : Deck} {ids : List Nat}
    (cards : deck.cards.toList = ids.map Card.ofId) (fit : ∀ id ∈ ids, id < maximumSize) :
    deck.ids = ids := by
  rw [Deck.ids, cards, List.map_map]
  calc ids.map (Card.id ∘ Card.ofId)
      = ids.map id := List.map_congr_left fun id member => Card.id_ofId (fit id member)
    _ = ids := List.map_id ids

/-- A deck whose ids are the numbers below a size in some order is complete. -/
theorem complete_of_ids_perm {deck : Deck} {size : Nat} (same : deck.ids.Perm (List.range size))
    (fits : size ≤ maximumSize) : deck.Complete := by
  have sizes : deck.size = size := by
    rw [← length_ids, same.length_eq, List.length_range]
  exact ⟨sizes ▸ same, sizes ▸ fits⟩

/-- A sorted deck that is not too large holds the numbers below its size in order. -/
theorem ids_sorted {size : Nat} (fits : size ≤ maximumSize) :
    (sorted size).ids = List.range size := by
  apply ids_of_map_ofId
  · simp [sorted]
  · intro id member
    exact Nat.lt_of_lt_of_le (List.mem_range.mp member) fits

/-- A deck of a size can be had exactly up to the largest size, and it is sorted. -/
theorem ofSize_eq_ok_iff {size : Nat} {deck : Deck} :
    ofSize size = .ok deck ↔ size ≤ maximumSize ∧ deck = sorted size := by
  unfold ofSize
  split
  next large => simp [Nat.not_le.mpr large]
  next small => simp [Nat.not_lt.mp small, eq_comm]

/-! ## Decks from ids -/

/-- The marks tell of every number below the size whether it was taken up. -/
structure Marks (size : Nat) (taken : List Nat) (seen : Array Bool) : Prop where
  size_eq : seen.size = size
  seen_iff : ∀ id < size, seen.getD id false = true ↔ id ∈ taken

/-- Before any id is taken up there is no mark. -/
theorem Marks.none (size : Nat) : Marks size [] (Array.replicate size false) where
  size_eq := Array.size_replicate
  seen_iff := by
    intro id inside
    simp [Array.getD, inside]

/-- Taking up one more id marks it and nothing else. -/
theorem Marks.mark {size id : Nat} {taken : List Nat} {seen : Array Bool}
    (marks : Marks size taken seen) :
    Marks size (taken ++ [id]) (seen.setIfInBounds id true) where
  size_eq := by rw [Array.size_setIfInBounds, marks.size_eq]
  seen_iff := by
    intro other otherInside
    have before := marks.seen_iff other otherInside
    rw [Array.getD_eq_getD_getElem?, Array.getElem?_setIfInBounds, marks.size_eq,
      List.mem_append, List.mem_singleton]
    by_cases equal : id = other
    · simp [equal, otherInside]
    · rw [if_neg equal, ← Array.getD_eq_getD_getElem?, before]
      simp [Ne.symm equal]

/-- The loop over ids ends well exactly when each of them is below the size and
differs from those before it, and then it has added their cards in order. -/
theorem collect_eq_ok_iff {size : Nat} {ids taken : List Nat} {seen : Array Bool}
    {cards : Array Card} {deck : Deck} (marks : Marks size taken seen) (distinct : taken.Nodup) :
    collect size ids seen cards = .ok deck ↔
      (∀ id ∈ ids, id < size) ∧ (taken ++ ids).Nodup ∧
        deck.cards = cards ++ (ids.map Card.ofId).toArray := by
  induction ids generalizing taken seen cards with
  | nil =>
      constructor
      · intro made
        cases made
        simp [distinct]
      · rintro ⟨_, _, made⟩
        simp only [List.map_nil, Array.append_empty] at made
        simp [collect, ← made]
  | cons id ids ih =>
      unfold collect
      by_cases outside : size ≤ id
      · -- The id is refused, and it is not below the size.
        rw [if_pos outside]
        simp only [reduceCtorEq, false_iff]
        rintro ⟨below, _, _⟩
        exact absurd (below id (by simp)) (Nat.not_lt.mpr outside)
      · have inside : id < size := Nat.lt_of_not_le outside
        rw [if_neg outside]
        by_cases repeated : seen.getD id false = true
        · rw [if_pos repeated]
          simp only [reduceCtorEq, false_iff]
          rintro ⟨_, nodup, _⟩
          have earlier : id ∈ taken := (marks.seen_iff id inside).mp repeated
          exact (List.nodup_append.mp nodup).2.2 id earlier id (by simp) rfl
        · rw [if_neg repeated]
          have fresh : id ∉ taken := fun member =>
            repeated ((marks.seen_iff id inside).mpr member)
          have distinctNext : (taken ++ [id]).Nodup := by
            rw [List.nodup_append]
            refine ⟨distinct, by simp, ?_⟩
            intro other member last lastMember
            rw [List.mem_singleton.mp lastMember]
            rintro rfl
            exact fresh member
          rw [ih marks.mark distinctNext]
          simp [inside, Card.ofId]

/-- As many different numbers as there are below a size, all below it, are all the
numbers below it. -/
theorem perm_range_of_nodup {ids : List Nat} (below : ∀ id ∈ ids, id < ids.length)
    (distinct : ids.Nodup) : ids.Perm (List.range ids.length) := by
  have contained : ids ⊆ List.range ids.length := fun id member =>
    List.mem_range.mpr (below id member)
  apply (distinct.subperm contained).perm_of_length_le
  rw [List.length_range]

/-- A list of ids makes a deck exactly when it is not too long and holds the numbers
below its length, each once. The deck holds the cards of the ids in their order. -/
theorem ofIds_eq_ok_iff {ids : List Nat} {deck : Deck} :
    ofIds ids = .ok deck ↔
      ids.length ≤ maximumSize ∧ ids.Perm (List.range ids.length) ∧
        deck.cards = (ids.map Card.ofId).toArray := by
  unfold ofIds
  by_cases large : maximumSize < ids.length
  · simp [large, Nat.not_le.mpr large]
  · rw [if_neg large, collect_eq_ok_iff (Marks.none ids.length) List.nodup_nil, List.nil_append,
      Array.empty_append]
    constructor
    · rintro ⟨below, distinct, made⟩
      exact ⟨Nat.le_of_not_lt large, perm_range_of_nodup below distinct, made⟩
    · rintro ⟨_, same, made⟩
      refine ⟨?_, same.nodup_iff.mpr List.nodup_range, made⟩
      intro id member
      exact List.mem_range.mp (same.mem_iff.mp member)

/-- A deck from ids holds these ids in their order. -/
theorem ids_of_ofIds {ids : List Nat} {deck : Deck} (made : ofIds ids = .ok deck) :
    deck.ids = ids := by
  obtain ⟨short, same, cards⟩ := ofIds_eq_ok_iff.mp made
  apply ids_of_map_ofId (by rw [cards])
  intro id member
  exact Nat.lt_of_lt_of_le (List.mem_range.mp (same.mem_iff.mp member)) short

/-- A deck from ids is complete. -/
theorem complete_of_ofIds {ids : List Nat} {deck : Deck} (made : ofIds ids = .ok deck) :
    deck.Complete := by
  obtain ⟨short, same, _⟩ := ofIds_eq_ok_iff.mp made
  exact complete_of_ids_perm ((ids_of_ofIds made).symm ▸ same) short

/-- A deck from a text is made of the ids that stand at its front. -/
theorem ofIds_of_ofJson {text : String} {deck : Deck} (made : ofJson text = .ok deck) :
    ∃ rest, CardList.read .opening [] text.toList = some (deck.ids, rest) ∧
      ofIds deck.ids = .ok deck := by
  unfold ofJson at made
  split at made
  next => cases made
  next ids rest found =>
      split at made
      next => cases made
      next collected fromIds =>
          split at made
          next blank =>
              cases made
              rw [ids_of_ofIds fromIds]
              exact ⟨rest, found, fromIds⟩
          next => cases made

/-! ## Shuffled decks -/

/-- A deck with the cards of a complete deck is complete. -/
theorem Complete.of_perm {deck other : Deck} (complete : deck.Complete)
    (same : other.cards.Perm deck.cards) : other.Complete := by
  have ids : other.ids.Perm deck.ids := same.toList.map Card.id
  exact complete_of_ids_perm (ids.trans complete.ids_perm) complete.size_le

/-- Decks with the same cards have one size. -/
theorem size_eq_of_perm {deck other : Deck} (same : other.cards.Perm deck.cards) :
    other.size = deck.size :=
  same.size_eq

end Deck

namespace Service

variable {σ : Type u} [RandomSource σ]

/-- A shuffled deck has the cards it had, however the shuffle ended. -/
theorem perm_shuffleDeck (settings : Settings) (nanoseconds : Nat) (deck : Deck)
    (session : Session σ) :
    (shuffleDeck settings nanoseconds deck session).1.2.cards.Perm deck.cards := by
  have same := Shuffle.perm_shuffle settings.variant deck.cards session.source
  unfold shuffleDeck
  dsimp only
  split
  · exact same
  · exact same

/-- A shuffled copy has the cards of the deck. -/
theorem perm_of_shuffled {settings : Settings} {nanoseconds : Nat} {deck copy : Deck}
    {session : Session σ} {outcome : Outcome}
    (completed : (shuffled settings nanoseconds deck session).1 = .ok (copy, outcome)) :
    copy.cards.Perm deck.cards := by
  have same := perm_shuffleDeck settings nanoseconds deck session
  unfold shuffled at completed
  obtain ⟨reported, _, equal⟩ := exists_of_map_eq_ok completed
  obtain ⟨rfl, rfl⟩ := Prod.mk.inj equal
  exact same

/-- A dealt deck holds the numbers below the size in the settings. -/
theorem ids_of_deal {settings : Settings} {nanoseconds : Nat} {dealt : Deck}
    {session : Session σ} {outcome : Outcome}
    (completed : (deal settings nanoseconds session).1 = .ok (dealt, outcome)) :
    settings.deckSize ≤ Deck.maximumSize ∧
      dealt.ids.Perm (List.range settings.deckSize) := by
  unfold deal at completed
  split at completed
  next => cases completed
  next deck made =>
      obtain ⟨fits, rfl⟩ := Deck.ofSize_eq_ok_iff.mp made
      rw [← Deck.ids_sorted fits]
      exact ⟨fits, (perm_of_shuffled completed).toList.map Card.id⟩

end Service

end CardShuffle
