import CardShuffle.Proofs.DeckText
import Mathlib.Order.Bounds.Basic

/-!
# The first fault of a list of ids

An id in a list is at fault when no deck of the list's length has it or when it stands
earlier in the list too. `Deck.ofIds` takes up the ids one by one and its marks tell which
stood earlier (`collect_cons`), so what it reports of a list that is not too long is the
fault at the least place (`ofIds_eq_error_iff`). A list without a fault is a permutation of
the numbers below its length, so every list either makes a deck or has a first fault
(`ofIds_permutation_or_first_fault`).
-/

namespace CardShuffle.Deck

/-- The id at a place is not below the number of ids, or it equals an earlier one. -/
def FaultAt (ids : List Nat) (place : Nat) : Prop :=
  ∃ id ∈ ids[place]?, ids.length ≤ id ∨ id ∈ ids.take place

/-- An id stands at the least place that is at fault. -/
structure FirstFault (ids : List Nat) (place id : Nat) : Prop where
  found : ids[place]? = some id
  least : IsLeast {place | FaultAt ids place} place

/-- What is reported of an id at fault: that it is out of range, before anything else. -/
def faultOf (size id : Nat) : DeckError :=
  if size ≤ id then .cardOutOfRange id size else .duplicateCard id

variable {size id : Nat}

@[simp]
theorem faultOf_ne_tooLarge {other : Nat} : faultOf size id ≠ .tooLarge other := by
  unfold faultOf
  split <;> simp

@[simp]
theorem faultOf_eq_cardOutOfRange_iff {other otherSize : Nat} :
    faultOf size id = .cardOutOfRange other otherSize ↔
      size ≤ id ∧ id = other ∧ size = otherSize := by
  unfold faultOf
  split <;> simp_all

@[simp]
theorem faultOf_eq_duplicateCard_iff {other : Nat} :
    faultOf size id = .duplicateCard other ↔ id < size ∧ id = other := by
  unfold faultOf
  split
  next outside => simp [Nat.not_lt.mpr outside]
  next inside => simp [Nat.lt_of_not_le inside]

/-- There is one first fault. -/
theorem FirstFault.unique {ids : List Nat} {place otherPlace other : Nat}
    (first : FirstFault ids place id) (second : FirstFault ids otherPlace other) : id = other := by
  obtain rfl : place = otherPlace := first.least.unique second.least
  exact Option.some.inj (first.found.symm.trans second.found)

/-- The next id is reported or taken up, by what was taken up before. -/
theorem collect_cons {ids taken : List Nat} {seen : Array Bool} {cards : Array Card}
    (marks : Marks size taken seen) :
    collect size (id :: ids) seen cards =
      if size ≤ id ∨ id ∈ taken then .error (faultOf size id)
      else collect size ids (seen.setIfInBounds id true) (cards.push (Card.ofId id)) := by
  rw [collect]
  by_cases outside : size ≤ id
  · simp [outside, faultOf]
  · rw [if_neg outside]
    simp only [marks.seen_iff id (Nat.lt_of_not_le outside), outside, false_or, faultOf, if_false]

/-- When no place is at fault among the ids taken up, what is reported of the others is
the first fault of the whole list. -/
theorem collect_eq_error_iff {ids taken rest : List Nat} {seen : Array Bool}
    {cards : Array Card} {reason : DeckError} (split : taken ++ rest = ids)
    (marks : Marks ids.length taken seen) (clean : ∀ place < taken.length, ¬ FaultAt ids place) :
    collect ids.length rest seen cards = .error reason ↔
      ∃ place id, FirstFault ids place id ∧ faultOf ids.length id = reason := by
  induction rest generalizing taken seen cards with
  | nil =>
      simp only [collect, reduceCtorEq, false_iff]
      rintro ⟨place, id, first, -⟩
      have inside : place < ids.length := (List.getElem?_eq_some_iff.mp first.found).1
      rw [← split, List.append_nil] at inside
      exact clean place inside first.least.1
  | cons id rest ih =>
      have found : ids[taken.length]? = some id := by simp [← split]
      have earlier : ids.take taken.length = taken := by simp [← split]
      have faulty : FaultAt ids taken.length ↔ ids.length ≤ id ∨ id ∈ taken := by
        simp [FaultAt, found, earlier]
      rw [collect_cons marks]
      by_cases fault : ids.length ≤ id ∨ id ∈ taken
      · -- The loop ends here, at the least place at fault.
        have first : FirstFault ids taken.length id :=
          ⟨found, faulty.mpr fault, fun place atFault => by
            by_contra before
            exact clean place (Nat.lt_of_not_le before) atFault⟩
        rw [if_pos fault, Except.error.injEq]
        constructor
        · intro reported
          exact ⟨taken.length, id, first, reported⟩
        · rintro ⟨place, other, otherFirst, reported⟩
          rwa [first.unique otherFirst]
      · rw [if_neg fault]
        apply ih (by simp [split]) marks.mark
        intro place before
        rw [List.length_append, List.length_singleton, Nat.lt_succ_iff_lt_or_eq] at before
        rcases before with before | rfl
        · exact clean place before
        · exact fun atFault => fault (faulty.mp atFault)

/-- A list of ids is refused because it is too long, or else because of its first fault. -/
theorem ofIds_eq_error_iff {ids : List Nat} {reason : DeckError} :
    ofIds ids = .error reason ↔
      if maximumSize < ids.length then .tooLarge ids.length = reason
      else ∃ place id, FirstFault ids place id ∧ faultOf ids.length id = reason := by
  rw [ofIds]
  split_ifs with large
  · rw [Except.error.injEq]
  · exact collect_eq_error_iff (List.nil_append ids) (Marks.none ids.length) (by simp)

/-- A list of ids makes a deck exactly when it is not too long and is a permutation of the
numbers below its length, and the deck has these ids in this order. A list that is too
long is refused as such, whatever the ids are. Of any other list the first id at fault is
reported: as out of range when it is not below the number of ids, else as repeated. -/
theorem ofIds_permutation_or_first_fault (ids : List Nat) :
    ((∃ deck, ofIds ids = .ok deck) ↔
        ids.length ≤ maximumSize ∧ ids.Perm (List.range ids.length)) ∧
      (∀ deck, ofIds ids = .ok deck ↔
        ids.length ≤ maximumSize ∧ ids.Perm (List.range ids.length) ∧ deck.ids = ids) ∧
      (∀ size, ofIds ids = .error (.tooLarge size) ↔
        maximumSize < ids.length ∧ ids.length = size) ∧
      (∀ id size, ofIds ids = .error (.cardOutOfRange id size) ↔
        ids.length ≤ maximumSize ∧ ids.length = size ∧ ids.length ≤ id ∧
          ∃ place, FirstFault ids place id) ∧
      ∀ id, ofIds ids = .error (.duplicateCard id) ↔
        ids.length ≤ maximumSize ∧ id < ids.length ∧ ∃ place, FirstFault ids place id := by
  refine ⟨?_, ?_, ?_, ?_, ?_⟩
  · constructor
    · rintro ⟨deck, made⟩
      obtain ⟨short, same, -⟩ := ofIds_eq_ok_iff.mp made
      exact ⟨short, same⟩
    · rintro ⟨short, same⟩
      exact ⟨_, ofIds_eq_ok_iff.mpr ⟨short, same, rfl⟩⟩
  · intro deck
    constructor
    · intro made
      obtain ⟨short, same, -⟩ := ofIds_eq_ok_iff.mp made
      exact ⟨short, same, ids_of_ofIds made⟩
    · rintro ⟨short, same, rfl⟩
      exact (complete_of_ids_perm same short).ofIds_ids
  · intro size
    rw [ofIds_eq_error_iff]
    split_ifs with large <;> simp [large]
  · intro id size
    rw [ofIds_eq_error_iff]
    split_ifs with large
    · simp [Nat.not_le.mpr large]
    · simp only [Nat.le_of_not_lt large, true_and, faultOf_eq_cardOutOfRange_iff]
      constructor
      · rintro ⟨place, id, first, outside, rfl, rfl⟩
        exact ⟨rfl, outside, place, first⟩
      · rintro ⟨rfl, outside, place, first⟩
        exact ⟨place, id, first, outside, rfl, rfl⟩
  · intro id
    rw [ofIds_eq_error_iff]
    split_ifs with large
    · simp [Nat.not_le.mpr large]
    · simp only [Nat.le_of_not_lt large, true_and, faultOf_eq_duplicateCard_iff]
      constructor
      · rintro ⟨place, id, first, inside, rfl⟩
        exact ⟨inside, place, first⟩
      · rintro ⟨inside, place, first⟩
        exact ⟨place, id, first, inside, rfl⟩

/-- What counts is the place of a fault and not its kind. -/
example : ofIds [1, 1, 7] = .error (.duplicateCard 1) := by decide

end CardShuffle.Deck
