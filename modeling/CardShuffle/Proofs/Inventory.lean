import CardShuffle.Proofs.Decks
import CardShuffle.Source.Scripted
import Mathlib.Logic.Function.Basic

/-!
# Every deck of a run is complete

An inventory holds all decks that were made, and the sources and collectors that
services share. Sources are of any kinds and may answer anything. An operation makes
a deck, copies one, has one shuffled by a service, or fails; the service draws from
one of the sources and counts into one of the collectors.

`change_perform` says once what an operation can do to the decks: nothing, add one
that holds what it was made from, or put one in another order. From this
`run_keeps_decks_complete` follows by induction over the operations: at every point
of every run all decks are complete, and a deck keeps its size for good.
-/

namespace CardShuffle

universe u

/-- A service as an inventory sees it: its settings, the source it draws from and
the collector it counts into. -/
structure Dealer where
  settings : Settings
  source : Nat
  collector : Nat

/-- What may be done with an inventory. Decks are known by their places. -/
inductive Operation where
  | standard
  | ofSize (size : Nat)
  | ofIds (ids : List Nat)
  | ofJson (text : String)
  /-- Copy a deck as it is. -/
  | copy (place : Nat)
  | shuffleDeck (dealer : Dealer) (nanoseconds : Nat) (place : Nat)
  | shuffled (dealer : Dealer) (nanoseconds : Nat) (place : Nat)
  | deal (dealer : Dealer) (nanoseconds : Nat)
  | analyze (dealer : Dealer) (analysis : AnalysisSettings)

/-- What a new deck of an operation holds, with the ids as unbounded numbers. A deck
that is dealt or a shuffled copy may hold them in any order. -/
def Operation.Makes (decks : List Deck) : Operation -> Deck -> Prop
  | standard, deck => deck.ids = List.range Deck.standardSize
  | ofSize size, deck => deck.ids = List.range size
  | ofIds ids, deck => deck.ids = ids
  | ofJson text, deck =>
      ∃ rest, CardList.read .opening [] text.toList = some (deck.ids, rest)
  | copy place, deck => decks[place]? = some deck
  | shuffleDeck _ _ _, _ => False
  | shuffled _ _ place, deck =>
      ∃ original, decks[place]? = some original ∧ deck.ids.Perm original.ids
  | deal dealer _, deck => deck.ids.Perm (List.range dealer.settings.deckSize)
  | analyze _ _, _ => False

/-- The place of the deck that an operation may put in another order. -/
def Operation.target : Operation -> Option Nat
  | shuffleDeck _ _ place => some place
  | _ => none

/-- The decks that were made, in the order they were made, and what services share. -/
structure Inventory (σ : Nat -> Type u) where
  decks : List Deck
  source : ∀ number, σ number
  collector : Nat -> Metrics

namespace Inventory

variable {σ : Nat -> Type u}

/-- An inventory before anything is made. -/
def opened (source : ∀ number, σ number) (collector : Nat -> Metrics) : Inventory σ :=
  ⟨[], source, collector⟩

/-- Put a new deck behind the others, unless it could not be made. -/
def add {ε : Type} (inventory : Inventory σ) : Except ε Deck -> Inventory σ
  | .ok deck => { inventory with decks := inventory.decks ++ [deck] }
  | .error _ => inventory

/-- Do something with the deck in a place, or nothing when there is none. -/
def onDeck (inventory : Inventory σ) (place : Nat) (act : Deck -> Inventory σ) : Inventory σ :=
  match inventory.decks[place]? with
  | some deck => act deck
  | none => inventory

/-- What a service draws from and counts into. -/
def session (inventory : Inventory σ) (dealer : Dealer) : Session (σ dealer.source) :=
  ⟨inventory.source dealer.source, inventory.collector dealer.collector⟩

/-- Give back what a service drew from and counted into. -/
def settle (inventory : Inventory σ) (dealer : Dealer) (session : Session (σ dealer.source)) :
    Inventory σ :=
  { inventory with
    source := Function.update inventory.source dealer.source session.source
    collector := Function.update inventory.collector dealer.collector session.metrics }

/-- What an operation may do to the decks. -/
inductive Change (decks : List Deck) (operation : Operation) : List Deck -> Prop where
  /-- It fails, or it only counts. -/
  | kept : Change decks operation decks
  /-- It makes a deck. -/
  | added {deck : Deck} (made : operation.Makes decks deck)
      (complete : (∀ deck ∈ decks, deck.Complete) → deck.Complete) :
      Change decks operation (decks ++ [deck])
  /-- It puts the cards of a deck in another order. -/
  | reordered {place : Nat} {before after : Deck} (target : operation.target = some place)
      (found : decks[place]? = some before) (same : after.cards.Perm before.cards) :
      Change decks operation (decks.set place after)

/-- Trying to make a deck adds a complete one that holds what it should, or nothing. -/
theorem change_add {ε : Type} {operation : Operation} (inventory : Inventory σ)
    (result : Except ε Deck)
    (made : ∀ deck, result = .ok deck → operation.Makes inventory.decks deck ∧
      ((∀ deck ∈ inventory.decks, deck.Complete) → deck.Complete)) :
    Change inventory.decks operation (inventory.add result).decks := by
  cases result with
  | error error => exact .kept
  | ok deck => exact .added (made deck rfl).1 (made deck rfl).2

/-- What is done with a deck changes the decks in one of these ways when it does so
wherever there is a deck. -/
theorem change_onDeck {operation : Operation} (inventory : Inventory σ) (place : Nat)
    (act : Deck -> Inventory σ)
    (changes : ∀ deck, inventory.decks[place]? = some deck →
      Change inventory.decks operation (act deck).decks) :
    Change inventory.decks operation (inventory.onDeck place act).decks := by
  unfold onDeck
  split
  next deck found => exact changes deck found
  next => exact .kept

variable [∀ number, RandomSource (σ number)]

/-- Carry out an operation. One that names no deck does nothing. -/
def perform (inventory : Inventory σ) : Operation -> Inventory σ
  | .standard => inventory.add (ε := Empty) (.ok .standard)
  | .ofSize size => inventory.add (Deck.ofSize size)
  | .ofIds ids => inventory.add (Deck.ofIds ids)
  | .ofJson text => inventory.add (Deck.ofJson text)
  | .copy place => inventory.onDeck place fun deck => inventory.add (ε := Empty) (.ok deck)
  | .shuffleDeck dealer nanoseconds place =>
      inventory.onDeck place fun deck =>
        let answer := Service.shuffleDeck dealer.settings nanoseconds deck
          (inventory.session dealer)
        { inventory.settle dealer answer.2 with decks := inventory.decks.set place answer.1.2 }
  | .shuffled dealer nanoseconds place =>
      inventory.onDeck place fun deck =>
        let answer := Service.shuffled dealer.settings nanoseconds deck
          (inventory.session dealer)
        (inventory.settle dealer answer.2).add (answer.1.map Prod.fst)
  | .deal dealer nanoseconds =>
      let answer := Service.deal dealer.settings nanoseconds (inventory.session dealer)
      (inventory.settle dealer answer.2).add (answer.1.map Prod.fst)
  | .analyze dealer analysis =>
      let answer := Service.analyze dealer.settings analysis
        (inventory.collector dealer.collector)
      inventory.settle dealer ⟨inventory.source dealer.source, answer.2⟩

/-- Carry out operations one after another. -/
def performAll (inventory : Inventory σ) (operations : List Operation) : Inventory σ :=
  operations.foldl perform inventory

/-- An operation changes the decks in one of these ways. -/
theorem change_perform (inventory : Inventory σ) (operation : Operation) :
    Change inventory.decks operation (inventory.perform operation).decks := by
  cases operation with
  | standard =>
      have fits : Deck.standardSize ≤ Deck.maximumSize := by decide
      apply change_add
      rintro deck ⟨⟩
      have ids : Deck.standard.ids = List.range Deck.standardSize := Deck.ids_sorted fits
      exact ⟨ids, fun _ => Deck.complete_of_ids_perm (ids ▸ .refl _) fits⟩
  | ofSize size =>
      apply change_add
      intro deck made
      obtain ⟨fits, rfl⟩ := Deck.ofSize_eq_ok_iff.mp made
      have ids : (Deck.sorted size).ids = List.range size := Deck.ids_sorted fits
      exact ⟨ids, fun _ => Deck.complete_of_ids_perm (ids ▸ .refl _) fits⟩
  | ofIds ids =>
      apply change_add
      intro deck made
      exact ⟨Deck.ids_of_ofIds made, fun _ => Deck.complete_of_ofIds made⟩
  | ofJson text =>
      apply change_add
      intro deck made
      obtain ⟨rest, found, fromIds⟩ := Deck.ofIds_of_ofJson made
      exact ⟨⟨rest, found⟩, fun _ => Deck.complete_of_ofIds fromIds⟩
  | copy place =>
      apply change_onDeck
      intro deck found
      apply change_add
      rintro copied ⟨⟩
      exact ⟨found, fun complete => complete _ (List.mem_of_getElem? found)⟩
  | shuffleDeck dealer nanoseconds place =>
      apply change_onDeck
      intro deck found
      exact .reordered rfl found (Service.perm_shuffleDeck _ _ _ _)
  | shuffled dealer nanoseconds place =>
      apply change_onDeck
      intro deck found
      apply change_add (inventory.settle dealer _)
      intro copied completed
      obtain ⟨answer, result, rfl⟩ := exists_of_map_eq_ok completed
      have same := Service.perm_of_shuffled result
      exact ⟨⟨deck, found, same.toList.map Card.id⟩,
        fun complete => (complete deck (List.mem_of_getElem? found)).of_perm same⟩
  | deal dealer nanoseconds =>
      apply change_add (inventory.settle dealer _)
      intro dealt completed
      obtain ⟨answer, result, rfl⟩ := exists_of_map_eq_ok completed
      obtain ⟨fits, ids⟩ := Service.ids_of_deal result
      exact ⟨ids, fun _ => Deck.complete_of_ids_perm ids fits⟩
  | analyze dealer analysis => exact .kept

/-- An operation that finds only complete decks leaves only complete decks. -/
theorem Change.complete {decks changed : List Deck} {operation : Operation}
    (change : Change decks operation changed) (complete : ∀ deck ∈ decks, deck.Complete) :
    ∀ deck ∈ changed, deck.Complete := by
  cases change with
  | kept => exact complete
  | added made completeMade =>
      intro deck member
      rcases List.mem_append.mp member with old | new
      · exact complete deck old
      · rw [List.mem_singleton.mp new]
        exact completeMade complete
  | reordered target found same =>
      intro deck member
      rcases List.mem_or_eq_of_mem_set member with old | new
      · exact complete deck old
      · rw [new]
        exact (complete _ (List.mem_of_getElem? found)).of_perm same

/-- An operation leaves every deck in its place with its size, and leaves it as it was
unless it puts this deck in another order. -/
theorem Change.getElem? {decks changed : List Deck} {operation : Operation}
    (change : Change decks operation changed) {place : Nat} {deck : Deck}
    (found : decks[place]? = some deck) :
    ∃ after, changed[place]? = some after ∧ after.size = deck.size ∧
      (operation.target ≠ some place → after = deck) := by
  cases change with
  | kept => exact ⟨deck, found, rfl, fun _ => rfl⟩
  | added made completeMade =>
      have inside : place < decks.length := (List.getElem?_eq_some_iff.mp found).1
      exact ⟨deck, by rw [List.getElem?_append_left inside, found], rfl, fun _ => rfl⟩
  | @reordered target before after targeted foundTarget same =>
      by_cases here : target = place
      · subst here
        obtain rfl : before = deck := Option.some.inj (foundTarget.symm.trans found)
        have inside : target < decks.length := (List.getElem?_eq_some_iff.mp found).1
        refine ⟨after, List.getElem?_set_self inside, Deck.size_eq_of_perm same, ?_⟩
        intro elsewhere
        exact absurd targeted elsewhere
      · exact ⟨deck, by rw [List.getElem?_set_ne here, found], rfl, fun _ => rfl⟩

/-- A deck behind the others is new, and it holds what the operation makes. -/
theorem Change.makes {decks changed : List Deck} {operation : Operation}
    (change : Change decks operation changed) {deck : Deck}
    (new : changed[decks.length]? = some deck) : operation.Makes decks deck := by
  cases change with
  | kept => simp at new
  | added made completeMade =>
      rw [List.getElem?_concat_length] at new
      exact Option.some.inj new ▸ made
  | reordered target found same => simp at new

/-- Operations leave only complete decks when they find only complete decks. -/
theorem complete_performAll (inventory : Inventory σ) (operations : List Operation)
    (complete : ∀ deck ∈ inventory.decks, deck.Complete) :
    ∀ deck ∈ (inventory.performAll operations).decks, deck.Complete := by
  induction operations generalizing inventory with
  | nil => exact complete
  | cons operation operations ih => exact ih _ ((inventory.change_perform operation).complete complete)

/-- Operations leave every deck in its place with its size. -/
theorem size_performAll (inventory : Inventory σ) (operations : List Operation) {place : Nat}
    {deck : Deck} (found : inventory.decks[place]? = some deck) :
    ∃ after, (inventory.performAll operations).decks[place]? = some after ∧
      after.size = deck.size := by
  induction operations generalizing inventory deck with
  | nil => exact ⟨deck, found, rfl⟩
  | cons operation operations ih =>
      obtain ⟨next, foundNext, sizeNext, _⟩ := (inventory.change_perform operation).getElem? found
      obtain ⟨after, foundAfter, sizeAfter⟩ := ih _ foundNext
      exact ⟨after, foundAfter, sizeAfter.trans sizeNext⟩

/-- Whatever is done with an inventory, by services of any settings with sources that
may answer anything, at every point all decks are complete: each holds the ids below
its size once, and there are at most as many as 16 bits have numbers. A deck stays in
its place with its size for the rest of the run. Only shuffling a deck in place puts
it in another order, so a shuffled copy leaves the deck as it was. A new deck holds
exactly the ids it was asked for, none of them cut down to 16 bits. -/
theorem run_keeps_decks_complete (source : ∀ number, σ number) (collector : Nat -> Metrics)
    (operations : List Operation) :
    let reached := (opened source collector).performAll operations
    (∀ deck ∈ reached.decks,
      deck.ids.Perm (List.range deck.size) ∧ deck.size ≤ Deck.maximumSize) ∧
    (∀ (later : List Operation) (place : Nat) (deck : Deck), reached.decks[place]? = some deck →
      ∃ after, (reached.performAll later).decks[place]? = some after ∧
        after.size = deck.size) ∧
    ∀ operation,
      (∀ place deck, reached.decks[place]? = some deck → operation.target ≠ some place →
        (reached.perform operation).decks[place]? = some deck) ∧
      ∀ deck, (reached.perform operation).decks[reached.decks.length]? = some deck →
        operation.Makes reached.decks deck := by
  intro reached
  have complete : ∀ deck ∈ reached.decks, deck.Complete :=
    complete_performAll _ _ (by simp [opened])
  refine ⟨fun deck member => ⟨(complete deck member).ids_perm, (complete deck member).size_le⟩,
    fun later place deck found => size_performAll reached later found, ?_⟩
  intro operation
  have change := reached.change_perform operation
  refine ⟨?_, fun deck new => change.makes new⟩
  intro place deck found elsewhere
  obtain ⟨after, foundAfter, _, same⟩ := change.getElem? found
  rw [foundAfter, same elsewhere]

/-- A deck of three whose shuffle a script ends at its second draw, then a copy of it
that is shuffled and a deck from ids. -/
theorem run_keeps_decks_complete_ended :
    let dealer : Dealer := ⟨{}, 0, 0⟩
    let ended : Deck := ⟨#[⟨0⟩, ⟨2⟩, ⟨1⟩]⟩
    let made : Deck := ⟨#[⟨1⟩, ⟨0⟩]⟩
    let reached := (opened (σ := fun _ => ScriptedSource) (fun _ => .start #[1, 9])
      fun _ => {}).performAll [.ofIds [0, 1, 2], .shuffleDeck dealer 0 0]
    reached.decks = [ended] ∧
      (ended.ids.Perm (List.range 3) ∧ 3 ≤ Deck.maximumSize) ∧
      (∃ after, (reached.performAll [.deal dealer 0, .shuffleDeck dealer 0 0]).decks[0]? =
          some after ∧ after.size = 3) ∧
      (reached.perform (.shuffled dealer 0 0)).decks[0]? = some ended ∧
      (reached.perform (.ofIds [1, 0])).decks[1]? = some made ∧ made.ids = [1, 0] := by
  intro dealer ended made reached
  have decks : reached.decks = [ended] := rfl
  have first : reached.decks[0]? = some ended := by rw [decks]; rfl
  have new : (reached.perform (.ofIds [1, 0])).decks[1]? = some made := rfl
  obtain ⟨complete, lasting, step⟩ := run_keeps_decks_complete
    (σ := fun _ => ScriptedSource) (fun _ => .start #[1, 9]) (fun _ => {})
    [.ofIds [0, 1, 2], .shuffleDeck dealer 0 0]
  refine ⟨decks, complete ended (List.mem_of_getElem? first), lasting _ 0 ended first,
    (step (.shuffled dealer 0 0)).1 0 ended first ?_, new,
    (step (.ofIds [1, 0])).2 made new⟩
  simp [Operation.target]

end Inventory

end CardShuffle
