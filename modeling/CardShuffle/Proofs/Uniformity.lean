import CardShuffle.Proofs.Course
import Mathlib.Data.List.Permutation
import Mathlib.Data.Set.Card

/-!
# Every order from exactly one sequence of draws

A source that keeps its promise answers a shuffle with one number below each bound.
For distinct items `shuffle_uniform` says that these sequences of answers and the
orders of the items correspond one to one, for either form. So when all sequences
of answers are equally likely, all `n!` orders are.

The in-place form is followed from its first swap on: what the swap puts into the
last position stays there, which fixes the answer, and the swaps that follow work
on one position less (`existsUnique_falling`). The inside-out form makes its swaps
in the other direction, so it leads from one order to another with the answers that
lead the in-place form back.
-/

namespace CardShuffle.Shuffle

open scoped Nat

universe u v

variable {α : Type u}

/-- The loop takes exactly the lists with one number below each bound. -/
theorem honoured_swapAlong_iff (bounds : List Nat) (items : Array α) (answers : List Nat) :
    (swapAlong bounds items).Honoured answers ↔ List.Forall₂ (· < ·) answers bounds := by
  induction bounds generalizing items answers with
  | nil =>
      constructor
      · intro honoured
        cases honoured
        exact .nil
      · intro below
        cases below
        exact .done
  | cons bound bounds ih =>
      constructor
      · intro honoured
        cases honoured with
        | @ask _ _ answer answers below rest =>
            have next : (swapAlong bounds (Exchange.swap ⟨bound, answer⟩ items)).Honoured answers := by
              simpa only [if_pos below] using rest
            exact .cons below ((ih _ _).mp next)
      · intro below
        cases below with
        | cons first others =>
            apply Drawing.Honoured.ask first
            simpa only [if_pos first] using (ih _ _).mpr others

/-- A shuffle takes exactly the lists with one number below each bound of its
schedule. -/
theorem honoured_shuffle_iff (variant : Variant) (items : Array α) (answers : List Nat) :
    (shuffle variant items).Honoured answers ↔
      List.Forall₂ (· < ·) answers (variant.schedule items.size) := by
  rw [shuffle_eq, Drawing.honoured_map_iff, honoured_swapAlong_iff]

/-- When the orders agree beyond a position, the item that belongs there is found
at or before it. -/
theorem exists_position {items target : Array α} {last : Nat} (distinct : target.toList.Nodup)
    (same : target.Perm items) (inside : last < items.size)
    (agree : ∀ position, last < position → target[position]? = items[position]?) :
    ∃ position ≤ last, items[position]? = target[last]? := by
  have insideTarget : last < target.size := by rw [same.size_eq]; exact inside
  have member : target[last] ∈ items := same.mem_iff.mp (Array.getElem_mem insideTarget)
  obtain ⟨position, bounded, found⟩ := Array.mem_iff_getElem.mp member
  have foundAt : items[position]? = target[last]? := by
    rw [Array.getElem?_eq_getElem bounded, Array.getElem?_eq_getElem insideTarget, found]
  refine ⟨position, ?_, foundAt⟩
  by_contra beyond
  -- Beyond the position the item would stand twice in the target.
  have twice : target[position]? = target[last]? :=
    (agree position (Nat.lt_of_not_le beyond)).trans foundAt
  have equal : last = position :=
    (List.getElem?_inj insideTarget distinct).mp (by simpa using twice.symm)
  omega

/-- When nothing is asked, no answers are all that leads to the same order. -/
theorem existsUnique_nil {items target : Array α} (equal : target = items) :
    ∃! answers, List.Forall₂ (· < ·) answers [] ∧
      swaps (Exchange.pair [] answers) items = target := by
  refine ⟨[], ⟨.nil, equal.symm⟩, ?_⟩
  rintro answers ⟨below, _⟩
  cases below
  rfl

/-- From one order to another that agrees with it from a position on, exactly one
list of answers leads the in-place form with the positions before still to settle. -/
theorem existsUnique_falling (count : Nat) {items target : Array α}
    (distinct : items.toList.Nodup) (same : target.Perm items) (within : count ≤ items.size)
    (agree : ∀ position, count ≤ position → target[position]? = items[position]?) :
    ∃! answers, List.Forall₂ (· < ·) answers (Variant.durstenfeld.schedule count) ∧
      swaps (Exchange.pair (Variant.durstenfeld.schedule count) answers) items = target := by
  have distinctTarget : target.toList.Nodup := same.toList.nodup_iff.mpr distinct
  induction count generalizing items with
  | zero => exact existsUnique_nil (Array.ext_getElem? fun position => agree position (by omega))
  | succ count ih =>
      obtain ⟨found, atMost, foundAt⟩ :=
        exists_position distinctTarget same (by omega) fun position => agree position
      cases count with
      | zero =>
          -- Nothing is asked for the first position: the orders agree there as well.
          apply existsUnique_nil
          apply Array.ext_getElem?
          intro position
          by_cases first : position = 0
          · rw [first, ← foundAt, Nat.le_zero.mp atMost]
          · exact agree position (Nat.pos_of_ne_zero first)
      | succ count =>
          rw [Variant.schedule_durstenfeld_add_two]
          have fits : Exchange.Fits ⟨count + 2, found⟩ items.size :=
            ⟨Nat.lt_succ_of_le atMost, within⟩
          have moved := Exchange.perm_swap ⟨count + 2, found⟩ items
          have agreeMoved : ∀ position, count + 1 ≤ position →
              target[position]? = (Exchange.swap ⟨count + 2, found⟩ items)[position]? := by
            intro position above
            by_cases last : position = count + 1
            · rw [last, ← foundAt]
              exact (Exchange.getElem?_swap_last fits).symm
            · have beyond : count + 2 ≤ position := by omega
              rw [agree position beyond, Exchange.getElem?_swap_of_le fits.kept beyond]
          obtain ⟨rest, ⟨restBelow, arrives⟩, unique⟩ :=
            ih (moved.toList.nodup_iff.mpr distinct) (same.trans moved.symm)
              (by rw [Exchange.size_swap]; omega) agreeMoved
          refine ⟨found :: rest, ⟨.cons fits.kept restBelow, arrives⟩, ?_⟩
          rintro answers ⟨below, leads⟩
          cases below with
          | @cons answer _ others _ first othersBelow =>
              have otherFits : Exchange.Fits ⟨count + 2, answer⟩ items.size := ⟨first, within⟩
              -- The swaps that follow leave the last position as the first makes it.
              have placed : target[count + 1]? = items[answer]? := by
                rw [← leads, Exchange.pair_cons, swaps_cons,
                  getElem?_swaps_of_le (fits_pair othersBelow) (Nat.le_refl _)]
                exact Exchange.getElem?_swap_last otherFits
              have foundInside : found < items.toList.length := by
                rw [Array.length_toList]
                omega
              have equal : found = answer := (List.getElem?_inj foundInside distinct).mp
                (by simpa using foundAt.trans placed)
              subst equal
              rw [unique others ⟨othersBelow, leads⟩]

/-- From one order to another exactly one list of answers leads a form. -/
theorem existsUnique_answers (variant : Variant) {items target : Array α}
    (distinct : items.toList.Nodup) (same : target.Perm items) :
    ∃! answers, List.Forall₂ (· < ·) answers (variant.schedule items.size) ∧
      swaps (Exchange.pair (variant.schedule items.size) answers) items = target := by
  have outside : ∀ position, items.size ≤ position → target[position]? = items[position]? := by
    intro position beyond
    rw [Array.getElem?_eq_none beyond, Array.getElem?_eq_none (same.size_eq ▸ beyond)]
  cases variant with
  | durstenfeld => exact existsUnique_falling items.size distinct same (Nat.le_refl _) outside
  | insideOut =>
      have back := existsUnique_falling items.size (same.toList.nodup_iff.mpr distinct) same.symm
        same.size_eq.ge fun position beyond => (outside position beyond).symm
      have schedules : Variant.insideOut.schedule items.size =
          (Variant.durstenfeld.schedule items.size).reverse := by
        simp [Variant.schedule]
      rw [(show Function.Bijective (List.reverse : List Nat -> List Nat) from
        List.reverse_involutive.bijective).existsUnique_iff]
      refine (existsUnique_congr fun answers => ?_).mp back
      rw [schedules, List.forall₂_reverse_iff]
      refine and_congr_right fun below => ?_
      rw [Exchange.pair_reverse below.length_eq, swaps_reverse_eq_iff (fits_pair below)]

/-- Distinct items have as many orders as the factorial of their number. -/
theorem ncard_orders {items : Array α} (distinct : items.toList.Nodup) :
    {order : Array α | order.Perm items}.ncard = items.size ! := by
  classical
  have orders : {order : Array α | order.Perm items} =
      List.toArray '' (items.toList.permutations.toFinset : Set (List α)) := by
    ext order
    simp only [Set.mem_ofPred_eq, Set.mem_image, Finset.mem_coe, List.mem_toFinset,
      List.mem_permutations]
    constructor
    · exact fun same => ⟨order.toList, same.toList, rfl⟩
    · rintro ⟨list, same, rfl⟩
      exact ⟨same⟩
  rw [orders, Set.ncard_image_of_injective _ fun _ _ equal => congrArg Array.toList equal,
    Set.ncard_coe_finset, List.toFinset_card_of_nodup (List.nodup_permutations _ distinct),
    List.length_permutations, Array.length_toList]

/-- The items a shuffle leaves when its requests are answered from a list. -/
def replay (variant : Variant) (items : Array α) (answers : List Nat) : Array α :=
  ((shuffle variant items).run (ScriptedSource.start answers.toArray)).1.items

/-- Answers that a shuffle takes lead to what their swaps make of the items. -/
theorem replay_eq {variant : Variant} {items : Array α} {answers : List Nat}
    (below : List.Forall₂ (· < ·) answers (variant.schedule items.size)) :
    replay variant items answers =
      swaps (Exchange.pair (variant.schedule items.size) answers) items := by
  rw [replay, run_start variant items below]

/-- A source that keeps its promise leaves what a replay of its answers leaves. -/
theorem items_of_kept {σ : Type v} [RandomSource σ] (variant : Variant) (items : Array α)
    (state : σ) (kept : ∀ exchange ∈ (shuffle variant items).transcript state, exchange.Kept) :
    ((shuffle variant items).run state).1.items =
      replay variant items
        (((shuffle variant items).transcript state).map Exchange.answer) := by
  have below := (honoured_shuffle_iff variant items _).mp
    (Drawing.honoured_of_kept _ state kept)
  obtain ⟨result, walk, concluded⟩ := walk_shuffle variant items state
  cases walk with
  | complete asked _ left =>
      rw [replay_eq below, ← asked, Exchange.pair_map, concluded, left]
      rfl
  | ended accepted broken split _ _ outside _ =>
      exact absurd (kept broken (by simp [split])) outside

/-- The lists of answers below the bounds that a shuffle of distinct items asks for
correspond one to one to the orders of the items, of which there are `n!`: every
order is left by exactly one of the lists. Every source that keeps its promise
answers with such a list, and the shuffle leaves the order that belongs to it. -/
theorem shuffle_uniform (variant : Variant) {items : Array α} (distinct : items.toList.Nodup) :
    Set.BijOn (replay variant items) {answers | (shuffle variant items).Honoured answers}
        {order | order.Perm items} ∧
      {order : Array α | order.Perm items}.ncard = items.size ! ∧
      ∀ {σ : Type v} [RandomSource σ] (state : σ),
        let taken := (shuffle variant items).transcript state
        (∀ exchange ∈ taken, exchange.answer < exchange.bound) →
          (shuffle variant items).Honoured (taken.map Exchange.answer) ∧
            ((shuffle variant items).run state).1.items =
              replay variant items (taken.map Exchange.answer) := by
  refine ⟨⟨?_, ?_, ?_⟩, ncard_orders distinct, ?_⟩
  · intro answers honoured
    rw [Set.mem_ofPred_eq, replay_eq ((honoured_shuffle_iff _ _ _).mp honoured)]
    exact perm_swaps _ _
  · intro answers honoured others othersHonoured equal
    have below := (honoured_shuffle_iff _ _ _).mp honoured
    have othersBelow := (honoured_shuffle_iff _ _ _).mp othersHonoured
    rw [replay_eq below, replay_eq othersBelow] at equal
    exact (existsUnique_answers variant distinct (perm_swaps _ _)).unique
      ⟨below, equal⟩ ⟨othersBelow, rfl⟩
  · intro order same
    obtain ⟨answers, ⟨below, arrives⟩, _⟩ := existsUnique_answers variant distinct same
    exact ⟨answers, (honoured_shuffle_iff _ _ _).mpr below, (replay_eq below).trans arrives⟩
  · intro σ _ state taken kept
    exact ⟨Drawing.honoured_of_kept _ state kept, items_of_kept variant items state kept⟩

/-- The inside-out form on three distinct items. -/
theorem shuffle_uniform_three :
    (#[10, 20, 30] : Array Nat).toList.Nodup ∧
      Set.BijOn (replay .insideOut #[10, 20, 30])
        {answers | (shuffle .insideOut #[10, 20, 30]).Honoured answers}
        {order | order.Perm #[10, 20, 30]} ∧
      {order : Array Nat | order.Perm #[10, 20, 30]}.ncard = 3 ! :=
  have distinct : (#[10, 20, 30] : Array Nat).toList.Nodup := by decide
  have uniform := shuffle_uniform.{0, 0} .insideOut distinct
  ⟨distinct, uniform.1, uniform.2.1⟩

end CardShuffle.Shuffle
