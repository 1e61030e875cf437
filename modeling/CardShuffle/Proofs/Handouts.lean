import CardShuffle.Proofs.Transcript
import Mathlib.Data.List.Basic

/-!
# What a source hands out

Computations that share a source ask it in turns. `RandomSource.HandsOut` says what
the source itself has seen of them: a list of exchanges leads from one of its states to
another. Lists of exchanges follow each other (`HandsOut.append`), and a run of a
computation is one of them (`handsOut_run`).

When everything a source has handed out is split up by whom it went to, the parts are
together the whole (`parts_perm`).
-/

namespace CardShuffle

universe u v

namespace RandomSource

variable {σ : Type v} [RandomSource σ]

/-- Asked for the bounds of some exchanges in turn, a source gives their answers, and
this leads it from one state to another. -/
structure HandsOut (before : σ) (exchanges : List Exchange) (left : σ) : Prop where
  answers : answerAll before (exchanges.map Exchange.bound) = exchanges
  state : after before (exchanges.map Exchange.bound) = left

/-- A source that is not asked stays as it is. -/
theorem HandsOut.nil (state : σ) : HandsOut state [] state := ⟨rfl, rfl⟩

/-- One request is one exchange. -/
theorem handsOut_draw (state : σ) (bound : Nat) :
    HandsOut state [⟨bound, (draw state bound).1⟩] (draw state bound).2 := ⟨rfl, rfl⟩

/-- The first exchange is a request, and the others follow it. -/
theorem handsOut_cons_iff {before left : σ} {exchange : Exchange} {exchanges : List Exchange} :
    HandsOut before (exchange :: exchanges) left ↔
      (draw before exchange.bound).1 = exchange.answer ∧
        HandsOut (draw before exchange.bound).2 exchanges left := by
  constructor
  · rintro ⟨answers, state⟩
    obtain ⟨first, others⟩ := List.cons.inj answers
    exact ⟨congrArg Exchange.answer first, others, state⟩
  · rintro ⟨answer, others⟩
    refine ⟨?_, others.state⟩
    rw [List.map_cons, answerAll, others.answers, answer]

/-- Exchanges follow each other. -/
theorem HandsOut.append {before middle left : σ} {first second : List Exchange}
    (early : HandsOut before first middle) (late : HandsOut middle second left) :
    HandsOut before (first ++ second) left := by
  induction first generalizing before with
  | nil =>
      obtain rfl : before = middle := early.state
      exact late
  | cons exchange first ih =>
      obtain ⟨answer, others⟩ := handsOut_cons_iff.mp early
      exact handsOut_cons_iff.mpr ⟨answer, ih others⟩

end RandomSource

/-- A run takes the exchanges of its transcript. -/
theorem Drawing.handsOut_run {α : Type u} {σ : Type v} [RandomSource σ] (drawing : Drawing α)
    (state : σ) :
    RandomSource.HandsOut state (drawing.transcript state) (drawing.run state).2 :=
  ⟨drawing.answerAll_transcript state, drawing.after_transcript state⟩

/-- A script answers one place after another, and the source has remembered how many
answers it gave and which bounds it was asked for. -/
theorem ScriptedSource.spec_of_handsOut {before left : ScriptedSource}
    {exchanges : List Exchange} (handed : RandomSource.HandsOut before exchanges left) :
    left.script = before.script ∧
      left.consumed = before.consumed + exchanges.length ∧
      left.bounds.toList = before.bounds.toList ++ exchanges.map Exchange.bound ∧
      ∀ index exchange, exchanges[index]? = some exchange →
        exchange.answer = answerAt before.script (before.consumed + index) := by
  induction exchanges generalizing before with
  | nil =>
      obtain rfl : before = left := handed.state
      simp
  | cons first exchanges ih =>
      obtain ⟨answer, others⟩ := RandomSource.handsOut_cons_iff.mp handed
      obtain ⟨script, consumed, bounds, answers⟩ := ih others
      rw [draw_state] at script consumed bounds answers
      refine ⟨script, ?_, ?_, ?_⟩
      · rw [consumed, List.length_cons, Nat.add_assoc, Nat.add_comm 1]
      · simp [bounds]
      · intro index exchange found
        cases index with
        | zero =>
            cases found
            rw [← answer, draw_answer, Nat.add_zero]
        | succ index =>
            rw [answers index exchange found, Nat.add_assoc, Nat.add_comm 1]

/-- An answer stands in the script, unless the script is empty. -/
theorem ScriptedSource.place_of_answer {script : Array Nat} {index answer : Nat}
    (answered : answer = answerAt script index) :
    script[index % script.size]? = some answer ∨ script = #[] ∧ answer = 0 := by
  rcases Nat.eq_zero_or_pos script.size with empty | filled
  · right
    obtain rfl : script = #[] := Array.eq_empty_of_size_eq_zero empty
    exact ⟨rfl, answered⟩
  · left
    have inside : index % script.size < script.size := Nat.mod_lt _ filled
    rw [answered, answerAt, Array.getD_eq_getD_getElem?, Array.getElem?_eq_getElem inside]
    rfl

/-- Split up by a key, a list is the parts of all its keys together. -/
theorem parts_perm {α : Type u} (key : α → Nat) {keys : List Nat} (distinct : keys.Nodup)
    {entries : List α} (inside : ∀ entry ∈ entries, key entry ∈ keys) :
    (keys.flatMap fun number => entries.filter (key · = number)).Perm entries := by
  induction keys generalizing entries with
  | nil =>
      have empty : entries = [] :=
        List.eq_nil_iff_forall_not_mem.mpr fun entry member => List.not_mem_nil (inside entry member)
      rw [empty]
      exact .refl _
  | cons number keys ih =>
      obtain ⟨fresh, distinctKeys⟩ := List.nodup_cons.mp distinct
      -- What has another key keeps its parts.
      have others : (keys.flatMap fun other => entries.filter (key · = other)) =
          keys.flatMap fun other => (entries.filter (key · ≠ number)).filter (key · = other) := by
        apply List.flatMap_congr
        intro other member
        rw [List.filter_filter]
        apply List.filter_congr
        intro entry _
        have : number ≠ other := fun same => fresh (same ▸ member)
        grind
      have insideOthers : ∀ entry ∈ entries.filter (key · ≠ number), key entry ∈ keys := by
        intro entry member
        obtain ⟨listed, elsewhere⟩ := List.mem_filter.mp member
        exact (List.mem_cons.mp (inside entry listed)).resolve_left (of_decide_eq_true elsewhere)
      have rest := ih distinctKeys insideOthers
      rw [List.flatMap_cons, others]
      have split := List.filter_append_perm (fun entry => decide (key entry = number)) entries
      refine (rest.append_left _).trans ?_
      simpa using split

end CardShuffle
