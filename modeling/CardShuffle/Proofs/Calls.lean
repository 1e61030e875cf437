import CardShuffle.Proofs.Course
import CardShuffle.Proofs.Handouts
import CardShuffle.Service
import Mathlib.Algebra.GroupWithZero.Nat
import Mathlib.Data.List.Induction

/-!
# Calls and counters

What a collector records of a call are additions to single counters. They may be made
in any order, also mixed with those of other calls (`addAll_perm`). `Metrics.Counts`
says what the counters tell of calls that have ended, and `Call.Takes` what a call has
taken from its source. Together they settle the accounts: every draw belongs to a
completed shuffle, was accepted by an ended one, or is the one that ended it
(`length_taken`).
-/

namespace CardShuffle

universe u v

/-! ## Additions -/

/-- The counters of a collector. -/
inductive Counter where
  | shufflesPerformed
  | itemsShuffled
  | drawsConsumed
  | contractViolations
  | analysesRun
  | shuffleNanoseconds
  deriving DecidableEq

/-- An addition to one counter. -/
structure Addition where
  counter : Counter
  amount : Nat
  deriving DecidableEq

namespace Metrics

/-- The value of a counter. -/
def read (metrics : Metrics) : Counter -> UInt64
  | .shufflesPerformed => metrics.shufflesPerformed
  | .itemsShuffled => metrics.itemsShuffled
  | .drawsConsumed => metrics.drawsConsumed
  | .contractViolations => metrics.contractViolations
  | .analysesRun => metrics.analysesRun
  | .shuffleNanoseconds => metrics.shuffleNanoseconds

/-- Make an addition. -/
def add (metrics : Metrics) (addition : Addition) : Metrics :=
  let amount := UInt64.ofNat addition.amount
  match addition.counter with
  | .shufflesPerformed =>
      { metrics with shufflesPerformed := metrics.shufflesPerformed + amount }
  | .itemsShuffled => { metrics with itemsShuffled := metrics.itemsShuffled + amount }
  | .drawsConsumed => { metrics with drawsConsumed := metrics.drawsConsumed + amount }
  | .contractViolations =>
      { metrics with contractViolations := metrics.contractViolations + amount }
  | .analysesRun => { metrics with analysesRun := metrics.analysesRun + amount }
  | .shuffleNanoseconds =>
      { metrics with shuffleNanoseconds := metrics.shuffleNanoseconds + amount }

/-- Make additions one after another. -/
def addAll (metrics : Metrics) (additions : List Addition) : Metrics :=
  additions.foldl add metrics

/-- Collectors with the same counters are the same. -/
theorem ext_read {metrics other : Metrics}
    (same : ∀ counter, metrics.read counter = other.read counter) : metrics = other := by
  cases metrics
  cases other
  simp only [Metrics.mk.injEq]
  exact ⟨same .shufflesPerformed, same .itemsShuffled, same .drawsConsumed,
    same .contractViolations, same .analysesRun, same .shuffleNanoseconds⟩

/-- An addition changes its own counter alone. -/
theorem read_add (metrics : Metrics) (addition : Addition) (counter : Counter) :
    (metrics.add addition).read counter =
      metrics.read counter +
        if addition.counter = counter then UInt64.ofNat addition.amount else 0 := by
  obtain ⟨changed, amount⟩ := addition
  cases changed <;> cases counter <;> simp [add, read]

/-- Two additions may change places. -/
theorem add_right_comm (metrics : Metrics) (first second : Addition) :
    (metrics.add first).add second = (metrics.add second).add first := by
  apply ext_read
  intro counter
  simp only [read_add, UInt64.add_assoc]
  rw [UInt64.add_comm (if first.counter = counter then _ else 0)]

instance : RightCommutative add := ⟨add_right_comm⟩

/-- Additions may be made in any order. -/
theorem addAll_perm (metrics : Metrics) {additions others : List Addition}
    (same : additions.Perm others) : metrics.addAll additions = metrics.addAll others :=
  same.foldl_eq metrics

theorem addAll_append (metrics : Metrics) (first second : List Addition) :
    metrics.addAll (first ++ second) = (metrics.addAll first).addAll second :=
  List.foldl_append

end Metrics

/-! ## Calls -/

/-- A call of a service that has ended, with its result. -/
inductive Call where
  /-- A shuffle, also one of a copy or of a new deck. The time is the one that the
  caller's clock gives to it. -/
  | shuffle (nanoseconds : Nat) (result : Except ShuffleError Outcome)
  | analysis (result : Except (Stop ShuffleError) (Report Float))

namespace Call

/-- What a completed shuffle reports. -/
def outcome? : Call -> Option Outcome
  | shuffle _ (.ok outcome) => some outcome
  | _ => none

/-- The time of a completed shuffle. -/
def nanoseconds? : Call -> Option Nat
  | shuffle nanoseconds (.ok _) => some nanoseconds
  | _ => none

/-- The error a call reports. -/
def error? : Call -> Option ShuffleError
  | shuffle _ (.error error) => some error
  | analysis (.error (.error error)) => some error
  | _ => none

/-- The answer out of range that a call reports. -/
def violation? (call : Call) : Option OutOfRange :=
  match call.error? with
  | some (.drawOutOfRange violation) => some violation
  | _ => none

/-- Whether the call is a completed analysis. -/
def isAnalysed : Call -> Bool
  | analysis (.ok _) => true
  | _ => false

/-- What is added to the counters for a call. -/
def additions : Call -> List Addition
  | shuffle nanoseconds (.ok outcome) =>
      [⟨.shufflesPerformed, 1⟩, ⟨.itemsShuffled, outcome.items⟩, ⟨.drawsConsumed, outcome.draws⟩,
        ⟨.shuffleNanoseconds, nanoseconds⟩]
  | shuffle _ (.error (.drawOutOfRange _)) => [⟨.contractViolations, 1⟩]
  | analysis (.ok _) => [⟨.analysesRun, 1⟩]
  | _ => []

/-- The call of a shuffle that has left something behind. -/
def ofShuffled {α : Type u} (variant : Variant) (items nanoseconds : Nat) (left : Shuffled α) :
    Call :=
  .shuffle nanoseconds <|
    match left.outcome with
    | .ok draws => .ok ⟨variant, items, draws⟩
    | .error violation => .error (.drawOutOfRange violation)

/-- What a call takes from the source of its service. -/
inductive Takes : Call -> List Exchange -> Prop where
  /-- A completed shuffle takes draws in range, one less than it has items. -/
  | completed {nanoseconds : Nat} {outcome : Outcome} {taken : List Exchange}
      (kept : ∀ exchange ∈ taken, exchange.Kept) (draws : taken.length = outcome.draws)
      (all : outcome.draws = outcome.items - 1) :
      Takes (.shuffle nanoseconds (.ok outcome)) taken
  /-- A shuffle that is ended takes the draws it accepts and the one that ends it. -/
  | ended {nanoseconds : Nat} {violation : OutOfRange} {accepted : List Exchange}
      (kept : ∀ exchange ∈ accepted, exchange.Kept)
      (outside : violation.bound ≤ violation.drawn) :
      Takes (.shuffle nanoseconds (.error (.drawOutOfRange violation)))
        (accepted ++ [⟨violation.bound, violation.drawn⟩])
  /-- Any other call takes nothing. -/
  | nothing {call : Call} (noOutcome : call.outcome? = none)
      (noViolation : call.violation? = none) : Takes call []

/-- A shuffle takes what its outcome says, whatever its source answers. -/
theorem takes_of_run {α : Type u} {σ : Type v} [RandomSource σ] (variant : Variant)
    (items : Array α) (nanoseconds : Nat) (state : σ) :
    (ofShuffled variant items.size nanoseconds ((Shuffle.shuffle variant items).run state).1).Takes
      ((Shuffle.shuffle variant items).transcript state) := by
  obtain ⟨result, walk, concluded⟩ := Shuffle.walk_shuffle variant items state
  rw [ofShuffled, concluded]
  cases walk with
  | complete asked kept left =>
      rw [left, Shuffle.outcome_conclude]
      refine .completed kept ?_ rfl
      rw [← List.length_map Exchange.bound, asked, Variant.length_schedule]
  | ended accepted broken split _ kept outside left =>
      rw [left, Shuffle.outcome_conclude, split]
      exact .ended kept (Nat.le_of_not_lt outside)

end Call

/-- What a shuffle leaves behind is what the service answers, keeps and counts. -/
theorem Service.shuffleDeck_eq {σ : Type v} [RandomSource σ] (settings : Settings)
    (nanoseconds : Nat) (deck : Deck) (session : Session σ) :
    let run := (Shuffle.shuffle settings.variant deck.cards).run session.source
    let call := Call.ofShuffled settings.variant deck.size nanoseconds run.1
    let answer := shuffleDeck settings nanoseconds deck session
    call = .shuffle nanoseconds answer.1.1 ∧ answer.1.2 = ⟨run.1.items⟩ ∧
      answer.2.source = run.2 ∧ answer.2.metrics = session.metrics.addAll call.additions := by
  intro run call answer
  have outcome : run.1.outcome =
      ((Shuffle.shuffle settings.variant deck.cards).run session.source).1.outcome := rfl
  simp only [answer, shuffleDeck, call, Call.ofShuffled, ← outcome]
  cases run.1.outcome <;> exact ⟨rfl, rfl, rfl, rfl⟩

/-! ## Counts -/

/-- What a counter should tell of calls. -/
def Counter.total (calls : List Call) : Counter -> Nat
  | .shufflesPerformed => (calls.filterMap Call.outcome?).length
  | .itemsShuffled => ((calls.filterMap Call.outcome?).map Outcome.items).sum
  | .drawsConsumed => ((calls.filterMap Call.outcome?).map Outcome.draws).sum
  | .contractViolations => (calls.filterMap Call.violation?).length
  | .analysesRun => calls.countP Call.isAnalysed
  | .shuffleNanoseconds => (calls.filterMap Call.nanoseconds?).sum

/-- Every counter tells what it should of the calls, as a word. -/
def Metrics.Counts (metrics : Metrics) (calls : List Call) : Prop :=
  ∀ counter, metrics.read counter = UInt64.ofNat (counter.total calls)

/-- Calls add up. -/
theorem Counter.total_append (counter : Counter) (calls others : List Call) :
    counter.total (calls ++ others) = counter.total calls + counter.total others := by
  cases counter <;> simp [total]

theorem Counter.total_cons (counter : Counter) (call : Call) (calls : List Call) :
    counter.total (call :: calls) = counter.total [call] + counter.total calls :=
  counter.total_append [call] calls

/-- The additions for a call are what the counters should tell of it. -/
theorem Call.Takes.read_additions {call : Call} {taken : List Exchange} (takes : call.Takes taken)
    (metrics : Metrics) (counter : Counter) :
    (metrics.addAll call.additions).read counter =
      metrics.read counter + UInt64.ofNat (counter.total [call]) := by
  cases takes with
  | completed kept draws all =>
      cases counter <;> simp [additions, Metrics.addAll, Metrics.read_add, Counter.total,
        List.filterMap_cons, outcome?, nanoseconds?, violation?, error?, isAnalysed]
  | ended kept outside =>
      cases counter <;> simp [additions, Metrics.addAll, Metrics.read_add, Counter.total,
        List.filterMap_cons, outcome?, nanoseconds?, violation?, error?, isAnalysed]
  | nothing noOutcome noViolation =>
      -- A completed analysis is counted, and nothing else that is left.
      rcases call with ⟨nanoseconds, error | outcome⟩ | stop | report
      · have noAdditions : additions (.shuffle nanoseconds (.error error)) = [] := by
          cases error <;> simp [violation?, error?] at noViolation <;> rfl
        rw [noAdditions]
        cases counter <;> simp [Metrics.addAll, Counter.total, List.filterMap_cons, noViolation,
          outcome?, nanoseconds?, isAnalysed]
      · simp [outcome?] at noOutcome
      · cases counter <;> simp [additions, Metrics.addAll, Counter.total, List.filterMap_cons,
          noViolation, outcome?, nanoseconds?, isAnalysed]
      · cases counter <;> simp [additions, Metrics.addAll, Metrics.read_add, Counter.total,
          List.filterMap_cons, outcome?, nanoseconds?, violation?, error?, isAnalysed]

/-- A call takes the draws that are counted and, when it is ended, those it accepted and
one more. -/
theorem Call.Takes.length_taken {call : Call} {taken : List Exchange}
    (takes : call.Takes taken) :
    taken.length = Counter.drawsConsumed.total [call] +
      if call.violation?.isSome then taken.countP (·.Kept) + 1 else 0 := by
  cases takes with
  | completed kept draws all =>
      simp [Counter.total, outcome?, violation?, error?, draws]
  | @ended nanoseconds violation accepted kept outside =>
      have refused : ¬ Exchange.Kept ⟨violation.bound, violation.drawn⟩ := Nat.not_lt.mpr outside
      have all : accepted.countP (·.Kept) = accepted.length :=
        List.countP_eq_length.mpr fun exchange member => decide_eq_true (kept exchange member)
      simp [Counter.total, List.filterMap_cons, outcome?, violation?, error?, all, refused]
  | nothing noOutcome noViolation => simp [Counter.total, noOutcome, noViolation]

/-- A completed shuffle has one item more than draws, unless it has none. -/
theorem Call.Takes.total_items {call : Call} {taken : List Exchange} (takes : call.Takes taken) :
    Counter.itemsShuffled.total [call] = Counter.drawsConsumed.total [call] +
      ([call].filterMap outcome?).countP (0 < ·.items) := by
  cases takes with
  | @completed nanoseconds outcome taken kept draws all =>
      simp only [Counter.total, List.filterMap_cons, List.filterMap_nil, outcome?,
        List.map_singleton, List.sum_singleton, List.countP_singleton, all, decide_eq_true_eq]
      split <;> omega
  | ended kept outside => rfl
  | nothing noOutcome noViolation => simp [Counter.total, noOutcome]

namespace Metrics

/-- A new collector has counted nothing. -/
theorem Counts.nil : Counts {} [] := by
  intro counter
  cases counter <;> rfl

/-- The additions for one more call count it. -/
theorem Counts.add {metrics : Metrics} {calls : List Call} (counts : metrics.Counts calls)
    {call : Call} {taken : List Exchange} (takes : call.Takes taken) :
    (metrics.addAll call.additions).Counts (calls ++ [call]) := by
  intro counter
  rw [takes.read_additions, counts counter, counter.total_append, UInt64.ofNat_add]

/-- The additions for calls, made in a new collector, count them. -/
theorem counts_flatMap {calls : List Call} (takes : ∀ call ∈ calls, ∃ taken, call.Takes taken) :
    (({} : Metrics).addAll (calls.flatMap Call.additions)).Counts calls := by
  induction calls using List.reverseRecOn with
  | nil => exact .nil
  | append_singleton calls call ih =>
      obtain ⟨_, last⟩ := takes call (by simp)
      have counted := ih fun other member => takes other (List.mem_append_left _ member)
      rw [List.flatMap_append, addAll_append, List.flatMap_singleton]
      exact counted.add last

end Metrics

end CardShuffle
