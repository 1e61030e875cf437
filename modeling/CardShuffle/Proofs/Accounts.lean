import CardShuffle.Proofs.Calls
import CardShuffle.Proofs.Honest
import CardShuffle.Proofs.Inventory
import Mathlib.Data.List.Induction

/-!
# The accounts of a run

Services may share collectors and sources. Every call that ends leaves a receipt: the
service, the result, and the exchanges with the source of the service. `Service.Effect`
says once what a call does to what it draws from and counts into. From this
`run_accounts` follows by induction over the operations: the counters of every
collector tell what the receipts of its services say, and every source has handed out
exactly the draws on the receipts.
-/

namespace CardShuffle

universe u

/-! ## Analyses with honest sources -/

namespace Analysis

/-- The result reports no draw out of range. -/
def Unviolated {α : Type u} (result : Except (Stop ShuffleError) α) : Prop :=
  ∀ violation, result ≠ .error (.error (.drawOutOfRange violation))

theorem unviolated_require {α : Type u} (value : Option α) : Unviolated (Stop.require value) := by
  cases value <;> simp [Unviolated]

/-- What comes first may end a computation, or what follows. -/
theorem unviolated_bind {α β : Type u} {first : Except (Stop ShuffleError) α}
    {next : α -> Except (Stop ShuffleError) β} (kept : Unviolated first)
    (keptNext : ∀ value, Unviolated (next value)) : Unviolated (first >>= next) := by
  cases first with
  | error stop => exact fun violation ended => kept violation (by cases ended; rfl)
  | ok value => exact keptNext value

variable {σ : Type u} [RandomSource σ] {variant : Variant} {items : Nat}

/-- Trials with an honest source draw nothing out of range. -/
theorem unviolated_repeatTrials {remaining : Nat} {source : σ}
    (honest : RandomSource.Honest source) (histogram : Histogram) :
    Unviolated (repeatTrials variant items remaining source histogram) := by
  induction remaining generalizing source histogram with
  | zero => simp [Unviolated, repeatTrials]
  | succ remaining ih =>
      obtain ⟨completed, stillHonest⟩ :=
        Shuffle.completes_of_honest variant (Array.range items) honest
      simp only [repeatTrials, completed]
      split
      · simp [Unviolated]
      · exact ih stillHonest _

/-- Chunks with honest sources draw nothing out of range. -/
theorem unviolated_runChunks {trials count : Nat} {makeSource : Nat -> σ}
    (honest : ∀ chunk, RandomSource.Honest (makeSource chunk)) (chunks : List Nat)
    (merged : Histogram) :
    Unviolated (runChunks variant items trials count makeSource chunks merged) := by
  induction chunks generalizing merged with
  | nil => simp [Unviolated, runChunks]
  | cons chunk chunks ih =>
      have first : Unviolated
          (runChunk variant items trials count (makeSource chunk) chunk) :=
        unviolated_bind (unviolated_require _) fun _ => unviolated_repeatTrials (honest chunk) _
      exact unviolated_bind first fun _ => unviolated_bind (unviolated_require _) fun _ => ih _

/-- An analysis with honest sources draws nothing out of range, whatever its
parameters are. -/
theorem unviolated_report {κ : Type} [Measure κ] {trials chunks : Nat} (seed : Nat)
    {makeSource : Nat -> σ} (honest : ∀ seed, RandomSource.Honest (makeSource seed)) :
    Unviolated (report variant items trials chunks seed makeSource :
      Except (Stop ShuffleError) (Report κ)) := by
  have checked : Unviolated (Stop.lift ((check items trials chunks).mapError .analysis)) := by
    cases check items trials chunks <;> simp [Unviolated, Stop.lift, Stop.report, Except.mapError]
  have counted : Unviolated (histogram variant items trials chunks seed makeSource) :=
    unviolated_bind checked fun _ => unviolated_runChunks (fun _ => honest _) _ _
  intro violation ended
  rw [report] at ended
  cases result : histogram variant items trials chunks seed makeSource with
  | ok merged => rw [result] at ended; cases ended
  | error stop =>
      rw [result] at ended
      cases ended
      exact counted violation result

end Analysis

/-! ## What a call does -/

namespace Service

variable {σ : Type u} [RandomSource σ]

/-- What a call does to what its service draws from and counts into. -/
structure Effect (before : Session σ) (call : Call) (taken : List Exchange)
    (left : Session σ) : Prop where
  handed : RandomSource.HandsOut before.source taken left.source
  takes : call.Takes taken
  counted : left.metrics = before.metrics.addAll call.additions

/-- A shuffle takes the exchanges of its transcript and is counted. -/
theorem effect_shuffleDeck (settings : Settings) (nanoseconds : Nat) (deck : Deck)
    (session : Session σ) :
    Effect session (.shuffle nanoseconds (shuffleDeck settings nanoseconds deck session).1.1)
      ((Shuffle.shuffle settings.variant deck.cards).transcript session.source)
      (shuffleDeck settings nanoseconds deck session).2 := by
  obtain ⟨call, -, source, counted⟩ := shuffleDeck_eq settings nanoseconds deck session
  rw [← call]
  refine ⟨?_, Call.takes_of_run _ _ nanoseconds session.source, counted⟩
  rw [source]
  exact (Shuffle.shuffle settings.variant deck.cards).handsOut_run session.source

/-- A shuffled copy is shuffled like a deck. -/
theorem effect_shuffled (settings : Settings) (nanoseconds : Nat) (deck : Deck)
    (session : Session σ) :
    Effect session
      (.shuffle nanoseconds ((shuffled settings nanoseconds deck session).1.map Prod.snd))
      ((Shuffle.shuffle settings.variant deck.cards).transcript session.source)
      (shuffled settings nanoseconds deck session).2 := by
  have result : (shuffled settings nanoseconds deck session).1.map Prod.snd =
      (shuffleDeck settings nanoseconds deck session).1.1 := by
    unfold shuffled
    dsimp only
    cases (shuffleDeck settings nanoseconds deck session).1.1 <;> rfl
  rw [result]
  exact effect_shuffleDeck settings nanoseconds deck session

/-- What a deal takes from the source: nothing when there is no deck of the size. -/
def dealt (settings : Settings) (source : σ) : List Exchange :=
  match Deck.ofSize settings.deckSize with
  | .error _ => []
  | .ok deck => (Shuffle.shuffle settings.variant deck.cards).transcript source

/-- A deal shuffles a new deck, or does nothing. -/
theorem effect_deal (settings : Settings) (nanoseconds : Nat) (session : Session σ) :
    Effect session
      (.shuffle nanoseconds ((deal settings nanoseconds session).1.map Prod.snd))
      (dealt settings session.source) (deal settings nanoseconds session).2 := by
  unfold deal dealt
  cases Deck.ofSize settings.deckSize with
  | error error => exact ⟨.nil _, .nothing rfl rfl, rfl⟩
  | ok deck => exact effect_shuffled settings nanoseconds deck session

/-- An analysis takes nothing from the source of the service. -/
theorem effect_analyze (settings : Settings) (analysis : AnalysisSettings)
    (session : Session σ) :
    Effect session (.analysis (analyze settings analysis session.metrics).1) []
      ⟨session.source, (analyze settings analysis session.metrics).2⟩ := by
  have kept : Analysis.Unviolated (Analysis.report settings.variant analysis.items
      analysis.trials analysis.chunks analysis.seed SeededSource.ofSeed :
        Except (Stop ShuffleError) (Report Float)) :=
    Analysis.unviolated_report _ fun seed => SeededSource.honest _
  unfold analyze
  cases analysis.validate with
  | error fault => exact ⟨.nil _, .nothing rfl rfl, rfl⟩
  | ok accepted =>
      dsimp only
      cases result : (Analysis.report settings.variant analysis.items analysis.trials
          analysis.chunks analysis.seed SeededSource.ofSeed :
            Except (Stop ShuffleError) (Report Float)) with
      | ok report => exact ⟨.nil _, .nothing rfl rfl, rfl⟩
      | error stop =>
          refine ⟨.nil _, .nothing rfl ?_, rfl⟩
          rw [result] at kept
          rcases stop with _ | error
          · rfl
          · cases error with
            | drawOutOfRange violation => exact absurd rfl (kept violation)
            | deck | analysis | settings => rfl

end Service

/-! ## Receipts -/

/-- What is known of a call when it has ended. -/
structure Receipt where
  dealer : Dealer
  call : Call
  /-- The exchanges with the source of the service. -/
  taken : List Exchange

/-- The draws in range among those that were taken. -/
def Receipt.accepted (receipt : Receipt) : Nat :=
  receipt.taken.countP (·.Kept)

namespace Inventory

variable {σ : Nat -> Type u}

theorem source_settle (inventory : Inventory σ) (dealer : Dealer)
    (session : Session (σ dealer.source)) :
    (inventory.settle dealer session).source =
      Function.update inventory.source dealer.source session.source := rfl

theorem collector_settle (inventory : Inventory σ) (dealer : Dealer)
    (session : Session (σ dealer.source)) :
    (inventory.settle dealer session).collector =
      Function.update inventory.collector dealer.collector session.metrics := rfl

/-- Putting a deck behind the others leaves what services share. -/
theorem shared_add {ε : Type} (inventory : Inventory σ) (result : Except ε Deck) :
    (inventory.add result).source = inventory.source ∧
      (inventory.add result).collector = inventory.collector := by
  cases result <;> exact ⟨rfl, rfl⟩

variable [∀ number, RandomSource (σ number)]

theorem performAll_concat (inventory : Inventory σ) (operations : List Operation)
    (operation : Operation) :
    inventory.performAll (operations ++ [operation]) =
      (inventory.performAll operations).perform operation :=
  List.foldl_concat ..

/-- The receipt of an operation that calls a service. -/
def receipt? (inventory : Inventory σ) : Operation -> Option Receipt
  | .shuffleDeck dealer nanoseconds place =>
      inventory.decks[place]?.map fun deck =>
        let answer := Service.shuffleDeck dealer.settings nanoseconds deck
          (inventory.session dealer)
        ⟨dealer, .shuffle nanoseconds answer.1.1,
          (Shuffle.shuffle dealer.settings.variant deck.cards).transcript
            (inventory.source dealer.source)⟩
  | .shuffled dealer nanoseconds place =>
      inventory.decks[place]?.map fun deck =>
        let answer := Service.shuffled dealer.settings nanoseconds deck
          (inventory.session dealer)
        ⟨dealer, .shuffle nanoseconds (answer.1.map Prod.snd),
          (Shuffle.shuffle dealer.settings.variant deck.cards).transcript
            (inventory.source dealer.source)⟩
  | .deal dealer nanoseconds =>
      let answer := Service.deal dealer.settings nanoseconds (inventory.session dealer)
      some ⟨dealer, .shuffle nanoseconds (answer.1.map Prod.snd),
        Service.dealt dealer.settings (inventory.source dealer.source)⟩
  | .analyze dealer analysis =>
      let answer := Service.analyze dealer.settings analysis
        (inventory.collector dealer.collector)
      some ⟨dealer, .analysis answer.1, []⟩
  | .standard | .ofSize _ | .ofIds _ | .ofJson _ | .copy _ => none

/-- The receipts of operations that are carried out one after another. -/
def receipts (inventory : Inventory σ) : List Operation -> List Receipt
  | [] => []
  | operation :: operations =>
      (inventory.receipt? operation).toList ++ (inventory.perform operation).receipts operations

/-- One more operation adds its receipt. -/
theorem receipts_concat (inventory : Inventory σ) (operations : List Operation)
    (operation : Operation) :
    inventory.receipts (operations ++ [operation]) =
      inventory.receipts operations ++
        ((inventory.performAll operations).receipt? operation).toList := by
  induction operations generalizing inventory with
  | nil => simp [receipts, performAll]
  | cons first operations ih =>
      rw [List.cons_append, receipts, receipts, ih, List.append_assoc]
      rfl

/-- What an operation does to what services share. -/
inductive Settlement (inventory : Inventory σ) (operation : Operation)
    (next : Inventory σ) : Prop where
  /-- No service is called. -/
  | idle (noReceipt : inventory.receipt? operation = none)
      (source : next.source = inventory.source)
      (collector : next.collector = inventory.collector)
  /-- A service is called and gives back what it drew from and counted into. -/
  | called {receipt : Receipt} {session : Session (σ receipt.dealer.source)}
      (given : inventory.receipt? operation = some receipt)
      (effect : Service.Effect (inventory.session receipt.dealer) receipt.call receipt.taken
        session)
      (source : next.source = (inventory.settle receipt.dealer session).source)
      (collector : next.collector = (inventory.settle receipt.dealer session).collector)

/-- An operation calls the service of its receipt, or none. -/
theorem settlement_perform (inventory : Inventory σ) (operation : Operation) :
    Settlement inventory operation (inventory.perform operation) := by
  cases operation with
  | standard | ofSize | ofIds | ofJson =>
      obtain ⟨source, collector⟩ := shared_add inventory _
      exact .idle rfl source collector
  | copy place =>
      simp only [perform, onDeck]
      cases inventory.decks[place]? with
      | none => exact .idle rfl rfl rfl
      | some deck => exact .idle rfl rfl rfl
  | shuffleDeck dealer nanoseconds place =>
      simp only [perform, onDeck]
      cases found : inventory.decks[place]? with
      | none => exact .idle (by rw [receipt?, found]; rfl) rfl rfl
      | some deck =>
          exact .called (by rw [receipt?, found]; rfl)
            (Service.effect_shuffleDeck dealer.settings nanoseconds deck _) rfl rfl
  | shuffled dealer nanoseconds place =>
      simp only [perform, onDeck]
      cases found : inventory.decks[place]? with
      | none => exact .idle (by rw [receipt?, found]; rfl) rfl rfl
      | some deck =>
          obtain ⟨source, collector⟩ := shared_add (inventory.settle dealer _) _
          exact .called (by rw [receipt?, found]; rfl)
            (Service.effect_shuffled dealer.settings nanoseconds deck _) source collector
  | deal dealer nanoseconds =>
      obtain ⟨source, collector⟩ := shared_add (inventory.settle dealer _) _
      exact .called rfl (Service.effect_deal dealer.settings nanoseconds _) source collector
  | analyze dealer analysis =>
      exact .called rfl (Service.effect_analyze dealer.settings analysis (inventory.session dealer))
        rfl rfl

/-! ## Books -/

/-- The receipts of the services that count into a collector. -/
def countedBy (number : Nat) (receipts : List Receipt) : List Receipt :=
  receipts.filter (·.dealer.collector = number)

/-- The exchanges with a source. -/
def asked (number : Nat) (receipts : List Receipt) : List Exchange :=
  (receipts.filter (·.dealer.source = number)).flatMap Receipt.taken

theorem countedBy_concat (number : Nat) (receipts : List Receipt) (receipt : Receipt) :
    countedBy number (receipts ++ [receipt]) =
      countedBy number receipts ++ if receipt.dealer.collector = number then [receipt] else [] := by
  by_cases here : receipt.dealer.collector = number <;> simp [countedBy, here]

theorem asked_concat (number : Nat) (receipts : List Receipt) (receipt : Receipt) :
    asked number (receipts ++ [receipt]) =
      asked number receipts ++ if receipt.dealer.source = number then receipt.taken else [] := by
  by_cases here : receipt.dealer.source = number <;> simp [asked, here]

/-- The receipts agree with the collectors, which were new, and with the sources. -/
structure Books (source : ∀ number, σ number) (receipts : List Receipt)
    (inventory : Inventory σ) : Prop where
  takes : ∀ receipt ∈ receipts, receipt.call.Takes receipt.taken
  counts : ∀ number,
    (inventory.collector number).Counts ((countedBy number receipts).map Receipt.call)
  handed : ∀ number,
    RandomSource.HandsOut (source number) (asked number receipts) (inventory.source number)

/-- An operation whose receipt is added to the books keeps them right. -/
theorem Books.settle {source : ∀ number, σ number} {receipts : List Receipt}
    {inventory next : Inventory σ} {operation : Operation} (books : Books source receipts inventory)
    (settlement : Settlement inventory operation next) :
    Books source (receipts ++ (inventory.receipt? operation).toList) next := by
  cases settlement with
  | idle noReceipt sameSource sameCollector =>
      rw [noReceipt, Option.toList_none, List.append_nil]
      exact ⟨books.takes, sameCollector ▸ books.counts, sameSource ▸ books.handed⟩
  | @called receipt session given effect nextSource nextCollector =>
      rw [given, Option.toList_some]
      refine ⟨?_, ?_, ?_⟩
      · intro other member
        rcases List.mem_append.mp member with old | new
        · exact books.takes other old
        · rw [List.mem_singleton.mp new]
          exact effect.takes
      · intro number
        rw [nextCollector, countedBy_concat, List.map_append]
        by_cases here : receipt.dealer.collector = number
        · subst here
          rw [if_pos rfl, collector_settle, Function.update_self, effect.counted]
          exact (books.counts receipt.dealer.collector).add effect.takes
        · rw [if_neg here, collector_settle, Function.update_of_ne (Ne.symm here), List.map_nil,
            List.append_nil]
          exact books.counts number
      · intro number
        rw [nextSource, asked_concat]
        by_cases here : receipt.dealer.source = number
        · subst here
          rw [if_pos rfl, source_settle, Function.update_self]
          exact (books.handed receipt.dealer.source).append effect.handed
        · rw [if_neg here, source_settle, Function.update_of_ne (Ne.symm here), List.append_nil]
          exact books.handed number

/-- The receipts of a run agree with what the services share. -/
theorem books_performAll (source : ∀ number, σ number) (operations : List Operation) :
    Books source ((opened source fun _ => {}).receipts operations)
      ((opened source fun _ => {}).performAll operations) := by
  induction operations using List.reverseRecOn with
  | nil => exact ⟨by simp [receipts], fun _ => .nil, fun _ => .nil _⟩
  | append_singleton operations operation ih =>
      rw [receipts_concat, performAll_concat]
      exact ih.settle (settlement_perform _ operation)

/-! ## Totals -/

/-- The receipts of shuffles that a draw out of range has ended. -/
def ended (receipts : List Receipt) : List Receipt :=
  receipts.filter (·.call.violation?.isSome)

/-- The draws on receipts are those that are counted and, for each shuffle that was
ended, those it accepted and one more. -/
theorem length_taken {receipts : List Receipt}
    (takes : ∀ receipt ∈ receipts, receipt.call.Takes receipt.taken) :
    (receipts.flatMap Receipt.taken).length =
      Counter.drawsConsumed.total (receipts.map Receipt.call) +
        ((ended receipts).map fun receipt => receipt.accepted + 1).sum := by
  induction receipts with
  | nil => rfl
  | cons receipt receipts ih =>
      obtain ⟨first, others⟩ := List.forall_mem_cons.mp takes
      rw [List.flatMap_cons, List.length_append, ih others, List.map_cons, Counter.total_cons,
        first.length_taken]
      by_cases here : receipt.call.violation?.isSome
      · simp only [ended, List.filter_cons, here, if_true, List.map_cons, List.sum_cons,
          Receipt.accepted]
        omega
      · simp only [ended, List.filter_cons, here, if_false, Bool.false_eq_true]
        omega

/-- Completed shuffles have one item more than draws, except those without items. -/
theorem total_items {receipts : List Receipt}
    (takes : ∀ receipt ∈ receipts, receipt.call.Takes receipt.taken) :
    Counter.itemsShuffled.total (receipts.map Receipt.call) =
      Counter.drawsConsumed.total (receipts.map Receipt.call) +
        ((receipts.map Receipt.call).filterMap Call.outcome?).countP (0 < ·.items) := by
  induction receipts with
  | nil => rfl
  | cons receipt receipts ih =>
      obtain ⟨first, others⟩ := List.forall_mem_cons.mp takes
      have outcomes : (receipt.call :: receipts.map Receipt.call).filterMap Call.outcome? =
          [receipt.call].filterMap Call.outcome? ++
            (receipts.map Receipt.call).filterMap Call.outcome? := by
        rw [← List.filterMap_append, List.singleton_append]
      rw [List.map_cons, Counter.total_cons .itemsShuffled receipt.call, first.total_items,
        ih others, Counter.total_cons .drawsConsumed receipt.call (receipts.map Receipt.call),
        outcomes, List.countP_append]
      omega

/-- The exchanges with all the sources that were drawn from are those on the receipts. -/
theorem sum_length_asked {receipts : List Receipt} {sources : List Nat} (distinct : sources.Nodup)
    (inside : ∀ receipt ∈ receipts, receipt.dealer.source ∈ sources) :
    (sources.map fun number => (asked number receipts).length).sum =
      (receipts.flatMap Receipt.taken).length := by
  have parts := parts_perm (fun receipt : Receipt => receipt.dealer.source) distinct inside
  have whole := (parts.flatMap_right Receipt.taken).length_eq
  rw [List.flatMap_assoc, List.length_flatMap] at whole
  exact whole

/-- A call that reports another error than a draw out of range changes nothing. -/
theorem unchanged_of_failed {inventory next : Inventory σ} {operation : Operation}
    (settlement : Settlement inventory operation next) {receipt : Receipt}
    (given : inventory.receipt? operation = some receipt) {error : ShuffleError}
    (failed : receipt.call.error? = some error)
    (inRange : ∀ violation, error ≠ .drawOutOfRange violation) :
    receipt.taken = [] ∧ next.source = inventory.source ∧
      next.collector = inventory.collector := by
  cases settlement with
  | idle noReceipt => rw [noReceipt] at given; cases given
  | @called found session givenFound effect source collector =>
      obtain rfl : found = receipt := Option.some.inj (givenFound.symm.trans given)
      obtain ⟨handed, takes, counted⟩ := effect
      rw [source, collector, source_settle, collector_settle, counted]
      obtain ⟨dealer, call, taken⟩ := found
      cases takes with
      | completed kept draws all => cases failed
      | @ended nanoseconds violation accepted kept outside =>
          cases failed
          exact absurd rfl (inRange violation)
      | nothing noOutcome noViolation =>
          have noAdditions : call.additions = [] := by
            rcases call with ⟨nanoseconds, other | outcome⟩ | stop | report
            · cases failed
              cases error with
              | drawOutOfRange violation => exact absurd rfl (inRange violation)
              | deck | analysis | settings => rfl
            · cases failed
            · rfl
            · cases failed
          have same : inventory.source dealer.source = session.source := handed.state
          refine ⟨rfl, ?_, ?_⟩
          · rw [← same, Function.update_eq_self]
          · rw [noAdditions]
            exact Function.update_eq_self _ _

/-- Let services of any settings be called, in any number, with collectors that are new
and sources that may answer anything. The counters of each collector tell, as words, the
completed shuffles of its services, the items and the draws of these, the draws out of
range and the completed analyses; and items less draws are the completed shuffles of
decks with a card. Each source has handed out the exchanges on the receipts, in their
order, and no others. When all services count into one collector, the draws handed out by
all the sources are those it has counted and, for each shuffle that was ended, the ones
accepted and one more. A call that fails otherwise changes no counter and takes no draw,
and no analysis draws from the source of its service. -/
theorem run_accounts (source : ∀ number, σ number) (operations : List Operation) :
    let start : Inventory σ := opened source fun _ => {}
    let reached := start.performAll operations
    let receipts := start.receipts operations
    (∀ number,
      let metrics := reached.collector number
      let calls := (countedBy number receipts).map Receipt.call
      metrics.Counts calls ∧
        metrics.itemsShuffled - metrics.drawsConsumed =
          UInt64.ofNat ((calls.filterMap Call.outcome?).countP (0 < ·.items))) ∧
    (∀ number,
      RandomSource.HandsOut (source number) (asked number receipts) (reached.source number)) ∧
    (∀ number, ∀ sources : List Nat, sources.Nodup →
      (∀ receipt ∈ receipts,
        receipt.dealer.collector = number ∧ receipt.dealer.source ∈ sources) →
      UInt64.ofNat (sources.map fun source => (asked source receipts).length).sum =
        (reached.collector number).drawsConsumed +
          UInt64.ofNat ((ended receipts).map fun receipt => receipt.accepted + 1).sum) ∧
    ∀ operation,
      (∀ receipt error, reached.receipt? operation = some receipt →
        receipt.call.error? = some error → (∀ violation, error ≠ .drawOutOfRange violation) →
          receipt.taken = [] ∧ (reached.perform operation).source = reached.source ∧
            (reached.perform operation).collector = reached.collector) ∧
      ∀ dealer analysis, operation = .analyze dealer analysis →
        (reached.perform operation).source = reached.source := by
  intro start reached receipts
  have books : Books source receipts reached := books_performAll source operations
  refine ⟨?_, books.handed, ?_, ?_⟩
  · intro number metrics calls
    have counts : metrics.Counts calls := books.counts number
    have items : Counter.itemsShuffled.total calls = Counter.drawsConsumed.total calls +
        (calls.filterMap Call.outcome?).countP (0 < ·.items) :=
      total_items fun receipt member => books.takes receipt (List.mem_filter.mp member).1
    have itemsRead : metrics.itemsShuffled = UInt64.ofNat (Counter.itemsShuffled.total calls) :=
      counts .itemsShuffled
    have drawsRead : metrics.drawsConsumed = UInt64.ofNat (Counter.drawsConsumed.total calls) :=
      counts .drawsConsumed
    refine ⟨counts, ?_⟩
    rw [itemsRead, drawsRead, items, UInt64.ofNat_add, UInt64.add_comm, UInt64.add_sub_cancel]
  · intro number sources distinct inside
    have all : countedBy number receipts = receipts :=
      List.filter_eq_self.mpr fun receipt member => decide_eq_true (inside receipt member).1
    have drawsRead : (reached.collector number).drawsConsumed =
        UInt64.ofNat (Counter.drawsConsumed.total (receipts.map Receipt.call)) := by
      have counts := books.counts number .drawsConsumed
      rw [all] at counts
      exact counts
    rw [sum_length_asked distinct fun receipt member => (inside receipt member).2,
      length_taken books.takes, drawsRead, UInt64.ofNat_add]
  · intro operation
    refine ⟨?_, ?_⟩
    · intro receipt error given failed inRange
      exact unchanged_of_failed (settlement_perform reached operation) given failed inRange
    · rintro dealer analysis rfl
      exact Function.update_eq_self _ _

/-- A shuffle of three cards, a copy whose shuffle is ended at its first draw, and a deal
of too many cards by another service. -/
theorem run_accounts_two_services :
    let dealer : Dealer := ⟨{}, 0, 0⟩
    let oversized : Dealer := ⟨{ deckSize := 65537 }, 0, 0⟩
    let start : Inventory fun _ => ScriptedSource :=
      opened (fun _ => .start #[0, 1, 9]) fun _ => {}
    let operations : List Operation :=
      [.ofIds [0, 1, 2], .shuffleDeck dealer 5 0, .shuffled dealer 7 0]
    let reached := start.performAll operations
    let receipts := start.receipts operations
    (∀ receipt ∈ receipts, receipt.dealer.collector = 0 ∧ receipt.dealer.source ∈ [0]) ∧
      UInt64.ofNat ([0].map fun source => (asked source receipts).length).sum =
        (reached.collector 0).drawsConsumed +
          UInt64.ofNat ((ended receipts).map fun receipt => receipt.accepted + 1).sum ∧
      (reached.source 0).consumed = 3 ∧ (reached.collector 0).drawsConsumed = 2 ∧
      (ended receipts).length = 1 ∧
      ∃ receipt, reached.receipt? (.deal oversized 0) = some receipt ∧
        receipt.call.error? = some (.deck (.tooLarge 65537)) ∧ receipt.taken = [] ∧
          (reached.perform (.deal oversized 0)).collector = reached.collector := by
  intro dealer oversized start operations reached receipts
  have consumed : (reached.source 0).consumed = 3 := by decide +kernel +revert
  have drawn : (reached.collector 0).drawsConsumed = 2 := by decide +kernel +revert
  have one : (ended receipts).length = 1 := by decide +kernel +revert
  have services : receipts.map (fun receipt =>
      (receipt.dealer.collector, receipt.dealer.source)) = [(0, 0), (0, 0)] := by
    decide +kernel +revert
  have inside : ∀ receipt ∈ receipts,
      receipt.dealer.collector = 0 ∧ receipt.dealer.source ∈ [0] := by
    intro receipt member
    have known := List.mem_map_of_mem
      (f := fun receipt : Receipt => (receipt.dealer.collector, receipt.dealer.source)) member
    rw [services] at known
    simpa using known
  have refused : ∀ inventory : Inventory fun _ => ScriptedSource,
      inventory.receipt? (.deal oversized 0) =
        some ⟨oversized, .shuffle 0 (.error (.deck (.tooLarge 65537))), []⟩ := fun _ => rfl
  obtain ⟨-, -, total, step⟩ := run_accounts (σ := fun _ => ScriptedSource)
    (fun _ => .start #[0, 1, 9]) operations
  have failed := (step (.deal oversized 0)).1 _ _ (refused reached) rfl (by simp)
  have balance := total 0 [0] (by decide) inside
  refine ⟨inside, ?_, consumed, drawn, one, _, refused reached, rfl, failed.1, failed.2.2⟩
  -- The names are unfolded first: unifying them would run the operations.
  simp only [reached, receipts, start]
  exact balance

end Inventory

end CardShuffle
