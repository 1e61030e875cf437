import CardShuffle.Proofs.Calls
import CardShuffle.Proofs.Protocol
import Mathlib.Data.Set.List

/-!
# Shuffles in turns

Any number of shuffles, each of its own deck, draw from one source and count into one
collector. One step is a single draw or a single addition to a counter; which shuffle
makes the next one is left open. `Step` is this relation on the `Floor`, where all the
shuffles are under way, and `Steps` any interleaving of them.

What each shuffle has taken leads from its start to where it stands (`Task.Reached`),
and together they have taken what the source has handed out. `Steps.progress` keeps
this from step to step. A shuffle that has ended did what the service does alone with a
script of the answers it got (`Task.Reached.ended`), so whatever holds of shuffles with
any source holds of those that take turns.
-/

namespace CardShuffle

universe u v

/-! ## Computations under way -/

namespace Drawing

/-- After some exchanges a computation goes on as another one. -/
inductive Follows {α : Type u} : Drawing α -> List Exchange -> Drawing α -> Prop where
  | here {drawing : Drawing α} : Follows drawing [] drawing
  | ask {bound : Nat} {next : Nat -> Drawing α} {answer : Nat} {taken : List Exchange}
      {rest : Drawing α} (follows : Follows (next answer) taken rest) :
      Follows (.ask bound next) (⟨bound, answer⟩ :: taken) rest

variable {α : Type u}

/-- The request that comes next may be answered by any number. -/
theorem Follows.concat {drawing : Drawing α} {taken : List Exchange} {bound : Nat}
    {next : Nat -> Drawing α} (follows : drawing.Follows taken (.ask bound next))
    (answer : Nat) : drawing.Follows (taken ++ [⟨bound, answer⟩]) (next answer) := by
  generalize waiting : Drawing.ask bound next = rest at follows
  induction follows with
  | here =>
      cases waiting
      exact .ask .here
  | ask _ ih => exact .ask (ih waiting)

/-- A computation that has come to its end did what it does alone with any source that
hands out the same exchanges. -/
theorem Follows.run_eq {σ : Type v} [RandomSource σ] {drawing : Drawing α}
    {taken : List Exchange} {value : α} (follows : drawing.Follows taken (.done value))
    {state left : σ} (handed : RandomSource.HandsOut state taken left) :
    drawing.run state = (value, left) ∧ drawing.transcript state = taken := by
  generalize finished : Drawing.done value = rest at follows
  induction follows generalizing state with
  | here =>
      cases finished
      obtain rfl : state = left := handed.state
      exact ⟨rfl, rfl⟩
  | ask _ ih =>
      obtain ⟨answer, others⟩ := RandomSource.handsOut_cons_iff.mp handed
      dsimp only at answer others
      rw [run_ask, transcript_ask, answer]
      obtain ⟨result, transcript⟩ := ih others finished
      exact ⟨result, by rw [transcript]⟩

end Drawing

/-- A script of the answers of some exchanges hands them out. -/
theorem ScriptedSource.handsOut_start (exchanges : List Exchange) :
    ∃ left, RandomSource.HandsOut (start (exchanges.map Exchange.answer).toArray) exchanges
      left := by
  refine ⟨_, ?_, rfl⟩
  rw [answerAll_start (by simp), Exchange.pair_map]

/-! ## Jobs and tasks -/

/-- A deck that is to be shuffled under settings, and the time that the caller's clock
will give to it. -/
structure Job where
  settings : Settings
  deck : Deck
  nanoseconds : Nat

/-- How far a job has come. -/
inductive Task where
  /-- The shuffle waits for a draw. -/
  | asking (bound : Nat) (next : Nat -> Drawing (Shuffled Card))
  /-- The shuffle has ended, and some additions are still to be made. -/
  | counting (left : Shuffled Card) (pending : List Addition)

namespace Job

/-- The shuffle of a job. -/
def drawing (job : Job) : Drawing (Shuffled Card) :=
  Shuffle.shuffle job.settings.variant job.deck.cards

/-- The call of a job whose shuffle has left something behind. -/
def call (job : Job) (left : Shuffled Card) : Call :=
  .ofShuffled job.settings.variant job.deck.size job.nanoseconds left

/-- The task that goes on with a shuffle, up to its next draw or addition. -/
def resume (job : Job) : Drawing (Shuffled Card) -> Task
  | .done left => .counting left (job.call left).additions
  | .ask bound next => .asking bound next

end Job

/-- Where a task stands that has taken some exchanges and made some additions. -/
inductive Task.Reached (job : Job) (taken : List Exchange) (added : List Addition) :
    Task -> Prop where
  | asking {bound : Nat} {next : Nat -> Drawing (Shuffled Card)}
      (follows : job.drawing.Follows taken (.ask bound next)) (nothing : added = []) :
      Reached job taken added (.asking bound next)
  | counting {left : Shuffled Card} {pending : List Addition}
      (follows : job.drawing.Follows taken (.done left))
      (split : (job.call left).additions = added ++ pending) :
      Reached job taken added (.counting left pending)

/-- A task goes on from where its shuffle stands. -/
theorem Job.reached_resume {job : Job} {taken : List Exchange} {rest : Drawing (Shuffled Card)}
    (follows : job.drawing.Follows taken rest) : Task.Reached job taken [] (job.resume rest) := by
  cases rest with
  | done left => exact .counting follows rfl
  | ask bound next => exact .asking follows rfl

/-- What the service does for a job alone, with a new collector and a script of the answers
of some exchanges. -/
def Job.alone (job : Job) (taken : List Exchange) :
    (Except ShuffleError Outcome × Deck) × Session ScriptedSource :=
  Service.shuffleDeck job.settings job.nanoseconds job.deck
    ⟨.start (taken.map Exchange.answer).toArray, {}⟩

/-- A job has left something behind as the service does alone: with the same answer to
the caller, the same deck and the same counts. -/
structure Job.AsAlone (job : Job) (taken : List Exchange) (left : Shuffled Card) : Prop where
  answer : job.call left = .shuffle job.nanoseconds (job.alone taken).1.1
  deck : (job.alone taken).1.2 = ⟨left.items⟩
  counted : (job.alone taken).2.metrics = ({} : Metrics).addAll (job.call left).additions

/-- A shuffle that has ended did what the service does alone with the answers it got: it
left its deck with the cards the deck had, and it took what its call takes. -/
theorem Task.Reached.ended {job : Job} {taken : List Exchange} {added pending : List Addition}
    {left : Shuffled Card} (reached : Task.Reached job taken added (.counting left pending)) :
    job.AsAlone taken left ∧ left.items.Perm job.deck.cards ∧ (job.call left).Takes taken ∧
      (job.call left).additions = added ++ pending := by
  cases reached with
  | counting follows split =>
      let script : ScriptedSource := .start (taken.map Exchange.answer).toArray
      obtain ⟨_, handed⟩ : ∃ after, RandomSource.HandsOut script taken after :=
        ScriptedSource.handsOut_start taken
      obtain ⟨result, transcript⟩ := follows.run_eq handed
      have alone : (job.drawing.run script).1 = left := congrArg Prod.fst result
      have same : (job.drawing.run script).1.items.Perm job.deck.cards :=
        Shuffle.perm_shuffle _ _ script
      have takes : (job.call (job.drawing.run script).1).Takes (job.drawing.transcript script) :=
        Call.takes_of_run _ _ _ script
      obtain ⟨answer, deck, -, counted⟩ :=
        Service.shuffleDeck_eq job.settings job.nanoseconds job.deck ⟨script, {}⟩
      rw [← Job.drawing, alone] at answer deck counted
      rw [alone] at same takes
      rw [transcript] at takes
      exact ⟨⟨answer, deck, counted⟩, same, takes, split⟩

/-! ## Steps -/

/-- The jobs under way, with the source they draw from and the collector they count
into. -/
structure Floor (σ : Type v) where
  source : σ
  metrics : Metrics
  tasks : List Task

/-- One step of one of the jobs, known by its number. -/
inductive Event where
  | draw (number : Nat) (exchange : Exchange)
  | add (number : Nat) (addition : Addition)

namespace Event

/-- The job that makes the step. -/
def number : Event -> Nat
  | draw number _ => number
  | add number _ => number

def exchange? : Event -> Option Exchange
  | draw _ exchange => some exchange
  | add _ _ => none

def addition? : Event -> Option Addition
  | draw _ _ => none
  | add _ addition => some addition

/-- All draws of a history. -/
def draws (events : List Event) : List Exchange := events.filterMap exchange?

/-- All additions of a history. -/
def additions (events : List Event) : List Addition := events.filterMap addition?

/-- The steps of one job. -/
def ofJob (number : Nat) (events : List Event) : List Event :=
  events.filter (·.number = number)

/-- One more step is one of its own job and of no other. -/
theorem ofJob_concat (number : Nat) (events : List Event) (event : Event) :
    ofJob number (events ++ [event]) =
      ofJob number events ++ if event.number = number then [event] else [] := by
  by_cases own : event.number = number <;> simp [ofJob, own]

theorem draws_concat (events : List Event) (event : Event) :
    draws (events ++ [event]) = draws events ++ event.exchange?.toList := by
  cases event <;> simp [draws, exchange?]

theorem additions_concat (events : List Event) (event : Event) :
    additions (events ++ [event]) = additions events ++ event.addition?.toList := by
  cases event <;> simp [additions, addition?]

/-- The steps of all jobs, one job after another, are the steps of the history. -/
theorem ofJob_perm {events : List Event} {count : Nat}
    (inside : ∀ event ∈ events, event.number < count) :
    ((List.range count).flatMap (ofJob · events)).Perm events :=
  parts_perm number List.nodup_range fun event member => List.mem_range.mpr (inside event member)

end Event

section

variable {σ : Type v} [RandomSource σ]

/-- All jobs before their first step, with a new collector. -/
def Floor.opened (source : σ) (jobs : List Job) : Floor σ :=
  ⟨source, {}, jobs.map fun job => job.resume job.drawing⟩

/-- One of the jobs makes one step. -/
inductive Step (jobs : List Job) (floor : Floor σ) : Event -> Floor σ -> Prop where
  /-- It takes a draw and goes on with the answer. -/
  | draw (number : Nat) {bound : Nat} {job : Job} {next : Nat -> Drawing (Shuffled Card)}
      (known : jobs[number]? = some job)
      (waiting : floor.tasks[number]? = some (.asking bound next)) :
      Step jobs floor (.draw number ⟨bound, (RandomSource.draw floor.source bound).1⟩)
        ⟨(RandomSource.draw floor.source bound).2, floor.metrics,
          floor.tasks.set number (job.resume (next (RandomSource.draw floor.source bound).1))⟩
  /-- It makes its next addition. -/
  | add (number : Nat) {left : Shuffled Card} {addition : Addition} {pending : List Addition}
      (waiting : floor.tasks[number]? = some (.counting left (addition :: pending))) :
      Step jobs floor (.add number addition)
        ⟨floor.source, floor.metrics.add addition,
          floor.tasks.set number (.counting left pending)⟩

/-- Steps of the jobs in any order, with their history. -/
inductive Steps (jobs : List Job) (start : Floor σ) : List Event -> Floor σ -> Prop where
  | refl : Steps jobs start [] start
  | step {events : List Event} {floor next : Floor σ} {event : Event}
      (earlier : Steps jobs start events floor) (last : Step jobs floor event next) :
      Steps jobs start (events ++ [event]) next

/-- The floor is where the history leads: the source has handed out the draws, the
collector holds the additions, and every job stands where its own steps lead. -/
structure Progress (jobs : List Job) (source : σ) (events : List Event) (floor : Floor σ) :
    Prop where
  handed : RandomSource.HandsOut source (Event.draws events) floor.source
  counted : floor.metrics = ({} : Metrics).addAll (Event.additions events)
  length : floor.tasks.length = jobs.length
  inside : ∀ event ∈ events, event.number < jobs.length
  reached : ∀ {number : Nat} {job : Job} {task : Task}, jobs[number]? = some job →
    floor.tasks[number]? = some task →
      task.Reached job (Event.draws (Event.ofJob number events))
        (Event.additions (Event.ofJob number events))

/-- Before the first step, every job stands at its start. -/
theorem Progress.opened (jobs : List Job) (source : σ) :
    Progress jobs source [] (Floor.opened source jobs) where
  handed := .nil source
  counted := rfl
  length := List.length_map _
  inside := by simp
  reached := by
    intro number job task known found
    rw [Floor.opened, List.getElem?_map, known] at found
    cases found
    exact Job.reached_resume .here

/-- A step of one job leaves the others where they stand. -/
theorem Progress.reached_concat {jobs : List Job} {source : σ} {events : List Event}
    {floor : Floor σ} (progress : Progress jobs source events floor) (event : Event) {task : Task}
    (moved : ∀ job, jobs[event.number]? = some job →
      task.Reached job (Event.draws (Event.ofJob event.number events ++ [event]))
        (Event.additions (Event.ofJob event.number events ++ [event])))
    {number : Nat} {job : Job} {stands : Task} (known : jobs[number]? = some job)
    (found : (floor.tasks.set event.number task)[number]? = some stands) :
    stands.Reached job (Event.draws (Event.ofJob number (events ++ [event])))
      (Event.additions (Event.ofJob number (events ++ [event]))) := by
  rw [Event.ofJob_concat]
  by_cases own : event.number = number
  · subst own
    have present : event.number < floor.tasks.length := by
      rw [progress.length]
      exact (List.getElem?_eq_some_iff.mp known).1
    rw [List.getElem?_set_self present] at found
    obtain rfl : task = stands := Option.some.inj found
    rw [if_pos rfl]
    exact moved job known
  · rw [List.getElem?_set_ne own] at found
    rw [if_neg own, List.append_nil]
    exact progress.reached known found

/-- A step leads on as its event says. -/
theorem Progress.step {jobs : List Job} {source : σ} {events : List Event} {event : Event}
    {floor next : Floor σ} (progress : Progress jobs source events floor)
    (last : Step jobs floor event next) : Progress jobs source (events ++ [event]) next := by
  have length : ∀ number task, (floor.tasks.set number task).length = jobs.length := by
    intro number task
    rw [List.length_set, progress.length]
  have present : ∀ {number task}, floor.tasks[number]? = some task → number < jobs.length := by
    intro number task found
    rw [← progress.length]
    exact (List.getElem?_eq_some_iff.mp found).1
  cases last with
  | @draw number bound job after known waiting =>
      refine ⟨?_, ?_, length _ _, ?_, fun known' => progress.reached_concat (.draw ..) ?_ known'⟩
      · rw [Event.draws_concat]
        exact progress.handed.append (RandomSource.handsOut_draw _ _)
      · rw [Event.additions_concat]
        exact progress.counted.trans (congrArg _ (List.append_nil _).symm)
      · simpa [or_imp, forall_and, Event.number] using ⟨progress.inside, present waiting⟩
      · intro found same
        obtain rfl : job = found := Option.some.inj (known.symm.trans same)
        rw [Event.draws_concat, Event.additions_concat]
        cases progress.reached known waiting with
        | asking follows nothing =>
            have moved := Job.reached_resume
              (follows.concat (RandomSource.draw floor.source bound).1)
            simpa [Event.number, Event.exchange?, Event.addition?, nothing] using moved
  | @add number left addition pending waiting =>
      refine ⟨?_, ?_, length _ _, ?_, fun known => progress.reached_concat (.add ..) ?_ known⟩
      · rw [Event.draws_concat]
        exact progress.handed.append (.nil _)
      · rw [Event.additions_concat, Metrics.addAll_append, ← progress.counted]
        rfl
      · simpa [or_imp, forall_and, Event.number] using ⟨progress.inside, present waiting⟩
      · intro job known
        rw [Event.draws_concat, Event.additions_concat]
        cases progress.reached known waiting with
        | counting follows split =>
            refine .counting ?_ ?_
            · simpa [Event.exchange?] using follows
            · simpa [Event.addition?] using split

/-- Whatever the order of the steps, the floor is where they lead. -/
theorem Steps.progress {jobs : List Job} {source : σ} {events : List Event} {floor : Floor σ}
    (steps : Steps jobs (Floor.opened source jobs) events floor) :
    Progress jobs source events floor := by
  induction steps with
  | refl => exact .opened jobs source
  | step earlier last ih => exact ih.step last

/-! ## Totals -/

/-- The draws of the jobs are together the draws of the history. -/
theorem Progress.sum_length_draws {jobs : List Job} {source : σ} {events : List Event}
    {floor : Floor σ} (progress : Progress jobs source events floor) :
    ((List.range jobs.length).map fun number =>
      (Event.draws (Event.ofJob number events)).length).sum = (Event.draws events).length := by
  have parts := (Event.ofJob_perm progress.inside).filterMap Event.exchange?
  rw [List.filterMap_flatMap] at parts
  simpa [List.length_flatMap, Event.draws] using parts.length_eq

/-- When all jobs have ended and made their additions, each has taken and added what its
call takes and adds. -/
theorem Progress.finished {jobs : List Job} {source : σ} {events : List Event} {floor : Floor σ}
    (progress : Progress jobs source events floor) {lefts : List (Shuffled Card)}
    (done : floor.tasks = lefts.map (Task.counting · [])) {number : Nat}
    (inside : number < (List.zipWith Job.call jobs lefts).length) :
    (List.zipWith Job.call jobs lefts)[number].Takes
        (Event.draws (Event.ofJob number events)) ∧
      (List.zipWith Job.call jobs lefts)[number].additions =
        Event.additions (Event.ofJob number events) := by
  obtain ⟨inJobs, inLefts⟩ := Nat.lt_min.mp (List.length_zipWith ▸ inside)
  have stands : floor.tasks[number]? = some (.counting lefts[number] []) := by
    simp [done, inLefts]
  obtain ⟨-, -, takes, split⟩ :=
    (progress.reached (List.getElem?_eq_getElem inJobs) stands).ended
  rw [List.append_nil] at split
  rw [List.getElem_zipWith]
  exact ⟨takes, split⟩

/-- The additions of the history are then those for the calls. -/
theorem Progress.additions_perm {jobs : List Job} {source : σ} {events : List Event}
    {floor : Floor σ} (progress : Progress jobs source events floor)
    {lefts : List (Shuffled Card)} (done : floor.tasks = lefts.map (Task.counting · [])) :
    (Event.additions events).Perm ((List.zipWith Job.call jobs lefts).flatMap Call.additions) := by
  have lengths : lefts.length = jobs.length := by
    rw [← progress.length, done, List.length_map]
  have own : (List.range jobs.length).map
      (fun number => Event.additions (Event.ofJob number events)) =
        (List.zipWith Job.call jobs lefts).map Call.additions := by
    apply List.ext_getElem
    · simp [lengths]
    · intro number inRange inCalls
      rw [List.getElem_map, List.getElem_map, List.getElem_range]
      exact (progress.finished done _).2.symm
  have parts := (Event.ofJob_perm progress.inside).filterMap Event.addition?
  rw [List.filterMap_flatMap] at parts
  rw [List.flatMap_def, ← own, ← List.flatMap_def]
  exact parts.symm

/-- The collector then counts the calls, whatever the order of the steps was. -/
theorem Progress.counts {jobs : List Job} {source : σ} {events : List Event} {floor : Floor σ}
    (progress : Progress jobs source events floor) {lefts : List (Shuffled Card)}
    (done : floor.tasks = lefts.map (Task.counting · [])) :
    floor.metrics.Counts (List.zipWith Job.call jobs lefts) := by
  rw [progress.counted, Metrics.addAll_perm _ (progress.additions_perm done)]
  apply Metrics.counts_flatMap
  intro call member
  obtain ⟨number, inside, rfl⟩ := List.getElem_of_mem member
  exact ⟨_, (progress.finished done inside).1⟩

/-- A job that has not ended, or has an addition to make, can make a step. -/
theorem Progress.finished_or_step {jobs : List Job} {source : σ} {events : List Event}
    {floor : Floor σ} (progress : Progress jobs source events floor) :
    (∃ lefts : List (Shuffled Card), floor.tasks = lefts.map (Task.counting · [])) ∨
      ∃ event next, Step jobs floor event next := by
  by_cases stuck : ∀ task ∈ floor.tasks, ∃ left, task = .counting left []
  · have finished : floor.tasks ∈ Set.range (List.map (Task.counting · [])) := by
      rw [Set.range_list_map]
      intro task member
      obtain ⟨left, same⟩ := stuck task member
      exact ⟨left, same.symm⟩
    obtain ⟨lefts, same⟩ := finished
    exact .inl ⟨lefts, same.symm⟩
  · simp only [not_forall, not_exists] at stuck
    obtain ⟨task, member, unfinished⟩ := stuck
    obtain ⟨number, inTasks, rfl⟩ := List.getElem_of_mem member
    have waiting : floor.tasks[number]? = some floor.tasks[number] :=
      List.getElem?_eq_getElem inTasks
    right
    cases stands : floor.tasks[number] with
    | asking bound next =>
        have known := List.getElem?_eq_getElem (progress.length ▸ inTasks)
        exact ⟨_, _, .draw number known (stands ▸ waiting)⟩
    | counting left pending =>
        cases pending with
        | nil => exact absurd stands (unfinished left)
        | cons addition pending => exact ⟨_, _, .add number (stands ▸ waiting)⟩

end

/-- Shuffles in any number, each of its own deck and with its own form, take turns at one
script and one collector. Whatever the order of their steps, each stands where the draws
it took itself lead it. One that has ended answers what the service answers alone with
the same draws. It has left its deck with the cards it had, also when a draw out of range
ended it, and has taken what its result says: as many draws as it reports, or those it
accepted and the one that ended it. The draws were answered by
one place of the script after another, from its start and around; their bounds were
remembered, and their number is the sum of those of the shuffles. When all have ended,
the counters tell what the completed and the ended shuffles sum up to, and until then one
of them can make a step. -/
theorem Steps.shared_script {jobs : List Job} {script : Array Nat} {events : List Event}
    {floor : Floor ScriptedSource}
    (steps : Steps jobs (Floor.opened (.start script) jobs) events floor) :
    floor.tasks.length = jobs.length ∧
      (∀ number job task, jobs[number]? = some job → floor.tasks[number]? = some task →
        let taken := Event.draws (Event.ofJob number events)
        task.Reached job taken (Event.additions (Event.ofJob number events)) ∧
          ∀ left pending, task = .counting left pending →
            job.AsAlone taken left ∧ left.items.Perm job.deck.cards ∧
              (job.call left).Takes taken) ∧
      (∀ index exchange, (Event.draws events)[index]? = some exchange →
        script[index % script.size]? = some exchange.answer ∨
          script = #[] ∧ exchange.answer = 0) ∧
      floor.source.script = script ∧
      floor.source.bounds.toList = (Event.draws events).map Exchange.bound ∧
      floor.source.consumed = floor.source.bounds.size ∧
      floor.source.consumed = ((List.range jobs.length).map fun number =>
        (Event.draws (Event.ofJob number events)).length).sum ∧
      (∀ lefts, floor.tasks = lefts.map (Task.counting · []) →
        floor.metrics.Counts (List.zipWith Job.call jobs lefts)) ∧
      ((∃ lefts : List (Shuffled Card), floor.tasks = lefts.map (Task.counting · [])) ∨
        ∃ event next, Step jobs floor event next) := by
  have progress := steps.progress
  obtain ⟨same, consumed, bounds, answers⟩ := ScriptedSource.spec_of_handsOut progress.handed
  rw [show (ScriptedSource.start script).consumed = 0 from rfl, Nat.zero_add] at consumed
  rw [show (ScriptedSource.start script).bounds.toList = [] from rfl, List.nil_append] at bounds
  refine ⟨progress.length, ?_, ?_, same, bounds, ?_, ?_, fun lefts => progress.counts,
    progress.finished_or_step⟩
  · intro number job task known found
    have reached := progress.reached known found
    refine ⟨reached, ?_⟩
    rintro left pending rfl
    obtain ⟨alone, kept, takes, -⟩ := reached.ended
    exact ⟨alone, kept, takes⟩
  · intro index exchange found
    have answer := answers index exchange found
    rw [show (ScriptedSource.start script).consumed = 0 from rfl, Nat.zero_add] at answer
    exact ScriptedSource.place_of_answer answer
  · rw [consumed, ← Array.length_toList, bounds, List.length_map]
  · rw [consumed, progress.sum_length_draws]

/-- Two shuffles of three cards, in place and inside out. The first draw of the second one
is out of range and falls between the two draws of the first one. -/
theorem Steps.shared_script_two_jobs :
    let deck : Deck := ⟨#[⟨0⟩, ⟨1⟩, ⟨2⟩]⟩
    let jobs : List Job := [⟨{}, deck, 5⟩, ⟨{ variant := .insideOut }, deck, 7⟩]
    let lefts : List (Shuffled Card) :=
      [⟨#[⟨2⟩, ⟨0⟩, ⟨1⟩], .ok 2⟩, ⟨deck.cards, .error ⟨9, 2⟩⟩]
    let draws : List Event := [.draw 0 ⟨3, 1⟩, .draw 1 ⟨2, 9⟩, .draw 0 ⟨2, 0⟩]
    let additions : List Event := [.add 0 ⟨.shufflesPerformed, 1⟩, .add 0 ⟨.itemsShuffled, 3⟩,
      .add 1 ⟨.contractViolations, 1⟩, .add 0 ⟨.drawsConsumed, 2⟩, .add 0 ⟨.shuffleNanoseconds, 5⟩]
    let start : Floor ScriptedSource := .opened (.start #[1, 9, 0, 4]) jobs
    ∃ floor : Floor ScriptedSource,
      Steps jobs start (draws ++ additions) floor ∧
        floor.tasks = lefts.map (Task.counting · []) ∧ floor.source.consumed = 3 ∧
        floor.source.bounds.toList = [3, 2, 2] ∧
        floor.metrics.Counts (List.zipWith Job.call jobs lefts) ∧
        floor.metrics.contractViolations = 1 ∧ floor.metrics.drawsConsumed = 2 := by
  intro deck jobs lefts draws additions start
  let floor : Floor ScriptedSource :=
    ⟨⟨#[1, 9, 0, 4], 3, #[3, 2, 2]⟩,
      { shufflesPerformed := 1, itemsShuffled := 3, drawsConsumed := 2, contractViolations := 1,
        shuffleNanoseconds := 5 }, lefts.map (Task.counting · [])⟩
  have steps : Steps jobs start (draws ++ additions) floor := by
    have first := Steps.refl.step (.draw 0 rfl rfl : Step jobs start _ _)
    have second := first.step (.draw 1 rfl rfl)
    have third := second.step (.draw 0 rfl rfl)
    have fourth := third.step (.add 0 rfl)
    have fifth := fourth.step (.add 0 rfl)
    have sixth := fifth.step (.add 1 rfl)
    have seventh := sixth.step (.add 0 rfl)
    exact seventh.step (.add 0 rfl)
  obtain ⟨-, -, -, -, bounds, -, -, counts, -⟩ := steps.shared_script
  exact ⟨floor, steps, rfl, rfl, bounds, counts lefts rfl, rfl, rfl⟩

end CardShuffle
