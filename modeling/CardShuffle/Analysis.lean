import CardShuffle.Report
import CardShuffle.ShuffleError

/-!
# Analysis of shuffles

An analysis shuffles `0, 1, …, items - 1` many times and counts the orders it
gets. The trials are split into chunks of nearly equal size. Every chunk has a
source of its own, made from a seed that depends on the base seed and the
number of the chunk alone, so the chunks may be run in any order.
-/

namespace CardShuffle.Analysis

universe u

/-- The bijection that spreads a word over all 64 bits. -/
def scramble (word : UInt64) : UInt64 :=
  let word := (word ^^^ (word >>> 30)) * 0xBF58476D1CE4E5B9
  let word := (word ^^^ (word >>> 27)) * 0x94D049BB133111EB
  word ^^^ (word >>> 31)

/-- The seed of a chunk as a word: the base seed moved by a step for each chunk
up to this one, then scrambled. -/
def mixSeed (seed chunk : UInt64) : UInt64 :=
  scramble (seed + (chunk + 1) * 0x9E3779B97F4A7C15)

/-- The seed of a chunk. -/
def chunkSeed (seed chunk : Nat) : Nat :=
  (mixSeed (UInt64.ofNat seed) (UInt64.ofNat chunk)).toNat

/-- How many chunks are run: no more than there are trials. -/
def chunkCount (trials chunks : Nat) : Nat :=
  min chunks trials

/-- How many trials a chunk runs: an equal share, and one of the trials left
over for each of the first chunks. -/
def chunkTrials? (trials count chunk : Nat) : Option Nat :=
  Word.add? (trials / count) (if chunk < trials % count then 1 else 0)

/-- Shuffle and record a number of times, with one source. -/
def repeatTrials {σ : Type u} [RandomSource σ] (variant : Variant) (items : Nat) :
    (remaining : Nat) -> σ -> Histogram -> Except (Stop ShuffleError) Histogram
  | 0, _, histogram => .ok histogram
  | remaining + 1, source, histogram =>
      let (shuffled, source) := (Shuffle.shuffle variant (Array.range items)).run source
      match shuffled.outcome with
      | .error violation => Stop.report (.drawOutOfRange violation)
      | .ok _ =>
          match histogram.record? shuffled.items.toList with
          | none => .error .fault
          | some histogram => repeatTrials variant items remaining source histogram

/-- The histogram of one chunk. -/
def runChunk {σ : Type u} [RandomSource σ] (variant : Variant) (items trials count : Nat)
    (source : σ) (chunk : Nat) : Except (Stop ShuffleError) Histogram := do
  let share ← Stop.require (chunkTrials? trials count chunk)
  repeatTrials variant items share source (.empty items)

/-- Run the chunks of a list and merge their histograms, in the order of the
list. -/
def runChunks {σ : Type u} [RandomSource σ] (variant : Variant) (items trials count : Nat)
    (makeSource : Nat -> σ) : (chunks : List Nat) -> Histogram ->
    Except (Stop ShuffleError) Histogram
  | [], merged => .ok merged
  | chunk :: chunks, merged => do
      let histogram ← runChunk variant items trials count (makeSource chunk) chunk
      let merged ← Stop.require (merged.merge? histogram)
      runChunks variant items trials count makeSource chunks merged

/-- Accept the parameters of an analysis. -/
def check (items trials chunks : Nat) : Except AnalysisFault Unit := do
  checkItems items
  if trials = 0 then
    throw .noTrials
  if chunks = 0 then
    throw .noChunks

/-- The histogram of an analysis whose parameters are accepted. `makeSource`
makes the source of a chunk from the seed of the chunk. -/
def histogram {σ : Type u} [RandomSource σ] (variant : Variant)
    (items trials chunks seed : Nat) (makeSource : Nat -> σ) :
    Except (Stop ShuffleError) Histogram := do
  Stop.lift ((check items trials chunks).mapError .analysis)
  let count := chunkCount trials chunks
  runChunks variant items trials count (fun chunk => makeSource (chunkSeed seed chunk))
    (List.range count) (.empty items)

/-- The report of an analysis, in any numbers. -/
def report {κ : Type} [Measure κ] {σ : Type u} [RandomSource σ] (variant : Variant)
    (items trials chunks seed : Nat) (makeSource : Nat -> σ) :
    Except (Stop ShuffleError) (Report κ) :=
  (histogram variant items trials chunks seed makeSource).map Report.ofHistogram

end CardShuffle.Analysis
