import CardShuffle.Word

/-!
# Metrics

Six counters of a collector that services share. Every counter is a 64-bit word
and wraps around.
-/

namespace CardShuffle

/-- What a collector has counted. -/
structure Metrics where
  /-- Shuffles that were completed. -/
  shufflesPerformed : UInt64 := 0
  /-- Items of those shuffles. -/
  itemsShuffled : UInt64 := 0
  /-- Draws of those shuffles. -/
  drawsConsumed : UInt64 := 0
  /-- Shuffles ended by an answer out of range. -/
  contractViolations : UInt64 := 0
  /-- Analyses that were completed. -/
  analysesRun : UInt64 := 0
  /-- Nanoseconds that completed shuffles took. -/
  shuffleNanoseconds : UInt64 := 0
  deriving Repr, DecidableEq, Inhabited

namespace Metrics

/-- Count a completed shuffle and the nanoseconds it took. -/
def recordShuffle (metrics : Metrics) (items draws nanoseconds : Nat) : Metrics :=
  { metrics with
    shufflesPerformed := metrics.shufflesPerformed + 1
    itemsShuffled := metrics.itemsShuffled + UInt64.ofNat items
    drawsConsumed := metrics.drawsConsumed + UInt64.ofNat draws
    shuffleNanoseconds := metrics.shuffleNanoseconds + UInt64.ofNat nanoseconds }

/-- Count an answer out of range. -/
def recordViolation (metrics : Metrics) : Metrics :=
  { metrics with contractViolations := metrics.contractViolations + 1 }

/-- Count a completed analysis. -/
def recordAnalysis (metrics : Metrics) : Metrics :=
  { metrics with analysesRun := metrics.analysesRun + 1 }

/-- The nanoseconds a completed shuffle took on average, 0 before the first. -/
def averageNanoseconds (metrics : Metrics) : UInt64 :=
  if metrics.shufflesPerformed = 0 then 0
  else metrics.shuffleNanoseconds / metrics.shufflesPerformed

end Metrics

/-- A span of whole seconds and nanoseconds in nanoseconds. Its whole seconds,
those among the nanoseconds included, have to be a word. -/
def Metrics.span? (seconds nanoseconds : Nat) : Option Nat :=
  (Word.add? seconds (nanoseconds / 1000000000)).map fun _ =>
    seconds * 1000000000 + nanoseconds

end CardShuffle
