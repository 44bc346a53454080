import KnowledgeGap.Data.Number
import Mathlib.Data.Rat.Floor

namespace KnowledgeGap

inductive WeaknessMode
  | standard
  | strict
  deriving DecidableEq, Repr

/-- Everything the analysis takes from its deployment: the tunable constants of `config.py`, and the
    two floating-point powers it calls, `math.pow(2.0, x)` and `(1.0 / math.sqrt(n)) ** p`. -/
structure Config (K : Type) where
  pow2 : K → K
  mixPower : Nat → K → K
  minEvidenceCount : Nat
  minEvidence_pos : 1 ≤ minEvidenceCount
  weaknessMode : WeaknessMode
  weaknessP25Margin : K
  forgetPeakThreshold : K
  masteryPriorStrength : K
  evidenceMixPenalty : K
  actionPlanEnable : Bool
  interventionMinDelta : K
  interventionFlatFloor : K
  actionGroupMin : Nat

section
variable {K : Type} [Field K]

def Config.defaults (pow2 : K → K) (mixPower : Nat → K → K) : Config K where
  pow2 := pow2
  mixPower := mixPower
  minEvidenceCount := 2
  minEvidence_pos := by decide
  weaknessMode := .strict
  weaknessP25Margin := ratio 1 10
  forgetPeakThreshold := ratio 7 10
  masteryPriorStrength := 0
  evidenceMixPenalty := 0
  actionPlanEnable := true
  interventionMinDelta := ratio 1 10
  interventionFlatFloor := -ratio 1 20
  actionGroupMin := 3

end

/-- `2 ^ x` at whole exponents, which evidence a whole number of half-lives old needs. -/
def wholePow2 (x : ℚ) : ℚ := 2 ^ ⌊x⌋

def Config.rational : Config ℚ := Config.defaults wholePow2 (fun _ _ => 1)

def evidenceLowWatermark : Nat := 3
def staleDays : Int := 90
def prereqMaxDepth : Nat := 3
def forgetIdleDays : Int := 30
def globalWeakMinSample : Nat := 5
def defaultChoiceOptions : Nat := 4
def actionQueueMax : Nat := 10

section
variable (K : Type) [Field K]

def defaultMasteryFloor : K := ratio 6 10
def classPercentile : K := (25 : Nat)
def classCommonWeakRatio : K := ratio 4 10
def prereqRootThreshold : K := ratio 6 10
def forgetDrop : K := ratio 15 100
def anomalyScoreDrop : K := ratio 3 10
def anomalyWeightFactor : K := ratio 5 10
def globalWeakRatio : K := ratio 6 10
def globalWeakConfCap : K := ratio 5 10
def trajectoryTrendPerMonth : K := ratio 8 100
def trajectoryVolatility : K := ratio 2 10
def cascadeWeightFactor : K := ratio 5 10
def tierDrillCogGap : K := ratio 1 10

end

end KnowledgeGap
