import OutOfDomain.Check.Divisor
import OutOfDomain.Check.Weighing
import OutOfDomain.Residue.Progression

/-!
# Folding the constraints

The transition residues are weighed, added up and divided once. The assertions come after them, each
weighed, divided by its own divisor and added to what is there already.

There are two strategies. The *sequential* one carries a running value through the items in order,
and multiplies back the difference that each quotient has made to it. The *reduction* computes all
items first, multiplies back each quotient on its own, and adds them up as a balanced tree. Addition
does not care, so the two agree on every value. They do not look at an assertion in the same order,
though: the sequential fold weighs the residue before it looks at the divisor, the reduction after.
An assertion with two faults is reported by the one that comes first.
-/

set_option autoImplicit false

namespace OutOfDomain

variable {q : Modulus}

/-- How items are folded. -/
inductive FoldStrategy where
  | sequential
  | reduction
  deriving DecidableEq, Repr, Inhabited

/-- The name of a strategy. -/
def FoldStrategy.name : FoldStrategy → String
  | sequential => "Sequential"
  | reduction => "Reduction"

/-! ## Running values -/

/-- Add a quotient to a running value, and multiply back what it has changed. -/
def absorbQuotient (value product : Residue q) (divisor : BoundaryDivisor q) :
    Except CheckError (Residue q) := do
  let next := value + (← divisor.divide product)
  if (next - value) * divisor.value = product then return next
  else throw (.quotientMismatch divisor.kind)

/-! ## Balanced sums -/

/-- Add up neighbours; a last one without a neighbour stays. -/
def pairUp : List (Residue q) → List (Residue q)
  | a :: b :: rest => (a + b) :: pairUp rest
  | rest => rest

theorem length_pairUp_le (terms : List (Residue q)) : (pairUp terms).length ≤ terms.length := by
  fun_induction pairUp terms with
  | case1 a b rest ih => simp only [List.length_cons]; omega
  | case2 rest _ => exact Nat.le_refl _

/-- Add up neighbours until one is left. -/
def pairwiseSum : List (Residue q) → Residue q
  | [] => 0
  | [a] => a
  | a :: b :: rest => pairwiseSum ((a + b) :: pairUp rest)
termination_by terms => terms.length
decreasing_by
  have := length_pairUp_le rest
  simp only [List.length_cons]; omega

/-! ## The two folds -/

/-- Compare a size with the expected one. -/
def expectSize (what : Part) (expected actual : Nat) : Except CheckError Unit :=
  if expected = actual then .ok () else .error (.shapeMismatch what expected actual)

/-- Weigh, add up and divide the transition residues. -/
def foldTransitions (p : Parameters) (z : Residue q) (weights : List (Weight q))
    (evaluation : TransitionEvaluation q) (divisor : TransitionDivisor q)
    (strategy : FoldStrategy) : Except CheckError (Residue q) := do
  let count := evaluation.residues.length
  expectSize .transitionWeights count weights.length
  expectSize .transitionDegrees count evaluation.degrees.length
  let items := (weights.zip (evaluation.residues.zip evaluation.degrees)).zipIdx
  let term : (Weight q × Residue q × UInt64) × Nat → Except CheckError (Residue q) :=
    fun ((weight, residue, degree), column) => p.transitionTerm z column weight residue degree
  match strategy with
  | .sequential => divisor.divide (← items.foldlM (fun value item => (value + ·) <$> term item) 0)
  | .reduction => divisor.divide (pairwiseSum (← items.mapM term))

/-- Weigh, divide and add up the assertions, from a value that is there already. -/
def foldBoundaries (p : Parameters) (z generator : Residue q) (weights : List (Weight q))
    (evaluation : BoundaryEvaluation q) (seed : Residue q) (strategy : FoldStrategy) :
    Except CheckError (Residue q) := do
  expectSize .boundaryWeights evaluation.assertions.length weights.length
  let items := (weights.zip evaluation.assertions).zipIdx
  let product : (Weight q × AssertionEvaluation q) × Nat → Except CheckError (Residue q) :=
    fun ((weight, evaluated), assertion) => p.boundaryTerm z assertion weight evaluated
  let pole : (Weight q × AssertionEvaluation q) × Nat → Except CheckError (BoundaryDivisor q) :=
    fun ((_, evaluated), assertion) =>
      BoundaryDivisor.singlePole z generator assertion evaluated.step p
  match strategy with
  | .sequential =>
    items.foldlM (fun value item => do absorbQuotient value (← product item) (← pole item)) seed
  | .reduction =>
    let quotients ← items.mapM fun item => do
      let divisor ← pole item
      let product ← product item
      let quotient ← divisor.divide product
      if quotient * divisor.value = product then return quotient
      else throw (.quotientMismatch divisor.kind)
    return seed + pairwiseSum quotients

end OutOfDomain
