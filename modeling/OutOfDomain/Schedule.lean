/-!
# Schedules

A pool of workers is optional, and this is the library as it is built without one:
`Schedule.hasWorkers` is false, and all items are computed one after the other. What a build with a
pool would do is not described here.

A schedule is therefore no more than a name that a verifier carries. No function of the library
reads a verifier's schedule; `Verifier.accumulate` and all that calls it would be the same if the
field were left out. Where a theorem on verifiers is for all schedules, it holds because nothing
looks at them, and it is no result on schedules.
-/

set_option autoImplicit false

namespace OutOfDomain

/-- How independent items would be computed if there were workers. -/
inductive Schedule where
  | serial
  | parallel
  deriving DecidableEq, Repr

namespace Schedule

/-- The name of a schedule. -/
def name : Schedule → String
  | serial => "Serial"
  | parallel => "Parallel"

/-- Whether there are workers. There are none in this library. -/
def hasWorkers : Bool := false

/-- The schedule of those who do not choose one. -/
def standard : Schedule := if hasWorkers then .parallel else .serial

/-- Whether items are computed at once, which without workers they never are. -/
def isParallel (s : Schedule) : Bool := hasWorkers && s == .parallel

/-- The number of items that are worth handing to a worker, for a given number in all. Without
workers nothing is handed out, and only a caller that asks for the number learns it. -/
def chunkSize (total : UInt64) : UInt64 := min 64 (max total 1)

end Schedule

end OutOfDomain
