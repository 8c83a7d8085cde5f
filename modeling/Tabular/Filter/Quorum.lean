/-!
# Votes

Every part of a rule votes on whether a line is kept. Either one vote against it is enough to drop it,
or it is kept as soon as one vote is for it.

* `Quorum.decide`: the decision of all votes.
* `Quorum.decisions`: the decisions vote by vote.
-/

namespace Tabular

/-- How votes for keeping a line are put together. -/
inductive Quorum where
  /-- All votes have to be for it. -/
  | unanimous
  /-- One vote for it is enough. -/
  | single
deriving DecidableEq

/-- The decision of votes. -/
def Quorum.decide : Quorum → List Bool → Bool
  | unanimous, votes => !votes.contains false
  | single, votes => votes.contains true

/-- The decisions before the first vote and after each. -/
def Quorum.decisions (q : Quorum) (votes : List Bool) : List Bool :=
  (List.range (votes.length + 1)).map fun n => q.decide (votes.take n)

end Tabular
