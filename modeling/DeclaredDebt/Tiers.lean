import DeclaredDebt.Bucket

/-!
# Day counts as tiers

A day count below 100 is split into its tens and its ones, each of which has a bucket; zero parts
are left out. A larger count cannot be written with two buckets and is reported as 90 and 9 days.
-/

namespace DeclaredDebt

/-- From here on a cost is reported as the largest pair of buckets. -/
def clampThreshold : Nat := 100

/-- The bucket costs for a day count, the tens first. -/
def costTiers (days : Nat) : List Nat :=
  if clampThreshold ≤ days then [90, 9]
  else [days / 10 * 10, days % 10].filter (0 < ·)

/-- The buckets for a day count, in the order they are reported. -/
def bucketsFor (days : Nat) : Except UnknownBucket (List Bucket) :=
  (costTiers days).mapM Bucket.ofCost

end DeclaredDebt
