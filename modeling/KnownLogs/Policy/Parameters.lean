/-
The parameters of a policy for certificate transparency:

* `Policy.Parameters`: ages, counts and the limit of a short life, nothing checked;
* `Policy`: parameters that a policy can be built from;
* `Policy.build`: the checks, in the order in which they are reported.
-/

namespace KnownLogs

namespace Policy

/-- The parameters of a policy, nothing checked. -/
structure Parameters where
  /-- How many days old a log list may be. -/
  maxAgeDays : Int := 70
  /-- From how many operators the timestamps must come. -/
  minOperators : Int := 2
  /-- How many days a certificate of short life may live. -/
  shortLifeDays : Int := 180
  /-- How many timestamps a certificate of short life needs. -/
  shortLifeCount : Int := 2
  /-- How many timestamps any other certificate needs. -/
  longLifeCount : Int := 3
deriving DecidableEq, Repr

/-- The most days that a length of time may have, in either direction. -/
def mostDays : Int := 999999999

/-- Why no policy can be built from parameters. -/
inductive Problem where
  | ageTooSmall
  | operatorsTooFew
  | lifeTooLong (days : Int)
deriving DecidableEq, Repr

/-- The wording of a refusal. A number of days that needs more than a signed word of
thirty-two bits is refused before it is looked at. -/
def Problem.message : Problem → String
  | .ageTooSmall => "max_log_list_age_days must be >= 1"
  | .operatorsTooFew => "min_distinct_operators must be >= 1"
  | .lifeTooLong days =>
    if -0x80000000 ≤ days ∧ days < 0x80000000 then
      s!"days={days}; must have magnitude <= {mostDays}"
    else "Python int too large to convert to C int"

end Policy

/-- Parameters that a policy can be built from. -/
structure Policy extends Policy.Parameters where
  one_le_maxAgeDays : 1 ≤ maxAgeDays
  one_le_minOperators : 1 ≤ minOperators
  neg_mostDays_le : -Policy.mostDays ≤ shortLifeDays
  le_mostDays : shortLifeDays ≤ Policy.mostDays
deriving DecidableEq

/-- The policy with given parameters. -/
def Policy.build (p : Policy.Parameters) : Except Policy.Problem Policy :=
  if ha : p.maxAgeDays < 1 then .error .ageTooSmall
  else if ho : p.minOperators < 1 then .error .operatorsTooFew
  else if hd : -Policy.mostDays ≤ p.shortLifeDays ∧ p.shortLifeDays ≤ Policy.mostDays then
    .ok
      { p with
        one_le_maxAgeDays := by omega
        one_le_minOperators := by omega
        neg_mostDays_le := hd.1
        le_mostDays := hd.2 }
  else .error (.lifeTooLong p.shortLifeDays)

end KnownLogs
