/-
Judging the signed certificate timestamps of one certificate:

* `Sct`: a timestamp after its signature has been checked;
* `Sct.isCountable`: it is valid and its log was active at that time;
* `Verdict`: what a policy says about the timestamps of a certificate;
* `Policy.classifyGroups`: the verdict on groups of timestamps, one after another;
* `Policy.classify`: the verdict for a certificate of a given lifetime.
-/
import KnownLogs.Log.Entry
import KnownLogs.Policy.Parameters

namespace KnownLogs

/-! ### Timestamps -/

/-- How a timestamp reached the client. -/
inductive SctOrigin where
  | embedded
  | tlsExtension
  | ocspResponse
deriving DecidableEq, Repr

/-- The name of an origin. -/
def SctOrigin.text : SctOrigin → String
  | embedded => "embedded"
  | tlsExtension => "tls_extension"
  | ocspResponse => "ocsp_response"

instance : Enumeration SctOrigin where
  title := "SctOrigin"
  all := [.embedded, .tlsExtension, .ocspResponse]
  text := SctOrigin.text

/-- What checking a timestamp has shown. -/
inductive SctStatus where
  | valid
  | invalidSignature
  | unknownLog
  | invalidSct
deriving DecidableEq, Repr

/-- The name of a status. -/
def SctStatus.text : SctStatus → String
  | valid => "valid"
  | invalidSignature => "invalid_signature"
  | unknownLog => "unknown_log"
  | invalidSct => "invalid_sct"

instance : Enumeration SctStatus where
  title := "SctStatus"
  all := [.valid, .invalidSignature, .unknownLog, .invalidSct]
  text := SctStatus.text

/-- A timestamp after its signature has been checked. -/
structure Sct where
  status : SctStatus
  origin : SctOrigin
  /-- The time that was signed, in milliseconds. -/
  timestamp : Int
  log : Option Entry := none
deriving DecidableEq

namespace Sct

/-- Whether the timestamp is valid and its log known. -/
def isValid (s : Sct) : Bool :=
  s.status == .valid && s.log.isSome

/-- Whether the timestamp is valid and its log was active at that time. -/
def isCountable (s : Sct) : Bool :=
  s.status == .valid && s.log.any fun e => e.isActiveAt s.timestamp

/-- Whether the timestamp came inside the certificate. -/
def isEmbedded (s : Sct) : Bool :=
  s.origin == .embedded

end Sct

/-! ### Verdicts -/

/-- What a policy says about the timestamps of a certificate. -/
inductive Verdict where
  | comply
  | noScts
  | notEnoughScts
  | notEnoughDiverseScts
deriving DecidableEq, Repr

namespace Verdict

/-- The name of a verdict. -/
def text : Verdict → String
  | comply => "COMPLY"
  | noScts => "NO_SCTS_FOUND"
  | notEnoughScts => "NOT_ENOUGH_SCTS"
  | notEnoughDiverseScts => "NOT_ENOUGH_DIVERSE_SCTS"

instance : Enumeration Verdict where
  title := "PolicyCompliance"
  all := [comply, noScts, notEnoughScts, notEnoughDiverseScts]
  text := text

end Verdict

/-! ### Classifying -/

/-- The number of operators whose logs signed the timestamps. -/
def operatorCount (scts : List Sct) : Nat :=
  (scts.filterMap fun s => s.log.map Entry.operator).eraseDups.length

namespace Policy

/-- The number of seconds in a day. -/
def daySeconds : Int := 24 * 60 * 60

/-- How many embedded timestamps a certificate of a given lifetime in seconds needs. -/
def embeddedCount (p : Policy) (lifetime : Int) : Int :=
  if lifetime ≤ p.shortLifeDays * daySeconds then p.shortLifeCount else p.longLifeCount

/-- Whether a group of timestamps comes from as many operators as it has to. -/
def isDiverse (p : Policy) (group : List Sct) : Bool :=
  p.minOperators ≤ operatorCount group

/-- What one more group of timestamps comes to, given how many it needs: the verdict if it is large
enough and diverse, and otherwise whether a group so far was large enough at least. -/
def look (p : Policy) (lacksDiversity : Bool) (group : List Sct × Int) : Except Verdict Bool :=
  if group.1.length < group.2 then .ok lacksDiversity
  else if p.isDiverse group.1 then .error .comply
  else .ok true

/-- The verdict on groups of timestamps, which are looked at one after another until one of them
complies. -/
def classifyGroups (p : Policy) (groups : List (List Sct × Int)) : Verdict :=
  match groups.foldlM p.look false with
  | .error verdict => verdict
  | .ok true => .notEnoughDiverseScts
  | .ok false => .notEnoughScts

/-- The verdict on the timestamps of a certificate of a given lifetime in seconds.
Timestamps inside the certificate and those delivered with it are counted apart. -/
def classify (p : Policy) (lifetime : Int) (scts : List Sct) : Verdict :=
  if scts.isEmpty then .noScts
  else
    let countable := scts.filter Sct.isCountable
    let embedded := countable.filter Sct.isEmbedded
    let delivered := countable.filter fun s => !s.isEmbedded
    p.classifyGroups [(embedded, p.embeddedCount lifetime), (delivered, p.shortLifeCount)]

end Policy

end KnownLogs
