/-
Answers to requests:

* `Response`: a status, a body and what else an answer may carry;
* the answers that do not depend on a route.
-/
import KnownLogs.Fault
import KnownLogs.Json.Basic
import KnownLogs.Text.Quoted

namespace KnownLogs

/-- The body of an answer. -/
inductive Response.Body where
  | json (v : Json)
  | text (s : String)

/-- An answer to a request. -/
structure Response where
  status : Nat
  body : Response.Body
  /-- Where to look instead. -/
  location : Option String := none
  /-- The methods that are allowed instead. -/
  allow : Option String := none
  /-- The fault that kept an endpoint from answering. -/
  raised : Option Fault := none

namespace Response

/-- An answer with a JSON record. -/
def record (status : Nat) (members : List (String × Json)) : Response :=
  { status, body := .json (.record members) }

/-- The answer to a request for an unknown path. -/
def notFound : Response :=
  record 404 [("detail", .text "Not Found")]

/-- The answer to a request with a method other than those there are. -/
def methodNotAllowed (allowed : List String) : Response :=
  { record 405 [("detail", .text "Method Not Allowed")] with
    allow := some (Text.join ", " allowed) }

/-- The answer where an endpoint ends in a fault. -/
def internalError (f : Fault) : Response :=
  { status := 500, body := .text "Internal Server Error", raised := some f }

/-- The answer that sends a request to another path of the host that it came to. -/
def redirect (host path : String) : Response :=
  { status := 307, body := .text "", location := some (host ++ Text.percentQuoted path) }

end Response

end KnownLogs
