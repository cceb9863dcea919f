/-
The paths of the service:

* `Route`: the endpoints;
* `Route.ofPath?`: the endpoint of a path;
* `Route.withoutSlashes?`: a path with slashes too many at its end, without them.
-/

namespace KnownLogs

/-- The endpoints of the service. -/
inductive Route where
  | health
  | ready
  | info
  | state
  | logs
  /-- One log, by its id in hexadecimal digits. -/
  | log (hex : String)
  | metrics
  /-- A page that describes the endpoints. -/
  | description (path : String)
deriving DecidableEq, Repr

namespace Route

/-- The paths of the pages that describe the endpoints. -/
def descriptions : List String :=
  ["/openapi.json", "/docs", "/docs/oauth2-redirect", "/redoc"]

/-- The endpoints without a parameter. -/
def plain : List (String × Route) :=
  [("/health", health), ("/ready", ready), ("/info", info), ("/state", state), ("/logs", logs),
   ("/metrics", metrics)] ++ descriptions.map fun path => (path, description path)

/-- The methods of an endpoint. -/
def methods : Route → List String
  | description _ => ["GET", "HEAD"]
  | _ => ["GET"]

/-- The endpoint of one log: its parameter is a single name. -/
def ofLogPath? : List Char → Option Route
  | '/' :: 'l' :: 'o' :: 'g' :: 's' :: '/' :: hex =>
    if hex.isEmpty || hex.contains '/' then none else some (log (String.ofList hex))
  | _ => none

/-- A path without the line break that may end it. -/
def withoutBreak (path : List Char) : List Char :=
  if path.getLast? = some '\n' then path.dropLast else path

/-- The endpoint of a path. -/
def ofPath? (path : String) : Option Route :=
  match plain.find? fun p => p.1 == path || p.1.toList == withoutBreak path.toList with
  | some p => some p.2
  | none => ofLogPath? path.toList

/-- A path that ends with slashes, without them. -/
def withoutSlashes? (path : String) : Option String :=
  if path ≠ "/" ∧ path.toList.getLast? = some '/' then
    some (String.ofList (path.toList.reverse.dropWhile (· == '/')).reverse)
  else none

end Route

end KnownLogs
