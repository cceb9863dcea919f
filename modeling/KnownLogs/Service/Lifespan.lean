/-
The service from its start on:

* `Event.namesItself`: an event's own name is kept under a name of its own, which no
  field may have;
* `Service.start`: the service tells that it starts, with the name of the event given
  twice, and so ends before anything is built;
* `Endpoint.ofRoute`, `Endpoint.guarded`: the endpoint of a route, whose ordinary faults are
  answered as well;
* `Service.respond`: the answer to a request.
-/
import KnownLogs.Call
import KnownLogs.Service.Endpoint

namespace KnownLogs

/-! ### The start -/

/-- Whether a field has the name that the event's own name is kept under. -/
def Event.namesItself (e : Event) : Bool :=
  e.fields.any fun f => f.1 == "event"

/-- Leaves an event, unless it is named twice. -/
def Event.report (e : Event) : Call Unit :=
  if e.namesItself then .fail .namedTwice else .note (.event e)

/-- What the service tells first. -/
def Service.startEvent : Event :=
  { name := "asgi.startup", level := .info, fields := [("event", .text "lifespan_startup")] }

/-- The start of the service: without a report there is no service. -/
def Service.start : Call Service :=
  Service.startEvent.report.bind fun _ => .done { started := true }

/-! ### Requests -/

namespace Endpoint

open Dialogue (done)

/-- The endpoint of a route. -/
def ofRoute (s : Service) (store : Option Installed) (r : Route) : Endpoint :=
  match r, store with
  | .health, _ => health s
  | .ready, _ => ready s store
  | .info, _ => info s
  | .description _, _ => description
  | _, none => done unavailable
  | .state, some store => state store
  | .logs, _ => logs
  | .log hex, _ => log hex
  | .metrics, some store => metrics store

/-- An endpoint whose ordinary faults are answered as well. -/
def guarded (e : Endpoint) : Endpoint :=
  e.attempt.bind fun
    | .ok r => done r
    | .error f => done (.internalError f)

end Endpoint

/-- The answer to a request, which names a method, a path and the host that it came to. A path with
slashes too many at its end is sent to the one without them, on the same host. -/
def Service.respond (s : Service) (store : Option Installed) (method path : String)
    (host : String := "http://testserver") : Endpoint :=
  match Route.ofPath? path with
  | some route =>
    if route.methods.contains method then (Endpoint.ofRoute s store route).guarded
    else .done (.methodNotAllowed route.methods)
  | none =>
    match Route.withoutSlashes? path with
    | some shorter =>
      if (Route.ofPath? shorter).isSome then .done (.redirect host shorter) else .done .notFound
    | none => .done .notFound

end KnownLogs
