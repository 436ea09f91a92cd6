import PrefixRouter.Router.Basic
import PrefixRouter.Path.Clean

/-!
Serving a request, in this order: a route for the method (or `GET` for `HEAD`), a trailing-slash
redirect, the automatic answer to `OPTIONS`, `405` with the allowed methods, and `404`. The router
routes the path of the URI, cleaned first when `cleanPath` is on.
-/

namespace PrefixRouter

inductive Redirect where
  | movedPermanently
  | permanentRedirect
  deriving DecidableEq, Repr

def Redirect.status : Redirect → Nat
  | .movedPermanently => 301
  | .permanentRedirect => 308

inductive Response (α : Type) where
  | handled (handler : α) (params : Option PathParams)
  | redirect (kind : Redirect) (location : String)
  | options (allow : List Method)
  | methodNotAllowed (allow : List Method)
  | notFound
  deriving Repr

def allowHeader (ms : List Method) : String :=
  ", ".intercalate (ms.map Method.name)

namespace Router

variable {α : Type}

def alternate (path : String) : String :=
  let cs := path.toList
  if cs.getLast? == some '/' then String.ofList cs.dropLast else path ++ "/"

def routedPath (r : Router α) (uriPath : String) : String :=
  if r.config.cleanPath then Path.clean uriPath else uriPath

/-- The answer when no route and no redirect applies: allowed methods for `OPTIONS` or a
refused method, else not found. -/
def fallback (r : Router α) (m : Method) (path : String) : Response α :=
  let missing : Response α :=
    match r.notFound with
    | some h => .handled h none
    | none => .notFound
  if m == .options && r.config.handleOptions then
    let allow := r.allowed path
    if allow.isEmpty then missing
    else
      match r.globalOptions with
      | some h => .handled h none
      | none => .options allow
  else if r.config.handleMethodNotAllowed then
    let allow := r.allowed path
    if allow.isEmpty then missing
    else
      match r.methodNotAllowed with
      | some h => .handled h none
      | none => .methodNotAllowed allow
  else missing

def redirectFor? (r : Router α) (m : Method) (path : String) : Option (Response α) :=
  if m != .connect && path != "/" && r.config.redirectTrailingSlash then
    let alt := alternate path
    if r.contains m alt then
      some (.redirect (if m == .get then .movedPermanently else .permanentRedirect) alt)
    else none
  else none

/-- Answers a request; the buffer a match took is back in the pool afterwards. -/
def serve (r : Router α) (m : Method) (uriPath : String) : Response α × Router α :=
  let path := r.routedPath uriPath
  match r.lookup m path with
  | (some found, r') => (.handled found.value (some found.params.toOwned), r'.release found)
  | (none, r') =>
    match r'.redirectFor? m path with
    | some answer => (answer, r')
    | none => (r'.fallback m path, r')

end Router

structure Service (α : Type) where
  router : Router α

namespace Service

variable {α : Type}

def serve (s : Service α) (m : Method) (uriPath : String) : Response α × Service α :=
  let (answer, r) := s.router.serve m uriPath
  (answer, ⟨r⟩)

end Service

def Router.intoService {α : Type} (r : Router α) : Service α := ⟨r⟩

end PrefixRouter
