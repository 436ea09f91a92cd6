import PrefixRouter.Table.Lookup
import PrefixRouter.Config

namespace PrefixRouter

structure Router (α : Type) where
  config : Config
  table : RouteTable α := {}
  pool : Pool
  globalOptions : Option α := none
  notFound : Option α := none
  methodNotAllowed : Option α := none

inductive AddError where
  | returned (e : RouteError)
  | halted (e : RouteError)
  deriving DecidableEq, Repr

namespace Router

variable {α : Type}

def withPool (config : Config) (pool : Pool) : Router α :=
  { config, pool }

def new (config : Config) : Router α :=
  withPool config (Pool.withBound config.maxIdleParams)

def addRoute (r : Router α) (m : Method) (pattern : String) (h : α) : Except AddError (Router α) :=
  match r.table.insert r.pool m pattern h with
  | .ok (table, pool) => .ok { r with table, pool }
  | .error e => .error (if r.config.strict then .halted e else .returned e)

def get (r : Router α) : String → α → Except AddError (Router α) := r.addRoute .get

def head (r : Router α) : String → α → Except AddError (Router α) := r.addRoute .head

def options (r : Router α) : String → α → Except AddError (Router α) := r.addRoute .options

def post (r : Router α) : String → α → Except AddError (Router α) := r.addRoute .post

def put (r : Router α) : String → α → Except AddError (Router α) := r.addRoute .put

def patch (r : Router α) : String → α → Except AddError (Router α) := r.addRoute .patch

def delete (r : Router α) : String → α → Except AddError (Router α) := r.addRoute .delete

def fallsBackToGet (r : Router α) (m : Method) : Bool :=
  r.config.headToGet && m == .head

def lookup (r : Router α) (m : Method) (path : String) : Option (Match α) × Router α :=
  match r.table.lookup r.pool m path with
  | (some found, pool) => (some found, { r with pool })
  | (none, pool) =>
    if r.fallsBackToGet m then
      let (found, pool') := r.table.lookup pool .get path
      (found, { r with pool := pool' })
    else (none, { r with pool })

def release (r : Router α) (found : Match α) : Router α :=
  { r with pool := found.params.release r.pool }

def contains (r : Router α) (m : Method) (path : String) : Bool :=
  r.table.contains m path || (r.fallsBackToGet m && r.table.contains .get path)

/-- The methods a path may be requested with: every method other than `OPTIONS` with a route
for the path (every method with a route at all when the path is `*`), in the order the table
lists its methods, then `HEAD` when `GET` is in and `headToGet` is on, then `OPTIONS` when the
list is not empty. -/
def allowed (r : Router α) (path : String) : List Method :=
  let found := r.table.methods.filter fun m =>
    m != .options && (path == "*" || r.table.contains m path)
  let withHead :=
    if r.config.headToGet && found.contains .get && !found.contains .head then found ++ [.head]
    else found
  if withHead.isEmpty then [] else withHead ++ [.options]

def routes (r : Router α) : List (Method × String) := r.table.routeList

end Router

end PrefixRouter
