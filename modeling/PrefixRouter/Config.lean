namespace PrefixRouter

def defaultMaxIdle : Nat := 1000

/-- How a router treats registrations and requests. -/
structure Config where
  strict : Bool := true
  cleanPath : Bool := true
  headToGet : Bool := true
  redirectTrailingSlash : Bool := true
  handleMethodNotAllowed : Bool := true
  handleOptions : Bool := true
  maxIdleParams : Nat := defaultMaxIdle
  deriving DecidableEq, Repr

inductive Setting where
  | strict (on : Bool)
  | cleanPath (on : Bool)
  | headToGet (on : Bool)
  | redirectTrailingSlash (on : Bool)
  | handleMethodNotAllowed (on : Bool)
  | handleOptions (on : Bool)
  | maxIdleParams (n : Nat)
  deriving DecidableEq, Repr

namespace Config

def set (c : Config) : Setting → Config
  | .strict b => { c with strict := b }
  | .cleanPath b => { c with cleanPath := b }
  | .headToGet b => { c with headToGet := b }
  | .redirectTrailingSlash b => { c with redirectTrailingSlash := b }
  | .handleMethodNotAllowed b => { c with handleMethodNotAllowed := b }
  | .handleOptions b => { c with handleOptions := b }
  | .maxIdleParams n => { c with maxIdleParams := n }

end Config

end PrefixRouter
