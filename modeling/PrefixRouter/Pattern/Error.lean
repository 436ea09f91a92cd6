namespace PrefixRouter

inductive RouteError where
  | tooManyWildcards (pattern : String)
  | wildcardNotLast (pattern : String)
  | missingLeadingSlash (pattern : String)
  | emptyName (pattern : String)
  deriving DecidableEq, Repr

namespace RouteError

def pattern : RouteError → String
  | .tooManyWildcards p | .wildcardNotLast p | .missingLeadingSlash p | .emptyName p => p

def message : RouteError → String
  | .tooManyWildcards p => "too many wildcards in route '" ++ p ++ "'"
  | .wildcardNotLast p => "wildcard must be the last part of route '" ++ p ++ "'"
  | .missingLeadingSlash p => "expected route beginning with '/', found '" ++ p ++ "'"
  | .emptyName p => "unnamed parameter in route '" ++ p ++ "'"

end RouteError

end PrefixRouter
