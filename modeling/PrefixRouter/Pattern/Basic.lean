import PrefixRouter.Text.Split
import PrefixRouter.Pattern.Error

namespace PrefixRouter

inductive PartKind where
  | literal
  | param
  | wildcard
  deriving DecidableEq, Repr

structure Part where
  name : String
  kind : PartKind
  deriving DecidableEq, Repr

structure Pattern where
  stem : String
  parts : List Part
  deriving DecidableEq, Repr

namespace Part

def kindOf : List Char → PartKind
  | ':' :: _ => .param
  | '*' :: _ => .wildcard
  | _ => .literal

def isVariable (seg : List Char) : Bool :=
  kindOf seg != .literal

def isUnnamed (seg : List Char) : Bool :=
  seg == [':'] || seg == ['*']

def ofSegment (seg : List Char) : Part :=
  match kindOf seg with
  | .literal => ⟨String.ofList seg, .literal⟩
  | k => ⟨String.ofList seg.tail, k⟩

def sign : PartKind → String
  | .literal => ""
  | .param => ":"
  | .wildcard => "*"

def render (p : Part) : String :=
  "/" ++ sign p.kind ++ p.name

end Part

namespace Pattern

def paramCount (p : Pattern) : Nat :=
  (p.parts.filter (·.kind != .literal)).length

def hasWildcard (p : Pattern) : Bool :=
  match p.parts.getLast? with
  | some q => q.kind == .wildcard
  | none => false

def partsOf (segs : List (List Char)) : List Part :=
  (segs.filter (· != [])).map Part.ofSegment

def stemOf (pattern : String) (lits rest : List (List Char)) : String :=
  if rest.isEmpty then pattern else String.ofList ('/' :: Text.glue '/' lits)

def compile (pattern : String) : Except RouteError Pattern :=
  match pattern.toList with
  | '/' :: body =>
    let segs := Text.pieces '/' body
    if segs.any Part.isUnnamed then .error (.emptyName pattern)
    else
      let lits := segs.takeWhile (! Part.isVariable ·)
      let rest := segs.dropWhile (! Part.isVariable ·)
      let parts := partsOf rest
      let compiled : Pattern := ⟨stemOf pattern lits rest, parts⟩
      let wildcards := (parts.filter (·.kind == .wildcard)).length
      if 1 < wildcards then .error (.tooManyWildcards pattern)
      else if wildcards = 1 && !compiled.hasWildcard then .error (.wildcardNotLast pattern)
      else .ok compiled
  | _ => .error (.missingLeadingSlash pattern)

/-- The shortest text of a pattern: the stem, left out when it is `/` and parts follow, then
each part with its sign. -/
def render (p : Pattern) : String :=
  let parts := String.join (p.parts.map Part.render)
  if p.stem == "/" && !p.parts.isEmpty then parts else p.stem ++ parts

end Pattern

end PrefixRouter
