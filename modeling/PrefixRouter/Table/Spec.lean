import PrefixRouter.Table.Lookup

/-!
The routing rule of a table stated without the backward search and without the capture walk, as
a second definition to compare lookups with.
-/

namespace PrefixRouter

namespace RouteTable

variable {α : Type}

def boundaries (s : List Char) : List Nat :=
  (List.range s.length).filter (fun e => s[e]? == some '/') ++ [s.length]

def deepestKey? (isKey : List Char → Bool) (s : List Char) : Option Nat :=
  (boundaries s).reverse.find? fun e => isKey (s.take e)

/-- The stem and boundary a path is routed from under method `m`: the largest boundary whose
text before it is a stem of `m`, or the stem `/` at position 0 when `m` has that stem. -/
def chosenStem? (t : RouteTable α) (m : Method) (s : List Char) : Option (List Char × Nat) :=
  match deepestKey? (t.hasStem m) s with
  | some e => some (s.take e, e)
  | none => if t.hasStem m ['/'] then some (['/'], 0) else none

def segmentsAfter (s : List Char) (e : Nat) : List (List Char) :=
  (Text.pieces '/' (s.drop e)).tail

def expectedParams : List Part → List (List Char) → List (String × String)
  | [], _ => []
  | _ :: _, [] => []
  | p :: ps, g :: gs =>
    match p.kind with
    | .param => (p.name, String.ofList g) :: expectedParams ps gs
    | .wildcard => [(p.name, String.ofList (Text.glue '/' (g :: gs)))]
    | .literal => expectedParams ps gs

/-- The value and parameters the routing rule gives a path under method `m`. -/
def matchSpec (t : RouteTable α) (m : Method) (path : String) :
    Option (α × List (String × String)) :=
  let s := path.toList
  match s with
  | '/' :: _ =>
    match t.chosenStem? m s with
    | some (key, e) =>
      let gs := segmentsAfter s e
      ((t.bucket m key).find? (·.accepts gs.length)).map fun r =>
        (r.value, expectedParams r.compiled.parts gs)
    | none => none
  | _ => none

end RouteTable

end PrefixRouter
