import PrefixRouter.Table.Basic

/-!
Finding the route for a path. The search walks the boundaries of the path (its `/`s and its
end) from the end towards the start and stops at the first whose text before it is the stem of a
bucket of the method, or else takes the stem `/` at `0`; shorter stems are never tried.
-/

namespace PrefixRouter

structure Match (α : Type) where
  value : α
  params : Params

namespace RouteTable

variable {α : Type}

/-- Walks back from position `stop`: the first boundary at or before it whose text before it is
a key, with the number of `/`s passed on the way. -/
def scanBack (isKey : List Char → Bool) (path : List Char) (stop segments : Nat) :
    Option (Nat × Nat) :=
  if isKey (path.take stop) then some (stop, segments)
  else
    match h : Text.lastIndexOf? '/' (path.take stop) with
    | some i =>
      have : i < stop := Nat.lt_of_lt_of_le (Text.lastIndexOf?_lt h) (List.length_take_le _ _)
      scanBack isKey path i (segments + 1)
    | none => none
termination_by stop

def findBucket (isKey : List Char → Bool) (path : List Char) : Option (List Char × Nat × Nat) :=
  match scanBack isKey path path.length 0 with
  | some (stop, segments) => some (path.take stop, stop, segments)
  | none => if isKey ['/'] then some (['/'], 0, path.count '/') else none

def find (t : RouteTable α) (m : Method) (path : List Char) : Option (Route α × Nat) :=
  match path with
  | '/' :: _ =>
    match findBucket (t.hasStem m) path with
    | some (key, boundary, segments) =>
      ((t.bucket m key).find? (·.accepts segments)).map (·, boundary)
    | none => none
  | _ => none

def segmentEnd (path : List Char) (start : Nat) : Nat :=
  match (path.drop start).idxOf? '/' with
  | some i => start + i
  | none => path.length

def captureFrom (path : List Char) : Nat → List (Part × Nat) → List Capture
  | _, [] => []
  | sep, (part, index) :: rest =>
    if path.length ≤ sep then []
    else
      let start := sep + 1
      match part.kind with
      | .wildcard => [⟨index, start, path.length⟩]
      | .param =>
        let stop := segmentEnd path start
        ⟨index, start, stop⟩ :: captureFrom path stop rest
      | .literal => captureFrom path (segmentEnd path start) rest

def captures (parts : List Part) (path : List Char) (boundary : Nat) : List Capture :=
  captureFrom path boundary parts.zipIdx

/-- Looks a path up under method `m`. A route with parts takes a buffer from the pool for its
captures; a route without parts and a miss leave the pool alone. -/
def lookup (t : RouteTable α) (pool : Pool) (m : Method) (path : String) :
    Option (Match α) × Pool :=
  let cs := path.toList
  match t.find m cs with
  | none => (none, pool)
  | some (r, boundary) =>
    if r.compiled.parts.isEmpty then (some ⟨r.value, Params.empty⟩, pool)
    else
      let (buf, pool') := pool.acquire
      let found := buf.captures ++ captures r.compiled.parts cs boundary
      (some ⟨r.value, ⟨cs, r.compiled.parts, found, some buf.capacity⟩⟩, pool')

def lookupAll (t : RouteTable α) (pool : Pool) (m : Method) :
    List String → List (Option (Match α)) × Pool
  | [] => ([], pool)
  | path :: paths =>
    let (found, pool') := t.lookup pool m path
    let (rest, pool'') := t.lookupAll pool' m paths
    (found :: rest, pool'')

def contains (t : RouteTable α) (m : Method) (path : String) : Bool :=
  (t.find m path.toList).isSome

theorem isSome_lookup (t : RouteTable α) (pool : Pool) (m : Method) (path : String) :
    (t.lookup pool m path).1.isSome = t.contains m path := by
  cases h : t.find m path.toList with
  | none => simp [lookup, contains, h]
  | some found =>
    obtain ⟨r, boundary⟩ := found
    simp only [lookup, contains, h, Option.isSome_some]
    split <;> rfl

theorem lookup_of_find_none {t : RouteTable α} {pool : Pool} {m : Method} {path : String}
    (h : t.find m path.toList = none) : t.lookup pool m path = (none, pool) := by
  simp [lookup, h]

end RouteTable

def Match.releaseAll {α : Type} (held : List (Option (Match α))) (pool : Pool) : Pool :=
  held.foldl (fun pool found => match found with
    | some m => m.params.release pool
    | none => pool) pool

end PrefixRouter
