import PrefixRouter.Method
import PrefixRouter.Pool

namespace PrefixRouter

structure Route (α : Type) where
  method : Method
  pattern : String
  compiled : Pattern
  value : α
  deriving Repr

structure RouteTable (α : Type) where
  routes : List (Route α) := []
  deriving Repr

namespace Route

variable {α : Type}

def stem (r : Route α) : List Char := r.compiled.stem.toList

def accepts (r : Route α) (segments : Nat) : Bool :=
  r.compiled.hasWildcard || r.compiled.parts.length == segments

def listedBefore (r s : Route α) : Bool :=
  r.method.name < s.method.name || (r.method.name == s.method.name && r.compiled.stem ≤ s.compiled.stem)

end Route

namespace RouteTable

variable {α : Type}

def hasStem (t : RouteTable α) (m : Method) (key : List Char) : Bool :=
  t.routes.any fun r => r.method == m && r.stem == key

def bucket (t : RouteTable α) (m : Method) (key : List Char) : List (Route α) :=
  t.routes.filter fun r => r.method == m && r.stem == key

/-- Registers a route after the existing ones and reserves its parameter count in the pool,
or refuses the pattern and changes nothing. -/
def insert (t : RouteTable α) (pool : Pool) (m : Method) (pattern : String) (value : α) :
    Except RouteError (RouteTable α × Pool) :=
  match Pattern.compile pattern with
  | .ok compiled =>
    .ok (⟨t.routes ++ [⟨m, pattern, compiled, value⟩]⟩, pool.reserve compiled.paramCount)
  | .error e => .error e

theorem insert_of_compile_error {t : RouteTable α} {pool : Pool} {m : Method} {pattern : String}
    {value : α} {e : RouteError} (h : Pattern.compile pattern = .error e) :
    t.insert pool m pattern value = .error e := by
  simp [insert, h]

theorem insert_of_compile_ok {t : RouteTable α} {pool : Pool} {m : Method} {pattern : String}
    {value : α} {c : Pattern} (h : Pattern.compile pattern = .ok c) :
    t.insert pool m pattern value =
      .ok (⟨t.routes ++ [⟨m, pattern, c, value⟩]⟩, pool.reserve c.paramCount) := by
  simp [insert, h]

theorem bucket_sublist (t : RouteTable α) (m : Method) (key : List Char) :
    (t.bucket m key).Sublist t.routes :=
  List.filter_sublist

def methods (t : RouteTable α) : List Method :=
  ((t.routes.map (·.method)).eraseDups).mergeSort fun a b => a.name ≤ b.name

def routeList (t : RouteTable α) : List (Method × String) :=
  (t.routes.mergeSort Route.listedBefore).map fun r => (r.method, r.pattern)

end RouteTable

end PrefixRouter
