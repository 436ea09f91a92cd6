namespace PrefixRouter

inductive Method where
  | get
  | put
  | post
  | head
  | patch
  | trace
  | delete
  | options
  | connect
  | extension (token : String)
  deriving DecidableEq, Repr

namespace Method

def standard : List (String × Method) :=
  [("GET", .get), ("PUT", .put), ("POST", .post), ("HEAD", .head), ("PATCH", .patch),
    ("TRACE", .trace), ("DELETE", .delete), ("OPTIONS", .options), ("CONNECT", .connect)]

def isTokenChar (c : Char) : Bool :=
  c.isAlphanum || "!*+-.^_`|~".contains c

def name : Method → String
  | .get => "GET"
  | .put => "PUT"
  | .post => "POST"
  | .head => "HEAD"
  | .patch => "PATCH"
  | .trace => "TRACE"
  | .delete => "DELETE"
  | .options => "OPTIONS"
  | .connect => "CONNECT"
  | .extension token => token

def parse? (s : String) : Option Method :=
  match standard.lookup s with
  | some m => some m
  | none => if !s.isEmpty && s.all isTokenChar then some (.extension s) else none

theorem parse?_name_of_standard {m : Method} (h : ∀ t, m ≠ .extension t) :
    parse? m.name = some m := by
  cases m with
  | extension t => exact absurd rfl (h t)
  | _ => rfl

theorem name_of_parse? {n : String} {m : Method} (h : parse? n = some m) : m.name = n := by
  have hnames : ∀ e ∈ standard, e.2.name = e.1 := by decide
  unfold parse? at h
  split at h
  · rename_i m' hm
    cases h
    obtain ⟨pre, post, hsplit, -⟩ := List.lookup_eq_some_iff.mp hm
    exact hnames (n, m) (by rw [hsplit]; simp)
  · split at h
    · cases h
      rfl
    · cases h

end Method

end PrefixRouter
