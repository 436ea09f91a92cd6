import PrefixRouter.Pattern.Basic

namespace PrefixRouter

structure Capture where
  part : Nat
  start : Nat
  stop : Nat
  deriving DecidableEq, Repr

structure PathParams where
  pairs : List (String × String)
  deriving DecidableEq, Repr

def splitExt (v : String) : String × String :=
  let cs := v.toList
  match Text.lastIndexOf? '.' cs with
  | some i => (String.ofList (cs.take i), String.ofList (cs.drop (i + 1)))
  | none => (v, "")

namespace PathParams

def size (ps : PathParams) : Nat := ps.pairs.length

def isEmpty (ps : PathParams) : Bool := ps.pairs.isEmpty

def get? (ps : PathParams) (name : String) : Option String :=
  (ps.pairs.find? (·.1 == name)).map (·.2)

def getExt? (ps : PathParams) (name : String) : Option (String × String) :=
  (ps.get? name).map splitExt

end PathParams

structure Params where
  path : List Char
  parts : List Part
  captures : List Capture
  capacity : Option Nat
  deriving DecidableEq, Repr

namespace Params

def empty : Params := ⟨[], [], [], none⟩

def slice (path : List Char) (start stop : Nat) : String :=
  String.ofList ((path.drop start).take (stop - start))

def pairOf (ps : Params) (c : Capture) : String × String :=
  ((ps.parts[c.part]?.map (·.name)).getD "", slice ps.path c.start c.stop)

def toList (ps : Params) : List (String × String) :=
  ps.captures.map ps.pairOf

def size (ps : Params) : Nat := ps.captures.length

def isEmpty (ps : Params) : Bool := ps.captures.isEmpty

def get? (ps : Params) (name : String) : Option String :=
  (ps.toList.find? (·.1 == name)).map (·.2)

def getExt? (ps : Params) (name : String) : Option (String × String) :=
  (ps.get? name).map splitExt

def toOwned (ps : Params) : PathParams := ⟨ps.toList⟩

@[simp] theorem size_toOwned (ps : Params) : ps.toOwned.size = ps.size := by
  simp [toOwned, PathParams.size, toList, size]

@[simp] theorem pairs_toOwned (ps : Params) : ps.toOwned.pairs = ps.toList := rfl

@[simp] theorem get?_toOwned (ps : Params) (name : String) :
    ps.toOwned.get? name = ps.get? name := rfl

@[simp] theorem getExt?_toOwned (ps : Params) (name : String) :
    ps.toOwned.getExt? name = ps.getExt? name := rfl

end Params

end PrefixRouter
