import PrefixRouter.Text.Split

namespace PrefixRouter.Path

def cleanElements : List (List Char) → Bool
  | [] => true
  | [e] => e != ['.'] && e != ['.', '.']
  | e :: f :: es => e != [] && e != ['.'] && e != ['.', '.'] && cleanElements (f :: es)

def isClean : List Char → Bool
  | '/' :: body => cleanElements (Text.pieces '/' body)
  | _ => false

def resolve : List (List Char) → Bool → List (List Char) → List (List Char) × Bool
  | stack, trailing, [] => (stack, trailing)
  | stack, trailing, e :: es =>
    if e = [] then resolve stack trailing es
    else if e = ['.'] then resolve stack (trailing || es.isEmpty) es
    else if e = ['.', '.'] then resolve stack.tail trailing es
    else resolve (e :: stack) trailing es

def endsInSlash (p : List Char) : Bool :=
  1 < p.length && p.getLast? == some '/'

def resolved (p : List Char) : List Char :=
  let (stack, trailing) := resolve [] (endsInSlash p) (Text.pieces '/' p)
  let body := stack.reverse.flatMap ('/' :: ·)
  if body.isEmpty || trailing then body ++ ['/'] else body

/-- The canonical form of a path: unchanged when already clean, resolved otherwise. -/
def clean (p : String) : String :=
  if isClean p.toList then p else String.ofList (resolved p.toList)

theorem clean_of_isClean {p : String} (h : isClean p.toList = true) : clean p = p := by
  simp [clean, h]

theorem clean_of_not_isClean {p : String} (h : isClean p.toList = false) :
    clean p = String.ofList (resolved p.toList) := by
  simp [clean, h]

end PrefixRouter.Path
