import PrefixRouter.Proofs.Search
import PrefixRouter.Proofs.Capture

namespace PrefixRouter

theorem Pool.Valid.captures_acquire {p : Pool} (hp : p.Valid) : p.acquire.1.captures = [] := by
  unfold Pool.acquire
  split
  · rename_i b rest h
    exact hp.empty b (Pool.takeFitting_some h).2.1
  · rfl

namespace RouteTable

variable {α : Type} {t : RouteTable α} {m : Method} {s : List Char}

theorem find_of_head (hs : s.head? = some '/') :
    t.find m s = (t.chosenStem? m s).bind fun ke =>
      ((t.bucket m ke.1).find? (·.accepts ((s.drop ke.2).count '/'))).map (·, ke.2) := by
  obtain ⟨rest, rfl⟩ : ∃ rest, s = '/' :: rest := by
    cases s with
    | nil => cases hs
    | cons c rest => exact ⟨rest, by cases hs; rfl⟩
  simp only [find, findBucket_eq_chosenStem?]
  cases t.chosenStem? m ('/' :: rest) <;> rfl

theorem contains_of_head {path : String} (hs : path.toList.head? = some '/') :
    t.contains m path = ((t.chosenStem? m path.toList).bind fun ke =>
      (t.bucket m ke.1).find? (·.accepts ((path.toList.drop ke.2).count '/'))).isSome := by
  rw [contains, find_of_head hs]
  cases t.chosenStem? m path.toList <;> simp

theorem find_of_head_ne (hs : s.head? ≠ some '/') : t.find m s = none := by
  unfold find
  split
  · simp at hs
  · rfl

theorem chosenStem?_boundary {key : List Char} {e : Nat} (hs : s.head? = some '/')
    (h : t.chosenStem? m s = some (key, e)) : e = s.length ∨ s[e]? = some '/' := by
  unfold chosenStem? at h
  split at h
  · rename_i e' he
    cases h
    exact mem_boundaries.mp (deepestKey?_spec he).1
  · split at h
    · cases h
      right
      cases s with
      | nil => cases hs
      | cons c rest => simpa using hs
    · cases h

theorem pairs_lookup_captures {pool : Pool} (hp : pool.Valid) (r : Route α) {e : Nat}
    (he : e = s.length ∨ s[e]? = some '/') :
    (Params.toList ⟨s, r.compiled.parts,
        pool.acquire.1.captures ++ captures r.compiled.parts s e, some pool.acquire.1.capacity⟩) =
      expectedParams r.compiled.parts (segmentsAfter s e) := by
  rw [Params.toList, hp.captures_acquire, List.nil_append, captures]
  exact pairs_captureFrom _ _ r.compiled.parts 0 e (List.drop_zero) he

theorem lookup_fst_of_find_some {pool : Pool} {path : String} {r : Route α} {e : Nat}
    (h : t.find m path.toList = some (r, e)) :
    (t.lookup pool m path).1 = some ⟨r.value,
      if r.compiled.parts.isEmpty then Params.empty
      else ⟨path.toList, r.compiled.parts,
        pool.acquire.1.captures ++ captures r.compiled.parts path.toList e,
        some pool.acquire.1.capacity⟩⟩ := by
  simp only [lookup, h]
  split <;> simp_all

theorem lookup_view_of_find_some {pool : Pool} (hp : pool.Valid) {path : String} {r : Route α}
    {e : Nat} (h : t.find m path.toList = some (r, e))
    (he : e = path.toList.length ∨ path.toList[e]? = some '/') :
    (t.lookup pool m path).1.map (fun found => (found.value, found.params.toList)) =
      some (r.value, expectedParams r.compiled.parts (segmentsAfter path.toList e)) := by
  rw [lookup_fst_of_find_some h, Option.map_some]
  -- a route without parts takes no buffer and answers no parameters
  split
  · rename_i hnil
    simp [List.isEmpty_iff.mp hnil, expectedParams, Params.toList, Params.empty]
  · rw [pairs_lookup_captures hp r he]

variable {path : String}

theorem matchSpec_of_head (hs : path.toList.head? = some '/') :
    t.matchSpec m path = (t.chosenStem? m path.toList).bind fun ke =>
      ((t.bucket m ke.1).find? (·.accepts (segmentsAfter path.toList ke.2).length)).map
        fun r => (r.value, expectedParams r.compiled.parts (segmentsAfter path.toList ke.2)) := by
  simp only [matchSpec]
  generalize path.toList = s at hs ⊢
  cases s with
  | nil => cases hs
  | cons c rest =>
    cases hs
    cases t.chosenStem? m ('/' :: rest) <;> rfl

theorem matchSpec_of_head_ne (hs : path.toList.head? ≠ some '/') : t.matchSpec m path = none := by
  simp only [matchSpec]
  generalize path.toList = s at hs ⊢
  split
  · simp at hs
  · rfl

theorem lookup_eq_matchSpec (t : RouteTable α) {pool : Pool} (hp : pool.Valid) (m : Method)
    (path : String) :
    (t.lookup pool m path).1.map (fun found => (found.value, found.params.toList)) =
        t.matchSpec m path ∧
      t.contains m path = (t.lookup pool m path).1.isSome := by
  refine ⟨?_, (isSome_lookup t pool m path).symm⟩
  by_cases hs : path.toList.head? = some '/'
  · rw [matchSpec_of_head hs]
    cases hc : t.chosenStem? m path.toList with
    | none =>
      have hfind : t.find m path.toList = none := by rw [find_of_head hs, hc]; rfl
      rw [lookup_of_find_none hfind]
      rfl
    | some ke =>
      obtain ⟨key, e⟩ := ke
      simp only [Option.bind_some, length_segmentsAfter]
      cases hr : (t.bucket m key).find? (·.accepts ((path.toList.drop e).count '/')) with
      | none =>
        have hfind : t.find m path.toList = none := by rw [find_of_head hs, hc]; simp [hr]
        rw [lookup_of_find_none hfind]
        rfl
      | some r =>
        have hfind : t.find m path.toList = some (r, e) := by rw [find_of_head hs, hc]; simp [hr]
        rw [lookup_view_of_find_some hp hfind (chosenStem?_boundary hs hc), Option.map_some]
  · rw [lookup_of_find_none (find_of_head_ne hs), matchSpec_of_head_ne hs]
    rfl

theorem lookup_eq_matchSpec_users :
    (Pool.withBound 1000).Valid ∧
      ((RouteTable.mk [⟨.get, "/users/:id", ⟨"/users", [⟨"id", .param⟩]⟩, 7⟩]).lookup
          (Pool.withBound 1000) .get "/users/42").1.map
          (fun found => (found.value, found.params.toList)) =
        (RouteTable.mk [⟨.get, "/users/:id", ⟨"/users", [⟨"id", .param⟩]⟩, 7⟩]).matchSpec .get
          "/users/42" ∧
      (RouteTable.mk [⟨.get, "/users/:id", ⟨"/users", [⟨"id", .param⟩]⟩, 7⟩]).contains .get
          "/users/42" =
        ((RouteTable.mk [⟨.get, "/users/:id", ⟨"/users", [⟨"id", .param⟩]⟩, 7⟩]).lookup
          (Pool.withBound 1000) .get "/users/42").1.isSome :=
  ⟨Pool.valid_withBound 1000, lookup_eq_matchSpec _ (Pool.valid_withBound 1000) .get "/users/42"⟩

end RouteTable

end PrefixRouter
