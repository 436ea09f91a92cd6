import PrefixRouter.Proofs.Matching
import PrefixRouter.Proofs.Compile

/-!
Registering one more route. Other methods keep their lookups; for the route's own method the
search stops where it stopped before or at the new stem (`chosenStem?_append`), so a path changes
route only when the new stem sits at a deeper boundary.
-/

namespace PrefixRouter

namespace RouteTable

variable {α : Type} {T : RouteTable α} {q : Route α} {m : Method} {s : List Char}

theorem hasStem_append (key : List Char) :
    (⟨T.routes ++ [q]⟩ : RouteTable α).hasStem m key =
      (T.hasStem m key || (q.method == m && q.stem == key)) := by
  simp [hasStem, List.any_append]

theorem bucket_append (key : List Char) :
    (⟨T.routes ++ [q]⟩ : RouteTable α).bucket m key =
      T.bucket m key ++ [q].filter fun r => r.method == m && r.stem == key := by
  simp [bucket, List.filter_append]

theorem bucket_eq_nil {key : List Char} (h : T.hasStem m key = false) : T.bucket m key = [] := by
  simp only [hasStem, List.any_eq_false] at h
  simpa [bucket, List.filter_eq_nil_iff] using h

theorem find_congr {T' : RouteTable α} (hstem : T'.hasStem m = T.hasStem m)
    (hbucket : ∀ key, T'.bucket m key = T.bucket m key) : T'.find m s = T.find m s := by
  by_cases hs : s.head? = some '/'
  · have hchosen : T'.chosenStem? m s = T.chosenStem? m s := by
      unfold chosenStem?
      rw [hstem]
    rw [find_of_head hs, find_of_head hs, hchosen]
    simp only [hbucket]
  · rw [find_of_head_ne hs, find_of_head_ne hs]

theorem find_append_of_ne (h : q.method ≠ m) :
    (⟨T.routes ++ [q]⟩ : RouteTable α).find m s = T.find m s := by
  apply find_congr
  · funext key
    simp [hasStem_append, h]
  · intro key
    simp [bucket_append, h]

theorem lookup_congr {T' : RouteTable α} {path : String}
    (h : T'.find m path.toList = T.find m path.toList) (pool : Pool) :
    T'.lookup pool m path = T.lookup pool m path := by
  simp only [lookup, h]

theorem chosenStem?_above {key : List Char} {b : Nat} (h : T.chosenStem? m s = some (key, b)) :
    ∀ e ∈ boundaries s, b < e → T.hasStem m (s.take e) = false := by
  unfold chosenStem? at h
  split at h
  · rename_i e he
    cases h
    exact (deepestKey?_spec he).2.2
  · rename_i hnone
    split at h
    · cases h
      intro e he _
      exact deepestKey?_eq_none_iff.mp hnone e he
    · cases h

theorem take_ne_of_mem_boundaries {e e' : Nat} (he : e ∈ boundaries s) (he' : e' ∈ boundaries s)
    (hne : e ≠ e') : s.take e ≠ s.take e' := by
  intro heq
  have hlen := congrArg List.length heq
  simp only [List.length_take, Nat.min_eq_left (le_length_of_mem_boundaries he),
    Nat.min_eq_left (le_length_of_mem_boundaries he')] at hlen
  exact hne hlen

theorem chosenStem?_append (hq : q.method = m) :
    (⟨T.routes ++ [q]⟩ : RouteTable α).chosenStem? m s = T.chosenStem? m s ∨
      ∃ e, (⟨T.routes ++ [q]⟩ : RouteTable α).chosenStem? m s = some (q.stem, e) ∧
        T.hasStem m q.stem = false := by
  have hmono : ∀ key, T.hasStem m key = true →
      (⟨T.routes ++ [q]⟩ : RouteTable α).hasStem m key = true := by
    intro key h
    simp [hasStem_append, h]
  unfold chosenStem?
  cases hd : deepestKey? ((⟨T.routes ++ [q]⟩ : RouteTable α).hasStem m) s with
  | some e =>
    obtain ⟨he, hkey, hmax⟩ := deepestKey?_spec hd
    by_cases hold : T.hasStem m (s.take e) = true
    · left
      have hd' : deepestKey? (T.hasStem m) s = some e := by
        refine deepestKey?_eq_some_iff.mpr ⟨he, hold, fun e' he' hlt => ?_⟩
        cases hk : T.hasStem m (s.take e')
        · rfl
        · have := hmax e' he' hlt
          rw [hmono _ hk] at this
          cases this
      rw [hd']
    · right
      have hstem : q.stem = s.take e := by
        simpa [hasStem_append, hold, hq] using hkey
      refine ⟨e, by rw [hstem], ?_⟩
      rw [hstem]
      simpa using hold
  | none =>
    have hd' : deepestKey? (T.hasStem m) s = none := by
      refine deepestKey?_eq_none_iff.mpr fun e he => ?_
      cases hk : T.hasStem m (s.take e)
      · rfl
      · have := deepestKey?_eq_none_iff.mp hd e he
        rw [hmono _ hk] at this
        cases this
    rw [hd']
    by_cases hroot : T.hasStem m ['/'] = true
    · left
      simp [hroot, hmono _ hroot]
    · by_cases hroot' : (⟨T.routes ++ [q]⟩ : RouteTable α).hasStem m ['/'] = true
      · right
        have hstem : q.stem = ['/'] := by
          simpa [hasStem_append, hroot, hq] using hroot'
        refine ⟨0, by simp [hroot', hstem], ?_⟩
        rw [hstem]
        simpa using hroot
      · left
        simp [hroot, hroot']

theorem exists_chosenStem?_of_find {r : Route α} {b : Nat} (h : T.find m s = some (r, b)) :
    s.head? = some '/' ∧ ∃ key, T.chosenStem? m s = some (key, b) ∧
      (T.bucket m key).find? (·.accepts ((s.drop b).count '/')) = some r := by
  by_cases hs : s.head? = some '/'
  · rw [find_of_head hs] at h
    obtain ⟨⟨key, e⟩, hc, hfound⟩ := Option.bind_eq_some_iff.mp h
    obtain ⟨r', hr', hpair⟩ := Option.map_eq_some_iff.mp hfound
    cases hpair
    exact ⟨hs, key, hc, hr'⟩
  · rw [find_of_head_ne hs] at h
    cases h

theorem find_append_of_found (hs : s.head? = some '/')
    (hc : (⟨T.routes ++ [q]⟩ : RouteTable α).chosenStem? m s = T.chosenStem? m s) {r : Route α}
    {b : Nat} (h : T.find m s = some (r, b)) :
    (⟨T.routes ++ [q]⟩ : RouteTable α).find m s = some (r, b) := by
  obtain ⟨-, key, hkey, hr⟩ := exists_chosenStem?_of_find h
  -- the new route comes after the old ones of its bucket, so the old winner is still first
  rw [find_of_head hs, hc, hkey, Option.bind_some, bucket_append, List.find?_append, hr]
  rfl

theorem find_append_of_not_found (hs : s.head? = some '/')
    (hc : (⟨T.routes ++ [q]⟩ : RouteTable α).chosenStem? m s = T.chosenStem? m s)
    (h : T.find m s = none) :
    (⟨T.routes ++ [q]⟩ : RouteTable α).find m s = none ∨
      ∃ e, (⟨T.routes ++ [q]⟩ : RouteTable α).find m s = some (q, e) := by
  rw [find_of_head hs] at h
  rw [find_of_head hs, hc]
  cases hkey : T.chosenStem? m s with
  | none => exact Or.inl rfl
  | some ke =>
    obtain ⟨key, e⟩ := ke
    rw [hkey, Option.bind_some, Option.map_eq_none_iff] at h
    rw [Option.bind_some, bucket_append, List.find?_append, h, Option.none_or]
    cases hf : ([q].filter fun r => r.method == m && r.stem == key).find?
        (·.accepts ((s.drop e).count '/')) with
    | none => exact Or.inl rfl
    | some r =>
      have hr : r = q := by
        simpa using (List.mem_filter.mp (List.mem_of_find?_eq_some hf)).1
      exact Or.inr ⟨e, by rw [hr]; rfl⟩

theorem find_append_of_new_stem (hs : s.head? = some '/') (hq : q.method = m) {e : Nat}
    (hc : (⟨T.routes ++ [q]⟩ : RouteTable α).chosenStem? m s = some (q.stem, e))
    (hold : T.hasStem m q.stem = false) :
    (⟨T.routes ++ [q]⟩ : RouteTable α).find m s = none ∨
      (⟨T.routes ++ [q]⟩ : RouteTable α).find m s = some (q, e) := by
  rw [find_of_head hs, hc, Option.bind_some, bucket_append, bucket_eq_nil hold]
  by_cases hacc : q.accepts ((s.drop e).count '/') = true
  · right
    simp [hq, hacc]
  · left
    simp [hq, hacc]

theorem chosenStem?_append_of_deeper (hq : q.method = m) {key : List Char} {b e : Nat}
    (h : T.chosenStem? m s = some (key, b)) (he : e ∈ boundaries s) (hbe : b < e)
    (hstem : s.take e = q.stem) :
    (⟨T.routes ++ [q]⟩ : RouteTable α).chosenStem? m s = some (q.stem, e) := by
  have habove := chosenStem?_above h
  have hd : deepestKey? ((⟨T.routes ++ [q]⟩ : RouteTable α).hasStem m) s = some e := by
    refine deepestKey?_eq_some_iff.mpr ⟨he, by simp [hasStem_append, hq, hstem], ?_⟩
    intro e' he' hlt
    have hother : (q.stem == s.take e') = false := by
      rw [← hstem]
      simpa using take_ne_of_mem_boundaries he he' (Nat.ne_of_lt hlt)
    simp [hasStem_append, habove e' he' (Nat.lt_trans hbe hlt), hother]
  unfold chosenStem?
  simp only [hd, hstem]

theorem chosenStem?_append_of_not_deeper (hne : q.stem ≠ [])
    {key : List Char} {b : Nat} (h : T.chosenStem? m s = some (key, b))
    (hfar : ∀ e ∈ boundaries s, b < e → s.take e ≠ q.stem) :
    (⟨T.routes ++ [q]⟩ : RouteTable α).chosenStem? m s = T.chosenStem? m s := by
  have habove := chosenStem?_above h
  have hother {e : Nat} (he : e ∈ boundaries s) (hbe : b < e) : (q.stem == s.take e) = false :=
    beq_false_of_ne (Ne.symm (hfar e he hbe))
  unfold chosenStem? at h ⊢
  cases hd : deepestKey? (T.hasStem m) s with
  | some e =>
    rw [hd] at h
    cases h
    obtain ⟨he, hkey, -⟩ := deepestKey?_spec hd
    have hd' : deepestKey? ((⟨T.routes ++ [q]⟩ : RouteTable α).hasStem m) s = some b := by
      refine deepestKey?_eq_some_iff.mpr ⟨he, by simp [hasStem_append, hkey], ?_⟩
      intro e' he' hlt
      simp [hasStem_append, habove e' he' hlt, hother he' hlt]
    rw [hd']
  | none =>
    rw [hd] at h
    simp only at h
    -- the search fell back to the stem `/` at position 0, so every boundary is deeper
    split at h
    · rename_i hroot
      obtain ⟨rfl, rfl⟩ := Prod.mk.inj (Option.some.inj h)
      have hd' : deepestKey? ((⟨T.routes ++ [q]⟩ : RouteTable α).hasStem m) s = none := by
        refine deepestKey?_eq_none_iff.mpr fun e he => ?_
        have hfalse := deepestKey?_eq_none_iff.mp hd e he
        rcases Nat.eq_zero_or_pos e with rfl | hpos
        · have hq0 : (q.stem == s.take 0) = false := beq_false_of_ne (by simpa using hne)
          rw [hasStem_append, hfalse, hq0]
          simp
        · rw [hasStem_append, hfalse, hother he hpos]
          simp
      simp [hd', hasStem_append, hroot]
    · cases h

theorem insert_shadows_only_deeper {T T' : RouteTable α} {pool pool' : Pool} {m' : Method}
    {pattern : String} {v : α} {c : Pattern} (hc : Pattern.compile pattern = .ok c)
    (hins : T.insert pool m' pattern v = .ok (T', pool')) (m : Method) (path : String) :
    (m ≠ m' →
        T'.find m path.toList = T.find m path.toList ∧ T'.contains m path = T.contains m path ∧
          ∀ pool₀, T'.lookup pool₀ m path = T.lookup pool₀ m path) ∧
      (∀ r b, m = m' → T.find m path.toList = some (r, b) →
        ((∀ e ∈ boundaries path.toList, b < e → path.toList.take e ≠ c.stem.toList) →
            T'.find m path.toList = some (r, b) ∧
              ∀ pool₀, T'.lookup pool₀ m path = T.lookup pool₀ m path) ∧
          ((∃ e ∈ boundaries path.toList, b < e ∧ path.toList.take e = c.stem.toList) →
            T'.find m path.toList = none ∨
              ∃ e, T'.find m path.toList = some (⟨m', pattern, c, v⟩, e))) ∧
      (T.find m path.toList = none →
        T'.find m path.toList = none ∨
          ∃ e, T'.find m path.toList = some (⟨m', pattern, c, v⟩, e)) := by
  have hT' : T' = ⟨T.routes ++ [⟨m', pattern, c, v⟩]⟩ := by
    rw [insert_of_compile_ok hc] at hins
    cases hins
    rfl
  subst hT'
  have hne : (⟨m', pattern, c, v⟩ : Route α).stem ≠ [] := by
    intro hnil
    have hhead := Pattern.head_stem_of_compile hc
    simp only [Route.stem] at hnil
    simp [hnil] at hhead
  refine ⟨fun hm => ?_, fun r b hm h => ?_, fun h => ?_⟩
  · -- another method: the new route is no stem and in no bucket of `m`
    have hfind : (⟨T.routes ++ [⟨m', pattern, c, v⟩]⟩ : RouteTable α).find m path.toList =
        T.find m path.toList := find_append_of_ne (Ne.symm hm)
    exact ⟨hfind, by simp only [contains, hfind], lookup_congr hfind⟩
  · subst hm
    obtain ⟨hs, key, hkey, -⟩ := exists_chosenStem?_of_find h
    constructor
    · intro hfar
      have hfind := find_append_of_found hs (chosenStem?_append_of_not_deeper hne hkey hfar) h
      exact ⟨hfind, lookup_congr (hfind.trans h.symm)⟩
    · rintro ⟨e, he, hbe, hstem⟩
      have hold : T.hasStem m (⟨m, pattern, c, v⟩ : Route α).stem = false := by
        rw [Route.stem, ← hstem]
        exact chosenStem?_above hkey e he hbe
      have hnewStem : (⟨T.routes ++ [⟨m, pattern, c, v⟩]⟩ : RouteTable α).chosenStem? m path.toList =
          some ((⟨m, pattern, c, v⟩ : Route α).stem, e) :=
        chosenStem?_append_of_deeper rfl hkey he hbe hstem
      rcases find_append_of_new_stem hs rfl hnewStem hold with hnone | hnew
      · exact Or.inl hnone
      · exact Or.inr ⟨e, hnew⟩
  · by_cases hm : m' = m
    · by_cases hs : path.toList.head? = some '/'
      · rcases @chosenStem?_append α T ⟨m', pattern, c, v⟩ m path.toList hm with
          hsame | ⟨e, hnew, hold⟩
        · exact find_append_of_not_found hs hsame h
        · rcases find_append_of_new_stem hs hm hnew hold with hnone | hfound
          · exact Or.inl hnone
          · exact Or.inr ⟨e, hfound⟩
      · exact Or.inl (find_of_head_ne hs)
    · left
      rw [find_append_of_ne hm]
      exact h

def pairRoute : Route Nat := ⟨.get, "/a/:x/:y", ⟨"/a", [⟨"x", .param⟩, ⟨"y", .param⟩]⟩, 1⟩

def pairTable : RouteTable Nat := ⟨[pairRoute]⟩

def shadowTable : RouteTable Nat := ⟨[pairRoute, ⟨.get, "/a/b", ⟨"/a/b", []⟩, 2⟩]⟩

theorem insert_shadows_only_deeper_nested :
    pairTable.insert (Pool.withBound 8) .get "/a/b" 2 =
        .ok (shadowTable, (Pool.withBound 8).reserve 0) ∧
      (∀ pool₀, shadowTable.lookup pool₀ .post "/a/b/c" = pairTable.lookup pool₀ .post "/a/b/c") ∧
      pairTable.find .get "/a/c/d".toList = some (pairRoute, 2) ∧
      shadowTable.find .get "/a/c/d".toList = some (pairRoute, 2) ∧
      pairTable.find .get "/a/b/c".toList = some (pairRoute, 2) ∧
      (shadowTable.find .get "/a/b/c".toList = none ∨
        ∃ e, shadowTable.find .get "/a/b/c".toList = some (⟨.get, "/a/b", ⟨"/a/b", []⟩, 2⟩, e)) := by
  have hc : Pattern.compile "/a/b" = .ok ⟨"/a/b", []⟩ := rfl
  have hins : pairTable.insert (Pool.withBound 8) .get "/a/b" 2 =
      .ok (shadowTable, (Pool.withBound 8).reserve 0) := rfl
  have hshadow := insert_shadows_only_deeper hc hins
  -- both paths are found at the boundary after `/a` before the insertion
  have hcd : pairTable.find .get "/a/c/d".toList = some (pairRoute, 2) := by
    rw [find_of_head (by decide)]
    rfl
  have hbc : pairTable.find .get "/a/b/c".toList = some (pairRoute, 2) := by
    rw [find_of_head (by decide)]
    rfl
  refine ⟨hins, ((hshadow .post "/a/b/c").1 (by decide)).2.2, hcd, ?_, hbc, ?_⟩
  · -- no boundary of `/a/c/d` past `2` has the text `/a/b`
    exact (((hshadow .get "/a/c/d").2.1 _ 2 rfl hcd).1 (by decide)).1
  · -- the boundary `4` of `/a/b/c` has the text `/a/b`
    exact ((hshadow .get "/a/b/c").2.1 _ 2 rfl hbc).2 ⟨4, by decide, by decide, by decide⟩

-- `/a/b` takes `/a/b/c` from `/a/:x/:y` although no route under `/a/b` fits it
example :
    pairTable.matchSpec .get "/a/b/c" = some (1, [("x", "b"), ("y", "c")]) ∧
      shadowTable.matchSpec .get "/a/b/c" = none := by
  decide

end RouteTable

end PrefixRouter
