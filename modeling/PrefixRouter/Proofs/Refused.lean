import PrefixRouter.Proofs.Allowed

/-!
Refused methods. `serve` answers `405` exactly in the branch `Refuses`, with `allowed` of the
routed path. Away from `*` that list never holds a refused method other than `OPTIONS`, and an
`OPTIONS` request refused with `handleOptions` off always finds `OPTIONS` listed.
-/

namespace PrefixRouter

namespace Router

variable {α : Type} {r : Router α} {m : Method}

/-- The branch of `serve` that refuses the method of a request for the routed path `s`. -/
structure Refuses (r : Router α) (m : Method) (s : String) : Prop where
  no_route : r.contains m s = false
  no_redirect : r.redirectFor? m s = none
  not_answered : ¬(m = .options ∧ r.config.handleOptions = true)
  enabled : r.config.handleMethodNotAllowed = true
  some_allowed : r.allowed s ≠ []

@[simp] theorem redirectFor?_lookup (s s' : String) (m' : Method) :
    (r.lookup m s).2.redirectFor? m' s' = r.redirectFor? m' s' := by
  unfold lookup
  split
  · rfl
  · split <;> rfl

@[simp] theorem fallback_lookup (s s' : String) (m' : Method) :
    (r.lookup m s).2.fallback m' s' = r.fallback m' s' := by
  unfold lookup
  split
  · rfl
  · split <;> rfl

theorem serves_of_mem_allowed {s : String} (hm : m ∈ r.allowed s) (hopt : m ≠ .options) :
    r.Serves s m := by
  rw [allowed_eq] at hm
  split at hm
  · simp at hm
  · rcases List.mem_append.mp hm with hm | hm
    · exact mem_methodsWithHead_iff_serves.mp hm
    · exact absurd (List.mem_singleton.mp hm) hopt

theorem contains_of_mem_allowed {s : String} (hm : m ∈ r.allowed s) (hopt : m ≠ .options)
    (hs : s ≠ "*") : r.contains m s = true := by
  -- a listed method is served, and away from `*` that is a successful lookup
  have hserves := serves_of_mem_allowed hm hopt
  rw [← isSome_lookup]
  simpa [Serves, hs] using hserves.2

theorem options_mem_allowed {s : String} (h : r.allowed s ≠ []) : Method.options ∈ r.allowed s := by
  rw [allowed_eq] at h ⊢
  by_cases hw : (r.methodsWithHead s).isEmpty = true
  · simp [hw] at h
  · simp [hw]

theorem mem_allowed_of_serves {s : String} (h : r.Serves s m) : m ∈ r.allowed s := by
  have hw := mem_methodsWithHead_iff_serves.mpr h
  have hne : (r.methodsWithHead s).isEmpty = false :=
    List.isEmpty_eq_false_iff.mpr (List.ne_nil_of_mem hw)
  rw [allowed_eq, if_neg (by simp [hne])]
  exact List.mem_append_left _ hw

theorem fallback_of_refusing {s : String} (hopt : ¬(m = .options ∧ r.config.handleOptions = true))
    (hon : r.config.handleMethodNotAllowed = true) (hsome : r.allowed s ≠ []) :
    r.fallback m s =
      r.methodNotAllowed.elim (.methodNotAllowed (r.allowed s)) fun h => .handled h none := by
  have hbranch : (m == .options && r.config.handleOptions) = false := by
    cases hm : (m == .options) <;> cases hh : r.config.handleOptions <;> simp_all
  have hnonempty : (r.allowed s).isEmpty = false := List.isEmpty_eq_false_iff.mpr hsome
  unfold fallback
  dsimp only
  rw [if_neg (by simp [hbranch]), if_pos hon, if_neg (by simp [hnonempty])]
  cases r.methodNotAllowed <;> rfl

theorem refusing_of_fallback {s : String} {allow : List Method}
    (h : r.fallback m s = .methodNotAllowed allow) :
    ¬(m = .options ∧ r.config.handleOptions = true) ∧ r.config.handleMethodNotAllowed = true ∧
      r.allowed s ≠ [] ∧ r.methodNotAllowed = none ∧ allow = r.allowed s := by
  unfold fallback at h
  dsimp only at h
  split at h
  · -- the automatic `OPTIONS` branch answers the list as `OPTIONS`, or not found
    split at h
    · split at h <;> cases h
    · split at h <;> cases h
  · rename_i hbranch
    split at h
    · rename_i hon
      split at h
      · split at h <;> cases h
      · rename_i hnonempty
        cases hc : r.methodNotAllowed with
        | some c => simp [hc] at h
        | none =>
          simp only [hc, Response.methodNotAllowed.injEq] at h
          refine ⟨fun ⟨hm, hh⟩ => hbranch (by simp [hm, hh]), hon, fun hnil => ?_, rfl, h.symm⟩
          simp [hnil] at hnonempty
    · split at h <;> cases h

theorem serve_of_miss {uriPath : String} (hmiss : r.contains m (r.routedPath uriPath) = false)
    (hredirect : r.redirectFor? m (r.routedPath uriPath) = none) :
    (r.serve m uriPath).1 = r.fallback m (r.routedPath uriPath) := by
  have hnone : (r.lookup m (r.routedPath uriPath)).1 = none := by
    rw [← Option.not_isSome_iff_eq_none, isSome_lookup, hmiss]
    simp
  unfold serve
  dsimp only
  split
  · rename_i found r' hl
    rw [hl] at hnone
    cases hnone
  · rename_i r' hl
    have hr' : r' = (r.lookup m (r.routedPath uriPath)).2 := by rw [hl]
    rw [hr', redirectFor?_lookup, hredirect, fallback_lookup]

theorem serve_of_refuses {uriPath : String} (h : r.Refuses m (r.routedPath uriPath)) :
    (r.serve m uriPath).1 = r.methodNotAllowed.elim
      (.methodNotAllowed (r.allowed (r.routedPath uriPath))) fun h => .handled h none := by
  rw [serve_of_miss h.no_route h.no_redirect,
    fallback_of_refusing h.not_answered h.enabled h.some_allowed]

theorem refuses_of_serve {uriPath : String} {allow : List Method}
    (h : (r.serve m uriPath).1 = .methodNotAllowed allow) :
    r.Refuses m (r.routedPath uriPath) ∧ allow = r.allowed (r.routedPath uriPath) := by
  unfold serve at h
  dsimp only at h
  split at h
  · cases h
  · rename_i r' hl
    have hr' : r' = (r.lookup m (r.routedPath uriPath)).2 := by rw [hl]
    have hmiss : r.contains m (r.routedPath uriPath) = false := by
      rw [← isSome_lookup, hl]
      rfl
    rw [hr', redirectFor?_lookup] at h
    split at h
    · rename_i answer hanswer
      obtain ⟨-, -, rfl⟩ := redirectFor?_eq_some hanswer
      cases h
    · rename_i hredirect
      rw [fallback_lookup] at h
      obtain ⟨hopt, hon, hsome, -, hallow⟩ := refusing_of_fallback h
      exact ⟨⟨hmiss, hredirect, hopt, hon, hsome⟩, hallow⟩

theorem refusal_omits_method (r : Router α) (m : Method) (uriPath : String) :
    (∀ allow, (r.serve m uriPath).1 = .methodNotAllowed allow →
        r.Refuses m (r.routedPath uriPath) ∧ allow = r.allowed (r.routedPath uriPath)) ∧
      (r.Refuses m (r.routedPath uriPath) →
        (r.serve m uriPath).1 = r.methodNotAllowed.elim
          (.methodNotAllowed (r.allowed (r.routedPath uriPath))) (fun h => .handled h none) ∧
        (m ≠ .options → r.routedPath uriPath ≠ "*" → m ∉ r.allowed (r.routedPath uriPath)) ∧
        (m = .options →
          r.config.handleOptions = false ∧ m ∈ r.allowed (r.routedPath uriPath))) := by
  refine ⟨fun allow h => refuses_of_serve h, fun h => ⟨serve_of_refuses h, ?_, ?_⟩⟩
  · intro hopt hs hm
    have := contains_of_mem_allowed hm hopt hs
    rw [h.no_route] at this
    cases this
  · rintro rfl
    refine ⟨?_, options_mem_allowed h.some_allowed⟩
    cases hh : r.config.handleOptions with
    | false => rfl
    | true => exact absurd ⟨rfl, hh⟩ h.not_answered

def optionsOffRouter : Router Nat :=
  { config := { handleOptions := false }, pool := Pool.withBound 1000,
    table := ⟨[⟨.get, "/users", ⟨"/users", []⟩, 1⟩]⟩ }

theorem refusal_lists_method :
    (optionsOffRouter.serve .options "/users").1 =
        .methodNotAllowed (optionsOffRouter.allowed "/users") ∧
      Method.options ∈ optionsOffRouter.allowed "/users" := by
  -- the `GET` route makes `/users` allow methods, and none serves `OPTIONS`
  have hpath : optionsOffRouter.routedPath "/users" = "/users" := by decide
  have hget : optionsOffRouter.table.contains .get "/users" = true := by
    rw [RouteTable.contains_of_head (by decide)]
    decide
  have hmiss : optionsOffRouter.table.contains .options "/users" = false := by
    rw [RouteTable.contains_of_head (by decide)]
    decide
  have hmiss' : optionsOffRouter.table.contains .options "/users/" = false := by
    rw [RouteTable.contains_of_head (by decide)]
    decide
  have hserves : optionsOffRouter.Serves "/users" .get :=
    serves_iff.mpr ⟨by decide, Or.inl (by simp [hget])⟩
  have hallowed : optionsOffRouter.allowed "/users" ≠ [] :=
    List.ne_nil_of_mem (mem_allowed_of_serves hserves)
  have hrefuse : optionsOffRouter.Refuses .options "/users" := by
    refine ⟨?_, ?_, by simp [optionsOffRouter], rfl, hallowed⟩
    · simp [contains, hmiss, fallsBackToGet]
    · have halt : alternate "/users" = "/users/" := by decide
      simp [redirectFor?, halt, contains, hmiss', fallsBackToGet]
  refine ⟨?_, options_mem_allowed hallowed⟩
  rw [serve_of_refuses (hpath ▸ hrefuse), hpath]
  rfl

end Router

end PrefixRouter
