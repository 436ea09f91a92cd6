import PrefixRouter.Proofs.Refused

/-!
`OPTIONS *`. `allowed "*"` lists every method with a route, but `serve` answers from the routed
path, and with `cleanPath` on `*` is routed as `/*` (`routedPath_asterisk`).
-/

namespace PrefixRouter

namespace Router

variable {α : Type} {r : Router α}

theorem routedPath_asterisk (r : Router α) :
    r.routedPath "*" = if r.config.cleanPath then "/*" else "*" := by
  have hclean : Path.clean "*" = "/*" := by decide
  unfold routedPath
  cases r.config.cleanPath
  · rfl
  · exact hclean

theorem contains_of_no_route {m : Method} (hnone : ¬ r.HasRoute m)
    (hget : r.fallsBackToGet m = false) (s : String) : r.contains m s = false := by
  have htable : r.table.contains m s = false := by
    cases h : r.table.contains m s with
    | false => rfl
    | true => exact absurd (hasRoute_of_contains h) hnone
  simp [contains, htable, hget]

theorem redirectFor?_of_not_contains {m : Method} {s : String}
    (h : r.contains m (alternate s) = false) : r.redirectFor? m s = none := by
  unfold redirectFor?
  split
  · simp [h]
  · rfl

theorem fallback_options {s : String} (hopt : r.config.handleOptions = true) :
    r.fallback .options s =
      if r.allowed s = [] then r.notFound.elim .notFound (fun h => .handled h none)
      else r.globalOptions.elim (.options (r.allowed s)) (fun h => .handled h none) := by
  unfold fallback
  by_cases hempty : r.allowed s = []
  · simp only [hempty, hopt, if_true, beq_self_eq_true, Bool.and_self, List.isEmpty_nil]
    cases r.notFound <;> rfl
  · simp only [hempty, hopt, if_false, beq_self_eq_true, Bool.and_self, if_true]
    rw [if_neg (by simpa using hempty)]
    cases r.globalOptions <;> rfl

theorem serve_options_of_no_route (hopt : r.config.handleOptions = true)
    (hnone : ¬ r.HasRoute .options) (uriPath : String) :
    (r.serve .options uriPath).1 =
      if r.allowed (r.routedPath uriPath) = [] then
        r.notFound.elim .notFound (fun h => .handled h none)
      else r.globalOptions.elim (.options (r.allowed (r.routedPath uriPath)))
        (fun h => .handled h none) := by
  have hmiss (s : String) : r.contains .options s = false :=
    contains_of_no_route hnone (by simp [fallsBackToGet]) s
  rw [serve_of_miss (hmiss _) (redirectFor?_of_not_contains (hmiss _)), fallback_options hopt]

theorem mem_allowed_asterisk (hnone : ¬ r.HasRoute .options)
    (hsome : ∃ m, m ≠ .options ∧ r.HasRoute m) {m : Method} :
    m ∈ r.allowed "*" ↔
      m = .options ∨ r.HasRoute m ∨ (m = .head ∧ r.config.headToGet = true ∧ r.HasRoute .get) := by
  have hserves {m : Method} : r.Serves "*" m ↔ m ≠ .options ∧
      (r.HasRoute m ∨ (m = .head ∧ r.config.headToGet = true ∧ r.HasRoute .get)) := by
    simp [Serves]
  obtain ⟨m₀, hne₀, hroute₀⟩ := hsome
  have hlisted : r.allowed "*" ≠ [] :=
    List.ne_nil_of_mem (mem_allowed_of_serves (hserves.mpr ⟨hne₀, Or.inl hroute₀⟩))
  constructor
  · intro hm
    by_cases hopt : m = .options
    · exact Or.inl hopt
    · exact Or.inr (hserves.mp (serves_of_mem_allowed hm hopt)).2
  · rintro (rfl | hroute | ⟨rfl, hflag, hget⟩)
    · exact options_mem_allowed hlisted
    · -- no route has `OPTIONS`, so a method with a route is another one
      have hne : m ≠ .options := by
        rintro rfl
        exact hnone hroute
      exact mem_allowed_of_serves (hserves.mpr ⟨hne, Or.inl hroute⟩)
    · exact mem_allowed_of_serves (hserves.mpr ⟨by decide, Or.inr ⟨rfl, hflag, hget⟩⟩)

theorem serve_options_asterisk (r : Router α) (hopt : r.config.handleOptions = true)
    (hnone : ¬ r.HasRoute .options) (hsome : ∃ m, m ≠ .options ∧ r.HasRoute m) :
    (r.config.cleanPath = false →
      (r.serve .options "*").1 =
          r.globalOptions.elim (.options (r.allowed "*")) (fun h => .handled h none) ∧
        ∀ m, m ∈ r.allowed "*" ↔
          m = .options ∨ r.HasRoute m ∨ (m = .head ∧ r.config.headToGet = true ∧ r.HasRoute .get)) ∧
      (r.config.cleanPath = true →
        (r.serve .options "*").1 =
          if r.allowed "/*" = [] then r.notFound.elim .notFound (fun h => .handled h none)
          else r.globalOptions.elim (.options (r.allowed "/*")) (fun h => .handled h none)) := by
  refine ⟨fun hraw => ⟨?_, fun m => mem_allowed_asterisk hnone hsome⟩, fun hclean => ?_⟩
  · have hlisted : r.allowed "*" ≠ [] :=
      List.ne_nil_of_mem ((mem_allowed_asterisk hnone hsome).mpr (Or.inl rfl))
    rw [serve_options_of_no_route hopt hnone, routedPath_asterisk, hraw]
    exact if_neg hlisted
  · rw [serve_options_of_no_route hopt hnone, routedPath_asterisk, hclean]
    rfl

def homeRouter : Router Nat :=
  { config := {}, pool := Pool.withBound 1000, table := ⟨[⟨.get, "/home", ⟨"/home", []⟩, 1⟩]⟩ }

theorem serve_options_asterisk_raw :
    ({ homeRouter with config := { cleanPath := false } }.serve .options "*").1 =
      .options ({ homeRouter with config := { cleanPath := false } }.allowed "*") :=
  ((serve_options_asterisk { homeRouter with config := { cleanPath := false } } rfl
    (by simp [HasRoute, homeRouter]) ⟨.get, by decide, by simp [HasRoute, homeRouter]⟩).1 rfl).1

/-- `OPTIONS *` under the default settings: `*` is routed as `/*`, which no route takes, so the
answer is `404`, although `*` allows `GET`, `HEAD` and `OPTIONS`. -/
theorem serve_options_asterisk_not_found :
    (homeRouter.serve .options "*").1 = .notFound ∧
      ∀ m, m ∈ homeRouter.allowed "*" ↔ m = .get ∨ m = .head ∨ m = .options := by
  have hmethods : homeRouter.table.methods = [.get] := by
    simp [RouteTable.methods, homeRouter, List.eraseDups_cons]
  have hhead : homeRouter.config.headToGet = true := rfl
  have hclean : homeRouter.config.cleanPath = true := rfl
  have hmiss : homeRouter.table.contains .get "/*" = false := by
    rw [RouteTable.contains_of_head (by decide)]
    decide
  have hnothing : homeRouter.allowed "/*" = [] := by
    simp [allowed, hmethods, hmiss]
  refine ⟨?_, fun m => ?_⟩
  · rw [serve_options_of_no_route rfl (by simp [HasRoute, homeRouter]), routedPath_asterisk,
      hclean, if_pos rfl, hnothing]
    rfl
  · rw [allowed_eq]
    simp [methodsWithHead, foundMethods, hmethods, hhead]

end Router

end PrefixRouter
