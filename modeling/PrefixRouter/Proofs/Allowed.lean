import PrefixRouter.Proofs.Redirect

namespace PrefixRouter

namespace Router

variable {α : Type}

def HasRoute (r : Router α) (m : Method) : Prop := ∃ route ∈ r.table.routes, route.method = m

def Serves (r : Router α) (s : String) (m : Method) : Prop :=
  m ≠ .options ∧
    if s = "*" then r.HasRoute m ∨ (m = .head ∧ r.config.headToGet = true ∧ r.HasRoute .get)
    else (r.lookup m s).1.isSome = true

def foundMethods (r : Router α) (s : String) : List Method :=
  r.table.methods.filter fun m => m != .options && (s == "*" || r.table.contains m s)

def methodsWithHead (r : Router α) (s : String) : List Method :=
  if r.config.headToGet && (r.foundMethods s).contains .get && !(r.foundMethods s).contains .head
  then r.foundMethods s ++ [.head]
  else r.foundMethods s

theorem allowed_eq (r : Router α) (s : String) :
    r.allowed s =
      if (r.methodsWithHead s).isEmpty then [] else r.methodsWithHead s ++ [.options] := rfl

theorem hasRoute_of_contains {r : Router α} {m : Method} {s : String}
    (h : r.table.contains m s = true) : r.HasRoute m := by
  obtain ⟨⟨route, b⟩, hfind⟩ := Option.isSome_iff_exists.mp h
  exact ⟨route, RouteTable.mem_routes_of_find hfind, RouteTable.method_of_find hfind⟩

theorem mem_foundMethods {r : Router α} {s : String} {m : Method} :
    m ∈ r.foundMethods s ↔
      m ≠ .options ∧ if s = "*" then r.HasRoute m else r.table.contains m s = true := by
  simp only [foundMethods, List.mem_filter, RouteTable.mem_methods, Bool.and_eq_true, bne_iff_ne,
    Bool.or_eq_true, beq_iff_eq]
  by_cases hs : s = "*"
  · simp only [hs, true_or, and_true, if_true, HasRoute]
    exact and_comm
  · simp only [hs, false_or, if_false]
    constructor
    · rintro ⟨-, hm, hc⟩
      exact ⟨hm, hc⟩
    · rintro ⟨hm, hc⟩
      exact ⟨hasRoute_of_contains hc, hm, hc⟩

theorem mem_methodsWithHead {r : Router α} {s : String} {m : Method} :
    m ∈ r.methodsWithHead s ↔
      m ∈ r.foundMethods s ∨
        (m = .head ∧ r.config.headToGet = true ∧ .get ∈ r.foundMethods s) := by
  unfold methodsWithHead
  split
  · rename_i hadd
    simp only [List.contains_eq_mem, Bool.and_eq_true, decide_eq_true_eq, Bool.not_eq_true',
      decide_eq_false_iff_not] at hadd
    simp only [List.mem_append, List.mem_singleton]
    constructor
    · rintro (hm | rfl)
      · exact Or.inl hm
      · exact Or.inr ⟨rfl, hadd.1.1, hadd.1.2⟩
    · rintro (hm | ⟨rfl, -⟩)
      · exact Or.inl hm
      · exact Or.inr rfl
  · rename_i hkeep
    -- without the addition, `HEAD` is only wanted when it is already there
    constructor
    · exact Or.inl
    · rintro (hm | ⟨rfl, hflag, hget⟩)
      · exact hm
      · simpa [hflag, hget] using hkeep

theorem nodup_methodsWithHead (r : Router α) (s : String) : (r.methodsWithHead s).Nodup := by
  have hfound : (r.foundMethods s).Nodup := (RouteTable.nodup_methods r.table).filter _
  unfold methodsWithHead
  split
  · rename_i hadd
    simp only [List.contains_eq_mem, Bool.and_eq_true, Bool.not_eq_true',
      decide_eq_false_iff_not] at hadd
    refine List.nodup_append.mpr ⟨hfound, by simp, ?_⟩
    rintro a ha b hb rfl
    exact hadd.2 (List.mem_singleton.mp hb ▸ ha)
  · exact hfound

theorem options_not_mem_methodsWithHead (r : Router α) (s : String) :
    .options ∉ r.methodsWithHead s := by
  rw [mem_methodsWithHead, mem_foundMethods]
  rintro (⟨hne, -⟩ | ⟨hhead, -⟩)
  · exact hne rfl
  · cases hhead

theorem serves_iff {r : Router α} {s : String} {m : Method} :
    r.Serves s m ↔ m ≠ .options ∧
      ((if s = "*" then r.HasRoute m else r.table.contains m s = true) ∨
        (m = .head ∧ r.config.headToGet = true ∧
          if s = "*" then r.HasRoute .get else r.table.contains .get s = true)) := by
  by_cases hs : s = "*"
  · simp only [Serves, hs, if_true]
  · -- a router lookup falls back to `GET` exactly for `HEAD` under `headToGet`
    simp only [Serves, hs, if_false, isSome_lookup, contains, fallsBackToGet, Bool.or_eq_true,
      Bool.and_eq_true, beq_iff_eq]
    constructor
    · rintro ⟨hne, hm | ⟨⟨hflag, rfl⟩, hget⟩⟩
      · exact ⟨hne, Or.inl hm⟩
      · exact ⟨hne, Or.inr ⟨rfl, hflag, hget⟩⟩
    · rintro ⟨hne, hm | ⟨rfl, hflag, hget⟩⟩
      · exact ⟨hne, Or.inl hm⟩
      · exact ⟨hne, Or.inr ⟨⟨hflag, rfl⟩, hget⟩⟩

theorem mem_methodsWithHead_iff_serves {r : Router α} {s : String} {m : Method} :
    m ∈ r.methodsWithHead s ↔ r.Serves s m := by
  rw [mem_methodsWithHead, mem_foundMethods, mem_foundMethods, serves_iff]
  constructor
  · rintro (⟨hne, hm⟩ | ⟨rfl, hflag, -, hget⟩)
    · exact ⟨hne, Or.inl hm⟩
    · exact ⟨by decide, Or.inr ⟨rfl, hflag, hget⟩⟩
  · rintro ⟨hne, hm | ⟨rfl, hflag, hget⟩⟩
    · exact Or.inl ⟨hne, hm⟩
    · exact Or.inr ⟨rfl, hflag, by decide, hget⟩

theorem allowed_answers (r : Router α) (s : String) :
    (r.allowed s).Nodup ∧
      ∀ m, m ∈ r.allowed s ↔ r.Serves s m ∨ (m = .options ∧ ∃ m', r.Serves s m') := by
  rw [allowed_eq]
  constructor
  · split
    · exact List.nodup_nil
    · refine List.nodup_append.mpr ⟨nodup_methodsWithHead r s, by simp, ?_⟩
      rintro a ha b hb rfl
      exact options_not_mem_methodsWithHead r s (List.mem_singleton.mp hb ▸ ha)
  · intro m
    split
    · rename_i hempty
      -- nothing is served, so nothing is allowed, `OPTIONS` included
      have hnone : ∀ m', ¬ r.Serves s m' := fun m' hm' => by
        rw [List.isEmpty_iff] at hempty
        rw [← mem_methodsWithHead_iff_serves, hempty] at hm'
        exact List.not_mem_nil hm'
      simp only [List.not_mem_nil, false_iff, not_or, not_and]
      exact ⟨hnone m, fun _ ⟨m', hm'⟩ => hnone m' hm'⟩
    · rename_i hsome
      have hone : ∃ m', r.Serves s m' := by
        obtain ⟨m', hm'⟩ := List.exists_mem_of_ne_nil _ (fun h => hsome (List.isEmpty_iff.mpr h))
        exact ⟨m', mem_methodsWithHead_iff_serves.mp hm'⟩
      simp only [List.mem_append, List.mem_singleton, mem_methodsWithHead_iff_serves, hone,
        and_true]

end Router

end PrefixRouter
