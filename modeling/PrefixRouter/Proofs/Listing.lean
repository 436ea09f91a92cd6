import PrefixRouter.Table.Basic

namespace PrefixRouter

def Pattern.stem? (pattern : String) : Option String :=
  match Pattern.compile pattern with
  | .ok p => some p.stem
  | .error _ => none

theorem filter_mergeSort_of_related {β : Type} {le : β → β → Bool}
    (trans : ∀ a b c, le a b → le b c → le a c) (total : ∀ a b, (le a b || le b a) = true)
    (P : β → Bool) {l : List β} (hP : ∀ a ∈ l, ∀ b ∈ l, P a → P b → le a b) :
    (l.mergeSort le).filter P = l.filter P := by
  have hpair : (l.filter P).Pairwise fun a b => le a b := by
    apply List.pairwise_of_forall_mem_list
    intro a ha b hb
    rw [List.mem_filter] at ha hb
    exact hP a ha.1 b hb.1 ha.2 hb.2
  have hsub : List.Sublist (l.filter P) ((l.mergeSort le).filter P) := by
    have h := (List.sublist_mergeSort trans total hpair List.filter_sublist).filter P
    rwa [List.filter_filter, show (fun a => P a && P a) = P by funext a; simp] at h
  have hlen : ((l.mergeSort le).filter P).length = (l.filter P).length :=
    ((List.mergeSort_perm l le).filter P).length_eq
  exact (hsub.eq_of_length hlen.symm).symm

namespace Route

variable {α : Type}

theorem listedBefore_iff (r s : Route α) :
    r.listedBefore s = true ↔
      r.method.name < s.method.name ∨
        (r.method.name = s.method.name ∧ r.compiled.stem ≤ s.compiled.stem) := by
  simp [listedBefore]

theorem listedBefore_total (r s : Route α) : (r.listedBefore s || s.listedBefore r) = true := by
  rw [Bool.or_eq_true, listedBefore_iff, listedBefore_iff]
  by_cases hrs : r.method.name < s.method.name
  · exact Or.inl (Or.inl hrs)
  by_cases hsr : s.method.name < r.method.name
  · exact Or.inr (Or.inl hsr)
  have hname : r.method.name = s.method.name :=
    String.le_antisymm (String.not_lt.mp hsr) (String.not_lt.mp hrs)
  rcases String.le_total r.compiled.stem s.compiled.stem with hle | hle
  · exact Or.inl (Or.inr ⟨hname, hle⟩)
  · exact Or.inr (Or.inr ⟨hname.symm, hle⟩)

theorem listedBefore_trans (r s u : Route α) (h₁ : r.listedBefore s = true)
    (h₂ : s.listedBefore u = true) : r.listedBefore u = true := by
  rw [listedBefore_iff] at h₁ h₂ ⊢
  rcases h₁ with h₁ | ⟨hn₁, hs₁⟩ <;> rcases h₂ with h₂ | ⟨hn₂, hs₂⟩
  · exact Or.inl (String.lt_trans h₁ h₂)
  · exact Or.inl (hn₂ ▸ h₁)
  · exact Or.inl (hn₁ ▸ h₂)
  · exact Or.inr ⟨hn₁.trans hn₂, String.le_trans hs₁ hs₂⟩

end Route

namespace RouteTable

variable {α : Type}

/-- A table whose routes were all registered through `insert`: each route carries the compiled
form of its own pattern. -/
def Built (t : RouteTable α) : Prop :=
  ∀ r ∈ t.routes, Pattern.compile r.pattern = .ok r.compiled

theorem routeList_perm (t : RouteTable α) :
    t.routeList.Perm (t.routes.map fun r => (r.method, r.pattern)) :=
  (List.mergeSort_perm t.routes Route.listedBefore).map _

theorem filter_routeList {t : RouteTable α} (ht : t.Built) (m : Method) (key : String) :
    t.routeList.filter (fun e => e.1 == m && Pattern.stem? e.2 == some key) =
      (t.routes.map fun r => (r.method, r.pattern)).filter
        fun e => e.1 == m && Pattern.stem? e.2 == some key := by
  rw [routeList, List.filter_map, List.filter_map]
  congr 1
  apply filter_mergeSort_of_related Route.listedBefore_trans Route.listedBefore_total
  -- two routes of the group have one method and one stem, so each is listed before the other
  intro a ha b hb hPa hPb
  simp only [Function.comp, Bool.and_eq_true, beq_iff_eq, Pattern.stem?, ht a ha, ht b hb,
    Option.some.injEq] at hPa hPb
  rw [Route.listedBefore_iff, hPa.1, hPb.1, hPa.2, hPb.2]
  exact Or.inr ⟨rfl, String.le_refl _⟩

theorem nodup_eraseDups {β : Type} [BEq β] [LawfulBEq β] (l : List β) : l.eraseDups.Nodup := by
  match l with
  | [] => simp
  | a :: as =>
    rw [List.eraseDups_cons, List.nodup_cons]
    refine ⟨?_, nodup_eraseDups _⟩
    simp
termination_by l.length
decreasing_by simpa using Nat.lt_succ_of_le (List.length_filter_le _ as)

theorem nodup_methods (t : RouteTable α) : t.methods.Nodup :=
  ((List.mergeSort_perm _ _).nodup_iff).mpr (nodup_eraseDups _)

theorem mem_methods (t : RouteTable α) (m : Method) :
    m ∈ t.methods ↔ ∃ r ∈ t.routes, r.method = m := by
  simp [methods]

end RouteTable

end PrefixRouter
