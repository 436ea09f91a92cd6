import PrefixRouter.Proofs.Registration
import PrefixRouter.Proofs.Shadowing

namespace PrefixRouter

section Sorting

variable {β : Type} {le : β → β → Bool}

theorem mem_of_filter_eq (total : ∀ a b, (le a b || le b a) = true) {l₁ l₂ : List β}
    (h : ∀ a, l₁.filter (fun b => le a b && le b a) = l₂.filter (fun b => le a b && le b a))
    {a : β} (ha : a ∈ l₁) : a ∈ l₂ := by
  have hrefl : (le a a && le a a) = true := by simpa using total a a
  have hmem : a ∈ l₁.filter (fun b => le a b && le b a) := List.mem_filter.mpr ⟨ha, hrefl⟩
  rw [h a] at hmem
  exact (List.mem_filter.mp hmem).1

theorem eq_of_pairwise_of_filter_eq (total : ∀ a b, (le a b || le b a) = true)
    {l₁ l₂ : List β} (h₁ : l₁.Pairwise fun a b => le a b = true)
    (h₂ : l₂.Pairwise fun a b => le a b = true)
    (h : ∀ a, l₁.filter (fun b => le a b && le b a) = l₂.filter (fun b => le a b && le b a)) :
    l₁ = l₂ := by
  induction l₁ generalizing l₂ with
  | nil =>
    cases l₂ with
    | nil => rfl
    | cons y ys =>
      have := mem_of_filter_eq total (fun a => (h a).symm) (List.mem_cons_self : y ∈ y :: ys)
      cases this
  | cons x xs ih =>
    cases l₂ with
    | nil => cases mem_of_filter_eq total h (List.mem_cons_self : x ∈ x :: xs)
    | cons y ys =>
      have hrefl (a : β) : le a a = true := by simpa using total a a
      -- each head is the least element of its list, so the two heads are in one class
      have hyx : le y x = true := by
        rcases List.mem_cons.mp (mem_of_filter_eq total h List.mem_cons_self) with rfl | hx
        · exact hrefl _
        · exact List.rel_of_pairwise_cons h₂ hx
      have hxy : le x y = true := by
        rcases List.mem_cons.mp (mem_of_filter_eq total (fun a => (h a).symm)
          (List.mem_cons_self : y ∈ y :: ys)) with rfl | hy
        · exact hrefl _
        · exact List.rel_of_pairwise_cons h₁ hy
      have hhead := h x
      rw [List.filter_cons, List.filter_cons, if_pos (by simp [hrefl x]),
        if_pos (by simp [hxy, hyx])] at hhead
      obtain ⟨rfl, -⟩ := List.cons.inj hhead
      rw [ih h₁.of_cons h₂.of_cons]
      intro a
      have ha := h a
      rw [List.filter_cons, List.filter_cons] at ha
      split at ha
      · exact (List.cons.inj ha).2
      · exact ha

theorem mergeSort_eq_of_filter_eq (trans : ∀ a b c, le a b → le b c → le a c)
    (total : ∀ a b, (le a b || le b a) = true) {l₁ l₂ : List β}
    (h : ∀ a, l₁.filter (fun b => le a b && le b a) = l₂.filter (fun b => le a b && le b a)) :
    l₁.mergeSort le = l₂.mergeSort le := by
  -- a class is related pairwise, so the stable sort keeps its order
  have hclass (l : List β) (a : β) :
      (l.mergeSort le).filter (fun b => le a b && le b a) = l.filter (fun b => le a b && le b a) := by
    apply filter_mergeSort_of_related trans total
    intro b _ c _ hb hc
    simp only [Bool.and_eq_true] at hb hc
    exact trans b a c hb.2 hc.1
  apply eq_of_pairwise_of_filter_eq total (List.pairwise_mergeSort trans total l₁)
    (List.pairwise_mergeSort trans total l₂)
  intro a
  rw [hclass, hclass, h a]

end Sorting

theorem Route.listedBefore_both {α : Type} (a b : Route α) :
    (a.listedBefore b && b.listedBefore a) =
      (b.method.name == a.method.name && b.compiled.stem == a.compiled.stem) := by
  apply Bool.eq_iff_iff.mpr
  rw [Bool.and_eq_true, Route.listedBefore_iff, Route.listedBefore_iff]
  simp only [Bool.and_eq_true, beq_iff_eq]
  constructor
  · rintro ⟨hab | ⟨hn, hs⟩, hba | ⟨hn', hs'⟩⟩
    · exact absurd (String.lt_trans hab hba) (String.lt_irrefl _)
    · exact absurd hab (hn' ▸ String.lt_irrefl _)
    · exact absurd hba (hn ▸ String.lt_irrefl _)
    · exact ⟨hn.symm, String.le_antisymm hs' hs⟩
  · rintro ⟨hn, hs⟩
    exact ⟨Or.inr ⟨hn.symm, hs ▸ String.le_refl _⟩, Or.inr ⟨hn, hs ▸ String.le_refl _⟩⟩

namespace RouteTable

variable {α : Type} {T T' : RouteTable α} {m : Method}

theorem find_eq_of_bucket_eq (h : ∀ key, T'.bucket m key = T.bucket m key) (s : List Char) :
    T'.find m s = T.find m s := by
  apply find_congr _ h
  funext key
  have hany := congrArg (List.any · fun _ => true) (h key)
  simpa [bucket, hasStem, List.any_filter] using hany

theorem methods_perm (h : T.routes.Perm T'.routes) : T.methods.Perm T'.methods := by
  rw [List.perm_ext_iff_of_nodup (nodup_methods T) (nodup_methods T')]
  intro m
  simp only [mem_methods, h.mem_iff]

end RouteTable

namespace Router

variable {α : Type}

theorem allowed_perm (r : Router α) {t₁ t₂ : RouteTable α} (hmethods : t₁.methods.Perm t₂.methods)
    (hcontains : ∀ m path, t₁.contains m path = t₂.contains m path) (path : String) :
    ({ r with table := t₁ }.allowed path).Perm ({ r with table := t₂ }.allowed path) := by
  have hfound : (t₁.methods.filter fun m => m != .options && (path == "*" || t₁.contains m path)).Perm
      (t₂.methods.filter fun m => m != .options && (path == "*" || t₂.contains m path)) := by
    simp only [hcontains]
    exact hmethods.filter _
  simp only [allowed]
  rw [hfound.contains_eq, hfound.contains_eq]
  split
  · rw [(hfound.append_right [Method.head]).isEmpty_eq]
    split
    · exact List.Perm.refl _
    · exact (hfound.append_right _).append_right _
  · rw [hfound.isEmpty_eq]
    split
    · exact List.Perm.refl _
    · exact hfound.append_right _

end Router

namespace Call

variable {ι α : Type}

def bucket? (c : Call ι α) : Option (ι × Method × String) :=
  c.compiled?.map fun p => (c.table, c.method, p.stem)

def listKey? (c : Call ι α) : Option (ι × String × String) :=
  c.compiled?.map fun p => (c.table, c.method.name, p.stem)

def Readable (c : Call ι α) : Prop := Method.parse? c.method.name = some c.method

instance (c : Call ι α) : Decidable c.Readable :=
  inferInstanceAs (Decidable (Method.parse? c.method.name = some c.method))

theorem filter_listKey? {cs : List (Call ι α)} (hread : ∀ c ∈ cs, c.Readable) (i : ι)
    (n st : String) [DecidableEq ι] :
    cs.filter (fun c => c.listKey? = some (i, n, st)) =
      match Method.parse? n with
      | some m => cs.filter fun c => c.bucket? = some (i, m, st)
      | none => [] := by
  cases hn : Method.parse? n with
  | none =>
    rw [List.filter_eq_nil_iff]
    intro c hc hkey
    have hname : c.method.name = n := by
      cases hcomp : c.compiled? <;> simp_all [listKey?]
    rw [← hname, hread c hc] at hn
    cases hn
  | some m =>
    apply List.filter_congr
    intro c hc
    -- a readable method is the one its name reads as, so equal names mean equal methods
    have hname : c.method.name = n ↔ c.method = m := by
      constructor
      · rintro rfl
        rw [hread c hc] at hn
        exact Option.some.inj hn
      · rintro rfl
        exact Method.name_of_parse? hn
    cases hcomp : c.compiled? <;> simp [listKey?, bucket?, hcomp, hname]

end Call

namespace Shared

variable {ι α : Type} [DecidableEq ι]

theorem pool_run (s : Shared ι α) (cs : List (Call ι α)) :
    (s.run cs).pool =
      s.pool.reserve (((cs.filterMap Call.compiled?).map Pattern.paramCount).foldr max 0) := by
  induction cs generalizing s with
  | nil => simp [run, Pool.reserve]
  | cons c cs ih =>
    rw [run_cons, ih]
    cases hc : Pattern.compile c.pattern with
    | error e =>
      rw [step_of_compile_error hc]
      simp [Call.compiled?_of_compile_error hc]
    | ok p =>
      rw [step_of_compile_ok hc, pool_setTable, Pool.reserve_reserve]
      simp [Call.compiled?_of_compile_ok hc]

theorem routes_run_perm (s : Shared ι α) {cs₁ cs₂ : List (Call ι α)} (h : cs₁.Perm cs₂) (i : ι) :
    ((s.run cs₁).tables i).routes.Perm ((s.run cs₂).tables i).routes := by
  rw [routes_run, routes_run]
  exact ((h.filter _).filterMap _).append_left _

theorem pool_run_perm (s : Shared ι α) {cs₁ cs₂ : List (Call ι α)} (h : cs₁.Perm cs₂) :
    (s.run cs₁).pool = (s.run cs₂).pool := by
  rw [pool_run, pool_run, ((h.filterMap _).map _).foldr_eq' (fun x _ y _ z => Nat.max_left_comm y x z)]

theorem filter_routes_run (s : Shared ι α) (cs : List (Call ι α)) (i : ι) (P : Route α → Bool) :
    ((s.run cs).tables i).routes.filter P =
      (s.tables i).routes.filter P ++
        (cs.filter fun c => c.table = i ∧ c.route?.any P).filterMap Call.route? := by
  rw [routes_run, List.filter_append, List.filter_filterMap, List.filterMap_filter,
    List.filterMap_filter]
  congr 2
  funext c
  cases hc : c.route? with
  | none => simp
  | some r => by_cases hi : c.table = i <;> by_cases hr : P r <;> simp [hi, hr, Option.filter]

theorem bucket_run (s : Shared ι α) (cs : List (Call ι α)) (i : ι) (m : Method) (key : List Char) :
    ((s.run cs).tables i).bucket m key =
      (s.tables i).bucket m key ++
        (cs.filter fun c => c.bucket? = some (i, m, String.ofList key)).filterMap Call.route? := by
  rw [RouteTable.bucket, RouteTable.bucket, filter_routes_run]
  congr 2
  apply List.filter_congr
  intro c _
  cases hc : c.compiled? with
  | none => simp [Call.route?, Call.bucket?, hc]
  | some p =>
    have hstem : p.stem.toList = key ↔ p.stem = String.ofList key := by
      rw [← String.toList_inj, String.toList_ofList]
    simp [Call.route?, Call.bucket?, hc, Route.stem, hstem]

theorem filter_listed_run (s : Shared ι α) (cs : List (Call ι α)) (i : ι) (a : Route α) :
    ((s.run cs).tables i).routes.filter (fun b => a.listedBefore b && b.listedBefore a) =
      (s.tables i).routes.filter (fun b => a.listedBefore b && b.listedBefore a) ++
        (cs.filter fun c => c.listKey? = some (i, a.method.name, a.compiled.stem)).filterMap
          Call.route? := by
  rw [filter_routes_run]
  congr 2
  apply List.filter_congr
  intro c _
  cases hc : c.compiled? with
  | none => simp [Call.route?, Call.listKey?, hc]
  | some p => simp [Call.route?, Call.listKey?, hc, Route.listedBefore_both]

section Reordered

variable (s : Shared ι α) {cs₁ cs₂ : List (Call ι α)} (hperm : cs₁.Perm cs₂)
  (horder : ∀ b, cs₁.filter (fun c => c.bucket? = some b) = cs₂.filter (fun c => c.bucket? = some b))
include horder

theorem find_run_of_order (i : ι) (m : Method) (path : List Char) :
    ((s.run cs₁).tables i).find m path = ((s.run cs₂).tables i).find m path := by
  apply RouteTable.find_eq_of_bucket_eq
  intro key
  rw [bucket_run, bucket_run, horder]

include hperm in
theorem routeList_run_of_order (hread : ∀ c ∈ cs₁, c.Readable) (i : ι) :
    ((s.run cs₁).tables i).routeList = ((s.run cs₂).tables i).routeList := by
  have hread₂ : ∀ c ∈ cs₂, c.Readable := fun c hc => hread c (hperm.mem_iff.mpr hc)
  unfold RouteTable.routeList
  congr 1
  apply mergeSort_eq_of_filter_eq Route.listedBefore_trans Route.listedBefore_total
  intro a
  rw [filter_listed_run, filter_listed_run, Call.filter_listKey? hread,
    Call.filter_listKey? hread₂]
  -- the routes of one listing key are those of one bucket, which keeps its order
  cases Method.parse? a.method.name with
  | none => rfl
  | some m => simp only [horder]

end Reordered

def filesCalls : List (Call Unit Nat) :=
  [.insert () .get "/files/:name" 1, .insert () .post "/files/*path" 2, .insert () .get "/a/*x/b" 3]

end Shared

end PrefixRouter
