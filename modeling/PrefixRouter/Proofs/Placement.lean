import PrefixRouter.Proofs.Session

namespace PrefixRouter

namespace RouteTable

variable {path : List Char} {start : Nat}

theorem segmentEnd_le (path : List Char) (start : Nat) : segmentEnd path start ≤ path.length := by
  unfold segmentEnd
  split
  · rename_i i h
    obtain ⟨hi, -, -⟩ := List.idxOf?_eq_some_iff.mp h
    simp only [List.length_drop] at hi
    omega
  · exact Nat.le_refl _

theorem le_segmentEnd (h : start ≤ path.length) : start ≤ segmentEnd path start := by
  unfold segmentEnd
  split
  · exact Nat.le_add_right _ _
  · exact h

theorem segmentEnd_boundary (path : List Char) (start : Nat) :
    segmentEnd path start = path.length ∨ path[segmentEnd path start]? = some '/' := by
  unfold segmentEnd
  split
  · rename_i i h
    obtain ⟨hi, hat, -⟩ := List.idxOf?_eq_some_iff.mp h
    right
    rw [← List.getElem?_drop, List.getElem?_eq_getElem hi, hat]
  · exact Or.inl rfl

theorem getElem?_ne_slash_of_lt_segmentEnd {j : Nat} (hj : start ≤ j)
    (hlt : j < segmentEnd path start) : path[j]? ≠ some '/' := by
  have hdrop : path[j]? = (path.drop start)[j - start]? := by
    rw [List.getElem?_drop, Nat.add_sub_cancel' hj]
  unfold segmentEnd at hlt
  split at hlt
  · rename_i i h
    obtain ⟨hi, -, hbefore⟩ := List.idxOf?_eq_some_iff.mp h
    have hk : j - start < i := by omega
    rw [hdrop, List.getElem?_eq_getElem (Nat.lt_trans hk hi)]
    intro hslash
    exact hbefore (j - start) hk (Option.some.inj hslash)
  · rename_i h
    rw [hdrop]
    intro hslash
    exact List.idxOf?_eq_none_iff.mp h (List.mem_of_getElem? hslash)

end RouteTable

/-- Captures laid over a path after boundary `b` as the parts of a route ask. -/
structure Placed (parts : List Part) (s : List Char) (b : Nat) (caps : List Capture) : Prop where
  ordered : caps.Pairwise fun c d => c.part < d.part ∧ c.stop < d.start
  capturing : ∀ c ∈ caps, ∃ q, parts[c.part]? = some q ∧ q.kind ≠ .literal
  bounds : ∀ c ∈ caps, b < c.start ∧ c.start ≤ c.stop ∧ c.stop ≤ s.length
  after_slash : ∀ c ∈ caps, s[c.start - 1]? = some '/'
  param_free : ∀ c ∈ caps, (parts[c.part]?).map Part.kind = some .param →
    ∀ j, c.start ≤ j → j < c.stop → s[j]? ≠ some '/'
  wildcard_last : ∀ c ∈ caps, (parts[c.part]?).map Part.kind = some .wildcard →
    caps.getLast? = some c ∧ c.stop = s.length

namespace Placed

variable {parts : List Part} {s : List Char} {b : Nat}

theorem nil : Placed parts s b [] :=
  ⟨List.Pairwise.nil, by simp, by simp, by simp, by simp, by simp⟩

theorem mono {b' : Nat} {caps : List Capture} (hb : b' ≤ b) (h : Placed parts s b caps) :
    Placed parts s b' caps :=
  ⟨h.ordered, h.capturing, fun c hc => ⟨by have := (h.bounds c hc).1; omega, (h.bounds c hc).2⟩,
    h.after_slash, h.param_free, h.wildcard_last⟩

theorem cons {c : Capture} {caps : List Capture}
    (hkind : ∃ q, parts[c.part]? = some q ∧ q.kind ≠ .literal)
    (hbounds : b < c.start ∧ c.start ≤ c.stop ∧ c.stop ≤ s.length)
    (hslash : s[c.start - 1]? = some '/')
    (hparam : (parts[c.part]?).map Part.kind = some .param →
      ∀ j, c.start ≤ j → j < c.stop → s[j]? ≠ some '/')
    (hwild : (parts[c.part]?).map Part.kind = some .wildcard → caps = [] ∧ c.stop = s.length)
    (hpart : ∀ d ∈ caps, c.part < d.part) (hrest : Placed parts s c.stop caps) :
    Placed parts s b (c :: caps) := by
  refine ⟨?_, ?_, ?_, ?_, ?_, ?_⟩
  · exact List.Pairwise.cons (fun d hd => ⟨hpart d hd, (hrest.bounds d hd).1⟩) hrest.ordered
  · intro d hd
    rcases List.mem_cons.mp hd with rfl | hd
    · exact hkind
    · exact hrest.capturing d hd
  · intro d hd
    rcases List.mem_cons.mp hd with rfl | hd
    · exact hbounds
    · have := hrest.bounds d hd
      omega
  · intro d hd
    rcases List.mem_cons.mp hd with rfl | hd
    · exact hslash
    · exact hrest.after_slash d hd
  · intro d hd
    rcases List.mem_cons.mp hd with rfl | hd
    · exact hparam
    · exact hrest.param_free d hd
  · intro d hd hk
    rcases List.mem_cons.mp hd with rfl | hd
    · obtain ⟨rfl, hstop⟩ := hwild hk
      exact ⟨rfl, hstop⟩
    · -- a later capture of the wildcard is last in the rest, which is not empty
      obtain ⟨hlast, hstop⟩ := hrest.wildcard_last d hd hk
      obtain ⟨e, es, hes⟩ := List.exists_cons_of_ne_nil (List.ne_nil_of_mem hd)
      rw [hes] at hlast
      rw [hes, List.getLast?_cons_cons]
      exact ⟨hlast, hstop⟩

end Placed

namespace RouteTable

theorem placed_captureFrom {parts : List Part} {s : List Char} (ps : List Part) (k sep : Nat)
    (hps : parts.drop k = ps) (hsep : sep = s.length ∨ s[sep]? = some '/') :
    Placed parts s sep (captureFrom s sep (ps.zipIdx k)) ∧
      ∀ c ∈ captureFrom s sep (ps.zipIdx k), k ≤ c.part := by
  -- over the parts from number `k` on, walking from a `/` or the end of the path; the bound on
  -- the part numbers is what orders a capture before those of the rest
  induction ps generalizing k sep with
  | nil => exact ⟨Placed.nil, by simp [captureFrom]⟩
  | cons p ps ih =>
    have hp : parts[k]? = some p := by
      have := congrArg (·[0]?) hps
      simpa using this
    have htail : parts.drop (k + 1) = ps := by
      rw [← List.drop_drop, hps]
      rfl
    rw [List.zipIdx_cons, captureFrom]
    split
    · exact ⟨Placed.nil, by simp⟩
    · rename_i hend
      -- the walk is not at the end, so it stands on a `/`
      have hslash : s[sep + 1 - 1]? = some '/' := by
        rcases hsep with h | h
        · omega
        · simpa using h
      have hstart : sep + 1 ≤ s.length := by omega
      have hstop := le_segmentEnd hstart
      have hle := segmentEnd_le s (sep + 1)
      obtain ⟨hrest, hafter⟩ := ih (k + 1) (segmentEnd s (sep + 1)) htail
        (segmentEnd_boundary s (sep + 1))
      cases hk : p.kind with
      | wildcard =>
        refine ⟨Placed.cons ⟨p, hp, by simp [hk]⟩ ⟨Nat.lt_succ_self sep, hstart, Nat.le_refl _⟩
          hslash (by simp [hp, hk]) (fun _ => ⟨rfl, rfl⟩) (by simp) Placed.nil, by simp⟩
      | param =>
        refine ⟨Placed.cons ⟨p, hp, by simp [hk]⟩ ⟨Nat.lt_succ_self sep, hstop, hle⟩ hslash
          (fun _ j hj hlt => getElem?_ne_slash_of_lt_segmentEnd hj hlt) (by simp [hp, hk])
          (fun d hd => hafter d hd) hrest, ?_⟩
        intro c hc
        rcases List.mem_cons.mp hc with rfl | hc
        · exact Nat.le_refl _
        · have := hafter c hc
          omega
      | literal =>
        refine ⟨hrest.mono (by omega), fun c hc => ?_⟩
        have := hafter c hc
        omega

theorem placed_captures (parts : List Part) {s : List Char} {b : Nat}
    (hb : b = s.length ∨ s[b]? = some '/') : Placed parts s b (captures parts s b) :=
  (placed_captureFrom parts 0 b (List.drop_zero) hb).1

theorem boundary_of_find {α : Type} {t : RouteTable α} {m : Method} {s : List Char} {r : Route α}
    {b : Nat} (h : t.find m s = some (r, b)) : b = s.length ∨ s[b]? = some '/' := by
  obtain ⟨hs, key, hkey, -⟩ := exists_chosenStem?_of_find h
  exact chosenStem?_boundary hs hkey

end RouteTable

namespace Session

variable {ι α : Type} [DecidableEq ι]

theorem lookup_captures_placed (k : Nat) (es : List (Event ι α)) (i : ι) (m : Method)
    (path : String) {route : Route α} {b : Nat} :
    let S := (fresh k : Session ι α).run es
    (S.shared.tables i).find m path.toList = some (route, b) → route.compiled.parts ≠ [] →
      ∃ caps, ((S.shared.tables i).lookup S.shared.pool m path).1 =
          some ⟨route.value,
            ⟨path.toList, route.compiled.parts, caps, some S.shared.pool.acquire.1.capacity⟩⟩ ∧
        caps = RouteTable.captures route.compiled.parts path.toList b ∧
        Placed route.compiled.parts path.toList b caps ∧
        caps.length ≤ route.compiled.paramCount ∧
        route.compiled.paramCount ≤ S.shared.pool.maxParams ∧
        S.shared.pool.maxParams ≤ S.shared.pool.acquire.1.capacity := by
  intro S hfind hparts
  have hinv : S.Inv := inv_run k es
  refine ⟨RouteTable.captures route.compiled.parts path.toList b, ?_, rfl,
    RouteTable.placed_captures _ (RouteTable.boundary_of_find hfind),
    RouteTable.length_captures_le _ _ _,
    hinv.routes_le i route (RouteTable.mem_routes_of_find hfind),
    Pool.maxParams_le_capacity_acquire _⟩
  -- the pool lends an empty buffer, so the captures are those of the walk alone
  have hnonempty : route.compiled.parts.isEmpty = false := by
    cases h : route.compiled.parts with
    | nil => exact absurd h hparts
    | cons q qs => rfl
  rw [RouteTable.lookup_fst_of_find_some hfind, hnonempty, if_neg Bool.false_ne_true,
    hinv.valid.captures_acquire, List.nil_append]

def usersRoute : Route Nat := ⟨.get, "/users/:id", ⟨"/users", [⟨"id", .param⟩]⟩, 7⟩

theorem lookup_captures_placed_users :
    let S := (fresh 1000 : Session Unit Nat).run [.register (.insert () .get "/users/:id" 7)]
    (S.shared.tables ()).find .get "/users/42".toList = some (usersRoute, 6) ∧
      usersRoute.compiled.parts ≠ [] ∧
      ∃ caps, ((S.shared.tables ()).lookup S.shared.pool .get "/users/42").1 =
          some ⟨usersRoute.value,
            ⟨"/users/42".toList, usersRoute.compiled.parts, caps,
              some S.shared.pool.acquire.1.capacity⟩⟩ ∧
        caps = RouteTable.captures usersRoute.compiled.parts "/users/42".toList 6 ∧
        Placed usersRoute.compiled.parts "/users/42".toList 6 caps ∧
        caps.length ≤ usersRoute.compiled.paramCount ∧
        usersRoute.compiled.paramCount ≤ S.shared.pool.maxParams ∧
        S.shared.pool.maxParams ≤ S.shared.pool.acquire.1.capacity := by
  intro S
  have htable : S.shared.tables () = ⟨[usersRoute]⟩ := rfl
  have hfind : (S.shared.tables ()).find .get "/users/42".toList = some (usersRoute, 6) := by
    rw [htable, RouteTable.find_of_head (by decide)]
    rfl
  exact ⟨hfind, by decide, lookup_captures_placed 1000 _ () .get "/users/42" hfind (by decide)⟩

end Session

end PrefixRouter
