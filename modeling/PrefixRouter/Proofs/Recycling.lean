import Mathlib.Data.List.Perm.Basic
import PrefixRouter.Proofs.Session

namespace PrefixRouter

namespace Pool

def Sized (p : Pool) : Prop := ∀ b ∈ p.free, b.capacity = p.maxParams

variable {p : Pool}

theorem Sized.acquire (h : p.Sized) :
    p.acquire.1.capacity = p.maxParams ∧ p.acquire.2 = { p with free := p.free.tail } := by
  unfold Pool.acquire
  cases hfree : p.free with
  | nil => exact ⟨rfl, by simp [takeFitting]⟩
  | cons b bs =>
    have hb : b.capacity = p.maxParams := h b (by simp [hfree])
    simp [takeFitting, hb]

theorem Sized.tail (h : p.Sized) : ({ p with free := p.free.tail } : Pool).Sized :=
  fun b hb => h b (List.mem_of_mem_tail hb)

theorem Sized.release (h : p.Sized) {b : Buffer} (hb : b.capacity ≤ p.maxParams) :
    (p.release b).Sized := by
  unfold Pool.release
  split
  · exact h
  · rename_i hlt
    split
    · intro c hc
      rcases List.mem_cons.mp hc with rfl | hc
      · show b.capacity = p.maxParams
        omega
      · exact h c hc
    · exact h

theorem idle_release_full (hidle : p.idle ≤ p.maxIdle) {b : Buffer}
    (hb : b.capacity = p.maxParams) : (p.release b).idle = min p.maxIdle (p.idle + 1) := by
  unfold Pool.release
  rw [if_neg (by omega)]
  split
  · simp only [idle, List.length_cons]
    simp only [idle] at *
    omega
  · simp only [idle] at *
    omega

theorem release_of_lt {b : Buffer} (hb : b.capacity < p.maxParams) : p.release b = p := by
  simp [Pool.release, hb]

end Pool

namespace Params

theorem release_sized {ps : Params} {pool : Pool} (hsized : pool.Sized)
    (hidle : pool.idle ≤ pool.maxIdle) (hle : ∀ c, ps.capacity = some c → c ≤ pool.maxParams) :
    (ps.release pool).Sized ∧ (ps.release pool).idle =
      min pool.maxIdle (pool.idle + if ps.capacity = some pool.maxParams then 1 else 0) := by
  cases hc : ps.capacity with
  | none =>
    rw [release_of_no_capacity hc]
    exact ⟨hsized, by simp; omega⟩
  | some c =>
    rw [release_of_capacity hc]
    have hcle := hle c hc
    refine ⟨hsized.release hcle, ?_⟩
    by_cases hfull : c = pool.maxParams
    · rw [Pool.idle_release_full hidle hfull]
      simp [hfull]
    · -- a buffer from before the count last grew is dropped
      rw [Pool.release_of_lt (show c < pool.maxParams by omega)]
      simp [hfull]
      omega

end Params

namespace RouteTable

variable {α : Type} {t : RouteTable α} {m : Method} {path : String}

theorem lookup_of_find_parts {r : Route α} {e : Nat} (hf : t.find m path.toList = some (r, e))
    (hparts : r.compiled.parts ≠ []) (pool : Pool) :
    t.lookup pool m path =
      (some ⟨r.value, ⟨path.toList, r.compiled.parts,
        pool.acquire.1.captures ++ captures r.compiled.parts path.toList e,
        some pool.acquire.1.capacity⟩⟩, pool.acquire.2) := by
  simp [lookup, hf, hparts]

theorem lookup_of_find_no_parts {r : Route α} {e : Nat}
    (hf : t.find m path.toList = some (r, e)) (hparts : r.compiled.parts = []) (pool : Pool) :
    t.lookup pool m path = (some ⟨r.value, Params.empty⟩, pool) := by
  simp [lookup, hf, hparts]

end RouteTable

namespace Session

variable {ι α : Type} [DecidableEq ι] {S : Session ι α}

def lookups (reqs : List (ι × Method × String)) : List (Event ι α) :=
  reqs.map fun q => .lookup q.1 q.2.1 q.2.2

theorem run_lookups_cons (q : ι × Method × String) (qs : List (ι × Method × String)) :
    S.run (lookups (q :: qs)) = (S.step (.lookup q.1 q.2.1 q.2.2)).run (lookups qs) := rfl

def FindsParts (S : Session ι α) (q : ι × Method × String) : Prop :=
  ∃ r e, (S.shared.tables q.1).find q.2.1 q.2.2.toList = some (r, e) ∧ r.compiled.parts ≠ []

theorem pool_lookup_of_contains_false {i : ι} {m : Method} {path : String}
    (h : (S.shared.tables i).contains m path = false) :
    (S.step (.lookup i m path)).shared.pool = S.shared.pool := by
  have hf : (S.shared.tables i).find m path.toList = none := by
    simpa [RouteTable.contains] using h
  simp [step, RouteTable.lookup_of_find_none hf]

theorem pool_lookup_of_no_parts {i : ι} {m : Method} {path : String} {r : Route α} {e : Nat}
    (hf : (S.shared.tables i).find m path.toList = some (r, e)) (hparts : r.compiled.parts = []) :
    (S.step (.lookup i m path)).shared.pool = S.shared.pool := by
  simp [step, RouteTable.lookup_of_find_no_parts hf hparts]

theorem step_lookup_sized (hsized : S.shared.pool.Sized) {q : ι × Method × String}
    (hq : S.FindsParts q) :
    (S.step (.lookup q.1 q.2.1 q.2.2)).shared.tables = S.shared.tables ∧
      (S.step (.lookup q.1 q.2.1 q.2.2)).shared.pool =
        { S.shared.pool with free := S.shared.pool.free.tail } ∧
      ∃ ps, (S.step (.lookup q.1 q.2.1 q.2.2)).held = S.held ++ [ps] ∧
        ps.capacity = some S.shared.pool.maxParams := by
  obtain ⟨r, e, hf, hparts⟩ := hq
  obtain ⟨hcap, hpool⟩ := hsized.acquire
  have hstep : S.step (.lookup q.1 q.2.1 q.2.2) = S.update S.shared.pool.acquire.2
      (S.held ++ [⟨q.2.2.toList, r.compiled.parts, S.shared.pool.acquire.1.captures ++
        RouteTable.captures r.compiled.parts q.2.2.toList e, some S.shared.pool.acquire.1.capacity⟩]) := by
    simp only [step, RouteTable.lookup_of_find_parts hf hparts]
  rw [hstep]
  exact ⟨rfl, hpool, _, rfl, by rw [hcap]⟩

theorem run_lookups_sized (hsized : S.shared.pool.Sized) (reqs : List (ι × Method × String))
    (hfound : ∀ q ∈ reqs, S.FindsParts q) :
    (S.run (lookups reqs)).shared.tables = S.shared.tables ∧
      (S.run (lookups reqs)).shared.pool =
        { S.shared.pool with free := S.shared.pool.free.drop reqs.length } ∧
      ∃ news, (S.run (lookups reqs)).held = S.held ++ news ∧ news.length = reqs.length ∧
        ∀ ps ∈ news, ps.capacity = some S.shared.pool.maxParams := by
  induction reqs generalizing S with
  | nil =>
    refine ⟨rfl, rfl, [], ?_, rfl, by simp⟩
    simp [lookups, run]
  | cons q qs ih =>
    obtain ⟨htables, hpool, ps, hheld, hcap⟩ := step_lookup_sized hsized (hfound q List.mem_cons_self)
    -- the next lookups see the same tables and a pool that is still sized
    have hsized' : (S.step (.lookup q.1 q.2.1 q.2.2)).shared.pool.Sized := hpool ▸ hsized.tail
    have hfound' : ∀ q' ∈ qs, (S.step (.lookup q.1 q.2.1 q.2.2)).FindsParts q' := by
      intro q' hq'
      simpa [FindsParts, htables] using hfound q' (List.mem_cons_of_mem _ hq')
    obtain ⟨htables', hpool', news, hheld', hlen, hcaps⟩ := ih hsized' hfound'
    rw [run_lookups_cons]
    refine ⟨htables'.trans htables, ?_, ps :: news, ?_, by simp [hlen], ?_⟩
    · rw [hpool', hpool]
      simp
    · rw [hheld', hheld]
      simp
    · intro ps' hps'
      rcases List.mem_cons.mp hps' with rfl | hps'
      · exact hcap
      · rw [hcaps ps' hps', hpool]

theorem run_drops (hS : S.Inv) (hsized : S.shared.pool.Sized) (js : List Nat) :
    ∃ released, S.held.Perm (released ++ (S.run (js.map .drop)).held) ∧
      (S.run (js.map .drop)).shared.pool.maxParams = S.shared.pool.maxParams ∧
      (S.run (js.map .drop)).shared.pool.idle = min S.shared.pool.maxIdle
        (S.shared.pool.idle + released.countP (·.capacity == some S.shared.pool.maxParams)) := by
  induction js generalizing S with
  | nil =>
    refine ⟨[], List.Perm.refl _, rfl, ?_⟩
    have := hS.valid.idle_le
    simp only [List.map_nil, run, List.foldl_nil, List.countP_nil, Nat.add_zero]
    omega
  | cons j js ih =>
    rw [List.map_cons, run_cons]
    cases hj : S.held[j]? with
    | none =>
      have hstep : S.step (.drop j) = S := by simp [step, hj]
      rw [hstep]
      exact ih hS hsized
    | some ps =>
      have hstep : S.step (.drop j) = S.update (ps.release S.shared.pool) (S.held.eraseIdx j) := by
        simp [step, hj]
      obtain ⟨hsized', hidle'⟩ := Params.release_sized hsized hS.valid.idle_le
        (hS.held_le ps (List.mem_of_getElem? hj))
      have hS' := hS.drop j
      rw [hstep] at hS' ⊢
      obtain ⟨released, hperm, hmax, hidle⟩ := ih hS' hsized'
      refine ⟨ps :: released, ?_, ?_, ?_⟩
      · -- the parameters at `j` were handed back first
        obtain ⟨hlt, rfl⟩ := List.getElem?_eq_some_iff.mp hj
        exact (List.getElem_cons_eraseIdx_perm hlt).symm.trans (hperm.cons _)
      · rw [hmax]
        simp
      · rw [hidle]
        simp only [shared_update_pool, Params.maxIdle_release, Params.maxParams_release]
        rw [hidle']
        simp only [List.countP_cons, beq_iff_eq]
        have := hS.valid.idle_le
        split <;> omega

theorem idle_hold_drop (S : Session ι α) (hS : S.Inv) (hsized : S.shared.pool.Sized)
    (reqs : List (ι × Method × String)) (hfound : ∀ q ∈ reqs, S.FindsParts q) (js : List Nat)
    (hback : ((S.run (lookups reqs)).run (js.map .drop)).held = S.held) :
    (S.run (lookups reqs)).shared.pool.idle =
        S.shared.pool.idle - min S.shared.pool.idle reqs.length ∧
      ((S.run (lookups reqs)).run (js.map .drop)).shared.pool.idle =
        min S.shared.pool.maxIdle (max S.shared.pool.idle reqs.length) ∧
      (∀ i m path, (S.shared.tables i).contains m path = false →
        (S.step (.lookup i m path)).shared.pool = S.shared.pool) ∧
      (∀ i m path r e, (S.shared.tables i).find m path.toList = some (r, e) →
        r.compiled.parts = [] → (S.step (.lookup i m path)).shared.pool = S.shared.pool) := by
  obtain ⟨-, hpool, news, hheld, hlen, hcaps⟩ := run_lookups_sized hsized reqs hfound
  have hidle : (S.run (lookups reqs)).shared.pool.idle =
      S.shared.pool.idle - min S.shared.pool.idle reqs.length := by
    rw [hpool]
    simp only [Pool.idle, List.length_drop]
    omega
  have hsized₁ : (S.run (lookups reqs)).shared.pool.Sized := by
    rw [hpool]
    exact fun b hb => hsized b (List.mem_of_mem_drop hb)
  obtain ⟨released, hperm, -, hidle₂⟩ := run_drops (hS.run _) hsized₁ js
  -- what was handed back is exactly what the lookups took
  have hnews : news.Perm released := by
    rw [hback, hheld] at hperm
    exact (List.perm_append_right_iff S.held).mp (List.perm_append_comm.trans hperm)
  have hcount : released.countP (·.capacity == some S.shared.pool.maxParams) = reqs.length := by
    rw [← hnews.countP_eq, List.countP_eq_length.mpr fun ps hps => by simp [hcaps ps hps], hlen]
  refine ⟨hidle, ?_, fun i m path h => pool_lookup_of_contains_false h,
    fun i m path r e hf hparts => pool_lookup_of_no_parts hf hparts⟩
  rw [hidle₂, hidle, hpool]
  simp only [hcount]
  omega

def warmSession : Session Unit Nat :=
  ⟨⟨fun _ => RouteTable.pairTable, { free := [⟨2, []⟩], maxParams := 2, maxIdle := 8 }⟩, []⟩

def pairRequests : List (Unit × Method × String) := [((), .get, "/a/1/2"), ((), .get, "/a/3/4")]

theorem idle_hold_drop_warm :
    warmSession.Inv ∧ warmSession.shared.pool.Sized ∧ warmSession.shared.pool.idle = 1 ∧
      (∀ q ∈ pairRequests, warmSession.FindsParts q) ∧
      ((warmSession.run (lookups pairRequests)).run ([1, 0].map .drop)).held = warmSession.held ∧
      (warmSession.run (lookups pairRequests)).shared.pool.idle =
        warmSession.shared.pool.idle - min warmSession.shared.pool.idle pairRequests.length ∧
      ((warmSession.run (lookups pairRequests)).run ([1, 0].map .drop)).shared.pool.idle =
        min warmSession.shared.pool.maxIdle (max warmSession.shared.pool.idle pairRequests.length) ∧
      (∀ i m path, (warmSession.shared.tables i).contains m path = false →
        (warmSession.step (.lookup i m path)).shared.pool = warmSession.shared.pool) ∧
      (∀ i m path r e, (warmSession.shared.tables i).find m path.toList = some (r, e) →
        r.compiled.parts = [] → (warmSession.step (.lookup i m path)).shared.pool =
          warmSession.shared.pool) := by
  have htable : warmSession.shared.tables () = RouteTable.pairTable := rfl
  have hinv : warmSession.Inv := by
    refine ⟨⟨by decide, by decide, by decide, by decide⟩, ?_, by simp [warmSession],
      by simp [warmSession]⟩
    intro i r hr
    simp only [warmSession, RouteTable.pairTable, List.mem_singleton] at hr
    subst hr
    decide
  have hsized : warmSession.shared.pool.Sized := by
    intro b hb
    simp only [warmSession, List.mem_singleton] at hb
    subst hb
    rfl
  have hfound : ∀ q ∈ pairRequests, warmSession.FindsParts q := by
    intro q hq
    simp only [pairRequests, List.mem_cons, List.not_mem_nil, or_false] at hq
    -- both requests reach the route `/a/:x/:y` at the boundary after `/a`
    rcases hq with rfl | rfl <;>
      exact ⟨_, 2, by rw [htable, RouteTable.find_of_head (by decide)]; rfl, by decide⟩
  -- the two lookups hold two sets of parameters, which the drops at 1 and then 0 hand back
  have hback : ((warmSession.run (lookups pairRequests)).run ([1, 0].map .drop)).held =
      warmSession.held := by
    obtain ⟨-, -, news, hheld, hlen, -⟩ := run_lookups_sized hsized pairRequests hfound
    have hnil : warmSession.held = [] := rfl
    rw [hnil] at hheld ⊢
    generalize warmSession.run (lookups pairRequests) = T at hheld
    match news, hlen with
    | [a, b], _ =>
      simp [run, step, hheld]
  exact ⟨hinv, hsized, rfl, hfound, hback,
    idle_hold_drop warmSession hinv hsized pairRequests hfound [1, 0] hback⟩

end Session

end PrefixRouter
