import PrefixRouter.Proofs.Registration
import PrefixRouter.Proofs.Shadowing

namespace PrefixRouter

namespace Pool

variable {p : Pool}

theorem takeFitting_of_lt {need : Nat} {bs : List Buffer} (h : ∀ b ∈ bs, b.capacity < need) :
    takeFitting need bs = (none, []) := by
  induction bs with
  | nil => rfl
  | cons b bs ih =>
    rw [takeFitting, if_neg (Nat.not_le.mpr (h b List.mem_cons_self))]
    exact ih fun c hc => h c (List.mem_cons_of_mem _ hc)

theorem Valid.capacity_acquire (hp : p.Valid) : p.acquire.1.capacity = p.maxParams := by
  apply Nat.le_antisymm _ (maxParams_le_capacity_acquire p)
  unfold Pool.acquire
  split
  · rename_i b rest h
    exact hp.capacity_le b (takeFitting_some h).2.1
  · exact Nat.le_refl _

theorem Valid.acquire_top_or_all (hp : p.Valid) :
    p.free = p.acquire.1 :: p.acquire.2.free ∨
      (p.acquire.2.free = [] ∧ p.acquire.1 = ⟨p.maxParams, []⟩) := by
  unfold Pool.acquire
  cases hfree : p.free with
  | nil => simp [takeFitting]
  | cons b bs =>
    by_cases hfit : p.maxParams ≤ b.capacity
    · left
      simp [takeFitting, hfit]
    · right
      -- the buffers below the top are no larger than it
      have hbelow : ∀ c ∈ bs, c.capacity < p.maxParams := by
        have hord := hp.ordered
        rw [hfree, List.pairwise_cons] at hord
        intro c hc
        have := hord.1 c hc
        omega
      simp [takeFitting, hfit, takeFitting_of_lt hbelow]

end Pool

namespace Params

theorem release_of_capacity {ps : Params} {c : Nat} (h : ps.capacity = some c) (pool : Pool) :
    ps.release pool = pool.release ⟨c, ps.captures⟩ := by
  simp [release, h]

theorem release_of_no_capacity {ps : Params} (h : ps.capacity = none) (pool : Pool) :
    ps.release pool = pool := by
  simp [release, h]

@[simp] theorem maxParams_release (ps : Params) (pool : Pool) :
    (ps.release pool).maxParams = pool.maxParams := by
  cases hc : ps.capacity with
  | none => rw [release_of_no_capacity hc]
  | some c => rw [release_of_capacity hc, Pool.maxParams_release]

@[simp] theorem maxIdle_release (ps : Params) (pool : Pool) :
    (ps.release pool).maxIdle = pool.maxIdle := by
  cases hc : ps.capacity with
  | none => rw [release_of_no_capacity hc]
  | some c => rw [release_of_capacity hc, Pool.maxIdle_release]

end Params

namespace RouteTable

variable {α : Type}

theorem length_captureFrom_le (path : List Char) (parts : List Part) (sep n : Nat) :
    (captureFrom path sep (parts.zipIdx n)).length ≤
      (parts.filter fun q => q.kind != .literal).length := by
  induction parts generalizing sep n with
  | nil => simp [captureFrom]
  | cons q qs ih =>
    rw [List.zipIdx_cons, captureFrom]
    split
    · exact Nat.zero_le _
    · cases hk : q.kind with
      | wildcard => simp [hk]
      | param => simpa [hk] using ih _ _
      | literal => simpa [hk] using ih _ _

theorem length_captures_le (p : Pattern) (path : List Char) (e : Nat) :
    (captures p.parts path e).length ≤ p.paramCount :=
  length_captureFrom_le path p.parts e 0

theorem mem_routes_of_find {t : RouteTable α} {m : Method} {s : List Char} {r : Route α}
    {b : Nat} (h : t.find m s = some (r, b)) : r ∈ t.routes := by
  obtain ⟨-, key, -, hr⟩ := exists_chosenStem?_of_find h
  exact (bucket_sublist t m key).subset (List.mem_of_find?_eq_some hr)

theorem lookup_cases (t : RouteTable α) (pool : Pool) (m : Method) (path : String) :
    t.lookup pool m path = (none, pool) ∨
      ∃ r ∈ t.routes, t.lookup pool m path = (some ⟨r.value, Params.empty⟩, pool) ∨
        r.compiled.parts ≠ [] ∧ ∃ e, t.lookup pool m path =
          (some ⟨r.value, ⟨path.toList, r.compiled.parts,
            pool.acquire.1.captures ++ captures r.compiled.parts path.toList e,
            some pool.acquire.1.capacity⟩⟩, pool.acquire.2) := by
  cases hf : t.find m path.toList with
  | none => exact Or.inl (lookup_of_find_none hf)
  | some found =>
    obtain ⟨r, e⟩ := found
    refine Or.inr ⟨r, mem_routes_of_find hf, ?_⟩
    simp only [lookup, hf]
    split
    · exact Or.inl rfl
    · rename_i hparts
      exact Or.inr ⟨fun h => hparts (by simp [h]), e, rfl⟩

end RouteTable

def Match.Agree {α : Type} (a b : Match α) : Prop :=
  a.value = b.value ∧ a.params.toList = b.params.toList ∧ a.params.size = b.params.size ∧
    (∀ name, a.params.get? name = b.params.get? name) ∧ a.params.toOwned = b.params.toOwned

theorem Match.agree_of_captures {α : Type} {a b : Match α} (hv : a.value = b.value)
    (hpath : a.params.path = b.params.path) (hparts : a.params.parts = b.params.parts)
    (hcaps : a.params.captures = b.params.captures) : a.Agree b := by
  have hpairOf : a.params.pairOf = b.params.pairOf := by
    funext c
    simp only [Params.pairOf, hpath, hparts]
  have hpairs : a.params.toList = b.params.toList := by
    simp only [Params.toList, hpairOf, hcaps]
  refine ⟨hv, hpairs, by simp only [Params.size, hcaps], fun name => ?_, ?_⟩
  · simp only [Params.get?, hpairs]
  · simp only [Params.toOwned, hpairs]

namespace RouteTable

variable {α : Type}

theorem lookup_agree_of_valid (t : RouteTable α) {p q : Pool} (hp : p.Valid) (hq : q.Valid)
    (m : Method) (path : String) :
    Option.Rel Match.Agree (t.lookup p m path).1 (t.lookup q m path).1 := by
  cases hf : t.find m path.toList with
  | none =>
    rw [lookup_of_find_none hf, lookup_of_find_none hf]
    exact Option.Rel.none
  | some found =>
    obtain ⟨r, e⟩ := found
    rw [lookup_fst_of_find_some hf, lookup_fst_of_find_some hf]
    apply Option.Rel.some
    -- only the lent buffer differs, and a valid pool lends an empty one
    split
    · exact Match.agree_of_captures rfl rfl rfl rfl
    · refine Match.agree_of_captures rfl rfl rfl ?_
      simp only [hp.captures_acquire, hq.captures_acquire]

end RouteTable

inductive Event (ι α : Type) where
  | register (c : Call ι α)
  | lookup (i : ι) (m : Method) (path : String)
  | drop (j : Nat)

namespace Event

variable {ι α : Type}

def reserved? : Event ι α → Option Nat
  | .register c => c.compiled?.map Pattern.paramCount
  | _ => none

end Event

structure Session (ι α : Type) where
  shared : Shared ι α
  held : List Params

namespace Session

variable {ι α : Type}

def fresh (k : Nat) : Session ι α := ⟨Shared.fresh k, []⟩

def update (S : Session ι α) (pool : Pool) (held : List Params) : Session ι α :=
  ⟨{ S.shared with pool }, held⟩

@[simp] theorem shared_update_tables (S : Session ι α) (pool : Pool) (held : List Params) :
    (S.update pool held).shared.tables = S.shared.tables := rfl

@[simp] theorem shared_update_pool (S : Session ι α) (pool : Pool) (held : List Params) :
    (S.update pool held).shared.pool = pool := rfl

@[simp] theorem held_update (S : Session ι α) (pool : Pool) (held : List Params) :
    (S.update pool held).held = held := rfl

/-- What every session reached from a fresh pool keeps: a valid pool, routes that fit its
largest count, and held buffers no larger than that count, each with room for its captures. -/
structure Inv (S : Session ι α) : Prop where
  valid : S.shared.pool.Valid
  routes_le : ∀ i, ∀ r ∈ (S.shared.tables i).routes, r.compiled.paramCount ≤ S.shared.pool.maxParams
  held_le : ∀ ps ∈ S.held, ∀ c, ps.capacity = some c → c ≤ S.shared.pool.maxParams
  held_fit : ∀ ps ∈ S.held, ∀ c, ps.capacity = some c → ps.captures.length ≤ c

theorem inv_fresh (k : Nat) : (fresh k : Session ι α).Inv :=
  ⟨Pool.valid_withBound k, by simp [fresh, Shared.fresh], by simp [fresh], by simp [fresh]⟩

variable {S : Session ι α}

theorem Inv.hold (hS : S.Inv) {pool : Pool} (hvalid : pool.Valid)
    (hmax : pool.maxParams = S.shared.pool.maxParams) {ps : Params}
    (hps : ∀ c, ps.capacity = some c → c ≤ pool.maxParams ∧ ps.captures.length ≤ c) :
    (S.update pool (S.held ++ [ps])).Inv := by
  refine ⟨hvalid, ?_, ?_, ?_⟩
  · simpa [hmax] using hS.routes_le
  · intro qs hqs c hc
    rcases List.mem_append.mp hqs with hqs | hqs
    · rw [shared_update_pool, hmax]
      exact hS.held_le qs hqs c hc
    · rw [List.mem_singleton.mp hqs] at hc
      exact (hps c hc).1
  · intro qs hqs c hc
    rcases List.mem_append.mp hqs with hqs | hqs
    · exact hS.held_fit qs hqs c hc
    · rw [List.mem_singleton.mp hqs] at hc ⊢
      exact (hps c hc).2

variable [DecidableEq ι]

def step (S : Session ι α) : Event ι α → Session ι α
  | .register c => { S with shared := S.shared.step c }
  | .lookup i m path =>
    match (S.shared.tables i).lookup S.shared.pool m path with
    | (some found, pool) => S.update pool (S.held ++ [found.params])
    | (none, pool) => S.update pool S.held
  | .drop j =>
    match S.held[j]? with
    | some ps => S.update (ps.release S.shared.pool) (S.held.eraseIdx j)
    | none => S

def run (S : Session ι α) (es : List (Event ι α)) : Session ι α := es.foldl step S

theorem run_cons (S : Session ι α) (e : Event ι α) (es : List (Event ι α)) :
    S.run (e :: es) = (S.step e).run es := rfl

theorem run_append (S : Session ι α) (es es' : List (Event ι α)) :
    S.run (es ++ es') = (S.run es).run es' :=
  List.foldl_append

theorem Inv.register (hS : S.Inv) (c : Call ι α) : (S.step (.register c)).Inv := by
  cases hc : Pattern.compile c.pattern with
  | error e =>
    simp only [step, Shared.step_of_compile_error hc]
    exact hS
  | ok p =>
    simp only [step, Shared.step_of_compile_ok hc]
    refine ⟨hS.valid.reserve _, ?_, ?_, hS.held_fit⟩
    · intro i r hr
      simp only [Shared.tables_setTable, Shared.pool_setTable, Pool.maxParams_reserve] at hr ⊢
      split at hr
      · rcases List.mem_append.mp hr with hr | hr
        · have := hS.routes_le _ r hr
          omega
        · rw [List.mem_singleton.mp hr]
          exact Nat.le_max_right _ _
      · have := hS.routes_le i r hr
        omega
    · intro ps hps c hc
      have := hS.held_le ps hps c hc
      simp only [Shared.pool_setTable, Pool.maxParams_reserve]
      omega

theorem Inv.lookup (hS : S.Inv) (i : ι) (m : Method) (path : String) :
    (S.step (.lookup i m path)).Inv := by
  rcases RouteTable.lookup_cases (S.shared.tables i) S.shared.pool m path with
    hmiss | ⟨r, hr, hempty | ⟨-, e, hfill⟩⟩
  · simp only [step, hmiss]
    exact hS
  · simp only [step, hempty]
    exact hS.hold hS.valid rfl fun c hc => by simp [Params.empty] at hc
  · simp only [step, hfill]
    -- the lent buffer is empty and exactly as large as the largest count, which covers the route
    have hcap := hS.valid.capacity_acquire
    have hfits := RouteTable.length_captures_le r.compiled path.toList e
    have hroute := hS.routes_le i r hr
    refine hS.hold hS.valid.acquire (Pool.maxParams_acquire _) fun c hc => ?_
    simp only [Option.some.injEq] at hc
    simp only [hS.valid.captures_acquire, List.nil_append, Pool.maxParams_acquire]
    omega

theorem Inv.drop (hS : S.Inv) (j : Nat) : (S.step (.drop j)).Inv := by
  cases hj : S.held[j]? with
  | none =>
    simp only [step, hj]
    exact hS
  | some ps =>
    simp only [step, hj]
    have hmem : ps ∈ S.held := List.mem_of_getElem? hj
    have hvalid : (ps.release S.shared.pool).Valid := by
      cases hc : ps.capacity with
      | none => rw [Params.release_of_no_capacity hc]; exact hS.valid
      | some c =>
        rw [Params.release_of_capacity hc]
        exact hS.valid.release (hS.held_le ps hmem c hc)
    refine ⟨hvalid, ?_, ?_, ?_⟩
    · simpa using hS.routes_le
    · intro qs hqs c hc
      rw [shared_update_pool, Params.maxParams_release]
      exact hS.held_le qs (List.mem_of_mem_eraseIdx hqs) c hc
    · intro qs hqs c hc
      exact hS.held_fit qs (List.mem_of_mem_eraseIdx hqs) c hc

theorem Inv.step (hS : S.Inv) (e : Event ι α) : (S.step e).Inv := by
  cases e with
  | register c => exact hS.register c
  | lookup i m path => exact hS.lookup i m path
  | drop j => exact hS.drop j

theorem Inv.run (hS : S.Inv) (es : List (Event ι α)) : (S.run es).Inv := by
  induction es generalizing S with
  | nil => exact hS
  | cons e es ih => exact ih (hS.step e)

theorem inv_run (k : Nat) (es : List (Event ι α)) : ((fresh k : Session ι α).run es).Inv :=
  (inv_fresh k).run es

theorem bounds_step (S : Session ι α) (e : Event ι α) :
    (S.step e).shared.pool.maxIdle = S.shared.pool.maxIdle ∧
      (S.step e).shared.pool.maxParams = max S.shared.pool.maxParams (e.reserved?.getD 0) := by
  cases e with
  | register c =>
    cases hc : Pattern.compile c.pattern with
    | error e => simp [step, Shared.step_of_compile_error hc, Event.reserved?,
        Call.compiled?_of_compile_error hc]
    | ok p => simp [step, Shared.step_of_compile_ok hc, Event.reserved?,
        Call.compiled?_of_compile_ok hc]
  | lookup i m path =>
    rcases RouteTable.lookup_cases (S.shared.tables i) S.shared.pool m path with
      hmiss | ⟨r, -, hempty | ⟨-, e, hfill⟩⟩
    · simp [step, hmiss, Event.reserved?]
    · simp [step, hempty, Event.reserved?]
    · simp [step, hfill, Event.reserved?]
  | drop j =>
    cases hj : S.held[j]? with
    | none => simp [step, hj, Event.reserved?]
    | some ps => simp [step, hj, Event.reserved?]

theorem bounds_run (S : Session ι α) (es : List (Event ι α)) :
    (S.run es).shared.pool.maxIdle = S.shared.pool.maxIdle ∧
      (S.run es).shared.pool.maxParams =
        max S.shared.pool.maxParams ((es.filterMap Event.reserved?).foldr max 0) := by
  induction es generalizing S with
  | nil => simp [run]
  | cons e es ih =>
    obtain ⟨hidle, hmax⟩ := bounds_step S e
    rw [run_cons, (ih _).1, (ih _).2, hidle, hmax]
    refine ⟨rfl, ?_⟩
    cases hr : e.reserved? with
    | none => simp [hr]
    | some n => simp [hr, Nat.max_assoc]

theorem pool_run_invariant (k : Nat) (es : List (Event ι α)) :
    let pool := ((fresh k : Session ι α).run es).shared.pool
    pool.idle ≤ k ∧ (∀ b ∈ pool.free, b.captures = []) ∧
      pool.maxParams = (es.filterMap Event.reserved?).foldr max 0 ∧
      (∀ es', pool.maxParams ≤ ((fresh k : Session ι α).run (es ++ es')).shared.pool.maxParams) ∧
      (∀ b ∈ pool.free, b.capacity ≤ pool.maxParams) ∧
      (∀ ps ∈ ((fresh k : Session ι α).run es).held, ∀ c, ps.capacity = some c →
        c ≤ pool.maxParams ∧ ps.captures.length ≤ c) ∧
      pool.free.Pairwise (fun above below => below.capacity ≤ above.capacity) ∧
      pool.acquire.1.captures = [] ∧ pool.acquire.1.capacity = pool.maxParams ∧
      (pool.free = pool.acquire.1 :: pool.acquire.2.free ∨
        (pool.acquire.2.free = [] ∧ pool.acquire.1 = ⟨pool.maxParams, []⟩)) := by
  intro pool
  have hinv : ((fresh k : Session ι α).run es).Inv := inv_run k es
  obtain ⟨hidle, hmax⟩ := bounds_run (fresh k : Session ι α) es
  refine ⟨?_, hinv.valid.empty, ?_, ?_, hinv.valid.capacity_le, ?_, hinv.valid.ordered,
    hinv.valid.captures_acquire, hinv.valid.capacity_acquire, hinv.valid.acquire_top_or_all⟩
  · have hle := hinv.valid.idle_le
    rw [hidle] at hle
    exact hle
  · rw [hmax]
    simp [fresh, Shared.fresh, Pool.withBound]
  · intro es'
    rw [run_append, (bounds_run _ es').2]
    exact Nat.le_max_left _ _
  · intro ps hps c hc
    exact ⟨hinv.held_le ps hps c hc, hinv.held_fit ps hps c hc⟩

theorem lookup_after_session (k : Nat) (es : List (Event ι α)) (i : ι) (m : Method)
    (path : String) (k' n : Nat) :
    Option.Rel Match.Agree
      ((((fresh k : Session ι α).run es).shared.tables i).lookup
        ((fresh k : Session ι α).run es).shared.pool m path).1
      ((((fresh k : Session ι α).run es).shared.tables i).lookup
        ((Pool.withBound k').reserve n) m path).1 :=
  RouteTable.lookup_agree_of_valid _ (inv_run k es).valid ((Pool.valid_withBound k').reserve n) m path

end Session

end PrefixRouter
