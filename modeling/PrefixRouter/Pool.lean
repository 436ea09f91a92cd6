import PrefixRouter.Params.Basic
import PrefixRouter.Config

/-!
The pool of parameter buffers: a stack of idle buffers, the largest parameter count reserved so
far, and a bound on how many buffers may wait idle. `acquire` pops idle buffers until one is large
enough and makes a new one when none is; `release` drops a buffer that has become too small.
-/

namespace PrefixRouter

structure Buffer where
  capacity : Nat
  captures : List Capture
  deriving DecidableEq, Repr

structure Pool where
  free : List Buffer := []
  maxParams : Nat := 0
  maxIdle : Nat := defaultMaxIdle
  deriving DecidableEq, Repr

namespace Pool

def withBound (k : Nat) : Pool := { maxIdle := k }

def idle (p : Pool) : Nat := p.free.length

def reserve (p : Pool) (n : Nat) : Pool :=
  { p with maxParams := max p.maxParams n }

def takeFitting (need : Nat) : List Buffer → Option Buffer × List Buffer
  | [] => (none, [])
  | b :: bs => if need ≤ b.capacity then (some b, bs) else takeFitting need bs

def acquire (p : Pool) : Buffer × Pool :=
  match takeFitting p.maxParams p.free with
  | (some b, rest) => (b, { p with free := rest })
  | (none, rest) => (⟨p.maxParams, []⟩, { p with free := rest })

/-- Gives a buffer back: too small ones are dropped, the others are emptied and kept while
fewer than the bound are idle. -/
def release (p : Pool) (b : Buffer) : Pool :=
  if b.capacity < p.maxParams then p
  else if p.idle < p.maxIdle then { p with free := ⟨b.capacity, []⟩ :: p.free }
  else p

/-- What every pool reached from `withBound` satisfies. -/
structure Valid (p : Pool) : Prop where
  idle_le : p.idle ≤ p.maxIdle
  empty : ∀ b ∈ p.free, b.captures = []
  capacity_le : ∀ b ∈ p.free, b.capacity ≤ p.maxParams
  ordered : p.free.Pairwise fun above below => below.capacity ≤ above.capacity

@[simp] theorem idle_reserve (p : Pool) (n : Nat) : (p.reserve n).idle = p.idle := rfl

@[simp] theorem maxParams_reserve (p : Pool) (n : Nat) :
    (p.reserve n).maxParams = max p.maxParams n := rfl

@[simp] theorem maxIdle_reserve (p : Pool) (n : Nat) : (p.reserve n).maxIdle = p.maxIdle := rfl

@[simp] theorem free_reserve (p : Pool) (n : Nat) : (p.reserve n).free = p.free := rfl

theorem reserve_reserve (p : Pool) (a b : Nat) : (p.reserve a).reserve b = p.reserve (max a b) := by
  simp only [reserve, Nat.max_assoc]

@[simp] theorem maxParams_acquire (p : Pool) : p.acquire.2.maxParams = p.maxParams := by
  unfold acquire
  split <;> rfl

@[simp] theorem maxIdle_acquire (p : Pool) : p.acquire.2.maxIdle = p.maxIdle := by
  unfold acquire
  split <;> rfl

@[simp] theorem maxParams_release (p : Pool) (b : Buffer) :
    (p.release b).maxParams = p.maxParams := by
  unfold release
  split
  · rfl
  · split <;> rfl

@[simp] theorem maxIdle_release (p : Pool) (b : Buffer) : (p.release b).maxIdle = p.maxIdle := by
  unfold release
  split
  · rfl
  · split <;> rfl

theorem takeFitting_some {need : Nat} {bs : List Buffer} {b : Buffer} {rest : List Buffer}
    (h : takeFitting need bs = (some b, rest)) :
    need ≤ b.capacity ∧ b ∈ bs ∧ rest.Sublist bs := by
  induction bs with
  | nil => simp [takeFitting] at h
  | cons c cs ih =>
    simp only [takeFitting] at h
    split at h
    · rename_i hc
      obtain ⟨hcb, hrest⟩ := Prod.mk.inj h
      cases Option.some.inj hcb
      subst hrest
      exact ⟨hc, List.mem_cons_self, List.sublist_cons_self _ _⟩
    · obtain ⟨hb, hmem, hsub⟩ := ih h
      exact ⟨hb, List.mem_cons_of_mem _ hmem, hsub.cons _⟩

theorem takeFitting_none {need : Nat} {bs : List Buffer} {rest : List Buffer}
    (h : takeFitting need bs = (none, rest)) : rest = [] := by
  induction bs with
  | nil => simpa [takeFitting] using h.symm
  | cons c cs ih =>
    simp only [takeFitting] at h
    split at h
    · cases h
    · exact ih h

theorem free_acquire_sublist (p : Pool) : p.acquire.2.free.Sublist p.free := by
  unfold acquire
  split
  · rename_i b rest h
    exact (takeFitting_some h).2.2
  · rename_i rest h
    simp [takeFitting_none h]

theorem maxParams_le_capacity_acquire (p : Pool) : p.maxParams ≤ p.acquire.1.capacity := by
  unfold acquire
  split
  · rename_i b rest h
    exact (takeFitting_some h).1
  · exact Nat.le_refl _

theorem valid_withBound (k : Nat) : (withBound k).Valid :=
  ⟨Nat.zero_le _, by simp [withBound], by simp [withBound], by simp [withBound]⟩

theorem Valid.reserve {p : Pool} (hp : p.Valid) (n : Nat) : (p.reserve n).Valid :=
  ⟨hp.idle_le, hp.empty,
    fun b hb => Nat.le_trans (hp.capacity_le b hb) (Nat.le_max_left _ _), hp.ordered⟩

theorem Valid.acquire {p : Pool} (hp : p.Valid) : p.acquire.2.Valid := by
  have hsub := free_acquire_sublist p
  refine ⟨?_, ?_, ?_, ?_⟩
  · refine Nat.le_trans hsub.length_le ?_
    rw [maxIdle_acquire]
    exact hp.idle_le
  · exact fun b hb => hp.empty b (hsub.subset hb)
  · intro b hb
    rw [maxParams_acquire]
    exact hp.capacity_le b (hsub.subset hb)
  · exact hp.ordered.sublist hsub

theorem Valid.release {p : Pool} (hp : p.Valid) {b : Buffer} (hb : b.capacity ≤ p.maxParams) :
    (p.release b).Valid := by
  unfold Pool.release
  split
  · exact hp
  · rename_i hlt
    have heq : b.capacity = p.maxParams := Nat.le_antisymm hb (Nat.not_lt.mp hlt)
    split
    · rename_i hidle
      refine ⟨?_, ?_, ?_, ?_⟩
      · exact hidle
      · intro c hc
        rcases List.mem_cons.mp hc with rfl | hc
        · rfl
        · exact hp.empty c hc
      · intro c hc
        rcases List.mem_cons.mp hc with rfl | hc
        · exact hb
        · exact hp.capacity_le c hc
      · refine List.Pairwise.cons (fun c hc => ?_) hp.ordered
        rw [heq]
        exact hp.capacity_le c hc
    · exact hp

end Pool

namespace Params

def release (ps : Params) (pool : Pool) : Pool :=
  match ps.capacity with
  | some c => pool.release ⟨c, ps.captures⟩
  | none => pool

end Params

end PrefixRouter
