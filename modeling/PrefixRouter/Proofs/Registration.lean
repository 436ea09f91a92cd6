import PrefixRouter.Proofs.Listing
import PrefixRouter.Router.Basic

namespace PrefixRouter

inductive Call (ι α : Type) where
  | insert (i : ι) (m : Method) (pattern : String) (value : α)
  | addRoute (i : ι) (config : Config) (m : Method) (pattern : String) (value : α)

namespace Call

variable {ι α : Type}

def table : Call ι α → ι
  | .insert i .. | .addRoute i .. => i

def method : Call ι α → Method
  | .insert _ m .. | .addRoute _ _ m .. => m

def pattern : Call ι α → String
  | .insert _ _ p _ | .addRoute _ _ _ p _ => p

def value : Call ι α → α
  | .insert _ _ _ v | .addRoute _ _ _ _ v => v

def failure (c : Call ι α) (e : RouteError) : AddError :=
  match c with
  | .insert .. => .returned e
  | .addRoute _ config .. => if config.strict then .halted e else .returned e

def compiled? (c : Call ι α) : Option Pattern :=
  match Pattern.compile c.pattern with
  | .ok p => some p
  | .error _ => none

def accepted (c : Call ι α) : Bool := c.compiled?.isSome

def route? (c : Call ι α) : Option (Route α) :=
  c.compiled?.map fun p => ⟨c.method, c.pattern, p, c.value⟩

def entry (c : Call ι α) : Method × String := (c.method, c.pattern)

variable {c : Call ι α}

theorem compiled?_of_compile_ok {p : Pattern} (h : Pattern.compile c.pattern = .ok p) :
    c.compiled? = some p := by
  simp [compiled?, h]

theorem compiled?_of_compile_error {e : RouteError} (h : Pattern.compile c.pattern = .error e) :
    c.compiled? = none := by
  simp [compiled?, h]

theorem compile_of_route? {r : Route α} (h : c.route? = some r) :
    Pattern.compile r.pattern = .ok r.compiled := by
  obtain ⟨p, hp, rfl⟩ := Option.map_eq_some_iff.mp h
  show Pattern.compile c.pattern = .ok p
  cases hc : Pattern.compile c.pattern with
  | ok p' =>
    rw [compiled?_of_compile_ok hc] at hp
    cases hp
    rfl
  | error e => simp [compiled?_of_compile_error hc] at hp

theorem entries_filterMap_route? {ι : Type} [DecidableEq ι] (cs : List (Call ι α)) (i : ι) :
    ((cs.filter fun c => c.table = i).filterMap route?).map (fun r => (r.method, r.pattern)) =
      (cs.filter fun c => c.table = i ∧ c.accepted).map entry := by
  induction cs with
  | nil => rfl
  | cons c cs ih =>
    by_cases hi : c.table = i
    · cases hc : c.compiled? with
      | none => simp [hi, route?, accepted, hc, ih]
      | some p => simp [hi, route?, accepted, hc, ih, entry]
    · simp [hi, ih]

end Call

structure Shared (ι α : Type) where
  tables : ι → RouteTable α
  pool : Pool

namespace Shared

variable {ι α : Type} [DecidableEq ι]

def fresh (k : Nat) : Shared ι α := ⟨fun _ => {}, Pool.withBound k⟩

def setTable (s : Shared ι α) (i : ι) (t : RouteTable α) (pool : Pool) : Shared ι α :=
  ⟨fun j => if j = i then t else s.tables j, pool⟩

def router (s : Shared ι α) (i : ι) (config : Config) : Router α :=
  { Router.withPool config s.pool with table := s.tables i }

def call (s : Shared ι α) : Call ι α → Except AddError (Shared ι α)
  | .insert i m pattern value =>
    match (s.tables i).insert s.pool m pattern value with
    | .ok (t, pool) => .ok (s.setTable i t pool)
    | .error e => .error (.returned e)
  | .addRoute i config m pattern value =>
    match (s.router i config).addRoute m pattern value with
    | .ok r => .ok (s.setTable i r.table r.pool)
    | .error e => .error e

def step (s : Shared ι α) (c : Call ι α) : Shared ι α :=
  match s.call c with
  | .ok s' => s'
  | .error _ => s

def run (s : Shared ι α) (cs : List (Call ι α)) : Shared ι α := cs.foldl step s

theorem run_cons (s : Shared ι α) (c : Call ι α) (cs : List (Call ι α)) :
    s.run (c :: cs) = (s.step c).run cs := rfl

@[simp] theorem tables_setTable (s : Shared ι α) (i j : ι) (t : RouteTable α) (pool : Pool) :
    (s.setTable i t pool).tables j = if j = i then t else s.tables j := rfl

@[simp] theorem pool_setTable (s : Shared ι α) (i : ι) (t : RouteTable α) (pool : Pool) :
    (s.setTable i t pool).pool = pool := rfl

variable {s : Shared ι α} {c : Call ι α}

theorem call_of_compile_error {e : RouteError} (h : Pattern.compile c.pattern = .error e) :
    s.call c = .error (c.failure e) := by
  cases c with
  | insert i m pattern value =>
    simp only [Call.pattern] at h
    rw [call, RouteTable.insert_of_compile_error h]
    rfl
  | addRoute i config m pattern value =>
    simp only [Call.pattern] at h
    rw [call, Router.addRoute, router, RouteTable.insert_of_compile_error h]
    rfl

theorem call_of_compile_ok {p : Pattern} (h : Pattern.compile c.pattern = .ok p) :
    s.call c = .ok (s.setTable c.table
      ⟨(s.tables c.table).routes ++ [⟨c.method, c.pattern, p, c.value⟩]⟩
      (s.pool.reserve p.paramCount)) := by
  cases c with
  | insert i m pattern value =>
    simp only [Call.pattern] at h
    rw [call, RouteTable.insert_of_compile_ok h]
    rfl
  | addRoute i config m pattern value =>
    simp only [Call.pattern] at h
    rw [call, Router.addRoute, router, RouteTable.insert_of_compile_ok h]
    rfl

theorem step_of_compile_error {e : RouteError} (h : Pattern.compile c.pattern = .error e) :
    s.step c = s := by
  rw [step, call_of_compile_error h]

theorem step_of_compile_ok {p : Pattern} (h : Pattern.compile c.pattern = .ok p) :
    s.step c = s.setTable c.table
      ⟨(s.tables c.table).routes ++ [⟨c.method, c.pattern, p, c.value⟩]⟩
      (s.pool.reserve p.paramCount) := by
  rw [step, call_of_compile_ok h]

theorem routes_run (s : Shared ι α) (cs : List (Call ι α)) (i : ι) :
    ((s.run cs).tables i).routes =
      (s.tables i).routes ++ (cs.filter fun c => c.table = i).filterMap Call.route? := by
  induction cs generalizing s with
  | nil => simp [run]
  | cons c cs ih =>
    rw [run_cons, ih]
    cases hc : Pattern.compile c.pattern with
    | error e =>
      rw [step_of_compile_error hc]
      by_cases hi : c.table = i <;>
        simp [hi, Call.route?, Call.compiled?_of_compile_error hc]
    | ok p =>
      rw [step_of_compile_ok hc]
      by_cases hi : c.table = i
      · subst hi
        simp [Call.route?, Call.compiled?_of_compile_ok hc]
      · simp [hi, Ne.symm hi]

theorem maxParams_run (s : Shared ι α) (cs : List (Call ι α)) :
    (s.run cs).pool.maxParams =
      max s.pool.maxParams (((cs.filterMap Call.compiled?).map Pattern.paramCount).foldr max 0) := by
  induction cs generalizing s with
  | nil => simp [run]
  | cons c cs ih =>
    rw [run_cons, ih]
    cases hc : Pattern.compile c.pattern with
    | error e =>
      rw [step_of_compile_error hc]
      simp [Call.compiled?_of_compile_error hc]
    | ok p =>
      rw [step_of_compile_ok hc]
      simp [Call.compiled?_of_compile_ok hc, Nat.max_assoc]

theorem run_filter_accepted (s : Shared ι α) (cs : List (Call ι α)) :
    s.run (cs.filter Call.accepted) = s.run cs := by
  induction cs generalizing s with
  | nil => rfl
  | cons c cs ih =>
    cases hc : Pattern.compile c.pattern with
    | error e =>
      have hrefused : c.accepted = false := by simp [Call.accepted, Call.compiled?_of_compile_error hc]
      rw [List.filter_cons_of_neg (by simp [hrefused]), run_cons, step_of_compile_error hc, ih]
    | ok p =>
      have haccepted : c.accepted = true := by simp [Call.accepted, Call.compiled?_of_compile_ok hc]
      rw [List.filter_cons_of_pos haccepted, run_cons, run_cons, ih]

theorem routes_run_fresh (k : Nat) (cs : List (Call ι α)) (i : ι) :
    (((fresh k : Shared ι α).run cs).tables i).routes =
      (cs.filter fun c => c.table = i).filterMap Call.route? := by
  rw [routes_run]
  rfl

theorem built_run_fresh (k : Nat) (cs : List (Call ι α)) (i : ι) :
    (((fresh k : Shared ι α).run cs).tables i).Built := by
  intro r hr
  rw [routes_run_fresh] at hr
  obtain ⟨c, -, hc⟩ := List.mem_filterMap.mp hr
  exact Call.compile_of_route? hc

theorem registration_run (k : Nat) (cs : List (Call ι α)) :
    (∀ (s : Shared ι α) (c : Call ι α) (e : RouteError), Pattern.compile c.pattern = .error e →
        s.call c = .error (c.failure e) ∧ s.step c = s) ∧
      (fresh k : Shared ι α).run (cs.filter Call.accepted) = (fresh k).run cs ∧
      (∀ i, (((fresh k : Shared ι α).run cs).tables i).routeList.Perm
        ((cs.filter fun c => c.table = i ∧ c.accepted).map Call.entry)) ∧
      (∀ i m key, (((fresh k : Shared ι α).run cs).tables i).routeList.filter
          (fun e => e.1 == m && Pattern.stem? e.2 == some key) =
        ((cs.filter fun c => c.table = i ∧ c.accepted).map Call.entry).filter
          (fun e => e.1 == m && Pattern.stem? e.2 == some key)) ∧
      (∀ i, (((fresh k : Shared ι α).run cs).tables i).methods.Nodup ∧
        ∀ m, m ∈ (((fresh k : Shared ι α).run cs).tables i).methods ↔
          ∃ c ∈ cs, c.table = i ∧ c.accepted ∧ c.method = m) ∧
      ((fresh k : Shared ι α).run cs).pool.maxParams =
        ((cs.filterMap Call.compiled?).map Pattern.paramCount).foldr max 0 := by
  have hentries (i : ι) : ((((fresh k : Shared ι α).run cs).tables i).routes.map
      fun r => (r.method, r.pattern)) = (cs.filter fun c => c.table = i ∧ c.accepted).map
        Call.entry := by
    rw [routes_run_fresh, Call.entries_filterMap_route?]
  refine ⟨fun s c e h => ⟨call_of_compile_error h, step_of_compile_error h⟩,
    run_filter_accepted _ _, fun i => ?_, fun i m key => ?_, fun i => ⟨?_, fun m => ?_⟩, ?_⟩
  · rw [← hentries i]
    exact RouteTable.routeList_perm _
  · rw [← hentries i]
    exact RouteTable.filter_routeList (built_run_fresh k cs i) m key
  · exact RouteTable.nodup_methods _
  · rw [RouteTable.mem_methods, routes_run_fresh]
    simp only [List.mem_filterMap, List.mem_filter, decide_eq_true_eq, Call.route?,
      Option.map_eq_some_iff, Call.accepted, Option.isSome_iff_exists]
    constructor
    · rintro ⟨r, ⟨c, ⟨hc, hi⟩, p, hp, rfl⟩, rfl⟩
      exact ⟨c, hc, hi, ⟨p, hp⟩, rfl⟩
    · rintro ⟨c, hc, hi, ⟨p, hp⟩, rfl⟩
      exact ⟨_, ⟨c, ⟨hc, hi⟩, p, hp, rfl⟩, rfl⟩
  · rw [maxParams_run]
    simp [fresh, Pool.withBound]

end Shared

end PrefixRouter
