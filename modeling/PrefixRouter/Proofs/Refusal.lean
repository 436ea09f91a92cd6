import PrefixRouter.Proofs.Compile

namespace PrefixRouter

namespace Pattern

def wildcardFollowed : List (List Char) → Bool
  | [] => false
  | g :: gs => (g.head? == some '*' && gs.any (· != [])) || wildcardFollowed gs

def refusal? (pattern : String) : Option RouteError :=
  match pattern.toList with
  | '/' :: body =>
    let segs := Text.pieces '/' body
    if segs.any Part.isUnnamed then some (.emptyName pattern)
    else if 2 ≤ segs.countP (·.head? == some '*') then some (.tooManyWildcards pattern)
    else if wildcardFollowed segs then some (.wildcardNotLast pattern)
    else none
  | _ => some (.missingLeadingSlash pattern)

theorem wildcardFollowed_iff {segs : List (List Char)} :
    wildcardFollowed segs = true ↔
      ∃ pre w post, segs = pre ++ w :: post ∧ w.head? = some '*' ∧ ∃ g ∈ post, g ≠ [] := by
  induction segs with
  | nil => simp [wildcardFollowed]
  | cons g gs ih =>
    simp only [wildcardFollowed, Bool.or_eq_true, Bool.and_eq_true, beq_iff_eq, List.any_eq_true,
      bne_iff_ne, ih]
    constructor
    · rintro (⟨hg, post⟩ | ⟨pre, w, post, rfl, hw, hpost⟩)
      · exact ⟨[], g, gs, rfl, hg, post⟩
      · exact ⟨g :: pre, w, post, rfl, hw, hpost⟩
    · rintro ⟨pre, w, post, hsplit, hw, hpost⟩
      cases pre with
      | nil =>
        obtain ⟨rfl, rfl⟩ := List.cons.inj hsplit
        exact Or.inl ⟨hw, hpost⟩
      | cons p pre =>
        obtain ⟨-, rfl⟩ := List.cons.inj hsplit
        exact Or.inr ⟨pre, w, post, rfl, hw, hpost⟩

theorem countP_pos_of_wildcardFollowed {segs : List (List Char)}
    (h : wildcardFollowed segs = true) : 0 < segs.countP (·.head? == some '*') := by
  obtain ⟨pre, w, post, rfl, hw, -⟩ := wildcardFollowed_iff.mp h
  simp only [List.countP_append, List.countP_cons, hw, beq_self_eq_true, if_true]
  omega

theorem wildcardFollowed_of_countP_eq_zero {segs : List (List Char)}
    (h : segs.countP (·.head? == some '*') = 0) : wildcardFollowed segs = false := by
  cases hf : wildcardFollowed segs with
  | false => rfl
  | true =>
    have := countP_pos_of_wildcardFollowed hf
    omega

end Pattern

namespace Part

theorem kindOf_eq_wildcard_iff (g : List Char) : kindOf g = .wildcard ↔ g.head? = some '*' := by
  unfold kindOf
  split
  · simp
  · simp
  · rename_i hparam hwild
    cases g with
    | nil => simp
    | cons c t =>
      simp only [reduceCtorEq, List.head?_cons, Option.some.injEq, false_iff]
      rintro rfl
      exact hwild t rfl

theorem kind_ofSegment (g : List Char) : (ofSegment g).kind = kindOf g := by
  unfold ofSegment
  split <;> simp_all

theorem head_ne_wildcard_of_isVariable {g : List Char} (h : isVariable g = false) :
    g.head? ≠ some '*' := by
  intro hw
  simp [isVariable, (kindOf_eq_wildcard_iff g).mpr hw] at h

end Part

namespace Pattern

theorem partsOf_cons (g : List Char) (gs : List (List Char)) :
    partsOf (g :: gs) = if g = [] then partsOf gs else Part.ofSegment g :: partsOf gs := by
  by_cases hg : g = [] <;> simp [partsOf, hg]

theorem partsOf_eq_nil_iff {gs : List (List Char)} : partsOf gs = [] ↔ ∀ g ∈ gs, g = [] := by
  simp [partsOf, List.filter_eq_nil_iff]

theorem wildcards_partsOf (gs : List (List Char)) :
    ((partsOf gs).filter (·.kind == .wildcard)).length = gs.countP (·.head? == some '*') := by
  induction gs with
  | nil => rfl
  | cons g gs ih =>
    rw [partsOf_cons, List.countP_cons, ← ih]
    by_cases hg : g = []
    · simp [hg]
    · by_cases hstar : g.head? = some '*' <;>
        simp [hg, hstar, Part.kind_ofSegment, Part.kindOf_eq_wildcard_iff]

theorem countP_dropWhile (segs : List (List Char)) :
    (segs.dropWhile (! Part.isVariable ·)).countP (·.head? == some '*') =
      segs.countP (·.head? == some '*') := by
  induction segs with
  | nil => rfl
  | cons g gs ih =>
    cases hv : Part.isVariable g with
    | true => simp [hv]
    | false => simp [hv, ih, Part.head_ne_wildcard_of_isVariable hv]

theorem wildcardFollowed_dropWhile (segs : List (List Char)) :
    wildcardFollowed (segs.dropWhile (! Part.isVariable ·)) = wildcardFollowed segs := by
  induction segs with
  | nil => rfl
  | cons g gs ih =>
    cases hv : Part.isVariable g with
    | true => simp [hv]
    | false => simp [hv, ih, wildcardFollowed, Part.head_ne_wildcard_of_isVariable hv]

variable {stem : String}

theorem hasWildcard_single (q : Part) : hasWildcard ⟨stem, [q]⟩ = (q.kind == .wildcard) := rfl

theorem hasWildcard_cons (q : Part) {ps : List Part} (hps : ps ≠ []) :
    hasWildcard ⟨stem, q :: ps⟩ = hasWildcard ⟨stem, ps⟩ := by
  obtain ⟨p, ps, rfl⟩ := List.exists_cons_of_ne_nil hps
  simp [hasWildcard, List.getLast?_cons_cons]

theorem wildcards_pos_of_hasWildcard {ps : List Part} (h : hasWildcard ⟨stem, ps⟩ = true) :
    0 < (ps.filter (·.kind == .wildcard)).length := by
  cases hl : ps.getLast? with
  | none => simp [hasWildcard, hl] at h
  | some q =>
    simp only [hasWildcard, hl] at h
    exact List.length_pos_of_mem (List.mem_filter.mpr ⟨List.mem_of_getLast? hl, h⟩)

theorem hasWildcard_partsOf_of_countP_eq_zero {gs : List (List Char)}
    (h : gs.countP (·.head? == some '*') = 0) : hasWildcard ⟨stem, partsOf gs⟩ = false := by
  cases hw : hasWildcard ⟨stem, partsOf gs⟩ with
  | false => rfl
  | true =>
    have := wildcards_pos_of_hasWildcard hw
    rw [wildcards_partsOf] at this
    omega

theorem any_ne_nil_iff {gs : List (List Char)} : gs.any (· != []) = true ↔ partsOf gs ≠ [] := by
  rw [Ne, partsOf_eq_nil_iff]
  simp

theorem hasWildcard_wildcard_cons {g : List Char} {gs : List (List Char)}
    (hw : g.head? = some '*') (hnone : gs.countP (·.head? == some '*') = 0) :
    hasWildcard ⟨stem, partsOf (g :: gs)⟩ = !gs.any (· != []) := by
  have hg : g ≠ [] := by
    rintro rfl
    simp at hw
  have hkind : (Part.ofSegment g).kind = .wildcard := by
    rw [Part.kind_ofSegment, Part.kindOf_eq_wildcard_iff]
    exact hw
  rw [partsOf_cons, if_neg hg]
  by_cases hempty : partsOf gs = []
  · rw [hempty, hasWildcard_single, hkind]
    simpa using partsOf_eq_nil_iff.mp hempty
  · rw [hasWildcard_cons _ hempty, hasWildcard_partsOf_of_countP_eq_zero hnone,
      any_ne_nil_iff.mpr hempty]
    rfl

theorem hasWildcard_partsOf {gs : List (List Char)} (hone : gs.countP (·.head? == some '*') = 1) :
    hasWildcard ⟨stem, partsOf gs⟩ = !wildcardFollowed gs := by
  induction gs with
  | nil => simp at hone
  | cons g gs ih =>
    rw [List.countP_cons] at hone
    by_cases hw : g.head? = some '*'
    · have hnone : gs.countP (·.head? == some '*') = 0 := by simpa [hw] using hone
      rw [hasWildcard_wildcard_cons hw hnone]
      simp [wildcardFollowed, hw, wildcardFollowed_of_countP_eq_zero hnone]
    · -- a segment before the wildcard leaves the last part where it is
      have hone' : gs.countP (·.head? == some '*') = 1 := by simpa [hw] using hone
      have hparts : partsOf gs ≠ [] := by
        intro hnil
        have := wildcards_partsOf gs
        rw [hnil, hone'] at this
        simp at this
      have hfollow : wildcardFollowed (g :: gs) = wildcardFollowed gs := by
        simp [wildcardFollowed, hw]
      rw [hfollow, ← ih hone', partsOf_cons]
      split
      · rfl
      · exact hasWildcard_cons _ hparts

theorem notLast_eq_wildcardFollowed {segs : List (List Char)}
    (hle : segs.countP (·.head? == some '*') ≤ 1) :
    (decide (segs.countP (·.head? == some '*') = 1) &&
        !hasWildcard ⟨stem, partsOf (segs.dropWhile (! Part.isVariable ·))⟩) =
      wildcardFollowed segs := by
  cases Nat.lt_or_eq_of_le hle with
  | inl hnone =>
    have hzero : segs.countP (·.head? == some '*') = 0 := by omega
    simp [wildcardFollowed_of_countP_eq_zero hzero, hzero]
  | inr hone =>
    have hdrop := countP_dropWhile segs
    rw [hone] at hdrop
    rw [hasWildcard_partsOf hdrop, wildcardFollowed_dropWhile, hone]
    simp

theorem compile_of_not_slash {p : String} (h : ∀ body, p.toList ≠ '/' :: body) :
    compile p = .error (.missingLeadingSlash p) := by
  unfold compile
  split
  · rename_i body hbody
    exact absurd hbody (h body)
  · rfl

theorem refusal?_of_not_slash {p : String} (h : ∀ body, p.toList ≠ '/' :: body) :
    refusal? p = some (.missingLeadingSlash p) := by
  unfold refusal?
  split
  · rename_i body hbody
    exact absurd hbody (h body)
  · rfl

theorem compile_eq_error_iff (p : String) (e : RouteError) :
    compile p = .error e ↔ refusal? p = some e := by
  by_cases hslash : ∃ body, p.toList = '/' :: body
  · obtain ⟨body, hbody⟩ := hslash
    rw [compile, refusal?, hbody]
    dsimp only
    by_cases hu : (Text.pieces '/' body).any Part.isUnnamed = true
    · simp only [hu, if_true, Except.error.injEq, Option.some.injEq]
    · simp only [hu, Bool.false_eq_true, if_false]
      -- `compile` counts wildcard parts after the stem; they are the wildcard segments
      rw [wildcards_partsOf, countP_dropWhile]
      by_cases hmany : 2 ≤ (Text.pieces '/' body).countP (·.head? == some '*')
      · rw [if_pos (by omega), if_pos hmany]
        simp only [Except.error.injEq, Option.some.injEq]
      · rw [if_neg (by omega), if_neg hmany, notLast_eq_wildcardFollowed (by omega)]
        split <;> simp
  · have hnot : ∀ body, p.toList ≠ '/' :: body := fun body hbody => hslash ⟨body, hbody⟩
    rw [compile_of_not_slash hnot, refusal?_of_not_slash hnot]
    simp only [Except.error.injEq, Option.some.injEq]

theorem pattern_of_refusal? {p : String} {e : RouteError} (h : refusal? p = some e) :
    e.pattern = p := by
  unfold refusal? at h
  split at h
  · dsimp only at h
    split at h
    · cases h
      rfl
    · split at h
      · cases h
        rfl
      · split at h
        · cases h
          rfl
        · cases h
  · cases h
    rfl

theorem compile_refusal (p : String) :
    (∀ e, compile p = .error e ↔ refusal? p = some e) ∧
      ((∃ c, compile p = .ok c) ↔ refusal? p = none) ∧
      ∀ e, compile p = .error e → e.pattern = p := by
  refine ⟨compile_eq_error_iff p, ?_,
    fun e he => pattern_of_refusal? ((compile_eq_error_iff p e).mp he)⟩
  cases hc : compile p with
  | ok c =>
    cases hr : refusal? p with
    | none => simp
    | some e =>
      have herr := (compile_eq_error_iff p e).mpr hr
      rw [hc] at herr
      cases herr
  | error e =>
    simp [(compile_eq_error_iff p e).mp hc]

example : refusal? "/*a/b/*c/d" = some (.tooManyWildcards "/*a/b/*c/d") := by decide

example : refusal? "/files/*rest//" = none := by decide

end Pattern

end PrefixRouter
