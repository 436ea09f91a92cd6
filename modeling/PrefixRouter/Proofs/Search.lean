import PrefixRouter.Table.Spec

namespace PrefixRouter

namespace Text

theorem lastIndexOf?_eq_none {c : Char} {l : List Char} (h : lastIndexOf? c l = none) : c ∉ l := by
  induction l with
  | nil => simp
  | cons x xs ih =>
    simp only [lastIndexOf?] at h
    split at h
    · cases h
    · rename_i hnone
      split at h
      · cases h
      · rename_i hx
        simp only [List.mem_cons, not_or]
        exact ⟨fun hc => hx hc.symm, ih hnone⟩

theorem lastIndexOf?_eq_some {c : Char} {l : List Char} {i : Nat}
    (h : lastIndexOf? c l = some i) : ∃ pre post, l = pre ++ c :: post ∧ pre.length = i ∧ c ∉ post := by
  induction l generalizing i with
  | nil => simp [lastIndexOf?] at h
  | cons x xs ih =>
    simp only [lastIndexOf?] at h
    split at h
    · rename_i j hj
      obtain ⟨pre, post, rfl, hlen, hc⟩ := ih hj
      cases h
      exact ⟨x :: pre, post, rfl, by simp [hlen], hc⟩
    · rename_i hnone
      split at h
      · rename_i hx
        cases h
        subst hx
        exact ⟨[], xs, rfl, rfl, lastIndexOf?_eq_none hnone⟩
      · cases h

end Text

namespace RouteTable

variable {α : Type}

def slashesBelow (path : List Char) (stop : Nat) : List Nat :=
  (List.range stop).filter fun e => path[e]? == some '/'

theorem boundaries_eq (s : List Char) : boundaries s = slashesBelow s s.length ++ [s.length] := rfl

theorem slashesBelow_succ (path : List Char) (j : Nat) :
    slashesBelow path (j + 1) =
      slashesBelow path j ++ (if path[j]? = some '/' then [j] else []) := by
  simp only [slashesBelow, List.range_succ, List.filter_append]
  split <;> simp_all

theorem slashesBelow_of_gap {path : List Char} {i stop : Nat} (hi : i < stop)
    (hgap : ∀ j, i < j → j < stop → path[j]? ≠ some '/') :
    slashesBelow path stop = slashesBelow path (i + 1) := by
  induction stop with
  | zero => omega
  | succ n ih =>
    rcases Nat.lt_succ_iff_lt_or_eq.mp hi with hlt | rfl
    · rw [slashesBelow_succ, ih hlt (fun j h1 h2 => hgap j h1 (by omega)),
        if_neg (hgap n hlt (by omega)), List.append_nil]
    · rfl

theorem slashesBelow_eq_nil {path : List Char} {stop : Nat}
    (h : ∀ j < stop, path[j]? ≠ some '/') : slashesBelow path stop = [] := by
  simp only [slashesBelow, List.filter_eq_nil_iff, List.mem_range]
  intro j hj
  simpa using h j hj

theorem take_eq_of_lastIndexOf? {path : List Char} {stop i : Nat}
    (h : Text.lastIndexOf? '/' (path.take stop) = some i) :
    i < min stop path.length ∧
      ∃ post, path.take stop = path.take i ++ '/' :: post ∧ '/' ∉ post := by
  obtain ⟨pre, post, hsplit, hlen, hpost⟩ := Text.lastIndexOf?_eq_some h
  have hlt : i < min stop path.length := by
    have := congrArg List.length hsplit
    simp only [List.length_take, List.length_append, List.length_cons] at this
    omega
  have hpre : path.take i = pre := by
    have hcut : (path.take stop).take i = pre := by
      rw [hsplit, ← hlen]
      simp
    rwa [List.take_take, Nat.min_eq_left (by omega)] at hcut
  exact ⟨hlt, post, hpre ▸ hsplit, hpost⟩

theorem slash_at_lastIndexOf? {path : List Char} {stop i : Nat}
    (h : Text.lastIndexOf? '/' (path.take stop) = some i) :
    path[i]? = some '/' ∧ ∀ j, i < j → j < stop → path[j]? ≠ some '/' := by
  obtain ⟨hlt, post, hsplit, hpost⟩ := take_eq_of_lastIndexOf? h
  have hlen : (path.take i).length = i := by simp; omega
  -- below `stop` the path reads as the text up to `i`, the `/` at `i`, then `post`
  have hread {j : Nat} (hj : j < stop) : path[j]? = (path.take i ++ '/' :: post)[j]? := by
    rw [← hsplit, List.getElem?_take, if_pos hj]
  refine ⟨?_, fun j hij hjs hj => ?_⟩
  · rw [hread (by omega), List.getElem?_append_right (by omega), hlen, Nat.sub_self]
    rfl
  · obtain ⟨k, hk⟩ : ∃ k, j - i = k + 1 := ⟨j - i - 1, by omega⟩
    rw [hread hjs, List.getElem?_append_right (by omega), hlen, hk, List.getElem?_cons_succ] at hj
    exact hpost (List.mem_of_getElem? hj)

theorem scanBack_eq_find? (isKey : List Char → Bool) {path : List Char} {stop : Nat} (k : Nat)
    (hstop : stop ≤ path.length) :
    scanBack isKey path stop k =
      ((stop :: (slashesBelow path stop).reverse).find? fun e => isKey (path.take e)).map
        fun e => (e, k + ((path.take stop).drop e).count '/') := by
  fun_induction scanBack isKey path stop k with
  | case1 stop k hkey =>
    have hdrop : (path.take stop).drop stop = [] := List.drop_eq_nil_of_le (List.length_take_le _ _)
    simp [hkey, hdrop]
  | case2 stop k hkey i hi _ ih =>
    obtain ⟨hlt, post, hsplit, hpost⟩ := take_eq_of_lastIndexOf? hi
    obtain ⟨hat, hgap⟩ := slash_at_lastIndexOf? hi
    have hslash : slashesBelow path stop = slashesBelow path i ++ [i] := by
      rw [slashesBelow_of_gap (by omega) hgap, slashesBelow_succ, if_pos hat]
    have hskip : (stop :: i :: (slashesBelow path i).reverse).find? (fun e => isKey (path.take e)) =
        (i :: (slashesBelow path i).reverse).find? (fun e => isKey (path.take e)) := by
      simp [hkey]
    rw [ih (by omega), hslash, List.reverse_append, List.reverse_singleton, List.singleton_append,
      hskip]
    cases hf : (i :: (slashesBelow path i).reverse).find? (fun e => isKey (path.take e)) with
    | none => rfl
    | some e =>
      have hei : e ≤ i := by
        have hmem := List.mem_of_find?_eq_some hf
        simp only [List.mem_cons, List.mem_reverse, slashesBelow, List.mem_filter,
          List.mem_range] at hmem
        omega
      have hcount : ((path.take stop).drop e).count '/' = ((path.take i).drop e).count '/' + 1 := by
        rw [hsplit, List.drop_append_of_le_length (by simp; omega), List.count_append,
          List.count_cons_self, List.count_eq_zero.mpr hpost]
      simp only [Option.map_some, hcount]
      congr 2
      omega
  | case3 stop k hkey hnone =>
    have hnil : slashesBelow path stop = [] := by
      apply slashesBelow_eq_nil
      intro j hj hslash
      apply Text.lastIndexOf?_eq_none hnone
      apply List.mem_of_getElem? (i := j)
      rw [List.getElem?_take, if_pos hj]
      exact hslash
    simp [hnil, hkey]

theorem scanBack_from_end (isKey : List Char → Bool) (s : List Char) :
    scanBack isKey s s.length 0 = (deepestKey? isKey s).map fun e => (e, (s.drop e).count '/') := by
  rw [scanBack_eq_find? _ 0 (Nat.le_refl _), deepestKey?, boundaries_eq, List.reverse_append]
  simp

theorem findBucket_eq_chosenStem? (t : RouteTable α) (m : Method) (s : List Char) :
    findBucket (t.hasStem m) s =
      (t.chosenStem? m s).map fun ke => (ke.1, ke.2, (s.drop ke.2).count '/') := by
  unfold findBucket chosenStem?
  rw [scanBack_from_end]
  cases deepestKey? (t.hasStem m) s with
  | some e => rfl
  | none => by_cases h : t.hasStem m ['/'] <;> simp [h]

theorem mem_boundaries {s : List Char} {e : Nat} :
    e ∈ boundaries s ↔ e = s.length ∨ s[e]? = some '/' := by
  simp only [boundaries_eq, slashesBelow, List.mem_append, List.mem_filter, List.mem_range,
    List.mem_singleton, beq_iff_eq]
  constructor
  · rintro (⟨-, h⟩ | h)
    · exact Or.inr h
    · exact Or.inl h
  · rintro (h | h)
    · exact Or.inr h
    · exact Or.inl ⟨(List.getElem?_eq_some_iff.mp h).1, h⟩

theorem boundaries_pairwise (s : List Char) : (boundaries s).Pairwise (· < ·) := by
  rw [boundaries_eq, List.pairwise_append]
  refine ⟨List.pairwise_lt_range.filter _, List.pairwise_singleton _ _, ?_⟩
  intro a ha b hb
  simp only [slashesBelow, List.mem_filter, List.mem_range, List.mem_singleton] at ha hb
  omega

theorem le_length_of_mem_boundaries {s : List Char} {e : Nat} (h : e ∈ boundaries s) :
    e ≤ s.length := by
  rcases mem_boundaries.mp h with rfl | h
  · exact Nat.le_refl _
  · exact Nat.le_of_lt (List.getElem?_eq_some_iff.mp h).1

variable {isKey : List Char → Bool} {s : List Char} {e : Nat}

theorem deepestKey?_spec (h : deepestKey? isKey s = some e) :
    e ∈ boundaries s ∧ isKey (s.take e) = true ∧
      ∀ e' ∈ boundaries s, e < e' → isKey (s.take e') = false := by
  obtain ⟨hkey, above, below, hsplit, habove⟩ := List.find?_eq_some_iff_append.mp h
  have hmem : ∀ {x}, x ∈ boundaries s ↔ x ∈ above ++ e :: below := by
    intro x
    rw [← hsplit, List.mem_reverse]
  refine ⟨hmem.mpr (by simp), hkey, ?_⟩
  intro e' he' hlt
  -- the reversed boundaries decrease, so everything after `e` in them is below `e`
  have hdesc := List.pairwise_reverse.mpr (boundaries_pairwise s)
  rw [hsplit, List.pairwise_append, List.pairwise_cons] at hdesc
  rcases List.mem_append.mp (hmem.mp he') with ha | hb
  · simpa using habove e' ha
  · rcases List.mem_cons.mp hb with rfl | hb
    · omega
    · have := hdesc.2.1.1 e' hb
      omega

theorem deepestKey?_eq_some_iff :
    deepestKey? isKey s = some e ↔
      e ∈ boundaries s ∧ isKey (s.take e) = true ∧
        ∀ e' ∈ boundaries s, e < e' → isKey (s.take e') = false := by
  constructor
  · exact deepestKey?_spec
  · rintro ⟨hmem, hkey, hmax⟩
    cases hd : deepestKey? isKey s with
    | none =>
      have := List.find?_eq_none.mp hd e (List.mem_reverse.mpr hmem)
      simp_all
    | some e₀ =>
      obtain ⟨hmem₀, hkey₀, hmax₀⟩ := deepestKey?_spec hd
      rcases Nat.lt_trichotomy e₀ e with hlt | rfl | hgt
      · simp [hmax₀ e hmem hlt] at hkey
      · rfl
      · simp [hmax e₀ hmem₀ hgt] at hkey₀

theorem deepestKey?_eq_none_iff :
    deepestKey? isKey s = none ↔ ∀ e ∈ boundaries s, isKey (s.take e) = false := by
  simp [deepestKey?, List.find?_eq_none]

end RouteTable

end PrefixRouter
