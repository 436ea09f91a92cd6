import PrefixRouter.Proofs.Search

namespace PrefixRouter

namespace RouteTable

/-- The search through `s` starts its round `n` at position `stop` with `segments` counted. -/
inductive ScanRun (isKey : List Char → Bool) (s : List Char) : Nat → Nat → Nat → Prop
  | start : ScanRun isKey s 0 s.length 0
  | next {n stop segments i : Nat} : ScanRun isKey s n stop segments →
      isKey (s.take stop) = false → Text.lastIndexOf? '/' (s.take stop) = some i →
      ScanRun isKey s (n + 1) i (segments + 1)

structure ScanInv (isKey : List Char → Bool) (s : List Char) (stop segments : Nat) : Prop where
  boundary : stop ∈ boundaries s
  counted : segments = (s.drop stop).count '/'
  above : ∀ e ∈ boundaries s, stop < e → isKey (s.take e) = false

variable {isKey : List Char → Bool} {s : List Char} {n stop segments i : Nat}

theorem scanInv_start : ScanInv isKey s s.length 0 where
  boundary := mem_boundaries.mpr (Or.inl rfl)
  counted := by simp
  above e he hlt := absurd (le_length_of_mem_boundaries he) (Nat.not_le_of_lt hlt)

theorem ScanInv.next (hinv : ScanInv isKey s stop segments) (hkey : isKey (s.take stop) = false)
    (hi : Text.lastIndexOf? '/' (s.take stop) = some i) : ScanInv isKey s i (segments + 1) := by
  obtain ⟨hlt, post, hsplit, hpost⟩ := take_eq_of_lastIndexOf? hi
  obtain ⟨hat, hgap⟩ := slash_at_lastIndexOf? hi
  have hdrop : s.drop i = '/' :: post ++ s.drop stop := by
    conv => lhs; rw [← List.take_append_drop stop s, hsplit]
    rw [List.append_assoc, List.drop_left' (by simp; omega)]
  refine ⟨mem_boundaries.mpr (Or.inr hat), ?_, ?_⟩
  · rw [hdrop, List.cons_append, List.count_cons_self, List.count_append,
      List.count_eq_zero.mpr hpost, hinv.counted, Nat.zero_add]
  · intro e he hie
    rcases Nat.lt_or_ge stop e with hse | hes
    · exact hinv.above e he hse
    · rcases Nat.eq_or_lt_of_le hes with rfl | hes
      · exact hkey
      · -- no boundary lies strictly between the last `/` before `stop` and `stop`
        rcases mem_boundaries.mp he with rfl | hslash
        · exact absurd hes (Nat.not_lt_of_le (le_length_of_mem_boundaries hinv.boundary))
        · exact absurd hslash (hgap e hie hes)

theorem ScanRun.inv (h : ScanRun isKey s n stop segments) :
    ScanInv isKey s stop segments ∧ n = segments := by
  induction h with
  | start => exact ⟨scanInv_start, rfl⟩
  | next _ hkey hi ih => exact ⟨ih.1.next hkey hi, by rw [ih.2]⟩

theorem scanBack_of_not_key (hkey : isKey (s.take stop) = false)
    (hi : Text.lastIndexOf? '/' (s.take stop) = some i) :
    scanBack isKey s stop segments = scanBack isKey s i (segments + 1) := by
  rw [scanBack, if_neg (by simp [hkey])]
  split
  · rename_i j hj
    rw [hi] at hj
    cases hj
    rfl
  · rename_i hnone
    rw [hi] at hnone
    cases hnone

theorem ScanRun.scanBack_eq (h : ScanRun isKey s n stop segments) :
    scanBack isKey s s.length 0 = scanBack isKey s stop segments := by
  induction h with
  | start => rfl
  | next _ hkey hi ih => rw [ih, scanBack_of_not_key hkey hi]

theorem ScanInv.exhausted (hinv : ScanInv isKey s stop segments) (hs : s.head? = some '/')
    (hnone : Text.lastIndexOf? '/' (s.take stop) = none) : stop = 0 ∧ segments = s.count '/' := by
  obtain ⟨rest, rfl⟩ : ∃ rest, s = '/' :: rest := by
    cases s with
    | nil => cases hs
    | cons c rest => exact ⟨rest, by cases hs; rfl⟩
  cases stop with
  | zero => exact ⟨rfl, by simp [hinv.counted]⟩
  | succ k =>
    -- the `/` at `0` lies before any later position
    have := Text.lastIndexOf?_eq_none hnone
    simp at this

theorem count_le_of_scanRun (h : ScanRun isKey s n stop segments) : n ≤ s.count '/' := by
  obtain ⟨hinv, rfl⟩ := h.inv
  rw [hinv.counted]
  exact (List.drop_sublist _ _).count_le _

theorem pos_of_deepestKey? (hkeys : ∀ k, isKey k = true → k.head? = some '/') {e : Nat}
    (he : deepestKey? isKey s = some e) : 0 < e := by
  have hkey := (deepestKey?_spec he).2.1
  cases e with
  | zero => simpa using hkeys _ hkey
  | succ k => exact Nat.succ_pos k

theorem findBucket_deepest_key (hkeys : ∀ k, isKey k = true → k.head? = some '/')
    (hs : s.head? = some '/') :
    (∀ n stop segments, ScanRun isKey s n stop segments →
        n = segments ∧ n ≤ s.count '/' ∧ ScanInv isKey s stop segments ∧
        scanBack isKey s s.length 0 = scanBack isKey s stop segments ∧
        (Text.lastIndexOf? '/' (s.take stop) = none → stop = 0 ∧ segments = s.count '/')) ∧
      (∀ e ∈ boundaries s, isKey (s.take e) = true →
        (∀ e' ∈ boundaries s, e < e' → isKey (s.take e') = false) →
        0 < e ∧ findBucket isKey s = some (s.take e, e, (s.drop e).count '/')) ∧
      ((∀ e ∈ boundaries s, isKey (s.take e) = false) →
        findBucket isKey s = if isKey ['/'] then some (['/'], 0, s.count '/') else none) := by
  refine ⟨fun n stop segments h => ?_, fun e he hkey hmax => ?_, fun hnone => ?_⟩
  · obtain ⟨hinv, hn⟩ := h.inv
    exact ⟨hn, count_le_of_scanRun h, hinv, h.scanBack_eq, hinv.exhausted hs⟩
  · have hdeep : deepestKey? isKey s = some e := deepestKey?_eq_some_iff.mpr ⟨he, hkey, hmax⟩
    refine ⟨pos_of_deepestKey? hkeys hdeep, ?_⟩
    rw [findBucket, scanBack_from_end, hdeep]
    rfl
  · have hdeep : deepestKey? isKey s = none := deepestKey?_eq_none_iff.mpr hnone
    rw [findBucket, scanBack_from_end, hdeep]
    rfl

theorem findBucket_deepest_key_nested :
    findBucket (· == ['/', 'a']) ['/', 'a', '/', 'b'] = some (['/', 'a'], 2, 1) := by
  have hkeys : ∀ k, (k == ['/', 'a']) = true → k.head? = some '/' := by
    intro k hk
    rw [beq_iff_eq.mp hk]
    rfl
  refine ((findBucket_deepest_key hkeys rfl).2.1 2 (mem_boundaries.mpr (Or.inr rfl)) rfl ?_).2
  intro e' he' hlt
  rcases mem_boundaries.mp he' with rfl | h
  · rfl
  · -- a `/` past position `2` could only stand at `3`, where `b` stands
    have hlt' : e' < 4 := (List.getElem?_eq_some_iff.mp h).1
    obtain rfl : e' = 3 := by omega
    simp at h

end RouteTable

end PrefixRouter
