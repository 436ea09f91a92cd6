import PrefixRouter.Pattern.Basic

namespace PrefixRouter

namespace Pattern

variable {pattern : String} {c : Pattern}

theorem compile_eq_ok (h : compile pattern = .ok c) :
    ∃ body, pattern.toList = '/' :: body ∧
      c = ⟨stemOf pattern ((Text.pieces '/' body).takeWhile (! Part.isVariable ·))
          ((Text.pieces '/' body).dropWhile (! Part.isVariable ·)),
        partsOf ((Text.pieces '/' body).dropWhile (! Part.isVariable ·))⟩ ∧
      (c.parts.filter (·.kind == .wildcard)).length ≤ 1 ∧
      ((c.parts.filter (·.kind == .wildcard)).length = 1 → c.hasWildcard = true) := by
  unfold compile at h
  split at h
  · rename_i body hbody
    simp only at h
    split at h
    · cases h
    · split at h
      · cases h
      · split at h
        · cases h
        · rename_i hmany hlast
          cases h
          refine ⟨body, hbody, rfl, Nat.le_of_not_lt hmany, ?_⟩
          intro hone
          simpa [hone] using hlast
  · cases h

theorem head_stem_of_compile (h : compile pattern = .ok c) : c.stem.toList.head? = some '/' := by
  obtain ⟨body, hbody, rfl, -, -⟩ := compile_eq_ok h
  unfold stemOf
  split
  · simp [hbody]
  · simp

theorem kind_ne_wildcard_of_mem_dropLast (h : compile pattern = .ok c) {q : Part}
    (hq : q ∈ c.parts.dropLast) : q.kind ≠ .wildcard := by
  obtain ⟨-, -, -, hle, hone⟩ := compile_eq_ok h
  intro hw
  have hne : c.parts ≠ [] := by
    intro hnil
    simp [hnil] at hq
  have hbefore : 1 ≤ (c.parts.dropLast.filter (·.kind == .wildcard)).length :=
    List.length_pos_of_mem (List.mem_filter.mpr ⟨hq, by simp [hw]⟩)
  have hsplit : (c.parts.filter (·.kind == .wildcard)).length =
      (c.parts.dropLast.filter (·.kind == .wildcard)).length +
        ([c.parts.getLast hne].filter (·.kind == .wildcard)).length := by
    conv => lhs; rw [← List.dropLast_concat_getLast hne]
    rw [List.filter_append, List.length_append]
  -- a wildcard before the last part counts once already: a wildcard last would be a second,
  -- and without one the count of one would make the last part a wildcard after all
  by_cases hl : (c.parts.getLast hne).kind = .wildcard
  · simp [hl] at hsplit
    omega
  · have hcount : (c.parts.filter (·.kind == .wildcard)).length =
        (c.parts.dropLast.filter (·.kind == .wildcard)).length := by
      simpa [hl] using hsplit
    have hwild := hone (by omega)
    simp [hasWildcard, List.getLast?_eq_some_getLast hne, hl] at hwild

theorem kind_ne_wildcard_of_hasWildcard (h : compile pattern = .ok c)
    (hw : c.hasWildcard = false) {q : Part} (hq : q ∈ c.parts) : q.kind ≠ .wildcard := by
  obtain ⟨-, -, -, hle, hone⟩ := compile_eq_ok h
  intro hk
  have hpos : 1 ≤ (c.parts.filter (·.kind == .wildcard)).length :=
    List.length_pos_of_mem (List.mem_filter.mpr ⟨hq, by simp [hk]⟩)
  simp [hone (by omega)] at hw

end Pattern

end PrefixRouter
