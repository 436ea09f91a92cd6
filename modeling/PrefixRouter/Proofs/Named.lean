import PrefixRouter.Proofs.Search

namespace PrefixRouter

theorem splitExt_of_no_dot {v : String} (h : '.' ∉ v.toList) : splitExt v = (v, "") := by
  cases hlast : Text.lastIndexOf? '.' v.toList with
  | none => simp [splitExt, hlast]
  | some i =>
    obtain ⟨pre, post, hsplit, -, -⟩ := Text.lastIndexOf?_eq_some hlast
    exact absurd (hsplit ▸ List.mem_append_right pre List.mem_cons_self) h

theorem splitExt_of_dot {v : String} (h : '.' ∈ v.toList) :
    (splitExt v).1 ++ "." ++ (splitExt v).2 = v ∧ '.' ∉ (splitExt v).2.toList := by
  cases hlast : Text.lastIndexOf? '.' v.toList with
  | none => exact absurd h (Text.lastIndexOf?_eq_none hlast)
  | some i =>
    -- the last `.` sits between `pre` and a `post` without `.`
    obtain ⟨pre, post, hsplit, hlen, hpost⟩ := Text.lastIndexOf?_eq_some hlast
    have hparts : splitExt v = (String.ofList pre, String.ofList post) := by
      simp only [splitExt, hlast]
      rw [hsplit, ← hlen]
      simp
    rw [hparts]
    refine ⟨String.ext ?_, by simpa using hpost⟩
    simp [hsplit]

namespace PathParams

variable {ps : PathParams} {x v : String}

theorem get?_eq_some_iff :
    ps.get? x = some v ↔ ∃ pre post, ps.pairs = pre ++ (x, v) :: post ∧ ∀ kv ∈ pre, kv.1 ≠ x := by
  simp only [get?, Option.map_eq_some_iff, List.find?_eq_some_iff_append, beq_iff_eq,
    Bool.not_eq_true', beq_eq_false_iff_ne, ne_eq]
  constructor
  · rintro ⟨⟨k, w⟩, ⟨hk, pre, post, hpairs, hpre⟩, rfl⟩
    exact ⟨pre, post, by rw [hpairs, show k = x from hk], hpre⟩
  · rintro ⟨pre, post, hpairs, hpre⟩
    exact ⟨(x, v), ⟨rfl, pre, post, hpairs, hpre⟩, rfl⟩

theorem get?_eq_none_iff : ps.get? x = none ↔ ∀ kv ∈ ps.pairs, kv.1 ≠ x := by
  simp [get?, List.find?_eq_none]

end PathParams

namespace Params

@[simp] theorem isEmpty_toOwned (ps : Params) : ps.toOwned.isEmpty = ps.isEmpty := by
  simp [toOwned, PathParams.isEmpty, toList, isEmpty]

theorem owned_agrees (ps : Params) (x : String) :
    ps.toOwned.pairs = ps.toList ∧ ps.toOwned.size = ps.size ∧
      ps.toOwned.isEmpty = ps.isEmpty ∧ ps.toOwned.get? x = ps.get? x ∧
      ps.toOwned.getExt? x = ps.getExt? x ∧
      (ps.get? x = none ↔ ∀ kv ∈ ps.toList, kv.1 ≠ x) ∧
      (∀ v, ps.get? x = some v ↔
        ∃ pre post, ps.toList = pre ++ (x, v) :: post ∧ ∀ kv ∈ pre, kv.1 ≠ x) ∧
      (ps.getExt? x = none ↔ ps.get? x = none) ∧
      ∀ v, ps.get? x = some v → ∃ a b, ps.getExt? x = some (a, b) ∧
        if '.' ∈ v.toList then a ++ "." ++ b = v ∧ '.' ∉ b.toList else a = v ∧ b = "" := by
  refine ⟨rfl, size_toOwned ps, isEmpty_toOwned ps, rfl, rfl, ?_, fun v => ?_, ?_, ?_⟩
  · -- the view answers names through its owned copy
    rw [← get?_toOwned, PathParams.get?_eq_none_iff, pairs_toOwned]
  · rw [← get?_toOwned, PathParams.get?_eq_some_iff, pairs_toOwned]
  · simp [getExt?]
  · intro v hv
    refine ⟨(splitExt v).1, (splitExt v).2, by simp [getExt?, hv], ?_⟩
    split
    · exact splitExt_of_dot ‹_›
    · rw [splitExt_of_no_dot ‹_›]
      exact ⟨rfl, rfl⟩

end Params

end PrefixRouter
