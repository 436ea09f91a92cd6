import PrefixRouter.Table.Spec

namespace PrefixRouter

namespace Text

variable {sep : Char}

theorem pieces_of_not_mem {w : List Char} (h : sep ∉ w) : pieces sep w = [w] := by
  induction w with
  | nil => rfl
  | cons c cs ih =>
    simp only [List.mem_cons, not_or] at h
    simp only [pieces, if_neg (Ne.symm h.1), ih h.2]

theorem pieces_append_sep {w : List Char} (rest : List Char) (h : sep ∉ w) :
    pieces sep (w ++ sep :: rest) = w :: pieces sep rest := by
  induction w with
  | nil => simp [pieces]
  | cons c cs ih =>
    simp only [List.mem_cons, not_or] at h
    simp only [List.cons_append, pieces, if_neg (Ne.symm h.1), ih h.2]

theorem not_mem_or_split (sep : Char) (l : List Char) :
    sep ∉ l ∨ ∃ w rest, l = w ++ sep :: rest ∧ sep ∉ w := by
  induction l with
  | nil => exact Or.inl List.not_mem_nil
  | cons c cs ih =>
    by_cases hc : c = sep
    · exact Or.inr ⟨[], cs, by rw [hc]; rfl, List.not_mem_nil⟩
    · rcases ih with h | ⟨w, rest, rfl, hw⟩
      · left
        simp only [List.mem_cons, not_or]
        exact ⟨fun h' => hc h'.symm, h⟩
      · right
        refine ⟨c :: w, rest, rfl, ?_⟩
        simp only [List.mem_cons, not_or]
        exact ⟨fun h' => hc h'.symm, hw⟩

theorem length_pieces (l : List Char) : (pieces sep l).length = l.count sep + 1 := by
  induction l with
  | nil => rfl
  | cons c cs ih =>
    by_cases hc : c = sep
    · subst hc
      rw [pieces_cons_sep, List.length_cons, ih, List.count_cons_self]
    · simp only [pieces, if_neg hc]
      obtain ⟨w, ws, hw⟩ := List.exists_cons_of_ne_nil (pieces_ne_nil sep cs)
      rw [hw] at ih ⊢
      simp only [List.length_cons, List.count_cons_of_ne hc] at ih ⊢
      omega

theorem idxOf?_append_sep {w : List Char} (rest : List Char) (h : sep ∉ w) :
    (w ++ sep :: rest).idxOf? sep = some w.length := by
  induction w with
  | nil => simp [List.idxOf?_cons]
  | cons c cs ih =>
    simp only [List.mem_cons, not_or] at h
    simp [List.idxOf?_cons, Ne.symm h.1, ih h.2]

end Text

namespace RouteTable

theorem length_segmentsAfter (s : List Char) (e : Nat) :
    (segmentsAfter s e).length = (s.drop e).count '/' := by
  simp [segmentsAfter, Text.length_pieces]

theorem segmentEnd_spec {path : List Char} {start : Nat} {g : List Char} {gs : List (List Char)}
    (h : Text.pieces '/' (path.drop start) = g :: gs) :
    Params.slice path start (segmentEnd path start) = String.ofList g ∧
      (segmentEnd path start = path.length ∨ path[segmentEnd path start]? = some '/') ∧
      segmentsAfter path (segmentEnd path start) = gs := by
  rcases Text.not_mem_or_split '/' (path.drop start) with hno | ⟨w, rest, hsplit, hw⟩
  · rw [Text.pieces_of_not_mem hno] at h
    obtain ⟨rfl, rfl⟩ := List.cons.inj h
    have hend : segmentEnd path start = path.length := by
      simp [segmentEnd, List.idxOf?_eq_none_iff.mpr hno]
    refine ⟨?_, Or.inl hend, ?_⟩
    · rw [Params.slice, hend, List.take_of_length_le (by simp)]
    · simp [segmentsAfter, hend]
  · rw [hsplit, Text.pieces_append_sep rest hw] at h
    obtain ⟨rfl, rfl⟩ := List.cons.inj h
    have hend : segmentEnd path start = start + w.length := by
      simp [segmentEnd, hsplit, Text.idxOf?_append_sep rest hw]
    have hdrop : path.drop (start + w.length) = '/' :: rest := by
      rw [← List.drop_drop, hsplit, List.drop_left]
    refine ⟨?_, Or.inr ?_, ?_⟩
    · simp [Params.slice, hend, hsplit]
    · rw [hend, ← List.getElem?_drop, hsplit]
      simp
    · rw [hend, segmentsAfter, hdrop, Text.pieces_cons_sep]
      rfl

theorem pairs_captureFrom {path : List Char} {parts : List Part} (cs : List Capture)
    (cap : Option Nat) (rest : List Part) (k sep : Nat) (hrest : parts.drop k = rest)
    (hsep : sep = path.length ∨ path[sep]? = some '/') :
    (captureFrom path sep (rest.zipIdx k)).map (Params.pairOf ⟨path, parts, cs, cap⟩) =
      expectedParams rest (segmentsAfter path sep) := by
  induction rest generalizing k sep with
  | nil => simp [captureFrom, expectedParams]
  | cons p ps ih =>
    have hname : parts[k]? = some p := by
      have := congrArg (·[0]?) hrest
      simpa using this
    have htail : parts.drop (k + 1) = ps := by
      rw [← List.drop_drop, hrest]
      rfl
    by_cases hend : path.length ≤ sep
    · have hnil : path.drop sep = [] := List.drop_eq_nil_of_le hend
      simp [captureFrom, hend, segmentsAfter, hnil, expectedParams]
    · have hlt : sep < path.length := Nat.lt_of_not_le hend
      have hat : path[sep] = '/' := by
        rcases hsep with h | h
        · omega
        · simpa [hlt] using h
      have hcons : path.drop sep = '/' :: path.drop (sep + 1) := by
        rw [List.drop_eq_getElem_cons hlt, hat]
      -- the segments after `sep` are the pieces of the text after its `/`
      obtain ⟨g, gs, hg⟩ := List.exists_cons_of_ne_nil (Text.pieces_ne_nil '/' (path.drop (sep + 1)))
      obtain ⟨hslice, hbound, hafter⟩ := segmentEnd_spec hg
      have hsegs : segmentsAfter path sep = g :: gs := by
        rw [segmentsAfter, hcons, Text.pieces_cons_sep, hg]
        rfl
      have hnext := ih (k + 1) (segmentEnd path (sep + 1)) htail hbound
      rw [hafter] at hnext
      rw [hsegs, List.zipIdx_cons]
      simp only [captureFrom, if_neg hend]
      cases hk : p.kind with
      | wildcard =>
        have hrestText : Text.glue '/' (g :: gs) = path.drop (sep + 1) := by
          rw [← hg, Text.glue_pieces]
        simp [expectedParams, hk, Params.pairOf, hname, Params.slice, hrestText,
          List.take_of_length_le]
      | param => simp [expectedParams, hk, Params.pairOf, hname, hslice, hnext]
      | literal => simp [expectedParams, hk, hnext]

end RouteTable

end PrefixRouter
