import PrefixRouter.Path.Clean
import PrefixRouter.Proofs.Capture

namespace PrefixRouter

namespace Text

variable {sep : Char}

theorem pieces_append_sep_end (cs : List Char) : pieces sep (cs ++ [sep]) = pieces sep cs ++ [[]] := by
  induction cs with
  | nil => simp [pieces]
  | cons c cs ih =>
    by_cases hc : c = sep
    · subst hc
      rw [List.cons_append, pieces_cons_sep, pieces_cons_sep, ih]
      rfl
    · obtain ⟨w, ws, hw⟩ := List.exists_cons_of_ne_nil (pieces_ne_nil sep cs)
      simp only [List.cons_append, pieces, if_neg hc, ih, hw, List.cons_append]

theorem pieces_glue {ws : List (List Char)} (hne : ws ≠ []) (h : ∀ w ∈ ws, sep ∉ w) :
    pieces sep (glue sep ws) = ws := by
  induction ws with
  | nil => exact absurd rfl hne
  | cons w ws ih =>
    cases ws with
    | nil => exact pieces_of_not_mem (h w List.mem_cons_self)
    | cons v vs =>
      rw [glue_cons_cons, pieces_append_sep _ (h w List.mem_cons_self),
        ih (List.cons_ne_nil _ _) fun u hu => h u (List.mem_cons_of_mem _ hu)]

theorem glue_append_nil {ws : List (List Char)} (hne : ws ≠ []) :
    glue sep (ws ++ [[]]) = glue sep ws ++ [sep] := by
  induction ws with
  | nil => exact absurd rfl hne
  | cons w ws ih =>
    cases ws with
    | nil => simp [glue]
    | cons v vs =>
      rw [List.cons_append, List.cons_append, glue_cons_cons, ← List.cons_append,
        ih (List.cons_ne_nil _ _), glue_cons_cons]
      simp

theorem flatMap_cons_sep {ws : List (List Char)} (hne : ws ≠ []) :
    ws.flatMap (sep :: ·) = sep :: glue sep ws := by
  induction ws with
  | nil => exact absurd rfl hne
  | cons w ws ih =>
    cases ws with
    | nil => simp [glue]
    | cons v vs =>
      rw [List.flatMap_cons, ih (List.cons_ne_nil _ _), glue_cons_cons]
      rfl

theorem eq_nil_or_getLast_of_pieces {cs : List Char} (h : (pieces sep cs).getLast? = some []) :
    cs = [] ∨ cs.getLast? = some sep := by
  obtain ⟨ws, hws⟩ := List.getLast?_eq_some_iff.mp h
  have hglue : glue sep (pieces sep cs) = cs := glue_pieces cs
  rw [← hglue, hws]
  cases ws with
  | nil => exact Or.inl rfl
  | cons w ws => exact Or.inr (by rw [glue_append_nil (List.cons_ne_nil _ _)]; simp)

end Text

namespace Path

def IsName (e : List Char) : Prop := e ≠ [] ∧ e ≠ ['.'] ∧ e ≠ ['.', '.']

theorem cleanElements_of_names {ws : List (List Char)} (h : ∀ w ∈ ws, IsName w) :
    cleanElements ws = true := by
  induction ws with
  | nil => rfl
  | cons w ws ih =>
    obtain ⟨hne, hdot, hdots⟩ := h w List.mem_cons_self
    cases ws with
    | nil => simp [cleanElements, hdot, hdots]
    | cons v vs =>
      rw [cleanElements]
      simp only [Bool.and_eq_true, bne_iff_ne]
      exact ⟨⟨⟨hne, hdot⟩, hdots⟩, ih fun u hu => h u (List.mem_cons_of_mem _ hu)⟩

theorem cleanElements_append_nil {ws : List (List Char)} :
    cleanElements (ws ++ [[]]) = true ↔ ∀ w ∈ ws, IsName w := by
  induction ws with
  | nil => simp [cleanElements]
  | cons w ws ih =>
    have hsplit : (w :: ws) ++ [[]] = w :: (ws ++ [[]]) := rfl
    obtain ⟨v, vs, hv⟩ := List.exists_cons_of_ne_nil (List.append_ne_nil_of_right_ne_nil ws
      (List.cons_ne_nil [] []))
    rw [hsplit, hv, cleanElements, ← hv]
    simp only [Bool.and_eq_true, bne_iff_ne, ih, List.forall_mem_cons, IsName, and_assoc]

theorem names_of_cleanElements {ws : List (List Char)} (h : cleanElements ws = true)
    (hlast : ws.getLast? ≠ some []) : ∀ w ∈ ws, IsName w := by
  induction ws with
  | nil => simp
  | cons w ws ih =>
    cases ws with
    | nil =>
      simp only [cleanElements, Bool.and_eq_true, bne_iff_ne, ne_eq] at h
      have hne : w ≠ [] := fun hw => hlast (by simp [hw])
      simpa [IsName] using ⟨hne, h.1, h.2⟩
    | cons v vs =>
      simp only [cleanElements, Bool.and_eq_true, bne_iff_ne, ne_eq] at h
      rw [List.forall_mem_cons]
      refine ⟨⟨h.1.1.1, h.1.1.2, h.1.2⟩, ih h.2 ?_⟩
      simpa using hlast

theorem resolve_names {stack : List (List Char)} {trailing : Bool} {es : List (List Char)}
    (hstack : ∀ w ∈ stack, IsName w ∧ '/' ∉ w) (hes : ∀ e ∈ es, '/' ∉ e) :
    ∀ w ∈ (resolve stack trailing es).1, IsName w ∧ '/' ∉ w := by
  induction es generalizing stack trailing with
  | nil => exact hstack
  | cons e es ih =>
    have hrest : ∀ e' ∈ es, '/' ∉ e' := fun e' he' => hes e' (List.mem_cons_of_mem _ he')
    simp only [resolve]
    split
    · exact ih hstack hrest
    · split
      · exact ih hstack hrest
      · split
        · exact ih (fun w hw => hstack w (List.mem_of_mem_tail hw)) hrest
        · rename_i hempty hdot hdots
          refine ih (fun w hw => ?_) hrest
          rcases List.mem_cons.mp hw with rfl | hw
          · exact ⟨⟨hempty, hdot, hdots⟩, hes w List.mem_cons_self⟩
          · exact hstack w hw

theorem isClean_resolved (p : List Char) : isClean (resolved p) = true := by
  have hnames := @resolve_names [] (endsInSlash p) _ (by simp) (Text.sep_not_mem_of_mem_pieces p)
  simp only [resolved]
  generalize resolve [] (endsInSlash p) (Text.pieces '/' p) = res at hnames
  obtain ⟨stack, trailing⟩ := res
  -- the names come out in the order they were pushed, each after a `/`
  have hrev : ∀ w ∈ stack.reverse, IsName w ∧ '/' ∉ w := fun w hw => hnames w (List.mem_reverse.mp hw)
  cases hs : stack.reverse with
  | nil => rfl
  | cons w ws =>
    rw [hs] at hrev
    have hglue := Text.pieces_glue (List.cons_ne_nil w ws) fun u hu => (hrev u hu).2
    rw [Text.flatMap_cons_sep (List.cons_ne_nil w ws)]
    cases trailing
    · simp only [List.isEmpty_cons, Bool.or_self, Bool.false_eq_true, if_false, isClean, hglue]
      exact cleanElements_of_names fun u hu => (hrev u hu).1
    · simp only [List.isEmpty_cons, Bool.or_true, if_true, List.cons_append, isClean,
        Text.pieces_append_sep_end, hglue]
      exact cleanElements_append_nil.mpr fun u hu => (hrev u hu).1

theorem isClean_clean (p : String) : isClean (clean p).toList = true := by
  cases h : isClean p.toList with
  | true => rw [clean_of_isClean h, h]
  | false => rw [clean_of_not_isClean h, String.toList_ofList, isClean_resolved]

end Path

end PrefixRouter
