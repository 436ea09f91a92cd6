namespace PrefixRouter.Text

def pieces (sep : Char) : List Char → List (List Char)
  | [] => [[]]
  | c :: cs =>
    if c = sep then [] :: pieces sep cs
    else
      match pieces sep cs with
      | [] => [[c]]
      | w :: ws => (c :: w) :: ws

def glue (sep : Char) : List (List Char) → List Char
  | [] => []
  | [w] => w
  | w :: v :: ws => w ++ sep :: glue sep (v :: ws)

def lastIndexOf? (c : Char) : List Char → Option Nat
  | [] => none
  | x :: xs =>
    match lastIndexOf? c xs with
    | some i => some (i + 1)
    | none => if x = c then some 0 else none

variable {sep : Char}

theorem pieces_ne_nil (sep : Char) (cs : List Char) : pieces sep cs ≠ [] := by
  cases cs with
  | nil => simp [pieces]
  | cons c cs =>
    simp only [pieces]
    split
    · simp
    · split <;> simp

@[simp] theorem pieces_nil : pieces sep [] = [[]] := rfl

theorem pieces_cons_sep (cs : List Char) : pieces sep (sep :: cs) = [] :: pieces sep cs := by
  simp [pieces]

theorem glue_cons_cons (w v : List Char) (ws : List (List Char)) :
    glue sep (w :: v :: ws) = w ++ sep :: glue sep (v :: ws) := rfl

theorem glue_cons_char (c : Char) (w : List Char) (ws : List (List Char)) :
    glue sep ((c :: w) :: ws) = c :: glue sep (w :: ws) := by
  cases ws with
  | nil => rfl
  | cons v ws => rfl

theorem glue_pieces (cs : List Char) : glue sep (pieces sep cs) = cs := by
  induction cs with
  | nil => rfl
  | cons c cs ih =>
    by_cases hc : c = sep
    · subst hc
      rw [pieces_cons_sep]
      obtain ⟨w, ws, hw⟩ := List.exists_cons_of_ne_nil (pieces_ne_nil c cs)
      rw [hw] at ih ⊢
      rw [glue_cons_cons, ih]
      rfl
    · simp only [pieces, hc, if_false]
      obtain ⟨w, ws, hw⟩ := List.exists_cons_of_ne_nil (pieces_ne_nil sep cs)
      rw [hw] at ih ⊢
      simp only
      rw [glue_cons_char, ih]

theorem sep_not_mem_of_mem_pieces (cs : List Char) : ∀ w ∈ pieces sep cs, sep ∉ w := by
  induction cs with
  | nil => simp
  | cons c cs ih =>
    by_cases hc : c = sep
    · subst hc
      rw [pieces_cons_sep]
      intro w hw
      rcases List.mem_cons.1 hw with rfl | hw
      · simp
      · exact ih w hw
    · simp only [pieces, hc, if_false]
      obtain ⟨v, vs, hv⟩ := List.exists_cons_of_ne_nil (pieces_ne_nil sep cs)
      rw [hv] at ih ⊢
      intro w hw
      rcases List.mem_cons.1 hw with rfl | hw
      · simp only [List.mem_cons, not_or]
        exact ⟨fun h => hc h.symm, ih v (by simp)⟩
      · exact ih w (List.mem_cons_of_mem _ hw)

theorem lastIndexOf?_lt {c : Char} {cs : List Char} {i : Nat} (h : lastIndexOf? c cs = some i) :
    i < cs.length := by
  induction cs generalizing i with
  | nil => simp [lastIndexOf?] at h
  | cons x xs ih =>
    simp only [lastIndexOf?] at h
    split at h
    · rename_i j hj
      cases h
      simp [ih hj]
    · split at h
      · cases h
        simp
      · cases h

end PrefixRouter.Text
