import PrefixRouter.Proofs.Cleaning

namespace PrefixRouter

namespace Text

variable {sep : Char}

theorem pieces_sep_append (xs ys : List Char) :
    pieces sep (xs ++ sep :: ys) = pieces sep xs ++ pieces sep ys := by
  induction xs with
  | nil => rw [List.nil_append, pieces_cons_sep, pieces_nil]; rfl
  | cons c cs ih =>
    by_cases hc : c = sep
    · subst hc
      rw [List.cons_append, pieces_cons_sep, pieces_cons_sep, ih]
      rfl
    · obtain ⟨w, ws, hw⟩ := List.exists_cons_of_ne_nil (pieces_ne_nil sep cs)
      simp only [List.cons_append, pieces, if_neg hc, ih, hw]

end Text

namespace Path

def written (stack : List (List Char)) (trailing : Bool) : List Char :=
  let body := stack.reverse.flatMap ('/' :: ·)
  if body.isEmpty || trailing then body ++ ['/'] else body

theorem written_ne_nil (stack : List (List Char)) (trailing : Bool) : written stack trailing ≠ [] := by
  unfold written
  dsimp only
  split <;> simp_all

def stackStep (stack : List (List Char)) (e : List Char) : List (List Char) :=
  if e = [] ∨ e = ['.'] then stack else if e = ['.', '.'] then stack.tail else e :: stack

theorem resolve_cons (stack : List (List Char)) (t : Bool) (e : List Char) (es : List (List Char)) :
    resolve stack t (e :: es) = resolve (stackStep stack e) (t || (e == ['.'] && es.isEmpty)) es := by
  rw [resolve]
  by_cases he : e = []
  · simp [he, stackStep]
  · by_cases hdot : e = ['.']
    · simp [hdot, stackStep]
    · by_cases hdots : e = ['.', '.']
      · simp [hdots, stackStep]
      · have hb : (e == ['.']) = false := beq_eq_false_iff_ne.mpr hdot
        simp [he, hdot, hdots, hb, stackStep]

theorem resolve_nil_cons (stack : List (List Char)) (trailing : Bool) (es : List (List Char)) :
    resolve stack trailing ([] :: es) = resolve stack trailing es := by
  rw [resolve, if_pos rfl]

theorem stack_resolve (stack : List (List Char)) (t t' : Bool) (es : List (List Char)) :
    (resolve stack t es).1 = (resolve stack t' es).1 := by
  induction es generalizing stack t t' with
  | nil => rfl
  | cons e es ih =>
    rw [resolve_cons, resolve_cons]
    exact ih _ _ _

theorem flag_resolve (stack : List (List Char)) (t : Bool) (es : List (List Char)) :
    (resolve stack t es).2 = (t || es.getLast? == some ['.']) := by
  induction es generalizing stack t with
  | nil => simp [resolve]
  | cons e es ih =>
    rw [resolve_cons, ih]
    -- a `.` asks for the trailing `/` exactly when no element follows it
    cases es with
    | nil => by_cases hdot : e = ['.'] <;> simp [hdot]
    | cons f fs => simp [List.getLast?_cons_cons]

theorem resolve_eq (stack : List (List Char)) (t : Bool) (es : List (List Char)) :
    resolve stack t es = ((resolve stack false es).1, t || es.getLast? == some ['.']) := by
  rw [← flag_resolve stack t es, stack_resolve stack false t es]

theorem stack_resolve_append (stack : List (List Char)) (t : Bool) (es fs : List (List Char)) :
    (resolve stack t (es ++ fs)).1 = (resolve (resolve stack t es).1 t fs).1 := by
  induction es generalizing stack with
  | nil => rfl
  | cons e es ih =>
    rw [List.cons_append, resolve_cons, resolve_cons, stack_resolve _ _ t, ih,
      stack_resolve (stackStep stack e) (t || (e == ['.'] && es.isEmpty)) t es]

theorem resolved_eq_written (p : List Char) :
    resolved p = written (resolve [] false (Text.pieces '/' p)).1
      (endsInSlash p || (Text.pieces '/' p).getLast? == some ['.']) := by
  rw [resolved, resolve_eq]
  rfl

theorem stack_resolved (p : List Char) (t t' : Bool) :
    (resolve [] t (Text.pieces '/' (resolved p))).1 = (resolve [] t' (Text.pieces '/' p)).1 := by
  rw [resolved_eq_written, stack_resolve [] t' false]
  generalize hflag : (endsInSlash p || (Text.pieces '/' p).getLast? == some ['.']) = trailing
  have hnames := @resolve_names [] false _ (by simp) (Text.sep_not_mem_of_mem_pieces p)
  generalize (resolve [] false (Text.pieces '/' p)).1 = stack at hnames ⊢
  -- the names come back in the order they were pushed, after the empty element before them
  cases hs : stack.reverse with
  | nil =>
    rw [List.reverse_eq_nil_iff.mp hs]
    rfl
  | cons w ws =>
    have hrev : ∀ u ∈ w :: ws, IsName u ∧ '/' ∉ u := fun u hu =>
      hnames u (List.mem_reverse.mp (hs ▸ hu))
    have hglue := @Text.pieces_glue '/' (w :: ws) (List.cons_ne_nil w ws) fun u hu => (hrev u hu).2
    have hpieces : ∃ fs : List (List Char), (∀ f ∈ fs, f = []) ∧
        Text.pieces '/' (written stack trailing) = [] :: ((w :: ws) ++ fs) := by
      unfold written
      dsimp only
      rw [hs, Text.flatMap_cons_sep (List.cons_ne_nil w ws)]
      split
      · refine ⟨[[]], by simp, ?_⟩
        rw [List.cons_append, Text.pieces_cons_sep, Text.pieces_append_sep_end, hglue]
      · refine ⟨[], by simp, ?_⟩
        rw [Text.pieces_cons_sep, hglue, List.append_nil]
    obtain ⟨fs, hfs, hp⟩ := hpieces
    rw [hp, resolve_nil_cons, resolve_names_append [] t (fun u hu => (hrev u hu).1) hfs,
      ← hs, List.reverse_reverse, List.append_nil]

theorem endsInSlash_cons_ne {p : List Char} (hp : p ≠ ['/']) :
    endsInSlash ('/' :: p) = endsInSlash p := by
  rw [endsInSlash_slash_cons]
  cases p with
  | nil => rfl
  | cons a as =>
    cases as with
    | nil =>
      have ha : a ≠ '/' := fun h => hp (by rw [h])
      simp [endsInSlash, ha]
    | cons b bs => simp [endsInSlash]

theorem endsInSlash_append_sep {xs : List Char} (hxs : xs ≠ []) (ys : List Char) :
    endsInSlash (xs ++ '/' :: ys) = (('/' :: ys).getLast? == some '/') := by
  have hlen : 1 < (xs ++ '/' :: ys).length := by
    cases xs with
    | nil => exact absurd rfl hxs
    | cons x xs =>
      simp only [List.cons_append, List.length_cons, List.length_append]
      omega
  simp only [endsInSlash, hlen, decide_true, Bool.true_and, List.getLast?_append,
    List.getLast?_cons, Option.some_or]

theorem getLast?_append_pieces (ws : List (List Char)) (ys : List Char) :
    (ws ++ Text.pieces '/' ys).getLast? = (Text.pieces '/' ys).getLast? := by
  obtain ⟨v, vs, hv⟩ := List.exists_cons_of_ne_nil (Text.pieces_ne_nil '/' ys)
  rw [List.getLast?_append, hv, List.getLast?_cons, Option.some_or]

theorem resolved_slash_cons (p : List Char) : resolved ('/' :: p) = resolved p := by
  by_cases hp : p = ['/']
  · subst hp
    rfl
  · obtain ⟨w, ws, hw⟩ := List.exists_cons_of_ne_nil (Text.pieces_ne_nil '/' p)
    rw [resolved_eq_written, resolved_eq_written, Text.pieces_cons_sep, resolve_nil_cons,
      endsInSlash_cons_ne hp, hw, List.getLast?_cons_cons]

theorem resolved_resolved_append (p q : List Char) :
    resolved (resolved p ++ '/' :: q) = resolved (p ++ '/' :: q) := by
  by_cases hp : p = []
  · subst hp
    exact resolved_slash_cons ('/' :: q)
  · have hres : resolved p ≠ [] := by
      rw [resolved_eq_written]
      exact written_ne_nil _ _
    rw [resolved_eq_written (resolved p ++ _), resolved_eq_written (p ++ _), Text.pieces_sep_append,
      Text.pieces_sep_append, stack_resolve_append, stack_resolve_append, stack_resolved p false false,
      endsInSlash_append_sep hres, endsInSlash_append_sep hp, getLast?_append_pieces,
      getLast?_append_pieces]

theorem clean_clean_append (p q : String) :
    clean (clean p ++ "/" ++ q) = clean (p ++ "/" ++ q) ∧ clean ("/" ++ p) = clean p := by
  constructor
  · have hjoin : (clean p ++ "/" ++ q).toList = resolved p.toList ++ '/' :: q.toList := by
      rw [String.toList_append, String.toList_append, clean_eq_resolved p, String.toList_ofList,
        List.append_assoc]
      rfl
    rw [clean_eq_resolved, clean_eq_resolved (p ++ "/" ++ q), hjoin, resolved_resolved_append,
      String.toList_append, String.toList_append, List.append_assoc]
    rfl
  · rw [clean_eq_resolved, clean_eq_resolved p, String.toList_append]
    exact congrArg String.ofList (resolved_slash_cons p.toList)

end Path

end PrefixRouter
