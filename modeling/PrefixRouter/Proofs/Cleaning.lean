import PrefixRouter.Proofs.Canonical
import PrefixRouter.Router.Serve

namespace PrefixRouter

namespace Path

theorem resolve_empties {stack : List (List Char)} {trailing : Bool} {fs : List (List Char)}
    (h : ∀ f ∈ fs, f = []) : resolve stack trailing fs = (stack, trailing) := by
  induction fs with
  | nil => rfl
  | cons f fs ih =>
    rw [h f List.mem_cons_self, resolve, if_pos rfl]
    exact ih fun f' hf' => h f' (List.mem_cons_of_mem _ hf')

theorem resolve_names_append (stack : List (List Char)) (trailing : Bool) {es fs : List (List Char)}
    (hes : ∀ e ∈ es, IsName e) (hfs : ∀ f ∈ fs, f = []) :
    resolve stack trailing (es ++ fs) = (es.reverse ++ stack, trailing) := by
  induction es generalizing stack with
  | nil => exact resolve_empties hfs
  | cons e es ih =>
    obtain ⟨hne, hdot, hdots⟩ := hes e List.mem_cons_self
    rw [List.cons_append, resolve, if_neg hne, if_neg hdot, if_neg hdots,
      ih (e :: stack) fun e' he' => hes e' (List.mem_cons_of_mem _ he')]
    simp

theorem endsInSlash_slash_cons (body : List Char) :
    endsInSlash ('/' :: body) = (body.getLast? == some '/') := by
  cases body with
  | nil => rfl
  | cons b bs => simp [endsInSlash, List.getLast?_cons_cons]

theorem eq_slash_cons_of_isClean {p : List Char} (h : isClean p = true) :
    ∃ body, p = '/' :: body ∧ cleanElements (Text.pieces '/' body) = true := by
  unfold isClean at h
  split at h
  · rename_i body
    exact ⟨body, rfl, h⟩
  · cases h

theorem flatMap_pieces {body : List Char} :
    (Text.pieces '/' body).flatMap ('/' :: ·) = '/' :: body := by
  rw [Text.flatMap_cons_sep (Text.pieces_ne_nil '/' body), Text.glue_pieces]

theorem resolved_of_isClean {p : List Char} (h : isClean p = true) : resolved p = p := by
  obtain ⟨body, rfl, hclean⟩ := eq_slash_cons_of_isClean h
  by_cases hnil : body = []
  · subst hnil
    rfl
  by_cases hlast : body.getLast? = some '/'
  · -- the last element is the empty one after the final `/`
    obtain ⟨body', rfl⟩ := List.getLast?_eq_some_iff.mp hlast
    rw [Text.pieces_append_sep_end] at hclean
    have hnames := cleanElements_append_nil.mp hclean
    have hresolve : resolve [] true (Text.pieces '/' ('/' :: (body' ++ ['/']))) =
        ((Text.pieces '/' body').reverse, true) := by
      rw [Text.pieces_cons_sep, resolve, if_pos rfl, Text.pieces_append_sep_end,
        resolve_names_append [] true hnames (by simp), List.append_nil]
    simp only [resolved, endsInSlash_slash_cons, hlast, beq_self_eq_true, hresolve,
      List.reverse_reverse, flatMap_pieces, Bool.or_true, if_true, List.cons_append]
  · -- every element is a name and nothing asks for a trailing `/`
    have hnames : ∀ w ∈ Text.pieces '/' body, IsName w := by
      apply names_of_cleanElements hclean
      intro hempty
      rcases Text.eq_nil_or_getLast_of_pieces hempty with h' | h'
      · exact hnil h'
      · exact hlast h'
    have hresolve : resolve [] false (Text.pieces '/' ('/' :: body)) =
        ((Text.pieces '/' body).reverse, false) := by
      rw [Text.pieces_cons_sep, resolve, if_pos rfl, ← List.append_nil (Text.pieces '/' body),
        resolve_names_append [] false hnames (by simp), List.append_nil, List.append_nil]
    have hflag : endsInSlash ('/' :: body) = false := by
      simpa [endsInSlash_slash_cons] using hlast
    simp only [resolved, hflag, hresolve, List.reverse_reverse, flatMap_pieces,
      List.isEmpty_cons, Bool.or_false, Bool.false_eq_true, if_false]

theorem isClean_iff_resolved (p : List Char) : isClean p = true ↔ resolved p = p :=
  ⟨resolved_of_isClean, fun h => h ▸ isClean_resolved p⟩

theorem clean_eq_resolved (p : String) : clean p = String.ofList (resolved p.toList) := by
  cases h : isClean p.toList with
  | true => rw [clean_of_isClean h, resolved_of_isClean h, String.ofList_toList]
  | false => exact clean_of_not_isClean h

theorem clean_eq_self_iff (p : String) : clean p = p ↔ isClean p.toList = true := by
  constructor
  · intro h
    rw [← h]
    exact isClean_clean p
  · exact clean_of_isClean

theorem clean_clean (p : String) : clean (clean p) = clean p :=
  clean_of_isClean (isClean_clean p)

theorem head_clean (p : String) : (clean p).toList.head? = some '/' := by
  obtain ⟨body, hbody, -⟩ := eq_slash_cons_of_isClean (isClean_clean p)
  rw [hbody]
  rfl

end Path

namespace Router

variable {α : Type} {r : Router α}

theorem routedPath_of_clean (hc : r.config.cleanPath = true) (p : String) :
    r.routedPath (Path.clean p) = r.routedPath p := by
  simp only [routedPath, hc, if_true, Path.clean_clean]

theorem serve_of_routedPath (m : Method) {p q : String} (h : r.routedPath q = r.routedPath p) :
    r.serve m q = r.serve m p := by
  simp only [serve, h]

end Router

namespace Path

theorem clean_canonical (p : String) :
    (clean p).toList.head? = some '/' ∧ isClean (clean p).toList = true ∧
      (clean p = p ↔ isClean p.toList = true) ∧
      (isClean p.toList = true ↔ resolved p.toList = p.toList) ∧
      clean p = String.ofList (resolved p.toList) ∧ clean (clean p) = clean p ∧
      ∀ (α : Type) (r : Router α) (m : Method),
        r.config.cleanPath = true → r.serve m (clean p) = r.serve m p := by
  refine ⟨head_clean p, isClean_clean p, clean_eq_self_iff p, isClean_iff_resolved p.toList,
    clean_eq_resolved p, clean_clean p, ?_⟩
  intro α r m hc
  exact Router.serve_of_routedPath m (Router.routedPath_of_clean hc p)

def parentRouter : Router Nat :=
  { config := {}, pool := Pool.withBound 1000, table := ⟨[⟨.get, "/b", ⟨"/b", []⟩, 1⟩]⟩ }

theorem clean_canonical_parent :
    parentRouter.config.cleanPath = true ∧ clean "/a/../b" = "/b" ∧
      parentRouter.serve .get "/b" = parentRouter.serve .get "/a/../b" := by
  have hclean : clean "/a/../b" = "/b" := by decide
  refine ⟨rfl, hclean, ?_⟩
  rw [← hclean]
  exact (clean_canonical "/a/../b").2.2.2.2.2.2 Nat parentRouter .get rfl

end Path

end PrefixRouter
