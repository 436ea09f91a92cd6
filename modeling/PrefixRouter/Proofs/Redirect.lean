import PrefixRouter.Router.Serve
import PrefixRouter.Proofs.Canonical
import PrefixRouter.Proofs.Session

namespace PrefixRouter

namespace RouteTable

variable {α : Type} {t : RouteTable α} {m : Method}

theorem method_of_find {s : List Char} {r : Route α} {b : Nat} (h : t.find m s = some (r, b)) :
    r.method = m := by
  obtain ⟨-, key, -, hr⟩ := exists_chosenStem?_of_find h
  have hmem := List.mem_of_find?_eq_some hr
  simp only [bucket, List.mem_filter, Bool.and_eq_true, beq_iff_eq] at hmem
  exact hmem.2.1

theorem route_of_lookup {pool : Pool} {path : String} {found : Match α}
    (h : (t.lookup pool m path).1 = some found) :
    ∃ r ∈ t.routes, r.method = m ∧ found.value = r.value := by
  cases hf : t.find m path.toList with
  | none =>
    rw [lookup_of_find_none hf] at h
    cases h
  | some re =>
    obtain ⟨r, e⟩ := re
    rw [lookup_fst_of_find_some hf] at h
    cases h
    exact ⟨r, mem_routes_of_find hf, method_of_find hf, rfl⟩

end RouteTable

namespace Router

variable {α : Type} (r : Router α) (m : Method)

@[simp] theorem table_lookup (path : String) : (r.lookup m path).2.table = r.table := by
  unfold lookup
  split
  · rfl
  · split <;> rfl

@[simp] theorem config_lookup (path : String) : (r.lookup m path).2.config = r.config := by
  unfold lookup
  split
  · rfl
  · split <;> rfl

theorem isSome_lookup (path : String) : (r.lookup m path).1.isSome = r.contains m path := by
  have hfirst := RouteTable.isSome_lookup r.table r.pool m path
  unfold lookup contains
  split
  · rename_i found pool hl
    rw [hl] at hfirst
    simp [← hfirst]
  · rename_i pool hl
    rw [hl] at hfirst
    split
    · rename_i hget
      simp [← hfirst, hget, RouteTable.isSome_lookup]
    · rename_i hget
      simp [← hfirst, hget]

theorem route_of_lookup {path : String} {found : Match α} (h : (r.lookup m path).1 = some found) :
    ∃ route ∈ r.table.routes, (route.method = m ∨ r.fallsBackToGet m = true ∧ route.method = .get) ∧
      found.value = route.value := by
  unfold lookup at h
  split at h
  · rename_i found' pool hl
    obtain ⟨route, hmem, hmeth, hval⟩ := RouteTable.route_of_lookup (show _ = some found by rw [hl]; exact h)
    exact ⟨route, hmem, Or.inl hmeth, hval⟩
  · rename_i pool hl
    split at h
    · rename_i hget
      obtain ⟨route, hmem, hmeth, hval⟩ := RouteTable.route_of_lookup h
      exact ⟨route, hmem, Or.inr ⟨hget, hmeth⟩, hval⟩
    · cases h

theorem fallback_ne_redirect (path : String) (kind : Redirect) (a : String) :
    r.fallback m path ≠ .redirect kind a := by
  intro h
  simp only [fallback] at h
  split at h
  · split at h
    · split at h <;> cases h
    · split at h <;> cases h
  · split at h
    · split at h
      · split at h <;> cases h
      · split at h <;> cases h
    · split at h <;> cases h

variable {r m}

theorem redirectFor?_eq_some {path : String} {answer : Response α}
    (h : r.redirectFor? m path = some answer) :
    path ≠ "/" ∧ r.contains m (alternate path) = true ∧
      answer = .redirect (if m = .get then .movedPermanently else .permanentRedirect)
        (alternate path) := by
  unfold redirectFor? at h
  dsimp only at h
  by_cases hguard : (m != .connect && path != "/" && r.config.redirectTrailingSlash) = true
  · rw [if_pos hguard] at h
    by_cases hcontains : r.contains m (alternate path) = true
    · rw [if_pos hcontains] at h
      simp only [Bool.and_eq_true, bne_iff_ne] at hguard
      refine ⟨hguard.1.2, hcontains, ?_⟩
      rw [← Option.some.inj h]
      by_cases hget : m = .get <;> simp [hget]
    · rw [if_neg hcontains] at h
      cases h
  · rw [if_neg hguard] at h
    cases h

theorem serve_of_lookup_some {uriPath : String} {found : Match α}
    (h : (r.lookup m (r.routedPath uriPath)).1 = some found) :
    (r.serve m uriPath).1 = .handled found.value (some found.params.toOwned) := by
  unfold serve
  dsimp only
  split
  · rename_i found' r' hl
    rw [hl] at h
    cases h
    rfl
  · rename_i r' hl
    rw [hl] at h
    cases h

theorem serve_redirect {uriPath : String} {kind : Redirect} {a : String}
    (h : (r.serve m uriPath).1 = .redirect kind a) :
    (r.serve m uriPath).2 = (r.lookup m (r.routedPath uriPath)).2 ∧
      r.routedPath uriPath ≠ "/" ∧ a = alternate (r.routedPath uriPath) ∧
      (r.lookup m (r.routedPath uriPath)).2.contains m a = true ∧
      kind = if m = .get then .movedPermanently else .permanentRedirect := by
  unfold serve at h ⊢
  dsimp only at h ⊢
  split at h
  · cases h
  · rename_i r' hl
    simp only [hl]
    split at h
    · rename_i answer hanswer
      obtain ⟨hne, hcontains, rfl⟩ := redirectFor?_eq_some hanswer
      cases h
      exact ⟨rfl, hne, rfl, hcontains, rfl⟩
    · exact absurd h (fallback_ne_redirect _ _ _ _ _)

theorem alternate_cases (p : String) :
    (p.toList.getLast? = some '/' ∧ (alternate p).toList = p.toList.dropLast) ∨
      (p.toList.getLast? ≠ some '/' ∧ alternate p = p ++ "/") := by
  by_cases hlast : p.toList.getLast? = some '/'
  · exact Or.inl ⟨hlast, by simp [alternate, hlast]⟩
  · exact Or.inr ⟨hlast, by simp [alternate, hlast]⟩

theorem isClean_alternate {p : String} (hp : Path.isClean p.toList = true) (hne : p ≠ "/") :
    Path.isClean (alternate p).toList = true := by
  obtain ⟨body, hbody⟩ : ∃ body, p.toList = '/' :: body := by
    cases hcs : p.toList with
    | nil => simp [hcs, Path.isClean] at hp
    | cons c body =>
      by_cases hc : c = '/'
      · exact ⟨body, hc ▸ rfl⟩
      · simp [hcs, Path.isClean, hc] at hp
  have hbody_ne : body ≠ [] := by
    rintro rfl
    apply hne
    rw [← String.toList_inj, hbody]
    rfl
  have hclean : Path.cleanElements (Text.pieces '/' body) = true := by
    simpa [Path.isClean, hbody] using hp
  -- the last character of the path is that of its body
  have hlast_body : p.toList.getLast? = body.getLast? := by
    obtain ⟨b, bs, rfl⟩ := List.exists_cons_of_ne_nil hbody_ne
    rw [hbody, List.getLast?_cons_cons]
  -- without its trailing `/` the elements are the names before the empty last one; with one
  -- more, the last element, a name, becomes an inner one
  rcases alternate_cases p with ⟨hlast, halt⟩ | ⟨hlast, halt⟩
  · obtain ⟨body', rfl⟩ : ∃ body', body = body' ++ ['/'] :=
      List.getLast?_eq_some_iff.mp (hlast_body ▸ hlast)
    rw [Text.pieces_append_sep_end] at hclean
    rw [halt, hbody, List.dropLast_cons_of_ne_nil hbody_ne, List.dropLast_concat]
    exact Path.cleanElements_of_names (Path.cleanElements_append_nil.mp hclean)
  · have hnames : ∀ w ∈ Text.pieces '/' body, Path.IsName w := by
      apply Path.names_of_cleanElements hclean
      intro hnil
      rcases Text.eq_nil_or_getLast_of_pieces hnil with hnil | hslash
      · exact hbody_ne hnil
      · exact hlast (hlast_body ▸ hslash)
    rw [halt, String.toList_append, hbody, show "/".toList = ['/'] from rfl, List.cons_append]
    simp only [Path.isClean, Text.pieces_append_sep_end]
    exact Path.cleanElements_append_nil.mpr hnames

theorem routedPath_after_redirect {r' : Router α} {uriPath a : String}
    (hconfig : r'.config = r.config) (hne : r.routedPath uriPath ≠ "/")
    (ha : a = alternate (r.routedPath uriPath)) : r'.routedPath a = a := by
  unfold routedPath
  rw [hconfig]
  split
  · rename_i hclean
    -- the routed path was cleaned, so its alternate is clean and cleaning keeps it
    have hrouted : r.routedPath uriPath = Path.clean uriPath := if_pos hclean
    apply Path.clean_of_isClean
    rw [ha]
    apply isClean_alternate _ hne
    rw [hrouted]
    exact Path.isClean_clean _
  · rfl

theorem redirect_reaches_route (r : Router α) (m : Method) (uriPath : String) {kind : Redirect}
    {a : String} (h : (r.serve m uriPath).1 = .redirect kind a) :
    kind.status = (if m = .get then 301 else 308) ∧
      (((r.routedPath uriPath).toList.getLast? = some '/' ∧
          a.toList = (r.routedPath uriPath).toList.dropLast) ∨
        ((r.routedPath uriPath).toList.getLast? ≠ some '/' ∧ a = r.routedPath uriPath ++ "/")) ∧
      ∃ route ∈ r.table.routes,
        (route.method = m ∨ r.fallsBackToGet m = true ∧ route.method = .get) ∧
        ∃ ps, ((r.serve m uriPath).2.serve m a).1 = .handled route.value (some ps) := by
  obtain ⟨hnext, hne, ha, hcontains, hkind⟩ := serve_redirect h
  refine ⟨?_, by rw [ha]; exact alternate_cases _, ?_⟩
  · rw [hkind]
    by_cases hget : m = .get <;> simp [hget, Redirect.status]
  · -- the router the redirect left has the same routes and settings
    have htable : (r.serve m uriPath).2.table = r.table := by rw [hnext, table_lookup]
    have hconfig : (r.serve m uriPath).2.config = r.config := by rw [hnext, config_lookup]
    have hpath := routedPath_after_redirect hconfig hne ha
    have hsome : ((r.serve m uriPath).2.lookup m a).1.isSome = true := by
      rw [isSome_lookup, hnext]
      exact hcontains
    obtain ⟨found, hfound⟩ := Option.isSome_iff_exists.mp hsome
    obtain ⟨route, hmem, hmeth, hval⟩ := route_of_lookup _ _ hfound
    refine ⟨route, htable ▸ hmem, ?_, found.params.toOwned, ?_⟩
    · simpa [fallsBackToGet, hconfig] using hmeth
    · rw [serve_of_lookup_some (hpath ▸ hfound), hval]

def aboutRouter : Router Nat :=
  { config := {}, pool := Pool.withBound 1000, table := ⟨[⟨.get, "/about/", ⟨"/about/", []⟩, 1⟩]⟩ }

theorem redirect_reaches_route_about :
    (aboutRouter.serve .get "/about").1 = .redirect .movedPermanently "/about/" ∧
      Redirect.movedPermanently.status = (if Method.get = .get then 301 else 308) ∧
      (((aboutRouter.routedPath "/about").toList.getLast? = some '/' ∧
          "/about/".toList = (aboutRouter.routedPath "/about").toList.dropLast) ∨
        ((aboutRouter.routedPath "/about").toList.getLast? ≠ some '/' ∧
          "/about/" = aboutRouter.routedPath "/about" ++ "/")) ∧
      ∃ route ∈ aboutRouter.table.routes,
        (route.method = .get ∨ aboutRouter.fallsBackToGet .get = true ∧ route.method = .get) ∧
        ∃ ps, (((aboutRouter.serve .get "/about").2).serve .get "/about/").1 =
          .handled route.value (some ps) := by
  -- `/about` has no route, `/about/` has one
  have hclean : Path.isClean "/about".toList = true := by decide
  have hmiss : aboutRouter.table.find .get "/about".toList = none := by
    rw [RouteTable.find_of_head (by decide)]
    decide
  have hhit : aboutRouter.table.contains .get "/about/" = true := by
    rw [RouteTable.contains_of_head (by decide)]
    decide
  have halt : alternate "/about" = "/about/" := by decide
  have hflag : aboutRouter.config.redirectTrailingSlash = true := rfl
  have hredirect : (aboutRouter.serve .get "/about").1 = .redirect .movedPermanently "/about/" := by
    simp [serve, routedPath, Path.clean_of_isClean hclean, lookup,
      RouteTable.lookup_of_find_none hmiss, fallsBackToGet, redirectFor?, halt, hflag, contains, hhit]
  exact ⟨hredirect, redirect_reaches_route aboutRouter .get _ hredirect⟩

end Router

end PrefixRouter
