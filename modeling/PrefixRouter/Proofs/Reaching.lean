import PrefixRouter.Proofs.Matching
import PrefixRouter.Proofs.Compile
import PrefixRouter.Proofs.Listing

namespace PrefixRouter

namespace RouteTable

variable {α : Type}

def valueText (gs : List String) : List Char :=
  gs.flatMap fun g => '/' :: g.toList

theorem toList_joint_values (J : String) (gs : List String) :
    (J ++ String.join (gs.map ("/" ++ ·))).toList = J.toList ++ valueText gs := by
  simp [valueText, String.toList_join, List.flatMap_map]

theorem valueText_cons (g : String) (gs : List String) :
    valueText (g :: gs) = '/' :: (g.toList ++ valueText gs) := rfl

theorem tail_pieces_values_cons {g : String} (gs : List String) (hg : '/' ∉ g.toList) :
    (Text.pieces '/' (valueText (g :: gs))).tail =
      g.toList :: (Text.pieces '/' (valueText gs)).tail := by
  rw [valueText_cons, Text.pieces_cons_sep, List.tail_cons]
  cases gs with
  | nil => simp [valueText, Text.pieces_of_not_mem hg]
  | cons g' gs => rw [valueText_cons, Text.pieces_append_sep _ hg, Text.pieces_cons_sep]; rfl

theorem tail_pieces_values_single (g : String) :
    (Text.pieces '/' (valueText [g])).tail = Text.pieces '/' g.toList := by
  simp [valueText, Text.pieces_cons_sep]

theorem tail_pieces_values_of_free {gs : List String} (h : ∀ g ∈ gs, '/' ∉ g.toList) :
    (Text.pieces '/' (valueText gs)).tail = gs.map String.toList := by
  induction gs with
  | nil => rfl
  | cons g gs ih =>
    rw [tail_pieces_values_cons _ (h g (by simp)), ih (fun g' hg' => h g' (by simp [hg'])),
      List.map_cons]

def valueParams (parts : List Part) (gs : List String) : List (String × String) :=
  (parts.zip gs).filterMap fun qg => if qg.1.kind = .literal then none else some (qg.1.name, qg.2)

theorem valueParams_cons (q : Part) (qs : List Part) (g : String) (gs : List String) :
    valueParams (q :: qs) (g :: gs) =
      (if q.kind = .literal then [] else [(q.name, g)]) ++ valueParams qs gs := by
  by_cases hk : q.kind = .literal <;> simp [valueParams, hk]

theorem expectedParams_values (parts : List Part) (gs : List String)
    (hlen : gs.length ≤ parts.length) (hlast : ∀ q ∈ parts.dropLast, q.kind ≠ .wildcard)
    (hvals : ∀ qg ∈ parts.zip gs, qg.1.kind ≠ .wildcard → '/' ∉ qg.2.toList) :
    expectedParams parts (Text.pieces '/' (valueText gs)).tail = valueParams parts gs := by
  induction parts generalizing gs with
  | nil =>
    rw [List.length_nil, Nat.le_zero, List.length_eq_zero_iff] at hlen
    subst hlen
    rfl
  | cons q qs ih =>
    cases gs with
    | nil => rfl
    | cons g gs =>
      by_cases hw : q.kind = .wildcard
      · -- a wildcard is the last part, so it takes the last value, `/`s and all
        have hqs : qs = [] := by
          cases qs with
          | nil => rfl
          | cons q' qs' => exact absurd hw (hlast q (by simp))
        subst hqs
        have hgs : gs = [] := by simpa using hlen
        subst hgs
        obtain ⟨w, ws, hpieces⟩ := List.exists_cons_of_ne_nil (Text.pieces_ne_nil '/' g.toList)
        have hglue : Text.glue '/' (w :: ws) = g.toList := by rw [← hpieces, Text.glue_pieces]
        rw [tail_pieces_values_single, hpieces]
        simp [expectedParams, valueParams, hw, hglue]
      · have hg : '/' ∉ g.toList := hvals (q, g) (by simp) hw
        have hrest := ih gs (by simpa using hlen)
          (fun q' hq' => hlast q' (by
            have hne : qs ≠ [] := by rintro rfl; simp at hq'
            simp [List.dropLast_cons_of_ne_nil hne, hq']))
          (fun qg hqg => hvals qg (List.mem_cons_of_mem _ hqg))
        rw [tail_pieces_values_cons _ hg]
        cases hk : q.kind with
        | wildcard => exact absurd hk hw
        | param => simp [expectedParams, valueParams_cons, hk, hrest]
        | literal => simp [expectedParams, valueParams_cons, hk, hrest]

theorem joint_mem_boundaries (J : List Char) (gs : List String) :
    J.length ∈ boundaries (J ++ valueText gs) := by
  rw [mem_boundaries]
  cases gs with
  | nil => left; simp [valueText]
  | cons g gs => right; simp [valueText_cons]

theorem hasStem_of_mem {t : RouteTable α} {r : Route α} (h : r ∈ t.routes) :
    t.hasStem r.method r.stem = true := by
  simp only [hasStem, List.any_eq_true, Bool.and_eq_true, beq_iff_eq]
  exact ⟨r, h, rfl, rfl⟩

theorem hasStem_nil {t : RouteTable α} (ht : t.Built) (m : Method) : t.hasStem m [] = false := by
  simp only [hasStem, List.any_eq_false, Bool.and_eq_true, beq_iff_eq, not_and]
  intro r hr _ hstem
  have hhead := Pattern.head_stem_of_compile (ht r hr)
  simp [Route.stem] at hstem
  simp [hstem] at hhead

theorem chosenStem?_joint {t : RouteTable α} (ht : t.Built) {r : Route α} (hr : r ∈ t.routes)
    {J : String} {gs : List String}
    (hJ : J = r.compiled.stem ∨ r.compiled.stem = "/" ∧ J = "" ∧ gs ≠ [])
    (hdeep : ∀ e ∈ boundaries (J.toList ++ valueText gs), J.length < e →
      t.hasStem r.method ((J.toList ++ valueText gs).take e) = false) :
    t.chosenStem? r.method (J.toList ++ valueText gs) = some (r.stem, J.length) := by
  rcases hJ with rfl | ⟨hroot, rfl, -⟩
  · simp only [← String.length_toList] at hdeep ⊢
    have hdeepest : deepestKey? (t.hasStem r.method) (r.compiled.stem.toList ++ valueText gs) =
        some r.compiled.stem.toList.length := by
      rw [deepestKey?_eq_some_iff, List.take_left]
      exact ⟨joint_mem_boundaries _ gs, hasStem_of_mem hr, hdeep⟩
    simp [chosenStem?, hdeepest, Route.stem]
  · -- no boundary gives a stem: the one at 0 gives the empty text, the others lie past the joint
    simp only [String.toList_empty, List.nil_append, String.length_empty] at hdeep ⊢
    have hnone : deepestKey? (t.hasStem r.method) (valueText gs) = none := by
      rw [deepestKey?_eq_none_iff]
      intro e he
      rcases Nat.eq_zero_or_pos e with rfl | hpos
      · exact hasStem_nil ht r.method
      · exact hdeep e he hpos
    have hslash : t.hasStem r.method ['/'] = true := by
      simpa [Route.stem, hroot] using hasStem_of_mem hr
    simp [chosenStem?, hnone, hslash, Route.stem, hroot]

theorem find?_bucket {t : RouteTable α} {pre post : List (Route α)} {r : Route α}
    (hr : t.routes = pre ++ r :: post) {n : Nat} (hacc : r.accepts n = true)
    (hpre : ∀ r' ∈ pre, r'.method = r.method → r'.stem = r.stem → r'.accepts n = false) :
    (t.bucket r.method r.stem).find? (·.accepts n) = some r := by
  have hnone : (pre.filter fun r' => r'.method == r.method && r'.stem == r.stem).find?
      (·.accepts n) = none := by
    rw [List.find?_eq_none]
    intro r' hr'
    simp only [List.mem_filter, Bool.and_eq_true, beq_iff_eq] at hr'
    simp [hpre r' hr'.1 hr'.2.1 hr'.2.2]
  simp [bucket, hr, List.filter_append, List.find?_append, hnone, hacc]

theorem accepts_values {r : Route α} (hc : Pattern.compile r.pattern = .ok r.compiled)
    {gs : List String}
    (hlen : gs.length = r.compiled.parts.length ∨
      gs.length < r.compiled.parts.length ∧ r.compiled.hasWildcard = true)
    (hvals : ∀ qg ∈ r.compiled.parts.zip gs, qg.1.kind ≠ .wildcard → '/' ∉ qg.2.toList) :
    r.accepts (Text.pieces '/' (valueText gs)).tail.length = true := by
  cases hw : r.compiled.hasWildcard with
  | true => simp [Route.accepts, hw]
  | false =>
    have heq : gs.length = r.compiled.parts.length := by
      rcases hlen with h | ⟨-, h⟩
      · exact h
      · simp [hw] at h
    have hfree : ∀ g ∈ gs, '/' ∉ g.toList := by
      intro g hg
      rw [← List.map_snd_zip (Nat.le_of_eq heq)] at hg
      obtain ⟨qg, hqg, rfl⟩ := List.mem_map.mp hg
      exact hvals qg hqg (Pattern.kind_ne_wildcard_of_hasWildcard hc hw (List.of_mem_zip hqg).1)
    simp [Route.accepts, tail_pieces_values_of_free hfree, heq]

theorem lookup_stem_values {t : RouteTable α} (ht : t.Built) {pre post : List (Route α)}
    {m : Method} {p : String} {c : Pattern} {v : α} (hr : t.routes = pre ++ ⟨m, p, c, v⟩ :: post)
    {pool : Pool} (hp : pool.Valid) (J : String) (gs : List String) {s : String}
    (hs : s = J ++ String.join (gs.map ("/" ++ ·)))
    (hJ : J = c.stem ∨ c.stem = "/" ∧ J = "" ∧ ∃ g ∈ gs.head?, g ≠ "")
    (hlen : gs.length = c.parts.length ∨ gs.length < c.parts.length ∧ c.hasWildcard = true)
    (hvals : ∀ qg ∈ c.parts.zip gs, qg.1.kind ≠ .wildcard → '/' ∉ qg.2.toList)
    (hdeep : ∀ e ∈ boundaries s.toList, J.length < e → t.hasStem m (s.toList.take e) = false)
    (hearlier : ∀ r ∈ pre, r.method = m → r.compiled.stem = c.stem →
      r.compiled.hasWildcard = false ∧
        r.compiled.parts.length ≠ (segmentsAfter s.toList J.length).length) :
    (t.lookup pool m s).1.map (fun found => (found.value, found.params.toList)) =
      some (v, valueParams c.parts gs) := by
  have hmem : (⟨m, p, c, v⟩ : Route α) ∈ t.routes := by simp [hr]
  have hc : Pattern.compile p = .ok c := ht _ hmem
  have hpath : s.toList = J.toList ++ valueText gs := by rw [hs, toList_joint_values]
  have hsegs : segmentsAfter s.toList J.length = (Text.pieces '/' (valueText gs)).tail := by
    rw [hpath, segmentsAfter, ← String.length_toList, List.drop_left]
  have hJ' : J = c.stem ∨ c.stem = "/" ∧ J = "" ∧ gs ≠ [] := by
    rcases hJ with h | ⟨hroot, hempty, g, hg, -⟩
    · exact Or.inl h
    · exact Or.inr ⟨hroot, hempty, fun hnil => by simp [hnil] at hg⟩
  have hhead : s.toList.head? = some '/' := by
    rw [hpath]
    rcases hJ' with rfl | ⟨-, rfl, hne⟩
    · simp [List.head?_append, Pattern.head_stem_of_compile hc]
    · obtain ⟨g, gs, rfl⟩ := List.exists_cons_of_ne_nil hne
      simp [valueText_cons]
  have hchosen : t.chosenStem? m s.toList = some (c.stem.toList, J.length) := by
    rw [hpath]
    exact chosenStem?_joint ht hmem hJ' (by simpa only [hpath] using hdeep)
  have hacc : (⟨m, p, c, v⟩ : Route α).accepts (Text.pieces '/' (valueText gs)).tail.length =
      true :=
    accepts_values hc hlen hvals
  have hbucket : (t.bucket m c.stem.toList).find?
      (·.accepts (Text.pieces '/' (valueText gs)).tail.length) = some ⟨m, p, c, v⟩ := by
    refine find?_bucket hr hacc fun r hr' hm hstem => ?_
    obtain ⟨hw, hn⟩ := hearlier r hr' hm (String.toList_inj.mp hstem)
    rw [hsegs] at hn
    simpa [Route.accepts, hw] using hn
  have hfind : t.find m s.toList = some (⟨m, p, c, v⟩, J.length) := by
    rw [find_of_head hhead, hchosen, Option.bind_some, ← length_segmentsAfter, hsegs, hbucket]
    rfl
  have hboundary := mem_boundaries.mp (hpath ▸ String.length_toList ▸ joint_mem_boundaries J.toList gs)
  rw [lookup_view_of_find_some hp hfind hboundary, hsegs,
    expectedParams_values c.parts gs (by omega) (fun q hq => Pattern.kind_ne_wildcard_of_mem_dropLast hc hq)
      hvals]

theorem lookup_stem_values_root :
    ((⟨[⟨.get, "/:id", ⟨"/", [⟨"id", .param⟩]⟩, 1⟩,
        ⟨.get, "/:a/:b", ⟨"/", [⟨"a", .param⟩, ⟨"b", .param⟩]⟩, 2⟩]⟩ : RouteTable Nat).lookup
        (Pool.withBound 8) .get "/x/y").1.map (fun found => (found.value, found.params.toList)) =
      some (2, [("a", "x"), ("b", "y")]) := by
  have hr : (⟨[⟨.get, "/:id", ⟨"/", [⟨"id", .param⟩]⟩, 1⟩,
      ⟨.get, "/:a/:b", ⟨"/", [⟨"a", .param⟩, ⟨"b", .param⟩]⟩, 2⟩]⟩ : RouteTable Nat).routes =
      [⟨.get, "/:id", ⟨"/", [⟨"id", .param⟩]⟩, 1⟩] ++
        ⟨.get, "/:a/:b", ⟨"/", [⟨"a", .param⟩, ⟨"b", .param⟩]⟩, 2⟩ :: [] := rfl
  have ht : (⟨[⟨.get, "/:id", ⟨"/", [⟨"id", .param⟩]⟩, 1⟩,
      ⟨.get, "/:a/:b", ⟨"/", [⟨"a", .param⟩, ⟨"b", .param⟩]⟩, 2⟩]⟩ : RouteTable Nat).Built := by
    intro r hr
    simp only [List.mem_cons, List.not_mem_nil, or_false] at hr
    rcases hr with rfl | rfl <;> rfl
  exact lookup_stem_values ht hr (Pool.valid_withBound 8) "" ["x", "y"] (by decide)
    (Or.inr ⟨rfl, rfl, "x", rfl, by decide⟩) (Or.inl rfl) (by decide) (by decide) (by decide)

end RouteTable

end PrefixRouter
