import PrefixRouter.Proofs.Refusal
import PrefixRouter.Proofs.Canonical

namespace PrefixRouter

namespace Text

variable {sep : Char}

theorem glue_append {xs ys : List (List Char)} (hxs : xs ≠ []) (hys : ys ≠ []) :
    glue sep (xs ++ ys) = glue sep xs ++ sep :: glue sep ys := by
  induction xs with
  | nil => exact absurd rfl hxs
  | cons x xs ih =>
    cases xs with
    | nil =>
      obtain ⟨y, ys', rfl⟩ := List.exists_cons_of_ne_nil hys
      rfl
    | cons x' xs' =>
      calc glue sep (x :: x' :: xs' ++ ys)
          = x ++ sep :: glue sep (x' :: xs' ++ ys) := glue_cons_cons x x' (xs' ++ ys)
        _ = x ++ sep :: (glue sep (x' :: xs') ++ sep :: glue sep ys) := by
          rw [ih (List.cons_ne_nil _ _)]
        _ = glue sep (x :: x' :: xs') ++ sep :: glue sep ys := by
          rw [glue_cons_cons]
          simp

end Text

namespace Part

theorem kindOf_cons_of_ne {c : Char} {t : List Char} (hparam : c ≠ ':') (hwild : c ≠ '*') :
    kindOf (c :: t) = .literal := by
  simp [kindOf, hparam, hwild]

theorem isVariable_nil : isVariable [] = false := rfl

theorem render_ofSegment (g : List Char) : (ofSegment g).render.toList = '/' :: g := by
  cases g with
  | nil => rfl
  | cons c t =>
    by_cases hparam : c = ':'
    · subst hparam
      simp [ofSegment, kindOf, render, sign]
    · by_cases hwild : c = '*'
      · subst hwild
        simp [ofSegment, kindOf, render, sign]
      · simp [ofSegment, kindOf_cons_of_ne hparam hwild, render, sign]

end Part

namespace Pattern

def segments (pattern : String) : List (List Char) := Text.pieces '/' pattern.toList.tail

def firstVariable (pattern : String) : Nat := (segments pattern).findIdx Part.isVariable

variable {pattern : String} {c : Pattern} {body : List Char}

theorem compile_eq_ok_iff :
    compile pattern = .ok c ↔ ∃ body, pattern.toList = '/' :: body ∧
      (Text.pieces '/' body).any Part.isUnnamed = false ∧
      c = ⟨stemOf pattern ((Text.pieces '/' body).takeWhile (! Part.isVariable ·))
          ((Text.pieces '/' body).dropWhile (! Part.isVariable ·)),
        partsOf ((Text.pieces '/' body).dropWhile (! Part.isVariable ·))⟩ ∧
      (c.parts.filter (·.kind == .wildcard)).length ≤ 1 ∧
      ((c.parts.filter (·.kind == .wildcard)).length = 1 → c.hasWildcard = true) := by
  constructor
  · intro h
    obtain ⟨body, hbody, hc, hle, hone⟩ := compile_eq_ok h
    refine ⟨body, hbody, ?_, hc, hle, hone⟩
    cases hu : (Text.pieces '/' body).any Part.isUnnamed with
    | false => rfl
    | true =>
      rw [compile, hbody] at h
      simp [hu] at h
  · rintro ⟨body, hbody, hnamed, rfl, hle, hone⟩
    unfold compile
    split
    · rename_i body' hbody'
      obtain rfl : body = body' := (List.cons.inj (hbody.symm.trans hbody')).2
      rw [if_neg (by simp [hnamed]), if_neg (Nat.not_lt.mpr hle)]
      split
      · rename_i hlast
        simp only [Bool.and_eq_true, decide_eq_true_eq, Bool.not_eq_true'] at hlast
        simp [hone hlast.1] at hlast
      · rfl
    · rename_i hnot
      exact (hnot body hbody).elim

theorem partsOf_filter (gs : List (List Char)) : partsOf (gs.filter (· != [])) = partsOf gs := by
  simp [partsOf, List.filter_filter]

theorem toList_join_render (gs : List (List Char)) :
    (String.join ((partsOf gs).map Part.render)).toList = (gs.filter (· != [])).flatMap ('/' :: ·) := by
  simp [partsOf, String.toList_join, List.flatMap_map, Part.render_ofSegment]

theorem toList_segments_tail (hbody : pattern.toList = '/' :: body) :
    segments pattern = Text.pieces '/' body := by
  rw [segments, hbody]
  rfl

theorem takeWhile_eq_take_firstVariable (hbody : pattern.toList = '/' :: body) :
    (Text.pieces '/' body).takeWhile (! Part.isVariable ·) =
      (segments pattern).take (firstVariable pattern) := by
  rw [toList_segments_tail hbody, firstVariable, toList_segments_tail hbody,
    List.takeWhile_eq_take_findIdx_not]
  simp only [Bool.not_not]

theorem dropWhile_eq_drop_firstVariable (hbody : pattern.toList = '/' :: body) :
    (Text.pieces '/' body).dropWhile (! Part.isVariable ·) =
      (segments pattern).drop (firstVariable pattern) := by
  rw [toList_segments_tail hbody, firstVariable, toList_segments_tail hbody,
    List.dropWhile_eq_drop_findIdx_not]
  simp only [Bool.not_not]

theorem takeWhile_dropWhile_append {lits : List (List Char)}
    (hlits : ∀ g ∈ lits, Part.isVariable g = false) {g : List Char} (hg : Part.isVariable g = true)
    (gs : List (List Char)) :
    (lits ++ g :: gs).takeWhile (! Part.isVariable ·) = lits ∧
      (lits ++ g :: gs).dropWhile (! Part.isVariable ·) = g :: gs := by
  have hpos : ∀ a ∈ lits, (! Part.isVariable a) = true := fun a ha => by simp [hlits a ha]
  have hneg : ¬ (! Part.isVariable g) = true := by simp [hg]
  rw [List.takeWhile_append_of_pos hpos, @List.takeWhile_cons_of_neg _ _ g gs hneg, List.append_nil,
    List.dropWhile_append_of_pos hpos, @List.dropWhile_cons_of_neg _ _ g gs hneg]
  exact ⟨rfl, rfl⟩

theorem drop_firstVariable_ne_nil (hlt : firstVariable pattern < (segments pattern).length) :
    (segments pattern).drop (firstVariable pattern) ≠ [] := by
  simp only [ne_eq, List.drop_eq_nil_iff]
  omega

theorem stemOf_nil (lits : List (List Char)) : stemOf pattern lits [] = pattern := rfl

theorem stemOf_of_ne_nil (lits : List (List Char)) {rest : List (List Char)} (hrest : rest ≠ []) :
    stemOf pattern lits rest = String.ofList ('/' :: Text.glue '/' lits) := by
  simp [stemOf, List.isEmpty_iff, hrest]

theorem render_of_parts_nil (stem : String) : render ⟨stem, []⟩ = stem := by
  simp [render]

theorem ne_nil_of_isVariable {g : List Char} (hg : Part.isVariable g = true) : g ≠ [] := by
  rintro rfl
  simp [Part.isVariable_nil] at hg

theorem exists_variable_of_dropWhile {segs : List (List Char)} {g : List Char}
    {gs : List (List Char)} (h : segs.dropWhile (! Part.isVariable ·) = g :: gs) :
    Part.isVariable g = true := by
  have := @List.head_dropWhile_not _ (fun a => ! Part.isVariable a) segs (by simp [h])
  simpa [h] using this

theorem toList_render_stemOf (lits : List (List Char)) {g : List Char}
    (hg : Part.isVariable g = true) (gs : List (List Char)) :
    (render ⟨stemOf pattern lits (g :: gs), partsOf (g :: gs)⟩).toList =
      '/' :: Text.glue '/' ((if Text.glue '/' lits = [] then [] else lits) ++
        (g :: gs).filter (· != [])) := by
  have hW : (g :: gs).filter (· != []) ≠ [] := by
    simp [ne_nil_of_isVariable hg]
  have hparts : (partsOf (g :: gs)).isEmpty = false := by
    simp [partsOf_cons, ne_nil_of_isVariable hg]
  have hjoin : (String.join ((partsOf (g :: gs)).map Part.render)).toList =
      '/' :: Text.glue '/' ((g :: gs).filter (· != [])) := by
    rw [toList_join_render, Text.flatMap_cons_sep hW]
  rw [stemOf_of_ne_nil lits (List.cons_ne_nil g gs)]
  unfold render
  dsimp only
  by_cases hl : Text.glue '/' lits = []
  · -- the stem is `/` and is left out
    rw [if_pos (by simp [hl, hparts]), hjoin, if_pos hl, List.nil_append]
  · have hlits : lits ≠ [] := by
      rintro rfl
      exact hl rfl
    rw [if_neg (by simp [hl]), String.toList_append, String.toList_ofList, hjoin, if_neg hl,
      Text.glue_append hlits hW]
    rfl

theorem glue_keep (lits : List (List Char)) :
    Text.glue '/' (if Text.glue '/' lits = [] then [] else lits) = Text.glue '/' lits := by
  split <;> simp_all [Text.glue]

theorem mem_keep {lits : List (List Char)} {l : List Char}
    (hl : l ∈ (if Text.glue '/' lits = [] then [] else lits)) : l ∈ lits := by
  split at hl <;> simp_all

theorem compile_render (h : compile pattern = .ok c) : compile c.render = .ok c := by
  obtain ⟨body, hbody, hnamed, hc, hle, hone⟩ := compile_eq_ok_iff.mp h
  have hsplit : (Text.pieces '/' body).takeWhile (! Part.isVariable ·) ++
      (Text.pieces '/' body).dropWhile (! Part.isVariable ·) = Text.pieces '/' body :=
    List.takeWhile_append_dropWhile
  have hlits : ∀ l ∈ (Text.pieces '/' body).takeWhile (! Part.isVariable ·),
      Part.isVariable l = false := by
    intro l hl
    simpa using List.all_eq_true.mp List.all_takeWhile l hl
  obtain ⟨lits, hl⟩ : ∃ lits, (Text.pieces '/' body).takeWhile (! Part.isVariable ·) = lits :=
    ⟨_, rfl⟩
  rw [hl] at hc hsplit hlits
  cases hrest : (Text.pieces '/' body).dropWhile (! Part.isVariable ·) with
  | nil =>
    -- no variable segment: the pattern is its own stem and is its own text
    rw [hrest, stemOf_nil] at hc
    rw [hc, show partsOf [] = [] from rfl, render_of_parts_nil, ← show partsOf [] = [] from rfl,
      ← hc]
    exact h
  | cons g gs =>
    rw [hrest] at hc hsplit
    have hg := exists_variable_of_dropWhile hrest
    obtain ⟨gs', hgs'⟩ : ∃ gs', (g :: gs).filter (· != []) = g :: gs' :=
      ⟨gs.filter (· != []), by simp [ne_nil_of_isVariable hg]⟩
    -- the rendered segments: the kept literal ones, then the non-empty ones from `g` on
    obtain ⟨keep, hkeep⟩ : ∃ keep, (if Text.glue '/' lits = [] then [] else lits) = keep :=
      ⟨_, rfl⟩
    have hmem : ∀ w ∈ keep ++ g :: gs', w ∈ Text.pieces '/' body := by
      intro w hw
      rw [← hsplit, List.mem_append]
      rcases List.mem_append.mp hw with hw | hw
      · exact Or.inl (mem_keep (hkeep ▸ hw))
      · rw [← hgs'] at hw
        exact Or.inr (List.mem_filter.mp hw).1
    have hpieces : Text.pieces '/' (Text.glue '/' (keep ++ g :: gs')) = keep ++ g :: gs' :=
      Text.pieces_glue (by simp) fun w hw => Text.sep_not_mem_of_mem_pieces body w (hmem w hw)
    obtain ⟨htake, hdrop⟩ := takeWhile_dropWhile_append
      (fun l hl => hlits l (mem_keep (hkeep ▸ hl))) hg gs'
    apply compile_eq_ok_iff.mpr
    refine ⟨Text.glue '/' (keep ++ g :: gs'), ?_, ?_, ?_, hle, hone⟩
    · rw [hc, toList_render_stemOf lits hg gs, hgs', hkeep]
    · rw [hpieces, List.any_eq_false]
      intro w hw
      exact List.any_eq_false.mp hnamed w (hmem w hw)
    · rw [hpieces, htake, hdrop, stemOf_of_ne_nil keep (List.cons_ne_nil g gs'), ← hgs',
        partsOf_filter, ← hkeep, glue_keep, hc, stemOf_of_ne_nil lits (List.cons_ne_nil g gs)]

theorem hasWildcard_iff (c : Pattern) :
    c.hasWildcard = true ↔ c.parts.getLast?.map (·.kind) = some .wildcard := by
  unfold hasWildcard
  cases c.parts.getLast? <;> simp

theorem eq_stem_append_of_firstVariable (hbody : pattern.toList = '/' :: body)
    (hpos : 0 < firstVariable pattern) (hlt : firstVariable pattern < (segments pattern).length) :
    pattern = String.ofList ('/' :: Text.glue '/' ((segments pattern).take (firstVariable pattern))) ++
      "/" ++ String.ofList (Text.glue '/' ((segments pattern).drop (firstVariable pattern))) := by
  have htake : (segments pattern).take (firstVariable pattern) ≠ [] := by
    simp only [ne_eq, List.take_eq_nil_iff, not_or]
    exact ⟨by omega, List.ne_nil_of_length_pos (by omega)⟩
  apply String.ext
  calc pattern.toList
      = '/' :: Text.glue '/' (segments pattern) := by
        rw [hbody, toList_segments_tail hbody, Text.glue_pieces]
    _ = '/' :: Text.glue '/' ((segments pattern).take (firstVariable pattern) ++
          (segments pattern).drop (firstVariable pattern)) := by
        rw [List.take_append_drop]
    _ = _ := by
        rw [Text.glue_append htake (drop_firstVariable_ne_nil hlt)]
        simp only [String.toList_append, String.toList_ofList, List.append_assoc]
        rfl

theorem compile_decomposes (h : compile pattern = .ok c) :
    (firstVariable pattern = (segments pattern).length → c.stem = pattern ∧ c.parts = []) ∧
      (firstVariable pattern < (segments pattern).length →
        c.stem = String.ofList ('/' :: Text.glue '/' ((segments pattern).take (firstVariable pattern))) ∧
        (0 < firstVariable pattern → pattern = c.stem ++ "/" ++
          String.ofList (Text.glue '/' ((segments pattern).drop (firstVariable pattern))))) ∧
      c.parts = (((segments pattern).drop (firstVariable pattern)).filter (· != [])).map
        Part.ofSegment ∧
      c.paramCount = (c.parts.filter (·.kind != .literal)).length ∧
      (c.hasWildcard = true ↔ c.parts.getLast?.map (·.kind) = some .wildcard) ∧
      compile c.render = .ok c := by
  obtain ⟨body, hbody, -, hc, -, -⟩ := compile_eq_ok_iff.mp h
  rw [takeWhile_eq_take_firstVariable hbody, dropWhile_eq_drop_firstVariable hbody] at hc
  refine ⟨fun hnone => ?_, fun hsome => ?_, by rw [hc]; rfl, rfl, hasWildcard_iff c,
    compile_render h⟩
  · -- no segment is variable: nothing is left after the stem
    rw [hnone, List.drop_length, stemOf_nil] at hc
    rw [hc]
    exact ⟨rfl, rfl⟩
  · have hstem : c.stem = String.ofList ('/' :: Text.glue '/'
        ((segments pattern).take (firstVariable pattern))) := by
      rw [hc, stemOf_of_ne_nil _ (drop_firstVariable_ne_nil hsome)]
    refine ⟨hstem, fun hpos => ?_⟩
    rw [hstem]
    exact eq_stem_append_of_firstVariable hbody hpos hsome

theorem compile_decomposes_nested :
    compile "/a//:x//*p" = .ok ⟨"/a/", [⟨"x", .param⟩, ⟨"p", .wildcard⟩]⟩ ∧
      (firstVariable "/a//:x//*p" = (segments "/a//:x//*p").length →
        "/a/" = "/a//:x//*p" ∧ ([⟨"x", .param⟩, ⟨"p", .wildcard⟩] : List Part) = []) ∧
      (firstVariable "/a//:x//*p" < (segments "/a//:x//*p").length →
        "/a/" = String.ofList ('/' :: Text.glue '/'
          ((segments "/a//:x//*p").take (firstVariable "/a//:x//*p"))) ∧
        (0 < firstVariable "/a//:x//*p" → "/a//:x//*p" = "/a/" ++ "/" ++
          String.ofList (Text.glue '/'
            ((segments "/a//:x//*p").drop (firstVariable "/a//:x//*p"))))) ∧
      ([⟨"x", .param⟩, ⟨"p", .wildcard⟩] : List Part) =
        (((segments "/a//:x//*p").drop (firstVariable "/a//:x//*p")).filter (· != [])).map
          Part.ofSegment ∧
      paramCount ⟨"/a/", [⟨"x", .param⟩, ⟨"p", .wildcard⟩]⟩ =
        (([⟨"x", .param⟩, ⟨"p", .wildcard⟩] : List Part).filter (·.kind != .literal)).length ∧
      (hasWildcard ⟨"/a/", [⟨"x", .param⟩, ⟨"p", .wildcard⟩]⟩ = true ↔
        ([⟨"x", .param⟩, ⟨"p", .wildcard⟩] : List Part).getLast?.map (·.kind) = some .wildcard) ∧
      compile (render ⟨"/a/", [⟨"x", .param⟩, ⟨"p", .wildcard⟩]⟩) =
        .ok ⟨"/a/", [⟨"x", .param⟩, ⟨"p", .wildcard⟩]⟩ :=
  have hc : compile "/a//:x//*p" = .ok ⟨"/a/", [⟨"x", .param⟩, ⟨"p", .wildcard⟩]⟩ := rfl
  ⟨hc, compile_decomposes hc⟩

end Pattern

end PrefixRouter
