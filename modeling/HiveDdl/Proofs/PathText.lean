import HiveDdl.Path.TypePath
import HiveDdl.Proofs.Sequencing
/-!
# Printing and reading type paths

A type path is printed as `Response` for the whole response, and otherwise as a slash before each
segment followed by `@key:value` for a filter (`TypePath.print`). Reading a printed path gives its
segments and filter back whenever the text survives the reader's trimming and splitting: the
segments are non-empty and hold no `/` or `@`, the filter key is non-empty and holds no `:`, the
filter value is non-empty (`TypePath.Shaped`), and the text does not end in a blank
(`TypePath.WellFormed`). Printed paths joined by commas read back in order when none holds a
comma.

The reader does not give well-formed paths only. It trims the expression, not the segments, so
`a /` reads as the one segment `a `, whose printed form `/a ` ends in a blank; what it does give is
the whole response or a shaped path.

* `Text.splitOn_singleton`: splitting a text on a one-character separator splits its characters.
* `TypePath.parse_shaped`: every path read is the whole response or shaped.
* `TypePath.parse_print`, `TypePath.parseText_print`: well-formed paths read back, one by one and
  as a comma-separated list.
-/

namespace HiveDdl

/-! ## Splitting and trimming characters -/

namespace Text

open String in
theorem splitOnAux_singleton (c : Char) (l m r : List Char) (acc : List String) :
    splitOnAux (ofList (l ++ m ++ r)) (String.singleton c) ⟨utf8Len l⟩
      ⟨utf8Len l + utf8Len m⟩ 0 acc =
      acc.reverse ++ (List.splitOnPPrepend (· == c) r m.reverse).map ofList := by
  have hsep : String.singleton c = ofList [c] := by
    rw [← String.toList_inj, String.toList_singleton, String.toList_ofList]
  have hsepGet : Pos.Raw.get (String.singleton c) 0 = c := by
    rw [hsep]
    exact get_of_valid [] [c]
  have hsepNext : Pos.Raw.next (String.singleton c) 0 = ⟨c.utf8Size⟩ := by
    rw [hsep]
    simpa using next_of_valid [] c []
  have hsepEnd : (String.singleton c).rawEndPos = ⟨c.utf8Size⟩ := by
    rw [hsep, rawEndPos_ofList]
    simp
  unfold splitOnAux
  simp only [List.append_assoc, atEnd_iff, rawEndPos_ofList, utf8Len_append, Pos.Raw.mk_le_mk,
    Nat.add_le_add_iff_left, (by omega : utf8Len m + utf8Len r ≤ utf8Len m ↔ utf8Len r = 0),
    utf8Len_eq_zero]
  split
  · subst r
    simpa using extract_of_valid l m []
  · obtain ⟨d, r, rfl⟩ := r.exists_cons_of_ne_nil ‹_›
    have hget : Pos.Raw.get (ofList (l ++ (m ++ d :: r))) ⟨utf8Len l + utf8Len m⟩ = d := by
      simpa using get_of_valid (l ++ m) (d :: r)
    have hnext : Pos.Raw.next (ofList (l ++ (m ++ d :: r))) ⟨utf8Len l + utf8Len m⟩ =
        ⟨utf8Len l + utf8Len m + d.utf8Size⟩ := by
      simpa using next_of_valid (l ++ m) d r
    rw [hget, hsepGet, hsepNext, hsepEnd, Pos.Raw.unoffsetBy_zero, hnext]
    by_cases hd : d = c
    · subst hd
      have hback : Pos.Raw.unoffsetBy ⟨utf8Len l + utf8Len m + d.utf8Size⟩ ⟨d.utf8Size⟩ =
          ⟨utf8Len l + utf8Len m⟩ := by
        simp [Pos.Raw.unoffsetBy]
      have hm : Pos.Raw.extract (ofList (l ++ (m ++ d :: r))) ⟨utf8Len l⟩
          ⟨utf8Len l + utf8Len m⟩ = ofList m := by
        simpa using extract_of_valid l m (d :: r)
      simp only [beq_self_eq_true, if_true, Pos.Raw.mk_le_mk, le_refl, hback, hm]
      simpa [Nat.add_assoc, List.splitOnPPrepend_cons_eq_if] using
        splitOnAux_singleton d (l ++ m ++ [d]) [] r (ofList m :: acc)
    · have hne : (d == c) = false := by simpa using hd
      simp only [hne, Bool.false_eq_true, if_false]
      simpa [List.splitOnPPrepend_cons_eq_if, hd, Nat.add_assoc] using
        splitOnAux_singleton c l (m ++ [d]) r acc

theorem splitOn_singleton (s : String) (c : Char) :
    s.splitOn (String.singleton c) = (s.toList.splitOn c).map String.ofList := by
  have hne : (String.singleton c == "") = false := by
    rw [beq_eq_false_iff_ne, ne_eq, ← String.toList_inj, String.toList_singleton]
    simp
  rw [String.splitOn, hne, if_neg Bool.false_ne_true]
  simpa [List.splitOn_eq_splitOnP] using splitOnAux_singleton c [] [] s.toList []

theorem mem_splitOn {sep : Char} {cs piece : List Char} (h : piece ∈ cs.splitOn sep) :
    sep ∉ piece ∧ ∀ c ∈ piece, c ∈ cs := by
  induction cs generalizing piece with
  | nil =>
    rw [List.splitOn_nil, List.mem_singleton] at h
    simp [h]
  | cons x rest ih =>
    rw [List.splitOn_cons_eq_if_modifyHead] at h
    split at h
    · rcases List.mem_cons.mp h with rfl | h
      · simp
      · obtain ⟨hsep, hsub⟩ := ih h
        exact ⟨hsep, fun c hc => List.mem_cons_of_mem x (hsub c hc)⟩
    · rename_i hx
      obtain ⟨first, pieces, hsplit⟩ :=
        List.exists_cons_of_ne_nil (List.splitOn_ne_nil sep rest)
      rw [hsplit, List.modifyHead_cons] at h
      rcases List.mem_cons.mp h with rfl | h
      · obtain ⟨hsep, hsub⟩ := ih (hsplit ▸ List.mem_cons_self)
        refine ⟨?_, fun c hc => ?_⟩
        · intro hmem
          rcases List.mem_cons.mp hmem with rfl | hmem
          · exact hx (beq_self_eq_true sep)
          · exact hsep hmem
        · rcases List.mem_cons.mp hc with rfl | hc
          · exact List.mem_cons_self
          · exact List.mem_cons_of_mem x (hsub c hc)
      · obtain ⟨hsep, hsub⟩ := ih (hsplit ▸ List.mem_cons_of_mem first h)
        exact ⟨hsep, fun c hc => List.mem_cons_of_mem x (hsub c hc)⟩

theorem dropWhile_of_head {p : Char → Bool} {cs : List Char}
    (h : ∀ c ∈ cs.head?, p c = false) : cs.dropWhile p = cs := by
  cases cs with
  | nil => rfl
  | cons c rest => simp [h c rfl]

theorem trimList_of_ends {cs : List Char} (hhead : ∀ c ∈ cs.head?, isBlank c = false)
    (hlast : ∀ c ∈ cs.getLast?, isBlank c = false) : trimList cs = cs := by
  have hrev : ∀ c ∈ cs.reverse.head?, isBlank c = false := by
    simpa [List.head?_reverse] using hlast
  rw [trimList, dropWhile_of_head hhead, dropWhile_of_head hrev, List.reverse_reverse]

theorem lowerChar_slash : lowerChar '/' = ['/'] := by
  decide +kernel

theorem lower_slash_head (rest : List Char) :
    (lower (String.ofList ('/' :: rest))).toList.head? = some '/' := by
  simp [lower, lowerFrom, lowerChar_slash]

end Text

namespace TypePath

/-! ## Splitting at the first separator -/

theorem splitFirst_fst (sep : Char) (cs : List Char) :
    (splitFirst sep cs).1 = cs.takeWhile (· ≠ sep) := by
  unfold splitFirst
  rw [List.span_eq_takeWhile_dropWhile]
  split <;> simp_all

theorem splitFirst_fst_not_mem (sep : Char) (cs : List Char) : sep ∉ (splitFirst sep cs).1 := by
  rw [splitFirst_fst]
  intro h
  simpa using List.mem_takeWhile_imp h

theorem ne_sep_of_not_mem {sep : Char} {cs : List Char} (h : sep ∉ cs) :
    ∀ c ∈ cs, decide (c ≠ sep) = true := fun c hc => by
  simp only [decide_eq_true_eq]
  rintro rfl
  exact h hc

theorem splitFirst_of_not_mem {sep : Char} {cs : List Char} (h : sep ∉ cs) :
    splitFirst sep cs = (cs, none) := by
  unfold splitFirst
  rw [List.span_eq_takeWhile_dropWhile, List.takeWhile_eq_self_iff.mpr (ne_sep_of_not_mem h),
    List.dropWhile_eq_nil_iff.mpr (ne_sep_of_not_mem h)]

theorem splitFirst_append {sep : Char} {cs rest : List Char} (h : sep ∉ cs) :
    splitFirst sep (cs ++ sep :: rest) = (cs, some rest) := by
  unfold splitFirst
  rw [List.span_eq_takeWhile_dropWhile, List.takeWhile_append_of_pos (ne_sep_of_not_mem h),
    List.dropWhile_append_of_pos (ne_sep_of_not_mem h)]
  simp

/-! ## Filters -/

theorem parseFilter_shaped {expression : String} {text : List Char} {f : ElementFilter}
    (h : parseFilter expression text = .ok f) :
    f.key ≠ "" ∧ ':' ∉ f.key.toList ∧ f.value ≠ "" := by
  have hkey := splitFirst_fst_not_mem ':' text
  unfold parseFilter at h
  split at h
  · rename_i key value hsplit
    rw [hsplit] at hkey
    split at h
    · cases h
    · rename_i hempty
      cases h
      simp only [Bool.or_eq_true, List.isEmpty_iff, not_or] at hempty
      simp [← String.toList_inj, hkey, hempty.1, hempty.2]
  · cases h

theorem parseFilter_text (expression : String) (f : ElementFilter) (hkey : f.key ≠ "")
    (hcolon : ':' ∉ f.key.toList) (hvalue : f.value ≠ "") :
    parseFilter expression (f.key.toList ++ ':' :: f.value.toList) = .ok f := by
  unfold parseFilter
  rw [splitFirst_append hcolon]
  simp [hkey, hvalue]

/-! ## Printed paths -/

def filterText : Option ElementFilter → String
  | some f => "@" ++ f.key ++ ":" ++ f.value
  | none => ""

/-- The text of a type path: `Response` for the whole response, else a slash before each segment
and then the text of the filter. -/
def print (t : TypePath) : String :=
  if t.segments.isEmpty then "Response" else "/" ++ t.queryPath ++ filterText t.filter

/-- The conditions on its parts under which a path with segments reads back from its text:
segments non-empty and without `/` or `@`, a filter key non-empty and without `:`, a filter value
non-empty. -/
structure Shaped (t : TypePath) : Prop where
  segments_ne_nil : t.segments ≠ []
  segment : ∀ seg ∈ t.segments, seg ≠ "" ∧ '/' ∉ seg.toList ∧ '@' ∉ seg.toList
  filter : ∀ f ∈ t.filter, f.key ≠ "" ∧ ':' ∉ f.key.toList ∧ f.value ≠ ""

/-- A well-formed path: shaped, and its text does not end in a blank. -/
structure WellFormed (t : TypePath) : Prop extends t.Shaped where
  last_not_blank : ∀ c ∈ t.print.toList.getLast?, Text.isBlank c = false

-- Option bounds are decided through `Option.all`, which the kernel evaluates directly.
instance (t : TypePath) : Decidable t.Shaped :=
  decidable_of_iff (t.segments ≠ [] ∧
      (∀ seg ∈ t.segments, seg ≠ "" ∧ '/' ∉ seg.toList ∧ '@' ∉ seg.toList) ∧
      (t.filter.all fun f =>
        decide (f.key ≠ "" ∧ ':' ∉ f.key.toList ∧ f.value ≠ "")) = true) <| by
    rw [Option.all_eq_true]
    simp only [decide_eq_true_eq]
    exact ⟨fun ⟨hne, hsegs, hfilter⟩ => ⟨hne, hsegs, hfilter⟩,
      fun h => ⟨h.1, h.2, h.3⟩⟩

instance (t : TypePath) : Decidable t.WellFormed :=
  decidable_of_iff (t.Shaped ∧
      (t.print.toList.getLast?.all fun c => !Text.isBlank c) = true) <| by
    rw [Option.all_eq_true]
    simp only [Bool.not_eq_eq_eq_not, Bool.not_true]
    exact ⟨fun ⟨hshaped, hlast⟩ => ⟨hshaped, hlast⟩,
      fun h => ⟨h.toShaped, h.last_not_blank⟩⟩

def segmentChars (segments : List String) : List Char :=
  ['/'].intercalate (segments.map String.toList)

theorem print_toList {t : TypePath} (h : t.segments ≠ []) :
    t.print.toList = '/' :: segmentChars t.segments ++ (filterText t.filter).toList := by
  simp [print, queryPath, segmentChars, List.isEmpty_iff, h]

theorem mem_segmentChars {c : Char} :
    ∀ {segments : List String}, c ∈ segmentChars segments →
      c = '/' ∨ ∃ seg ∈ segments, c ∈ seg.toList
  | [], h => by simp [segmentChars] at h
  | [seg], h => .inr ⟨seg, by simp, by simpa [segmentChars] using h⟩
  | seg :: next :: rest, h => by
    simp only [segmentChars, List.map_cons, List.intercalate_cons_cons, List.mem_append,
      List.mem_singleton] at h
    rcases h with (h | h) | h
    · exact .inr ⟨seg, by simp, h⟩
    · exact .inl h
    · rcases @mem_segmentChars c (next :: rest) h with h | ⟨s, hs, hc⟩
      · exact .inl h
      · exact .inr ⟨s, List.mem_cons_of_mem seg hs, hc⟩

theorem splitAll_segmentChars {segments : List String} (hne : segments ≠ [])
    (hslash : ∀ seg ∈ segments, '/' ∉ seg.toList) :
    splitAll '/' ('/' :: segmentChars segments) = [] :: segments.map String.toList := by
  have hjoin : '/' :: segmentChars segments =
      ['/'].intercalate ([] :: segments.map String.toList) := by
    rw [List.intercalate_cons_of_ne_nil (by simpa using hne)]
    rfl
  rw [hjoin, splitAll, List.splitOn_intercalate]
  · simpa using hslash
  · simp

theorem filter_pieces {segments : List String} (hne : ∀ seg ∈ segments, seg ≠ "") :
    (([] :: segments.map String.toList).filter (!·.isEmpty)).map String.ofList = segments := by
  rw [List.filter_cons_of_neg (by simp), List.filter_eq_self.mpr, List.map_map]
  · simp
  · intro piece hpiece
    obtain ⟨seg, hseg, rfl⟩ := List.mem_map.mp hpiece
    simpa [List.isEmpty_iff] using hne seg hseg

theorem lower_print_ne {t : TypePath} (h : t.segments ≠ []) :
    Text.lower t.print ≠ "response" := by
  intro heq
  have hhead := Text.lower_slash_head (segmentChars t.segments ++ (filterText t.filter).toList)
  rw [← List.cons_append, ← print_toList h, String.ofList_toList, heq] at hhead
  exact absurd hhead (by decide +kernel)

theorem trim_print {t : TypePath} (h : t.WellFormed) : Text.trim t.print = t.print := by
  rw [← String.toList_inj, Text.trim_toList]
  refine Text.trimList_of_ends (fun c hc => ?_) h.last_not_blank
  rw [print_toList h.segments_ne_nil, List.cons_append, List.head?_cons,
    Option.mem_some_iff] at hc
  subst hc
  decide

theorem parse_print {t : TypePath} (h : t.WellFormed) :
    parse t.print = .ok ⟨t.print, t.segments, t.filter⟩ := by
  have hchars := print_toList h.segments_ne_nil
  have hslash : t.print.toList.contains '/' = true := by simp [hchars]
  have hat : '@' ∉ '/' :: segmentChars t.segments := fun hmem => by
    rcases List.mem_cons.mp hmem with hslash | hmem
    · cases hslash
    · rcases mem_segmentChars hmem with hslash | ⟨seg, hseg, hc⟩
      · cases hslash
      · exact (h.segment seg hseg).2.2 hc
  have hsegments : ((splitAll '/' ('/' :: segmentChars t.segments)).filter (!·.isEmpty)).map
      String.ofList = t.segments := by
    rw [splitAll_segmentChars h.segments_ne_nil fun seg hseg => (h.segment seg hseg).2.1,
      filter_pieces fun seg hseg => (h.segment seg hseg).1]
  have hne : t.segments.isEmpty = false := by simpa [List.isEmpty_iff] using h.segments_ne_nil
  unfold parse
  simp only [trim_print h, lower_print_ne h.segments_ne_nil, if_false, hslash, Bool.not_true,
    Bool.false_eq_true]
  cases hf : t.filter with
  | none =>
    have hsplit : splitFirst '@' t.print.toList = ('/' :: segmentChars t.segments, none) := by
      rw [hchars, hf, filterText, String.toList_empty, List.append_nil, splitFirst_of_not_mem hat]
    simp only [hsplit, hsegments, hne, Bool.false_eq_true, if_false]
  | some f =>
    have hsplit : splitFirst '@' t.print.toList =
        ('/' :: segmentChars t.segments, some (f.key.toList ++ ':' :: f.value.toList)) := by
      rw [hchars, hf, filterText]
      have happend :=
        @splitFirst_append '@' _ (f.key.toList ++ ':' :: f.value.toList) hat
      simpa [String.toList_append] using happend
    obtain ⟨hkey, hcolon, hvalue⟩ := h.filter f hf
    have hfilter := parseFilter_text t.print f hkey hcolon hvalue
    simp only [hsplit, hsegments, hne, Bool.false_eq_true, if_false, hfilter]
    rfl

theorem mem_pathSegments {pathText : List Char} {seg : String}
    (h : seg ∈ ((splitAll '/' pathText).filter (!·.isEmpty)).map String.ofList) :
    seg ≠ "" ∧ '/' ∉ seg.toList ∧ ∀ c ∈ seg.toList, c ∈ pathText := by
  obtain ⟨piece, hpiece, rfl⟩ := List.mem_map.mp h
  obtain ⟨hmem, hne⟩ := List.mem_filter.mp hpiece
  obtain ⟨hslash, hsub⟩ := Text.mem_splitOn hmem
  refine ⟨?_, by simpa using hslash, by simpa using hsub⟩
  rw [ne_eq, ← String.toList_inj, String.toList_ofList]
  simpa [List.isEmpty_iff] using hne

theorem parse_shaped {e : String} {t : TypePath} (h : parse e = .ok t) :
    (t.segments = [] ∧ t.filter = none) ∨ t.Shaped := by
  unfold parse at h
  dsimp only at h
  split at h
  · cases h
    exact .inl ⟨rfl, rfl⟩
  split at h
  · cases h
  -- the segments come from the text before the first `@`, which holds no `@`
  have hat := splitFirst_fst_not_mem '@' (Text.trim e).toList
  have hsegments : ∀ seg ∈ ((splitAll '/' (splitFirst '@' (Text.trim e).toList).1).filter
      (!·.isEmpty)).map String.ofList,
      seg ≠ "" ∧ '/' ∉ seg.toList ∧ '@' ∉ seg.toList := by
    intro seg hseg
    obtain ⟨hne, hslash, hsub⟩ := mem_pathSegments hseg
    exact ⟨hne, hslash, fun hmem => hat (hsub '@' hmem)⟩
  split at h
  · cases h
  rename_i hne
  refine .inr ?_
  have hne' := hne
  rw [Bool.not_eq_true, List.isEmpty_eq_false_iff] at hne'
  split at h
  · rw [Except.ok.injEq] at h
    subst h
    constructor <;> dsimp only
    · exact hne'
    · exact hsegments
    · simp
  · obtain ⟨f, hf, h⟩ := bind_eq_ok.mp h
    rw [pure_eq_ok] at h
    subst h
    constructor <;> dsimp only
    · exact hne'
    · exact hsegments
    · rintro f' hf'
      cases hf'
      exact parseFilter_shaped hf

theorem print_ne_empty {t : TypePath} (h : t.segments ≠ []) : t.print.toList ≠ [] := by
  simp [print_toList h]

theorem splitOn_intercalate_print {ts : List TypePath} (hts : ts ≠ [])
    (hcomma : ∀ t ∈ ts, ',' ∉ t.print.toList) :
    (",".intercalate (ts.map print)).splitOn "," = ts.map print := by
  have hsep : "," = String.singleton ',' := rfl
  rw [hsep, Text.splitOn_singleton, String.toList_intercalate, String.toList_singleton,
    List.splitOn_intercalate]
  · simp
  · simpa using hcomma
  · simpa using hts

theorem parseText_print {ts : List TypePath} (hts : ts ≠ []) (hwf : ∀ t ∈ ts, t.WellFormed)
    (hcomma : ∀ t ∈ ts, ',' ∉ t.print.toList) :
    parseText (",".intercalate (ts.map print)) =
      .ok (ts.map fun t => ⟨t.print, t.segments, t.filter⟩) := by
  -- no printed path is blank, so none is skipped
  have hkept : (ts.map print).filter (!isBlankEntry ·) = ts.map print := by
    refine List.filter_eq_self.mpr fun p hp => ?_
    obtain ⟨t, ht, rfl⟩ := List.mem_map.mp hp
    have hne : ¬ t.print.isEmpty := fun hempty =>
      print_ne_empty (hwf t ht).segments_ne_nil (by rw [String.isEmpty_iff.mp hempty]; rfl)
    simpa [isBlankEntry, trim_print (hwf t ht)] using hne
  have hparsed : (ts.map print).mapM parse =
      .ok (ts.map fun t => ⟨t.print, t.segments, t.filter⟩) := by
    rw [List.mapM_map]
    refine mapM_eq_ok_map fun t ht => ?_
    rw [Function.comp_apply]
    exact parse_print (hwf t ht)
  simp only [parseText, parseAll, splitOn_intercalate_print hts hcomma, hkept, hparsed, bind,
    Except.bind, List.isEmpty_iff, List.map_eq_nil_iff, hts, if_false, pure, Except.pure]

theorem parse_response : parse "Response" = .ok ⟨"Response", [], none⟩ := by
  rw [eq_ok_iff_toOption]
  decide +kernel

/-! ## Reading printed paths back -/

/-- Every path read is the whole response, without a filter, or a shaped path; a well-formed path,
and the whole response, read back from their texts, which the reader keeps as the expression; and
well-formed paths printed and joined by commas read back in order when none holds a comma. -/
theorem printed_paths_read_back :
    (∀ (e : String) (t : TypePath), parse e = .ok t →
      (t.segments = [] ∧ t.filter = none) ∨ t.Shaped) ∧
    (∀ t : TypePath, t.WellFormed → parse t.print = .ok ⟨t.print, t.segments, t.filter⟩) ∧
    (∀ t : TypePath, t.segments = [] → t.filter = none →
      parse t.print = .ok ⟨t.print, t.segments, t.filter⟩) ∧
    ∀ ts : List TypePath, ts ≠ [] → (∀ t ∈ ts, t.WellFormed ∧ ',' ∉ t.print.toList) →
      parseText (",".intercalate (ts.map print)) =
        .ok (ts.map fun t => ⟨t.print, t.segments, t.filter⟩) := by
  refine ⟨fun e t h => parse_shaped h, fun t h => parse_print h, fun t hsegments hfilter => ?_,
    fun ts hts hall => parseText_print hts (fun t ht => (hall t ht).1) fun t ht => (hall t ht).2⟩
  have hprint : t.print = "Response" := by simp [print, hsegments]
  rw [hprint, hsegments, hfilter]
  exact parse_response

/-- Two paths, one of them filtered, printed as `/a/b@k:v,/c`, read back in order. -/
theorem printed_paths_read_back_pair :
    let ts : List TypePath :=
      [⟨"/a/b@k:v", ["a", "b"], some ⟨"k", "v"⟩⟩, ⟨"/c", ["c"], none⟩]
    (ts ≠ [] ∧ ∀ t ∈ ts, t.WellFormed ∧ ',' ∉ t.print.toList) ∧
      parseText (",".intercalate (ts.map print)) =
        .ok (ts.map fun t => ⟨t.print, t.segments, t.filter⟩) := by
  intro ts
  have hts : ts ≠ [] := by simp [ts]
  have hall : ∀ t ∈ ts, t.WellFormed ∧ ',' ∉ t.print.toList := by decide +kernel
  exact ⟨⟨hts, hall⟩, printed_paths_read_back.2.2.2 ts hts hall⟩

/-- The reader trims the expression, not its segments: `a /` reads as the segment `a `, and that
path is not well formed, since its text `/a ` ends in a blank. -/
theorem trailing_blank_segment_read :
    parse "a /" = .ok ⟨"a /", ["a "], none⟩ ∧
      ¬ TypePath.WellFormed ⟨"a /", ["a "], none⟩ := by
  refine ⟨?_, by decide +kernel⟩
  rw [eq_ok_iff_toOption]
  decide +kernel

end TypePath

end HiveDdl
