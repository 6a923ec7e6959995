import Mathlib
import CacheKeys.Proofs.Path.Clean

/-! # Paths taken apart

`dir`, `base` and `ext` each look for the last element in their own way.  `DividedAt` is the place
where a path is divided: after its last slash.  A path that does not end with a slash is its
directory, a slash, and its last element, and the extension belongs to this element
(`clean_dir_slash_base`).  Only `base` looks past slashes at the end: with one more slash, a path is
its own directory and has no extension (`decomposition_append_slash`). -/

namespace CacheKeys.Path

/-! ### The last slash -/

/-- `front` is all of the path up to its last slash, and `last` what follows. -/
structure DividedAt (path front last : String) : Prop where
  eq : path = front ++ last
  front_ends : front = "" ∨ ∃ q, front = q ++ "/"
  slash_notMem : '/' ∉ last.toList

theorem exists_dividedAt (p : String) : ∃ front last, DividedAt p front last := by
  by_cases h : '/' ∈ p.toList
  · obtain ⟨q, last, rfl, hlast⟩ := Text.exists_last_of_mem h
    exact ⟨q ++ "/", last, rfl, .inr ⟨q, rfl⟩, hlast⟩
  · exact ⟨"", p, by simp, .inl rfl, h⟩

/-- A slash at the end of a path is its last one. -/
theorem dividedAt_append_slash (p : String) : DividedAt (p ++ "/") (p ++ "/") "" :=
  ⟨by simp, .inr ⟨p, rfl⟩, by simp⟩

namespace DividedAt

variable {p front last : String}

theorem reverse_eq (h : DividedAt p front last) :
    p.toList.reverse = last.toList.reverse ++ front.toList.reverse := by
  rw [h.eq, String.toList_append, List.reverse_append]

theorem head_front (h : DividedAt p front last) : ∀ c ∈ front.toList.reverse.head?, c = '/' := by
  rcases h.front_ends with rfl | ⟨q, rfl⟩
  · simp
  · simp

theorem ne_slash (h : DividedAt p front last) : ∀ c ∈ last.toList.reverse, c ≠ '/' := by
  rintro c hc rfl
  exact h.slash_notMem (List.mem_reverse.1 hc)

/-- Nothing follows the last slash of a path that ends with it. -/
theorem last_eq_empty_iff (h : DividedAt p front last) (hne : p ≠ "") :
    last = "" ↔ p.toList.getLast? = some '/' := by
  constructor
  · rintro rfl
    have hp : p = front := by simpa using h.eq
    rcases h.front_ends with hfront | ⟨q, hfront⟩
    · exact absurd (hp.trans hfront) hne
    · simp [hp, hfront]
  · intro hend
    by_contra hlast
    have hlist : last.toList ≠ [] := by simpa using hlast
    rw [h.eq, String.toList_append, List.getLast?_append_of_ne_nil _ hlist] at hend
    exact h.slash_notMem (List.mem_of_getLast? hend)

theorem takeWhile_reverse (h : DividedAt p front last) :
    p.toList.reverse.takeWhile (fun c => c != '/') = last.toList.reverse := by
  rw [h.reverse_eq]
  refine Text.takeWhile_append_of_head ?_ fun c hc => by simp [h.head_front c hc]
  intro c hc
  simpa using h.ne_slash c hc

theorem dropWhile_reverse (h : DividedAt p front last) :
    p.toList.reverse.dropWhile (fun c => c != '/') = front.toList.reverse := by
  rw [h.reverse_eq]
  refine Text.dropWhile_append_of_head ?_ fun c hc => by simp [h.head_front c hc]
  intro c hc
  simpa using h.ne_slash c hc

theorem dir_eq (h : DividedAt p front last) : dir p = clean front := by
  rw [dir, h.dropWhile_reverse, List.reverse_reverse, String.ofList_toList]

theorem base_eq (h : DividedAt p front last) (hne : last ≠ "") : base p = last := by
  have hlast : last.toList.reverse ≠ [] := by simpa using hne
  obtain ⟨c, cs, hcs⟩ := List.exists_cons_of_ne_nil hlast
  have hc : c ≠ '/' := h.ne_slash c (hcs ▸ List.mem_cons_self)
  have hrev : p.toList.reverse = c :: (cs ++ front.toList.reverse) := by
    rw [h.reverse_eq, hcs, List.cons_append]
  have hempty : ¬p.isEmpty = true := by
    simp [h.eq, hne]
  -- there are no slashes at the end to be left out
  have hdrop : p.toList.reverse.dropWhile (fun c => c == '/') = p.toList.reverse := by
    rw [hrev, List.dropWhile_cons_of_neg (by simpa using hc)]
  rw [base, if_neg hempty, hdrop]
  split
  · next hnil => rw [hrev] at hnil; cases hnil
  · rw [h.takeWhile_reverse, List.reverse_reverse, String.ofList_toList]

/-- The route of a path is that of the part up to its last slash, with one more element. -/
theorem routeOf_eq (h : DividedAt p front last) : routeOf p = (routeOf front).enter last := by
  have hlast := Text.pieces_of_notMem h.slash_notMem
  rcases h.front_ends with hfront | ⟨q, hfront⟩
  · have hp : p = last := by rw [h.eq, hfront, String.empty_append]
    have hrooted : isRooted last = false := by
      rw [Bool.eq_false_iff]
      intro hr
      obtain ⟨t, ht⟩ := exists_of_isRooted hr
      exact h.slash_notMem (by simp [ht])
    rw [hp, hfront, routeOf, routeOf, hlast, pieces_empty, hrooted]
    simp [isRooted]
  · have hrooted : isRooted (q ++ "/" ++ last) = isRooted (q ++ "/") :=
      isRooted_append (by simp) last
    rw [h.eq, hfront, routeOf, routeOf, hrooted, pieces_append_slash_append, pieces_append_slash,
      hlast]
    simp

/-- `ext` looks for the end of an extension where there is neither a slash nor a dot. -/
theorem not_isEnd (h : DividedAt p front last) {cs : List Char} (hcs : cs ⊆ last.toList.reverse)
    (hdot : '.' ∉ cs) : ∀ c ∈ cs, (!(c == '/' || c == '.')) = true := by
  intro c hc
  have hne : c ≠ '.' := by
    rintro rfl
    exact hdot hc
  simp [h.ne_slash c (hcs hc), hne]

theorem ext_eq_of_last_dot {stem rest : String}
    (h : DividedAt p front (stem ++ "." ++ rest)) (hrest : '.' ∉ rest.toList) :
    ext p = "." ++ rest := by
  have hrev : p.toList.reverse =
      rest.toList.reverse ++ '.' :: (stem.toList.reverse ++ front.toList.reverse) := by
    rw [h.reverse_eq]
    simp
  have hscan := h.not_isEnd (show rest.toList.reverse ⊆ _ by simp) (by simpa using hrest)
  simp only [ext]
  rw [hrev, Text.takeWhile_append_of_head hscan (by simp),
    Text.dropWhile_append_of_head hscan (by simp)]
  simp

theorem ext_eq_empty (h : DividedAt p front last) (hdot : '.' ∉ last.toList) : ext p = "" := by
  have hscan := h.not_isEnd (List.Subset.refl _) (by simpa using hdot)
  have hfront : ∀ c ∈ front.toList.reverse.head?, (!(c == '/' || c == '.')) = false := by
    intro c hc
    simp [h.head_front c hc]
  simp only [ext]
  rw [h.reverse_eq, Text.dropWhile_append_of_head hscan hfront]
  split
  · next hfirst =>
    have hslash := h.head_front '.' (by simp [hfirst])
    simp at hslash
  · rfl

theorem ext_eq_empty_iff (h : DividedAt p front last) : ext p = "" ↔ '.' ∉ last.toList := by
  refine ⟨?_, h.ext_eq_empty⟩
  intro hext hdot
  obtain ⟨stem, rest, rfl, hrest⟩ := Text.exists_last_of_mem hdot
  rw [h.ext_eq_of_last_dot hrest] at hext
  simp at hext

/-- An extension belongs to what follows the last slash, and begins at the last dot there. -/
theorem exists_ext_eq (h : DividedAt p front last) :
    ∃ stem, last = stem ++ ext p ∧
      (ext p = "" ∧ '.' ∉ last.toList ∨ ∃ rest, ext p = "." ++ rest ∧ '.' ∉ rest.toList) := by
  by_cases hdot : '.' ∈ last.toList
  · obtain ⟨stem, rest, rfl, hrest⟩ := Text.exists_last_of_mem hdot
    have hext := h.ext_eq_of_last_dot hrest
    refine ⟨stem, ?_, .inr ⟨rest, hext, hrest⟩⟩
    rw [hext, ← String.append_assoc]
    rfl
  · have hext := h.ext_eq_empty hdot
    exact ⟨last, by rw [hext, String.append_empty], .inl ⟨hext, hdot⟩⟩

end DividedAt

theorem routeOf_append_slash {p : String} (h : p ≠ "") : routeOf (p ++ "/") = routeOf p := by
  rw [routeOf, isRooted_append h, pieces_append_slash, List.foldl_append]
  simp [routeOf]

/-! ### Recomposition -/

/-- A path that does not end with a slash is found again, clean, from its directory and its last
element, to which its extension belongs. -/
theorem clean_dir_slash_base (p : String) (hne : p ≠ "") (hend : p.toList.getLast? ≠ some '/') :
    clean (dir p ++ "/" ++ base p) = clean p ∧ '/' ∉ (base p).toList ∧
    clean (dir p) = dir p ∧
    ∃ stem, base p = stem ++ ext p ∧
      (ext p = "" ∧ '.' ∉ (base p).toList ∨ ∃ rest, ext p = "." ++ rest ∧ '.' ∉ rest.toList) := by
  obtain ⟨front, last, h⟩ := exists_dividedAt p
  have hlast : last ≠ "" := fun he => hend ((h.last_eq_empty_iff hne).1 he)
  rw [h.dir_eq, h.base_eq hlast]
  refine ⟨clean_eq_clean_iff.2 ?_, h.slash_notMem, clean_clean front, h.exists_ext_eq⟩
  have hjoin : DividedAt (clean front ++ "/" ++ last) (clean front ++ "/") last :=
    ⟨rfl, .inr ⟨_, rfl⟩, h.slash_notMem⟩
  rw [hjoin.routeOf_eq, routeOf_append_slash (clean_ne_empty front), routeOf_clean, h.routeOf_eq]

theorem clean_dir_slash_base_behind_dots :
    "é.d//x/..//.a.gz" ≠ "" ∧ "é.d//x/..//.a.gz".toList.getLast? ≠ some '/' ∧
    dir "é.d//x/..//.a.gz" = "é.d" ∧ base "é.d//x/..//.a.gz" = ".a.gz" ∧
    ext "é.d//x/..//.a.gz" = ".gz" ∧
    clean (dir "é.d//x/..//.a.gz" ++ "/" ++ base "é.d//x/..//.a.gz") =
      clean "é.d//x/..//.a.gz" := by
  have hne : "é.d//x/..//.a.gz" ≠ "" := by decide
  have hend : "é.d//x/..//.a.gz".toList.getLast? ≠ some '/' := by decide +kernel
  exact ⟨hne, hend, by decide +kernel, by decide +kernel, by decide +kernel,
    (clean_dir_slash_base "é.d//x/..//.a.gz" hne hend).1⟩

/-! ### Slashes at the end -/

theorem DividedAt.clean_eq_clean_front_iff {p front last : String} (h : DividedAt p front last) :
    clean p = clean front ↔ last = "" ∨ last = "." ∨ last = ".." ∧ clean front = "/" := by
  have hroot : clean front = "/" ↔ routeOf front = .absolute [] := by
    have hslash : clean "/" = "/" ∧ routeOf "/" = .absolute [] := by decide +kernel
    rw [← hslash.2, ← clean_eq_clean_iff, hslash.1]
  rw [clean_eq_clean_iff, h.routeOf_eq, Route.enter_eq_self_iff h.slash_notMem, hroot]

/-- With one more slash at its end, a path that is not made of slashes has the same last element,
but it is its own directory and has no extension.  So its directory stays the same only if there is
a slash at the end already or the last element leads nowhere, and its extension only if there is a
slash already or the last element has none. -/
theorem decomposition_append_slash (p : String) (h : ∃ c ∈ p.toList, c ≠ '/') :
    base (p ++ "/") = base p ∧ dir (p ++ "/") = clean p ∧ ext (p ++ "/") = "" ∧
    (dir (p ++ "/") = dir p ↔
      p.toList.getLast? = some '/' ∨ base p = "." ∨ base p = ".." ∧ dir p = "/") ∧
    (ext (p ++ "/") = ext p ↔ p.toList.getLast? = some '/' ∨ '.' ∉ (base p).toList) := by
  have hne : p ≠ "" := by
    rintro rfl
    simp at h
  have hbase : base (p ++ "/") = base p := by
    simp [base, hne]
  have hdir : dir (p ++ "/") = clean p := by
    rw [(dividedAt_append_slash p).dir_eq, clean_eq_clean_iff, routeOf_append_slash hne]
  have hext : ext (p ++ "/") = "" := by
    simp [ext]
  obtain ⟨front, last, hd⟩ := exists_dividedAt p
  refine ⟨hbase, hdir, hext, ?_, ?_⟩
  · rw [hdir, hd.dir_eq, hd.clean_eq_clean_front_iff, ← hd.last_eq_empty_iff hne]
    by_cases hlast : last = ""
    · simp [hlast]
    · rw [hd.base_eq hlast]
  · rw [hext, ← hd.last_eq_empty_iff hne]
    by_cases hlast : last = ""
    · have hnone : ext p = "" := hd.ext_eq_empty (by simp [hlast])
      simp [hlast, hnone]
    · rw [hd.base_eq hlast, eq_comm, hd.ext_eq_empty_iff]
      simp [hlast]

/-- At the root two dots lead nowhere, so a slash behind them leaves the directory as it is; behind
the name of a file it does not. -/
theorem decomposition_append_slash_at_root :
    (∃ c ∈ "/..".toList, c ≠ '/') ∧ dir ("/.." ++ "/") = dir "/.." ∧
    ext ("/.." ++ "/") ≠ ext "/.." ∧
    (∃ c ∈ "/é.d/logo.png".toList, c ≠ '/') ∧ base ("/é.d/logo.png" ++ "/") = "logo.png" ∧
    dir ("/é.d/logo.png" ++ "/") = "/é.d/logo.png" := by
  have hroot : ∃ c ∈ "/..".toList, c ≠ '/' := ⟨'.', by decide, by decide⟩
  have hfile : ∃ c ∈ "/é.d/logo.png".toList, c ≠ '/' := ⟨'.', by decide +kernel, by decide⟩
  obtain ⟨-, -, -, hdir, hext⟩ := decomposition_append_slash "/.." hroot
  obtain ⟨hbase, hclean, -⟩ := decomposition_append_slash "/é.d/logo.png" hfile
  refine ⟨hroot, hdir.2 ?_, hext.not.2 ?_, hfile, hbase.trans ?_, hclean.trans ?_⟩
  · decide +kernel
  · decide +kernel
  · decide +kernel
  · decide +kernel

/-- Slashes at the end are not ignored. -/
theorem not_forall_decomposition_append_slash :
    ¬∀ p : String, (∃ c ∈ p.toList, c ≠ '/') →
      base (p ++ "/") = base p ∧ dir (p ++ "/") = dir p ∧ ext (p ++ "/") = ext p := by
  intro h
  obtain ⟨-, hdir, -⟩ := h "/static/logo.png" ⟨'s', by decide +kernel, by decide⟩
  have hne : dir ("/static/logo.png" ++ "/") ≠ dir "/static/logo.png" := by decide +kernel
  exact hne hdir

end CacheKeys.Path
