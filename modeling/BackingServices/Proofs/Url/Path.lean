import BackingServices.Proofs.Url.Behind

/-!
# Paths of files

A file has no host if the first segment of its path comes to be the letter of a drive.  So what follows
a path matters if it brings such a letter, and a slash and segments that are none change nothing
(`hostBehind_slash`).  Behind the text of a path its last segment may grow, and then it is no letter of
a drive any more (`EndsInDrive`).
-/

namespace BackingServices.Url

/-! ## Segments -/

/-- A text has neither a query nor a fragment. -/
def Bare (cs : List Char) : Prop := '?' ∉ cs ∧ '#' ∉ cs

section

variable {c : Char} {cs back : List Char}

theorem bare_cons_iff : Bare (c :: cs) ↔ ¬ (c = '?' ∨ c = '#') ∧ Bare cs := by
  simp only [Bare, List.mem_cons, not_or]
  grind

theorem bare_append_iff : Bare (cs ++ back) ↔ Bare cs ∧ Bare back := by
  simp only [Bare, List.mem_append, not_or]
  grind

/-- A query ends a path, and so does a fragment. -/
theorem segments_append_of_not_bare (h : ¬ Bare cs) (back : List Char) :
    segments (cs ++ back) = segments cs := by
  induction cs with
  | nil => exact absurd ⟨List.not_mem_nil, List.not_mem_nil⟩ h
  | cons c cs ih =>
    rw [List.cons_append, segments, segments]
    split
    · rfl
    · next hc =>
      rw [ih fun hcs => h (bare_cons_iff.mpr ⟨hc, hcs⟩)]

/-- What has no slash, query or fragment is one segment. -/
theorem segments_of_unended (h : Unended .file cs) : segments cs = [cs] := by
  induction cs with
  | nil => rfl
  | cons c cs ih =>
    have hc := h c List.mem_cons_self
    simp only [endsAuthority, Bool.or_eq_false_iff, beq_eq_false_iff_ne] at hc
    rw [segments, if_neg (by simp [hc]), if_neg (by simp [hc]),
      ih fun d hd => h d (List.mem_cons_of_mem c hd)]
    rfl

/-- There is a last segment, and it becomes longer by what has no slash, query or fragment. -/
theorem exists_last_segment (h : Bare cs) : ∃ front last, ∀ back, Unended .file back →
    segments (cs ++ back) = front ++ [last ++ back] := by
  induction cs with
  | nil => exact ⟨[], [], fun back => segments_of_unended⟩
  | cons c cs ih =>
    obtain ⟨hc, hcs⟩ := bare_cons_iff.mp h
    obtain ⟨front, last, hlast⟩ := ih hcs
    by_cases hslash : isSlash .file c = true
    · refine ⟨[] :: front, last, fun back hback => ?_⟩
      rw [List.cons_append, segments, if_neg hc, if_pos hslash, hlast back hback]
      rfl
    · cases front with
      | nil =>
        refine ⟨[], c :: last, fun back hback => ?_⟩
        rw [List.cons_append, segments, if_neg hc, if_neg hslash, hlast back hback]
        rfl
      | cons segment front =>
        refine ⟨(c :: segment) :: front, last, fun back hback => ?_⟩
        rw [List.cons_append, segments, if_neg hc, if_neg hslash, hlast back hback]
        rfl

theorem segments_ne_nil (cs : List Char) : segments cs ≠ [] := by
  induction cs with
  | nil => exact List.cons_ne_nil _ _
  | cons c cs ih =>
    rw [segments]
    split
    · exact List.cons_ne_nil _ _
    · split
      · exact List.cons_ne_nil _ _
      · simpa using ih

/-- Behind a slash there are the segments of what follows. -/
theorem segments_append_slash (h : Bare cs) (back : List Char) :
    segments (cs ++ '/' :: back) = segments cs ++ segments back := by
  induction cs with
  | nil => rfl
  | cons c cs ih =>
    obtain ⟨hc, hcs⟩ := bare_cons_iff.mp h
    rw [List.cons_append, segments, segments, if_neg hc, if_neg hc, ih hcs]
    split
    · rfl
    · obtain ⟨segment, rest, hsegments⟩ := List.exists_cons_of_ne_nil (segments_ne_nil cs)
      rw [hsegments]
      rfl

end

/-! ## Letters of drives -/

/-- Segments that are no letters of drives change nothing. -/
theorem entersDrive_append {more : List (List Char)} (hmore : ∀ segment ∈ more, isDrive segment = false)
    (before path : List (List Char)) :
    entersDrive before (path ++ more) = entersDrive before path := by
  induction path generalizing before with
  | nil =>
    induction more generalizing before with
    | nil => rfl
    | cons segment more ih =>
      have hrest (before : List (List Char)) : entersDrive before more = false :=
        ih (fun s hs => hmore s (List.mem_cons_of_mem segment hs)) before
      simp only [List.nil_append, entersDrive, hrest, hmore segment List.mem_cons_self,
        Bool.and_false, Bool.false_eq_true, if_false, ite_self]
  | cons segment path ih => rw [List.cons_append, entersDrive, entersDrive, ih, ih, ih]

/-- Whatever follows, the letter of a drive has come first. -/
theorem entersDrive_append_of_front {before path : List (List Char)} (h : entersDrive before path = true)
    (more : List (List Char)) : entersDrive before (path ++ more) = true := by
  induction path generalizing before with
  | nil => contradiction
  | cons segment path ih =>
    rw [entersDrive] at h
    rw [List.cons_append, entersDrive]
    by_cases hparent : isParent segment = true
    · rw [if_pos hparent] at h ⊢
      exact ih h
    · by_cases hhere : isHere segment = true
      · rw [if_neg hparent, if_pos hhere] at h ⊢
        exact ih h
      · rw [if_neg hparent, if_neg hhere] at h ⊢
        split
        · rfl
        · next hfirst =>
          rw [if_neg hfirst] at h
          exact ih h

section

variable {cs : List Char}

/-- The text behind a host ends in the letter of a drive, which comes to be the first segment and takes
the host away. -/
structure EndsInDrive (cs : List Char) : Prop where
  host : ∃ host, fileName cs = .ok (some host)
  bare : Bare cs
  last : entersDrive [] (segmentsBehind cs) = true
  before : entersDrive [] (segmentsBehind cs).dropLast = false

/-- A slash and what is behind it do not matter for the name of a host. -/
theorem fileName_slash (cs back : List Char) : fileName (cs ++ '/' :: back) = fileName cs := by
  rw [fileName, fileName, Text.takeWhile_append_of_stop (by simp [endsAuthority, isSlash])]

theorem fileName_ended {c : Char} (hc : c ∈ cs) (hends : endsAuthority .file c = true)
    (back : List Char) : fileName (cs ++ back) = fileName cs := by
  obtain ⟨front, d, behind, rfl, hfront, hd⟩ := exists_first_end hc hends
  rw [fileName, fileName, List.append_assoc, List.cons_append,
    takeWhile_unended hfront (.cons hd _), takeWhile_unended hfront (.cons hd _)]

/-- Behind a slash the path goes on, unless it has ended before. -/
theorem segmentsBehind_slash (cs back : List Char) :
    segmentsBehind (cs ++ '/' :: back) = segmentsBehind cs ∨
      segmentsBehind (cs ++ '/' :: back) = segmentsBehind cs ++ segments back := by
  have hslash : ('/' :: back).dropWhile (fun c => !endsAuthority .file c) = '/' :: back := rfl
  have hdrop : (cs ++ '/' :: back).dropWhile (fun c => !endsAuthority .file c) =
      cs.dropWhile (fun c => !endsAuthority .file c) ++ '/' :: back := by
    rw [List.dropWhile_append, hslash]
    split
    · next hempty => rw [List.isEmpty_iff.mp hempty, List.nil_append]
    · rfl
  rw [segmentsBehind, segmentsBehind, hdrop]
  generalize cs.dropWhile (fun c => !endsAuthority .file c) = path
  by_cases hbare : Bare path
  · have hlength : 1 ≤ (segments path).length := List.length_pos_iff.mpr (segments_ne_nil path)
    refine .inr ?_
    rw [segments_append_slash hbare, List.drop_append_of_le_length hlength]
  · exact .inl (by rw [segments_append_of_not_bare hbare])

/-- A slash and segments that are no letters of drives do not matter for the host of a file. -/
theorem fileHost_slash {back : List Char} (hback : ∀ segment ∈ segments back, isDrive segment = false)
    (cs : List Char) : fileHost (cs ++ '/' :: back) = fileHost cs := by
  rw [fileHost, fileHost, fileName_slash]
  rcases segmentsBehind_slash cs back with hpath | hpath
  · rw [hpath]
  · rw [hpath, entersDrive_append hback]

/-- Where a path has begun, text without a slash makes its last segment longer, if it has not ended
before. -/
theorem segmentsBehind_append {c : Char} (hc : c ∈ cs) (hends : endsAuthority .file c = true) :
    (¬ Bare cs ∧ ∀ back, segmentsBehind (cs ++ back) = segmentsBehind cs) ∨
      Bare cs ∧ ∃ front last, ∀ back, Unended .file back →
        segmentsBehind (cs ++ back) = front ++ [last ++ back] := by
  obtain ⟨name, d, behind, rfl, hname, hd⟩ := exists_first_end hc hends
  have hpath (back : List Char) :
      segmentsBehind (name ++ d :: behind ++ back) = (segments (d :: behind ++ back)).drop 1 := by
    rw [segmentsBehind, List.append_assoc,
      List.dropWhile_append_of_pos fun c hc => by rw [hname c hc]; rfl, List.cons_append,
      List.dropWhile_cons_of_neg (by simp [hd])]
  have hbare : Bare name := ⟨fun hmem => absurd (hname _ hmem) (by decide),
    fun hmem => absurd (hname _ hmem) (by decide)⟩
  by_cases hbehind : Bare (d :: behind)
  · obtain ⟨hquery, hrest⟩ := bare_cons_iff.mp hbehind
    have hslash : isSlash .file d = true := by
      simp only [endsAuthority, Bool.or_eq_true, beq_iff_eq, or_assoc] at hd
      exact hd.resolve_right hquery
    obtain ⟨front, last, hlast⟩ := exists_last_segment hrest
    refine .inr ⟨bare_append_iff.mpr ⟨hbare, hbehind⟩, front, last, fun back hback => ?_⟩
    rw [hpath, List.cons_append, segments, if_neg hquery, if_pos hslash, hlast back hback]
    rfl
  · refine .inl ⟨fun h => hbehind (bare_append_iff.mp h).2, fun back => ?_⟩
    have hsame := hpath []
    rw [List.append_nil, List.append_nil] at hsame
    rw [hpath, hsame, segments_append_of_not_bare hbehind]

end

/-! ## Either kind of host -/

/-- Reads the host behind the slashes of a URL. -/
def hostBehind (cls : SchemeClass) (cs : List Char) : Except Fault (Option Host) :=
  if cls = .file then fileHost cs else authority cls cs

theorem hostBehind_slash {cls : SchemeClass} {cs back : List Char} (hat : cls = .other → cs ≠ ['@'])
    (hback : ∀ segment ∈ segments back, isDrive segment = false) :
    hostBehind cls (cs ++ '/' :: back) = hostBehind cls cs := by
  cases cls with
  | file => exact fileHost_slash hback cs
  | web => exact authority_slash (.inl rfl) back
  | other => exact authority_slash (.inr (hat rfl)) back

end BackingServices.Url
