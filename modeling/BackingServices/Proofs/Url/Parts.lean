import BackingServices.Proofs.Url.Path

/-!
# The parts of a URL

A URL is read in two parts: a scheme up to the first colon (`scheme?_iff`) and a host behind it
(`parse_ok_iff`).  The text of the host begins behind any slashes on the web and behind two of them
elsewhere, where it may be missing (`hostText?_eq_none_iff`).  More text behind a URL leaves the first
part alone.
-/

namespace BackingServices.Url

/-! ## Schemes -/

theorem isSchemeChar_of_isAlpha {c : Char} (h : c.isAlpha = true) : isSchemeChar c = true := by
  simp [isSchemeChar, Char.isAlphanum, h]

/-- A scheme begins with a letter and ends at the first colon. -/
theorem scheme?_iff {cs rest : List Char} {scheme : String} :
    scheme? cs = some (scheme, rest) ↔
      ∃ letter more, letter.isAlpha = true ∧ (∀ c ∈ letter :: more, isSchemeChar c = true) ∧
        cs = letter :: more ++ ':' :: rest ∧
          scheme = String.ofList ((letter :: more).map Char.toLower) := by
  have hcolon : ¬ isSchemeChar ':' = true := by decide
  constructor
  · intro h
    cases cs with
    | nil => contradiction
    | cons letter cs =>
      rw [scheme?] at h
      split at h
      · rename_i hletter
        have hchar := isSchemeChar_of_isAlpha hletter
        have hsplit := List.takeWhile_append_dropWhile (p := isSchemeChar) (l := cs)
        rw [List.dropWhile_cons_of_pos hchar, List.takeWhile_cons_of_pos hchar] at h
        split at h
        · rename_i behind hbehind
          cases h
          refine ⟨letter, cs.takeWhile isSchemeChar, hletter, ?_, ?_, rfl⟩
          · exact List.forall_mem_cons.mpr ⟨hchar, fun c hc => List.mem_takeWhile_imp hc⟩
          · rw [List.cons_append, ← hbehind, hsplit]
        · contradiction
      · contradiction
  · rintro ⟨letter, more, hletter, hchars, rfl, rfl⟩
    rw [List.cons_append, scheme?, if_pos hletter, ← List.cons_append,
      List.dropWhile_append_of_pos hchars, List.dropWhile_cons_of_neg hcolon,
      List.takeWhile_append_of_pos hchars, List.takeWhile_cons_of_neg hcolon, List.append_nil]
    rfl

section

variable {cs rest : List Char} {scheme : String}

theorem scheme?_append (h : scheme? cs = some (scheme, rest)) (back : List Char) :
    scheme? (cs ++ back) = some (scheme, rest ++ back) := by
  obtain ⟨letter, more, hletter, hchars, rfl, hscheme⟩ := scheme?_iff.mp h
  exact scheme?_iff.mpr ⟨letter, more, hletter, hchars, by simp, hscheme⟩

/-- A scheme does not end at what has no colon. -/
theorem scheme?_of_append {back : List Char} (hback : ':' ∉ back)
    (h : scheme? (cs ++ back) = some (scheme, rest)) :
    ∃ rest', scheme? cs = some (scheme, rest') ∧ rest = rest' ++ back := by
  obtain ⟨letter, more, hletter, hchars, hsplit, hscheme⟩ := scheme?_iff.mp h
  rcases List.append_eq_append_iff.mp hsplit with ⟨behind, -, hbehind⟩ | ⟨behind, hcs, hbehind⟩
  · exact absurd (hbehind ▸ List.mem_append_right _ List.mem_cons_self) hback
  · cases behind with
    | nil =>
      rw [List.nil_append] at hbehind
      exact absurd (hbehind ▸ List.mem_cons_self) hback
    | cons c behind =>
      obtain ⟨rfl, rfl⟩ := List.cons.inj hbehind
      exact ⟨behind, scheme?_iff.mpr ⟨letter, more, hletter, hchars, hcs, hscheme⟩, rfl⟩

end

/-! ## Hosts -/

/-- What stands behind the slashes in front of a host. -/
def hostText? (cls : SchemeClass) (rest : List Char) : Option (List Char) :=
  if cls = .web then some (rest.dropWhile (isSlash .web))
  else
    match rest with
    | a :: b :: cs => if isSlash cls a && isSlash cls b then some cs else none
    | _ => none

/-- Reads the host behind a scheme. -/
def readHost (cls : SchemeClass) (rest : List Char) : Except Fault (Option Host) :=
  match hostText? cls rest with
  | none => .ok none
  | some cs => hostBehind cls cs

theorem parse_eq (s : String) :
    parse s =
      match scheme? (significant s) with
      | none => .error .relative
      | some (scheme, rest) => (readHost (SchemeClass.of scheme) rest).map (Url.mk scheme) := by
  rw [parse]
  cases scheme? (significant s) with
  | none => rfl
  | some behind =>
    obtain ⟨scheme, rest⟩ := behind
    simp only
    cases SchemeClass.of scheme with
    | web =>
      change _ = (authority .web (rest.dropWhile (isSlash .web))).map (Url.mk scheme)
      cases authority .web (rest.dropWhile (isSlash .web)) <;> rfl
    | file =>
      rcases rest with _ | ⟨a, _ | ⟨b, cs⟩⟩
      · rfl
      · rfl
      · simp only [readHost, hostText?, reduceCtorEq, if_false]
        split
        · change _ = (fileHost cs).map (Url.mk scheme)
          cases fileHost cs <;> rfl
        · rfl
    | other =>
      rcases rest with _ | ⟨a, _ | ⟨b, cs⟩⟩
      · rfl
      · simp [readHost, hostText?, Except.map]
      · by_cases hslashes : a = '/' ∧ b = '/'
        · obtain ⟨rfl, rfl⟩ := hslashes
          have hread : readHost .other ('/' :: '/' :: cs) = authority .other cs := rfl
          rw [hread]
          cases hhost : authority .other cs <;> simp [hhost, bind, Except.bind, Except.map]
        · have hread : readHost .other (a :: b :: cs) = .ok none := by
            simp [readHost, hostText?, isSlash, hslashes]
          rw [hread]
          simp only
          split
          · rename_i heq
            cases heq
            exact absurd ⟨rfl, rfl⟩ hslashes
          · rfl

/-- A URL has a scheme and the host behind it. -/
theorem parse_ok_iff {s : String} {url : Url} :
    parse s = .ok url ↔ ∃ rest, scheme? (significant s) = some (url.scheme, rest) ∧
      readHost (SchemeClass.of url.scheme) rest = .ok url.host? := by
  rw [parse_eq]
  cases scheme? (significant s) with
  | none => simp
  | some behind =>
    obtain ⟨scheme, rest⟩ := behind
    simp only
    constructor
    · intro h
      cases hhost : readHost (SchemeClass.of scheme) rest with
      | error fault =>
        rw [hhost] at h
        contradiction
      | ok host? =>
        rw [hhost] at h
        obtain rfl := Except.ok.inj h
        exact ⟨rest, rfl, hhost⟩
    · rintro ⟨rest, heq, hhost⟩
      cases heq
      rw [hhost]
      rfl

/-! ## Texts of hosts -/

section

variable {cls : SchemeClass} {r cs : List Char}

/-- Without two slashes there is no host, except on the web. -/
theorem hostText?_eq_none_iff :
    hostText? cls r = none ↔
      cls ≠ .web ∧ ∀ a b cs, r = a :: b :: cs → isSlash cls a = true → isSlash cls b = false := by
  unfold hostText?
  by_cases hcls : cls = .web
  · simp [hcls]
  · rcases r with _ | ⟨a, _ | ⟨b, r⟩⟩ <;> simp [hcls]

theorem hostText?_eq_some_iff (hcls : cls ≠ .web) :
    hostText? cls r = some cs ↔
      ∃ a b, r = a :: b :: cs ∧ isSlash cls a = true ∧ isSlash cls b = true := by
  unfold hostText?
  rw [if_neg hcls]
  rcases r with _ | ⟨a, _ | ⟨b, r⟩⟩
  · simp
  · simp
  · simp only [Option.ite_none_right_eq_some, Bool.and_eq_true, Option.some.injEq]
    constructor
    · rintro ⟨⟨ha, hb⟩, rfl⟩
      exact ⟨a, b, rfl, ha, hb⟩
    · rintro ⟨a', b', heq, ha, hb⟩
      cases heq
      exact ⟨⟨ha, hb⟩, rfl⟩

theorem hostText?_append (h : hostText? cls r = some cs) (hne : cls = .web → cs ≠ [])
    (back : List Char) : hostText? cls (r ++ back) = some (cs ++ back) := by
  by_cases hcls : cls = .web
  · subst hcls
    obtain rfl : r.dropWhile (isSlash .web) = cs := Option.some.inj h
    have hempty : ¬ (r.dropWhile (isSlash .web)).isEmpty = true := by simpa using hne rfl
    change some ((r ++ back).dropWhile (isSlash .web)) = _
    rw [List.dropWhile_append, if_neg hempty]
  · obtain ⟨a, b, rfl, ha, hb⟩ := (hostText?_eq_some_iff hcls).mp h
    exact (hostText?_eq_some_iff hcls).mpr ⟨a, b, rfl, ha, hb⟩

/-- A URL of the web has something behind its slashes. -/
theorem ne_nil_of_readHost {host? : Option Host} (hok : readHost cls r = .ok host?)
    (h : hostText? cls r = some cs) : cls = .web → cs ≠ [] := by
  rintro rfl rfl
  rw [readHost, h] at hok
  contradiction

/-- Where there is no host, there is none in front of what begins with no slash. -/
theorem hostText?_append_of_none (h : hostText? cls r = none) {b : Char}
    (hb : isSlash cls b = false) (back : List Char) : hostText? cls (r ++ b :: back) = none := by
  obtain ⟨hcls, hnone⟩ := hostText?_eq_none_iff.mp h
  refine hostText?_eq_none_iff.mpr ⟨hcls, fun a b' cs heq ha => ?_⟩
  rcases r with _ | ⟨x, _ | ⟨y, r⟩⟩
  · cases heq
    rw [hb] at ha
    contradiction
  · cases heq
    exact hb
  · cases heq
    exact hnone _ _ _ rfl ha

variable {slashes : List Char} (hslashes : ∀ c ∈ slashes, c = '/')

include hslashes

theorem isDrive_of_slashes : ∀ segment ∈ segments slashes, isDrive segment = false := by
  induction slashes with
  | nil => exact List.forall_mem_singleton.mpr rfl
  | cons c slashes ih =>
    obtain ⟨rfl, hrest⟩ := List.forall_mem_cons.mp hslashes
    exact List.forall_mem_cons.mpr ⟨rfl, ih hrest⟩

theorem hostBehind_slashes (hat : cls = .other → cs ≠ ['@']) :
    hostBehind cls (cs ++ slashes) = hostBehind cls cs := by
  cases slashes with
  | nil => rw [List.append_nil]
  | cons c slashes =>
    obtain ⟨rfl, hrest⟩ := List.forall_mem_cons.mp hslashes
    exact hostBehind_slash hat (isDrive_of_slashes hrest)

/-- Where there is no host, slashes make none. -/
theorem readHost_slashes (h : hostText? cls r = none) : readHost cls (r ++ slashes) = .ok none := by
  obtain ⟨hcls, hnone⟩ := hostText?_eq_none_iff.mp h
  rw [readHost]
  cases htext : hostText? cls (r ++ slashes) with
  | none => rfl
  | some cs =>
    obtain ⟨a, b, heq, ha, hb⟩ := (hostText?_eq_some_iff hcls).mp htext
    have hrest : ∀ c ∈ cs, c = '/' := by
      rcases r with _ | ⟨x, _ | ⟨y, r⟩⟩
      · obtain rfl : slashes = a :: b :: cs := heq
        exact (List.forall_mem_cons.mp (List.forall_mem_cons.mp hslashes).2).2
      · obtain rfl : slashes = b :: cs := (List.cons.inj heq).2
        exact (List.forall_mem_cons.mp hslashes).2
      · cases heq
        rw [hnone _ _ _ rfl ha] at hb
        contradiction
    have hsame : hostBehind cls ([] ++ cs) = hostBehind cls [] :=
      hostBehind_slashes hrest fun _ => nofun
    have hempty : hostBehind cls [] = .ok none := by
      cases cls with
      | web => contradiction
      | file => rfl
      | other => rfl
    exact hsame.trans hempty

end

end BackingServices.Url
