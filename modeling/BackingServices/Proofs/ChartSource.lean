import BackingServices.Proofs.Registry
import BackingServices.Proofs.Url.Parts
import BackingServices.Proofs.Url.Trailing

/-!
# Sources of charts as URLs

A root of a registry is a URL, and the source of a chart below it is a text.  It is a URL of the same
scheme and host unless the root is `Misjoined` with what is put behind it (`parse_chartSource_iff`).
The root loses its slashes, and what was cut off at its end as a blank is now in front of a slash.
-/

namespace BackingServices

namespace Url

/-! ## Roots and what is behind them -/

/-- The characters of a root that are read in front of the slash and the name of a chart. -/
def followed (root : String) : List Char :=
  ((root.toList.dropWhile isTrimmed).rdropWhile (· == '/')).filter fun c => !isIgnored c

/-- What is cut off in front of a root does not depend on the slashes at its end. -/
theorem dropWhile_rdropWhile (cs : List Char) :
    (cs.rdropWhile (· == '/')).dropWhile isTrimmed =
      (cs.dropWhile isTrimmed).rdropWhile (· == '/') := by
  have hslash : ∀ c ∈ cs.takeWhile isTrimmed, ¬ (c == '/') = true := by
    intro c hc
    rw [beq_iff_eq]
    exact ne_of_isTrimmed (List.mem_takeWhile_imp hc) (by decide)
  have hfront : (cs.takeWhile isTrimmed).rdropWhile (· == '/') = cs.takeWhile isTrimmed :=
    List.rdropWhile_eq_self_iff.mpr fun hne => hslash _ (List.getLast_mem hne)
  have htrimmed : ∀ c ∈ cs.takeWhile isTrimmed, isTrimmed c = true := fun c hc =>
    List.mem_takeWhile_imp hc
  conv_lhs => rw [← List.takeWhile_append_dropWhile (p := isTrimmed) (l := cs)]
  rw [rdropWhile_append hfront, List.dropWhile_append_of_pos htrimmed]
  generalize hbehind : cs.dropWhile isTrimmed = behind
  cases hcut : behind.rdropWhile (· == '/') with
  | nil => rfl
  | cons c rest =>
    obtain ⟨slashes, hslashes⟩ := List.rdropWhile_prefix (· == '/') behind
    rw [hcut] at hslashes
    have hc : ¬ isTrimmed c = true := by
      have hne : cs.dropWhile isTrimmed ≠ [] := by
        rw [hbehind, ← hslashes]
        exact List.cons_ne_nil _ _
      have hhead := List.head_dropWhile_not isTrimmed hne
      simp only [hbehind, ← hslashes] at hhead
      simpa using hhead
    exact List.dropWhile_cons_of_neg hc

/-- A chart's name has nothing that is cut off or dropped. -/
theorem significant_chartSource (root : String) (s : Service) :
    significant (chartSource root s.chartName) = followed root ++ '/' :: s.chartName.toList := by
  have hlast : ¬ isTrimmed (('/' :: s.chartName.toList).getLast (List.cons_ne_nil _ _)) = true := by
    cases s <;> decide
  have hkept : ('/' :: s.chartName.toList).filter (fun c => !isIgnored c) =
      '/' :: s.chartName.toList := by
    cases s <;> decide
  have hslash : ('/' :: s.chartName.toList).dropWhile isTrimmed = '/' :: s.chartName.toList :=
    List.dropWhile_cons_of_neg (by decide)
  have hdrop : (chartSource root s.chartName).toList.dropWhile isTrimmed =
      (root.toList.dropWhile isTrimmed).rdropWhile (· == '/') ++ '/' :: s.chartName.toList := by
    rw [toList_chartSource, List.dropWhile_append, dropWhile_rdropWhile, hslash]
    split
    · next hempty => rw [List.isEmpty_iff.mp hempty, List.nil_append]
    · rfl
  change ((((chartSource root s.chartName).toList.dropWhile isTrimmed).rdropWhile isTrimmed).filter
    fun c => !isIgnored c) = _
  rw [hdrop, List.rdropWhile_eq_self_iff.mpr, List.filter_append, hkept]
  · rfl
  · intro hne
    rw [List.getLast_append_of_ne_nil hne (List.cons_ne_nil _ _)]
    exact hlast

/-- What is in front of a chart is what is read of the root without the slashes at its end, or with the
blanks and controls there that are cut off elsewhere. -/
theorem followed_cases (root : String) :
    (∃ slashes, (∀ c ∈ slashes, c = '/') ∧ significant root = followed root ++ slashes) ∨
      ∃ blanks, Blanks blanks ∧ followed root = significant root ++ blanks := by
  have hread : significant root =
    ((root.toList.dropWhile isTrimmed).rdropWhile isTrimmed).filter fun c => !isIgnored c := rfl
  rw [hread, followed]
  generalize root.toList.dropWhile isTrimmed = cs
  -- slashes are cut off only in front of a chart, blanks and controls only without one, and the last
  -- character can be one of them only
  by_cases hlast : cs.getLast? = some '/'
  · have hkept : cs.rdropWhile isTrimmed = cs := List.rdropWhile_eq_self_iff.mpr fun hne => by
      rw [List.getLast?_eq_some_getLast hne] at hlast
      rw [Option.some.inj hlast]
      decide
    refine .inl ⟨(cs.rtakeWhile (· == '/')).filter fun c => !isIgnored c, fun c hc => ?_, ?_⟩
    · simpa using List.mem_rtakeWhile_imp (List.mem_filter.mp hc).1
    · rw [hkept, ← List.filter_append, List.rdropWhile_append_rtakeWhile]
  · have hkept : cs.rdropWhile (· == '/') = cs := List.rdropWhile_eq_self_iff.mpr fun hne => by
      rw [List.getLast?_eq_some_getLast hne] at hlast
      simpa using hlast
    have hsplit : cs.filter (fun c => !isIgnored c) =
        (cs.rdropWhile isTrimmed).filter (fun c => !isIgnored c) ++
          (cs.rtakeWhile isTrimmed).filter fun c => !isIgnored c := by
      rw [← List.filter_append, List.rdropWhile_append_rtakeWhile]
    rw [hkept, hsplit]
    generalize hblanks : (cs.rtakeWhile isTrimmed).filter (fun c => !isIgnored c) = blanks
    cases blanks with
    | nil => exact .inl ⟨[], nofun, by simp⟩
    | cons c blanks =>
      refine .inr ⟨_, ⟨List.cons_ne_nil c blanks, fun d hd => ?_⟩, rfl⟩
      rw [← hblanks] at hd
      exact List.mem_rtakeWhile_imp (List.mem_filter.mp hd).1

/-! ## Hosts in front of a chart -/

/-- What is behind a scheme is so little that the slash behind it counts for the host. -/
inductive Scant (cls : SchemeClass) : List Char → Prop where
  /-- One slash, which becomes the first of two. -/
  | slash {c : Char} (hcls : cls ≠ .web) (hc : isSlash cls c = true) : Scant cls [c]
  /-- An empty user in front of no host, which may only be all there is. -/
  | user (hcls : cls = .other) : Scant cls ['/', '/', '@']

section

variable {cls : SchemeClass} {r : List Char} (s : Service)

theorem hostBehind_chartName (hcls : cls ≠ .web) :
    hostBehind cls s.chartName.toList = .ok (some (.name s.chartName)) := by
  cases cls with
  | web => contradiction
  | file => cases s <;> decide +kernel
  | other => cases s <;> decide +kernel

theorem isDrive_of_chartName :
    ∀ segment ∈ segments s.chartName.toList, isDrive segment = false := by
  cases s <;> decide

theorem exists_chartName_cons (cls : SchemeClass) :
    ∃ c name, s.chartName.toList = c :: name ∧ isSlash cls c = false := by
  cases s <;> cases cls <;> exact ⟨_, _, by rfl, by decide⟩

/-- The slash and the name of a chart do not change a host, except that of an empty user. -/
theorem readHost_chart_of_host {slashes : List Char} (hslashes : ∀ c ∈ slashes, c = '/')
    {host? : Option Host} (hok : readHost cls (r ++ slashes) = .ok host?) {cs : List Char}
    (htext : hostText? cls r = some cs) :
    readHost cls (r ++ '/' :: s.chartName.toList) = .ok host? ↔ ¬ Scant cls r := by
  have hne : cls = .web → cs ≠ [] := by
    -- slashes alone are no URL of the web, however many there are
    rintro rfl rfl
    have hr : r.dropWhile (isSlash .web) = [] := Option.some.inj htext
    have hall : ∀ c ∈ r ++ slashes, isSlash .web c = true :=
      List.forall_mem_append.mpr
        ⟨List.dropWhile_eq_nil_iff.mp hr, fun c hc => by rw [hslashes c hc]; rfl⟩
    have hempty : hostText? .web (r ++ slashes) = some [] :=
      congrArg some (List.dropWhile_eq_nil_iff.mpr hall)
    exact ne_nil_of_readHost hok hempty rfl rfl
  rw [readHost, hostText?_append htext hne] at hok
  rw [readHost, hostText?_append htext hne]
  simp only at hok ⊢
  by_cases hat : cls = .other ∧ cs = ['@']
  · obtain ⟨rfl, rfl⟩ := hat
    have hother : SchemeClass.other ≠ .web := by decide
    obtain ⟨a, b, rfl, ha, hb⟩ := (hostText?_eq_some_iff hother).mp htext
    obtain rfl : a = '/' := by simpa [isSlash] using ha
    obtain rfl : b = '/' := by simpa [isSlash] using hb
    have herror : hostBehind .other (['@'] ++ '/' :: s.chartName.toList) = .error .emptyHost :=
      authority_at (.cons rfl _)
    rw [herror]
    exact iff_of_false (by simp) fun h => h (.user rfl)
  · have hat' : cls = .other → cs ≠ ['@'] := fun hcls hcs => hat ⟨hcls, hcs⟩
    rw [hostBehind_slashes hslashes hat'] at hok
    rw [hostBehind_slash hat' (isDrive_of_chartName s), hok]
    refine iff_of_true rfl ?_
    rintro (⟨hcls, hc⟩ | hcls)
    · obtain ⟨a, b, hsingle, -⟩ := (hostText?_eq_some_iff hcls).mp htext
      cases hsingle
    · subst hcls
      cases htext
      exact hat ⟨rfl, rfl⟩

/-- Where there is no host, the slash and the name of a chart make none, except behind one slash. -/
theorem readHost_chart_of_none {slashes : List Char} (hslashes : ∀ c ∈ slashes, c = '/')
    {host? : Option Host} (hok : readHost cls (r ++ slashes) = .ok host?)
    (htext : hostText? cls r = none) :
    readHost cls (r ++ '/' :: s.chartName.toList) = .ok host? ↔ ¬ Scant cls r := by
  rw [readHost_slashes hslashes htext] at hok
  cases hok
  obtain ⟨hcls, hnone⟩ := hostText?_eq_none_iff.mp htext
  by_cases hsingle : ∃ c, r = [c] ∧ isSlash cls c = true
  · obtain ⟨c, rfl, hc⟩ := hsingle
    have hnew : hostText? cls (c :: '/' :: s.chartName.toList) = some s.chartName.toList :=
      (hostText?_eq_some_iff hcls).mpr ⟨c, '/', rfl, hc, rfl⟩
    rw [readHost, List.singleton_append, hnew]
    simp only [hostBehind_chartName s hcls]
    exact iff_of_false (by simp) fun h => h (.slash hcls hc)
  · obtain ⟨n, name, hname, hn⟩ := exists_chartName_cons s cls
    have hnew : hostText? cls (r ++ '/' :: s.chartName.toList) = none := by
      refine hostText?_eq_none_iff.mpr ⟨hcls, fun a b cs heq ha => ?_⟩
      rcases r with _ | ⟨x, _ | ⟨y, r⟩⟩
      · rw [hname] at heq
        cases heq
        exact hn
      · cases heq
        exact absurd ⟨a, rfl, ha⟩ hsingle
      · cases heq
        exact hnone _ _ _ rfl ha
    rw [readHost, hnew]
    refine iff_of_true rfl ?_
    rintro (⟨-, hc⟩ | hcls')
    · exact hsingle ⟨_, rfl, hc⟩
    · exact Bool.noConfusion (hnone _ _ _ rfl rfl)

/-- The slash and the name of a chart do not change the host, except behind too little. -/
theorem readHost_chart_of_slashes {slashes : List Char} (hslashes : ∀ c ∈ slashes, c = '/')
    {host? : Option Host} (hok : readHost cls (r ++ slashes) = .ok host?) :
    readHost cls (r ++ '/' :: s.chartName.toList) = .ok host? ↔ ¬ Scant cls r := by
  cases htext : hostText? cls r with
  | none => exact readHost_chart_of_none s hslashes hok htext
  | some cs => exact readHost_chart_of_host s hslashes hok htext

/-- Blanks and controls in front of the slash and the name of a chart do not change the host only if
there is none, or what is read of it has ended before and no path of a file ends in the letter of a drive
there. -/
theorem readHost_chart_of_blanks {blanks : List Char} (h : Blanks blanks) {host? : Option Host}
    (hok : readHost cls r = .ok host?) :
    readHost cls (r ++ (blanks ++ '/' :: s.chartName.toList)) = .ok host? ↔
      ∀ cs, hostText? cls r = some cs → Closed cls cs ∧ ¬ (cls = .file ∧ EndsInDrive cs) := by
  cases htext : hostText? cls r with
  | none =>
    obtain ⟨b, blanks, rfl⟩ := List.exists_cons_of_ne_nil h.ne_nil
    have hb : isSlash cls b = false := isSlash_of_isTrimmed (h.trimmed b List.mem_cons_self)
    rw [readHost, htext] at hok
    rw [readHost, List.cons_append, hostText?_append_of_none htext hb]
    exact iff_of_true hok (by simp)
  | some cs =>
    have hne := ne_nil_of_readHost hok htext
    rw [readHost, htext] at hok
    rw [readHost, hostText?_append htext hne]
    simpa using hostBehind_blanks h hok (isDrive_of_chartName s)

/-- What ends in blanks or controls is not too little. -/
theorem not_scant_of_blanks {blanks : List Char} (h : Blanks blanks) : ¬ Scant cls (r ++ blanks) := by
  obtain ⟨c, hlast, hc⟩ := h.getLast? r
  generalize r ++ blanks = cs at hlast
  rintro (⟨-, hslash⟩ | -)
  · have hslash' : isSlash cls _ = false := isSlash_of_isTrimmed hc
    rw [← Option.some.inj hlast] at hslash'
    exact Bool.noConfusion (hslash.symm.trans hslash')
  · exact ne_of_isTrimmed hc (by decide) (Option.some.inj hlast).symm

end

/-! ## Roots -/

/-- The roots whose charts are no URLs, or URLs of other hosts. -/
inductive Misjoined (root : String) : Prop where
  /-- What is behind the scheme is too little. -/
  | scant {scheme : String} {rest : List Char}
      (hscheme : scheme? (followed root) = some (scheme, rest))
      (hrest : Scant (SchemeClass.of scheme) rest)
  /-- Blanks or controls that are cut off at the end of the root stand behind a host or port that has
  not ended, once a chart follows. -/
  | blanks {scheme : String} {rest cs blanks : List Char} (hblanks : Blanks blanks)
      (hroot : followed root = significant root ++ blanks)
      (hscheme : scheme? (significant root) = some (scheme, rest))
      (htext : hostText? (SchemeClass.of scheme) rest = some cs)
      (hopen : ¬ Closed (SchemeClass.of scheme) cs)
  /-- Blanks or controls that are cut off at the end of the root stand behind the letter of a drive, which
  takes the host of a file away only without them. -/
  | drive {scheme : String} {rest cs blanks : List Char} (hblanks : Blanks blanks)
      (hroot : followed root = significant root ++ blanks)
      (hscheme : scheme? (significant root) = some (scheme, rest))
      (hfile : SchemeClass.of scheme = .file)
      (htext : hostText? .file rest = some cs)
      (hdrive : EndsInDrive cs)

section

variable {root : String} {url : Url} {rest : List Char} (s : Service)

/-- Where nothing is cut off at the end of the root, only too little behind its scheme matters. -/
theorem Misjoined.exists_scant (h : Misjoined root)
    (hle : (followed root).length ≤ (significant root).length) :
    ∃ scheme rest, scheme? (followed root) = some (scheme, rest) ∧ Scant (SchemeClass.of scheme) rest := by
  have hnone {blanks : List Char} (hblanks : Blanks blanks)
      (hlonger : followed root = significant root ++ blanks) : False := by
    rw [hlonger, List.length_append] at hle
    exact hblanks.ne_nil (List.eq_nil_of_length_eq_zero (by omega))
  cases h with
  | scant hscheme hrest => exact ⟨_, _, hscheme, hrest⟩
  | blanks hblanks hroot => exact (hnone hblanks hroot).elim
  | drive hblanks hroot => exact (hnone hblanks hroot).elim

theorem parse_chartSource_iff_readHost (h : scheme? (followed root) = some (url.scheme, rest)) :
    parse (chartSource root s.chartName) = .ok url ↔
      readHost (SchemeClass.of url.scheme) (rest ++ '/' :: s.chartName.toList) = .ok url.host? := by
  rw [parse_ok_iff, significant_chartSource, scheme?_append h]
  simp

/-- Slashes are cut off at the end of the root. -/
theorem parse_chartSource_of_slashes {slashes : List Char} (hslashes : ∀ c ∈ slashes, c = '/')
    (hsplit : significant root = followed root ++ slashes) (hroot : parse root = .ok url) :
    parse (chartSource root s.chartName) = .ok url ↔ ¬ Misjoined root := by
  obtain ⟨_, hscheme, hhost⟩ := parse_ok_iff.mp hroot
  have hcolon : ':' ∉ slashes := fun h => absurd (hslashes ':' h) (by decide)
  rw [hsplit] at hscheme
  obtain ⟨rest, hfront, rfl⟩ := scheme?_of_append hcolon hscheme
  rw [parse_chartSource_iff_readHost s hfront, readHost_chart_of_slashes s hslashes hhost, not_iff_not]
  have hle : (followed root).length ≤ (significant root).length := by
    rw [hsplit, List.length_append]
    exact Nat.le_add_right _ _
  refine ⟨.scant hfront, fun h => ?_⟩
  obtain ⟨scheme, rest', hscheme', hrest⟩ := h.exists_scant hle
  rw [hfront] at hscheme'
  cases hscheme'
  exact hrest

/-- Blanks and controls are cut off at the end of the root, and are not if a chart follows. -/
theorem parse_chartSource_of_blanks {blanks : List Char} (hblanks : Blanks blanks)
    (hsplit : followed root = significant root ++ blanks) (hroot : parse root = .ok url) :
    parse (chartSource root s.chartName) = .ok url ↔ ¬ Misjoined root := by
  obtain ⟨rest, hscheme, hhost⟩ := parse_ok_iff.mp hroot
  have hfront : scheme? (followed root) = some (url.scheme, rest ++ blanks) := by
    rw [hsplit]
    exact scheme?_append hscheme blanks
  rw [parse_chartSource_iff_readHost s hfront, List.append_assoc,
    readHost_chart_of_blanks s hblanks hhost]
  constructor
  · rintro hclosed (⟨hscheme', hrest⟩ | ⟨-, -, hscheme', htext, hopen⟩ |
      ⟨-, -, hscheme', hfile, htext, hdrive⟩)
    · rw [hfront] at hscheme'
      cases hscheme'
      exact not_scant_of_blanks hblanks hrest
    · rw [hscheme] at hscheme'
      cases hscheme'
      exact hopen (hclosed _ htext).1
    · rw [hscheme] at hscheme'
      cases hscheme'
      rw [hfile] at hclosed
      exact (hclosed _ htext).2 ⟨rfl, hdrive⟩
  · intro hjoined cs htext
    constructor
    · exact Classical.byContradiction fun hopen =>
        hjoined (.blanks hblanks hsplit hscheme htext hopen)
    · rintro ⟨hfile, hdrive⟩
      exact hjoined (.drive hblanks hsplit hscheme hfile (hfile ▸ htext) hdrive)

/-- The source of a chart is a URL of the scheme and the host of the root unless the two are
misjoined. -/
theorem parse_chartSource_iff (hroot : parse root = .ok url) :
    parse (chartSource root s.chartName) = .ok url ↔ ¬ Misjoined root := by
  rcases followed_cases root with ⟨slashes, hslashes, hsplit⟩ | ⟨blanks, hblanks, hsplit⟩
  · exact parse_chartSource_of_slashes s hslashes hsplit hroot
  · exact parse_chartSource_of_blanks s hblanks hsplit hroot

/-- With a blank behind it, the letter of a drive leaves the host where it is. -/
example : parse "file://charts/C: " = .ok ⟨"file", none⟩ ∧
    parse (chartSource "file://charts/C: " "redis") = .ok ⟨"file", some (.name "charts")⟩ := by
  decide +kernel

/-- In front of a chart a root has the scheme it has by itself. -/
theorem scheme_of_followed (hroot : parse root = .ok url) {scheme : String}
    (h : scheme? (followed root) = some (scheme, rest)) : scheme = url.scheme := by
  obtain ⟨_, hscheme, -⟩ := parse_ok_iff.mp hroot
  rcases followed_cases root with ⟨slashes, -, hsplit⟩ | ⟨blanks, -, hsplit⟩
  · rw [hsplit, scheme?_append h] at hscheme
    cases hscheme
    rfl
  · rw [hsplit, scheme?_append hscheme] at h
    cases h
    rfl

/-- Nothing is cut off from a root that does not end in a blank or a control. -/
theorem length_followed_le (hend : root.toList.getLast?.any isTrimmed = false) :
    (followed root).length ≤ (significant root).length := by
  have hkept : (root.toList.dropWhile isTrimmed).rdropWhile isTrimmed =
      root.toList.dropWhile isTrimmed := List.rdropWhile_eq_self_iff.mpr fun hne => by
    have hlast : root.toList.getLast? = some ((root.toList.dropWhile isTrimmed).getLast hne) := by
      conv_lhs => rw [← List.takeWhile_append_dropWhile (p := isTrimmed) (l := root.toList)]
      rw [List.getLast?_append, List.getLast?_eq_some_getLast hne]
      rfl
    rw [hlast] at hend
    exact Bool.eq_false_iff.mp hend
  change _ ≤ (((root.toList.dropWhile isTrimmed).rdropWhile isTrimmed).filter
    fun c => !isIgnored c).length
  rw [hkept]
  exact ((List.rdropWhile_prefix _ _).filter _).length_le

/-- Roots of the web that do not end in a blank or a control are not misjoined with their charts. -/
theorem not_misjoined_of_web (hroot : parse root = .ok url)
    (hweb : SchemeClass.of url.scheme = .web)
    (hend : root.toList.getLast?.any isTrimmed = false) : ¬ Misjoined root := by
  intro h
  obtain ⟨scheme, rest, hscheme, hrest⟩ := h.exists_scant (length_followed_le hend)
  obtain rfl := scheme_of_followed hroot hscheme
  rw [hweb] at hrest
  rcases hrest with ⟨hcls, -⟩ | hcls
  · exact hcls rfl
  · contradiction

end

end Url

/-! ## Configurations -/

/-- The source of a chart of a configuration is a URL of the scheme and the host of the root of the
registry unless the two are misjoined. -/
theorem Config.parse_source_iff {lookup : Lookup} {c : Config} (h : ofLookup lookup = .ok c) :
    ∃ url, Url.parse c.policy.registryRoot = .ok url ∧ ∀ s : Service,
      (Url.parse (chartSource c.policy.registryRoot s.chartName) = .ok url ↔
        ¬ Url.Misjoined c.policy.registryRoot) := by
  obtain ⟨-, -, hregistry, -⟩ := ofLookup_ok_iff.mp h
  obtain ⟨-, url, hurl⟩ := readRegistry_ok_iff.mp hregistry
  exact ⟨url, hurl, fun s => Url.parse_chartSource_iff s hurl⟩

/-- A root with a blank in front of it and a slash at its end. -/
theorem Config.parse_source_of_web :
    ofLookup (fun name => [("NAMESPACE_SUFFIX", "-prod"),
          ("CHART_REGISTRY", " https://charts.example.com/")].lookup name) =
        .ok ⟨"-prod", none,
          { Policy.standard with registryRoot := " https://charts.example.com/" }⟩ ∧
      ∀ s : Service, Url.parse (chartSource " https://charts.example.com/" s.chartName) =
        .ok ⟨"https", some (.name "charts.example.com")⟩ := by
  have hlookup : ofLookup (fun name => [("NAMESPACE_SUFFIX", "-prod"),
        ("CHART_REGISTRY", " https://charts.example.com/")].lookup name) =
      .ok ⟨"-prod", none,
        { Policy.standard with registryRoot := " https://charts.example.com/" }⟩ := by decide +kernel
  have hroot : Url.parse " https://charts.example.com/" =
      .ok ⟨"https", some (.name "charts.example.com")⟩ := by decide +kernel
  obtain ⟨url, hurl, hsources⟩ := parse_source_iff hlookup
  obtain rfl := Except.ok.inj (hurl.symm.trans hroot)
  have hjoined : ¬ Url.Misjoined " https://charts.example.com/" :=
    Url.not_misjoined_of_web hroot (by decide) (by decide)
  exact ⟨hlookup, fun s => (hsources s).mpr hjoined⟩

/-- A root with a blank at its end is accepted, and the sources of its charts are no URLs. -/
theorem Config.source_behind_blank :
    ¬ ∀ lookup c url, ofLookup lookup = .ok c → Url.parse c.policy.registryRoot = .ok url →
      ∀ s : Service, ∃ source,
        Url.parse (chartSource c.policy.registryRoot s.chartName) = .ok source ∧
          source.scheme = url.scheme ∧ source.host? = url.host? := by
  intro hall
  have hlookup : ofLookup (fun name => [("NAMESPACE_SUFFIX", "-prod"),
        ("CHART_REGISTRY", "https://charts.example.com ")].lookup name) =
      .ok ⟨"-prod", none,
        { Policy.standard with registryRoot := "https://charts.example.com " }⟩ := by decide +kernel
  have hroot : Url.parse "https://charts.example.com " =
      .ok ⟨"https", some (.name "charts.example.com")⟩ := by decide +kernel
  have hsource : Url.parse (chartSource "https://charts.example.com " "redis") =
      .error .badDomain := by decide +kernel
  obtain ⟨source, hparsed, -, -⟩ := hall _ _ _ hlookup hroot .cache
  have hnone := hsource.symm.trans hparsed
  contradiction

end BackingServices
