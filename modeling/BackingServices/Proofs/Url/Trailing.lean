import BackingServices.Proofs.Url.Domain
import BackingServices.Proofs.Url.Path

/-!
# Blanks and controls behind a host

Blanks and controls do not end the part of a URL with user, host and port.  They become part of the host
or of the port that they stand behind.  No port has them, and with them a host is another one or none.
So they matter unless the part, or the port in it, has ended before.  Behind the part they matter where
the path of a file ends in the letter of a drive, which is none with them (`hostBehind_blanks`).
-/

namespace BackingServices.Url

variable {cls : SchemeClass} {cs : List Char}

/-! ## Blanks and controls behind a host or a port -/

/-- Some blanks and controls. -/
structure Blanks (blanks : List Char) : Prop where
  ne_nil : blanks ≠ []
  trimmed : ∀ c ∈ blanks, isTrimmed c = true

theorem ne_of_isTrimmed {c d : Char} (hc : isTrimmed c = true) (hd : 0x20 < d.toNat) : c ≠ d := by
  rintro rfl
  exact absurd (of_decide_eq_true hc : c.toNat ≤ 0x20) (Nat.not_le.mpr hd)

theorem endsAuthority_of_isTrimmed {c : Char} (hc : isTrimmed c = true) :
    endsAuthority cls c = false := by
  have hne (d : Char) (hd : 0x20 < d.toNat) : (c == d) = false :=
    beq_eq_false_iff_ne.mpr (ne_of_isTrimmed hc hd)
  rw [endsAuthority, isSlash, hne '/' (by decide), hne '\\' (by decide), hne '?' (by decide),
    hne '#' (by decide)]
  rfl

theorem isSlash_of_isTrimmed {c : Char} (hc : isTrimmed c = true) : isSlash cls c = false := by
  have hends : endsAuthority cls c = false := endsAuthority_of_isTrimmed hc
  simp only [endsAuthority, Bool.or_eq_false_iff] at hends
  exact hends.1.1

namespace Blanks

variable {blanks : List Char} (h : Blanks blanks)

include h

theorem unended (cls : SchemeClass) : Unended cls blanks := fun c hc =>
  endsAuthority_of_isTrimmed (h.trimmed c hc)

theorem not_mem {d : Char} (hd : 0x20 < d.toNat) : d ∉ blanks := fun hmem =>
  ne_of_isTrimmed (h.trimmed d hmem) hd rfl

theorem getLast? (cs : List Char) :
    ∃ c, (cs ++ blanks).getLast? = some c ∧ isTrimmed c = true := by
  refine ⟨blanks.getLast h.ne_nil, ?_, h.trimmed _ (List.getLast_mem _)⟩
  rw [List.getLast?_append, List.getLast?_eq_some_getLast h.ne_nil]
  rfl

theorem append_ne (cs : List Char) : cs ++ blanks ≠ cs := by
  simpa using h.ne_nil

/-- What ends in blanks or controls is no letter of a drive. -/
theorem isDrive_eq_false (cs : List Char) : isDrive (cs ++ blanks) = false := by
  obtain ⟨c, hlast, hc⟩ := h.getLast? cs
  rw [Bool.eq_false_iff]
  intro hdrive
  unfold isDrive at hdrive
  split at hdrive
  · rename_i letter sign heq
    obtain rfl : sign = c := by
      rw [heq] at hlast
      exact Option.some.inj hlast
    have hsign : sign = ':' ∨ sign = '|' := by
      simp only [Bool.and_eq_true, Bool.or_eq_true, beq_iff_eq] at hdrive
      exact hdrive.2
    rcases hsign with rfl | rfl <;> exact ne_of_isTrimmed hc (by decide) rfl
  · contradiction

end Blanks

section

variable {blanks : List Char} (h : Blanks blanks) {r : List Char}

include h

theorem bracketed_blanks (r : List Char) : bracketed (r ++ blanks) = .error .badIpv6 := by
  obtain ⟨c, hlast, hc⟩ := h.getLast? r
  have hbracket : c ≠ ']' := ne_of_isTrimmed hc (by decide)
  rw [bracketed, if_neg]
  rw [hlast]
  exact fun heq => hbracket (Option.some.inj heq)

/-- A host that is interpreted does not end in blanks or controls. -/
theorem interpretedHost_blanks (r : List Char) :
    ∃ fault, interpretedHost (r ++ blanks) = .error fault := by
  rw [interpretedHost]
  split
  · exact ⟨_, bracketed_blanks h r⟩
  · obtain ⟨c, hlast, hc⟩ := h.getLast? r
    have hnone : domain? (String.ofList (r ++ blanks)) = none :=
      domain?_of_trimmed hc (by rw [String.toList_ofList, hlast])
    exact ⟨.badDomain, by rw [hnone]⟩

/-- A host that is not interpreted is another one with blanks or controls behind it, or none. -/
theorem opaqueHost_blanks {host : Host} (hhost : opaqueHost r = .ok host) :
    opaqueHost (r ++ blanks) ≠ .ok host ∧ opaqueHost (r ++ blanks) ≠ .ok (.name "") := by
  rw [opaqueHost] at hhost ⊢
  by_cases hbracket : (r ++ blanks).head? = some '['
  · rw [if_pos hbracket, bracketed_blanks h r]
    exact ⟨nofun, nofun⟩
  · have hr : r.head? ≠ some '[' := fun hr => hbracket (by rw [List.head?_append, hr]; rfl)
    rw [if_neg hr] at hhost
    rw [if_neg hbracket]
    have hname (cs : List Char) (heq : Except.ok (.name (String.ofList (r ++ blanks))) =
        (Except.ok (.name (String.ofList cs)) : Except Fault Host)) : r ++ blanks = cs :=
      String.ofList_injective (Host.name.inj (Except.ok.inj heq))
    split at hhost
    · contradiction
    · cases hhost
      split
      · exact ⟨nofun, nofun⟩
      · refine ⟨fun heq => h.append_ne r (hname r heq), fun heq => ?_⟩
        exact h.ne_nil (List.append_eq_nil_iff.mp (hname [] heq)).2

theorem hostLength_blanks (inside : Bool) (hr : hostLength cls inside r = r.length) :
    hostLength cls inside (r ++ blanks) = (r ++ blanks).length := by
  have hplain (cs : List Char) (hcs : Unended cls cs) (hcolon : ':' ∉ cs) (inside : Bool) :
      hostLength cls inside cs = cs.length := by
    induction cs generalizing inside with
    | nil => rfl
    | cons c cs ih =>
      have hc : c ≠ ':' := fun hc => hcolon (hc ▸ List.mem_cons_self)
      rw [hostLength, if_neg fun h => hc h.1, if_neg (by rw [hcs c List.mem_cons_self]; decide),
        ih (fun d hd => hcs d (List.mem_cons_of_mem c hd))
          (fun hmem => hcolon (List.mem_cons_of_mem c hmem)), List.length_cons]
  induction r generalizing inside with
  | nil => exact hplain blanks (h.unended cls) (h.not_mem (by decide)) inside
  | cons c r ih =>
    rw [hostLength] at hr
    rw [List.cons_append, hostLength]
    split at hr
    · contradiction
    · split at hr
      · contradiction
      · rename_i hcolon hends
        rw [if_neg hcolon, if_neg hends, ih _ (Nat.succ.inj hr), List.length_cons]

end

section

variable {blanks : List Char} (h : Blanks blanks) {r : List Char}

include h

/-- A port has blanks or controls behind it only if it has ended before. -/
theorem checkPort_blanks (hr : checkPort r = .ok ()) :
    checkPort (r ++ blanks) = .ok () ↔ ∃ c ∈ r, endsAuthority .web c = true := by
  obtain ⟨b, rest, rfl⟩ := List.exists_cons_of_ne_nil h.ne_nil
  cases hbehind : r.dropWhile Char.isDigit with
  | nil =>
    have hdigits : ∀ c ∈ r, c.isDigit = true := List.dropWhile_eq_nil_iff.mp hbehind
    have hb : ¬ b.isDigit = true := fun hb => by
      have hle : '0'.toNat ≤ b.toNat := (Char.isDigit_iff_toNat.mp hb).1
      have hle' : b.toNat ≤ 0x20 := of_decide_eq_true (h.trimmed b List.mem_cons_self)
      exact absurd (Nat.le_trans hle hle') (by decide)
    have hends : endsAuthority .web b = false := h.unended .web b List.mem_cons_self
    refine iff_of_false (fun hport => ?_) (fun ⟨c, hc, hends⟩ => ?_)
    · rw [checkPort, List.takeWhile_append_of_pos hdigits, List.dropWhile_append_of_pos hdigits,
        List.dropWhile_cons_of_neg hb] at hport
      split at hport
      · contradiction
      · simp [hends] at hport
    · rw [not_endsAuthority_of_isDigit (hdigits c hc)] at hends
      contradiction
  | cons c behind =>
    have hends : endsAuthority .web c = true := by
      rw [checkPort, hbehind] at hr
      split at hr
      · contradiction
      · simpa using hr
    have hc : c ∈ r := (List.dropWhile_suffix Char.isDigit).subset (hbehind ▸ List.mem_cons_self)
    rw [checkPort_of_dropWhile hbehind]
    exact iff_of_true hr ⟨c, hc, hends⟩

/-- The name of a host is that of another one with blanks or controls behind it, or of none. -/
theorem nameHost_blanks {host : Host} (hr : nameHost cls r = .ok host) :
    nameHost cls (r ++ blanks) ≠ .ok host ∧ nameHost cls (r ++ blanks) ≠ .ok (.name "") := by
  rw [nameHost] at hr ⊢
  by_cases hcls : cls = .web
  · obtain ⟨fault, hfault⟩ := interpretedHost_blanks h r
    have hne : (r ++ blanks).isEmpty = false := by simp [h.ne_nil]
    simp [hcls, hne, hfault]
  · simp only [hcls, false_and, if_false] at hr ⊢
    exact opaqueHost_blanks h hr

/-- A host without a port has no blanks or controls behind it. -/
theorem hostAndPort_blanks_ne (hfull : hostLength cls false r = r.length) {hasUser : Bool}
    {host? : Option Host} (hok : hostAndPort cls hasUser r = .ok host?) :
    hostAndPort cls hasUser (r ++ blanks) ≠ .ok host? := by
  intro hsame
  obtain ⟨host, hhost, -, rfl⟩ := (hostAndPort_full_iff hfull).mp hok
  obtain ⟨host', hhost', -, hequal⟩ :=
    (hostAndPort_full_iff (hostLength_blanks h false hfull)).mp hsame
  obtain ⟨hother, hempty⟩ := nameHost_blanks h hhost
  rw [hhost'] at hother hempty
  have hne : host' ≠ .name "" := fun h => hempty (h ▸ rfl)
  rw [if_neg hne] at hequal
  split at hequal
  · contradiction
  · exact hother (congrArg _ (Option.some.inj hequal).symm)

/-- A host and its port have blanks or controls behind them only if the port has ended before. -/
theorem hostAndPort_blanks (hr : Unended cls r) {hasUser : Bool} {host? : Option Host}
    (hok : hostAndPort cls hasUser r = .ok host?) :
    hostAndPort cls hasUser (r ++ blanks) = .ok host? ↔
      ∃ c ∈ r.drop (hostLength cls false r), endsAuthority .web c = true := by
  have hle : hostLength cls false r ≤ r.length := hostLength_le false
  cases hrest : r.drop (hostLength cls false r) with
  | nil =>
    have hfull : hostLength cls false r = r.length :=
      Nat.le_antisymm hle (List.drop_eq_nil_iff.mp hrest)
    exact iff_of_false (hostAndPort_blanks_ne h hfull hok) (by simp)
  | cons c port =>
    have hlt : hostLength cls false r < r.length := by
      have hlength := congrArg List.length hrest
      rw [List.length_drop, List.length_cons] at hlength
      omega
    obtain rfl : c = ':' := by
      have hhead := head_drop_hostLength hr false
      rw [hrest] at hhead
      exact hhead c rfl
    have hlonger : (r ++ blanks).drop (hostLength cls false (r ++ blanks)) =
        ':' :: (port ++ blanks) := by
      rw [hostLength_of_lt hlt, List.drop_append_of_le_length hle, hrest, List.cons_append]
    obtain ⟨host, hhost, hne, hport, rfl⟩ := (hostAndPort_port_iff hrest).mp hok
    rw [hostAndPort_port_iff hlonger, hostLength_of_lt hlt, List.take_append_of_le_length hle]
    simp [hhost, hne, checkPort_blanks h hport, colon_unended]

end

/-! ## Parts with user, host and port -/

/-- The part with user, host and port ends within a text, or the port does. -/
def Closed (cls : SchemeClass) (cs : List Char) : Prop :=
  (∃ c ∈ cs, endsAuthority cls c = true) ∨
    ∃ hasUser rest, dropUser cls cs = .ok (hasUser, rest) ∧
      ∃ c ∈ rest.drop (hostLength cls false rest), endsAuthority .web c = true

section

variable {blanks : List Char} (h : Blanks blanks)

include h

theorem dropUser_blanks (hcs : Unended cls cs) :
    ∃ hasUser rest, Unended cls rest ∧ dropUser cls cs = .ok (hasUser, rest) ∧
      dropUser cls (cs ++ blanks) = .ok (hasUser, rest ++ blanks) := by
  have hblanks : Unended cls (cs ++ blanks) := List.forall_mem_append.mpr ⟨hcs, h.unended cls⟩
  by_cases hmem : '@' ∈ cs
  · obtain ⟨user, host, rfl, hlast⟩ := exists_last_at hmem
    obtain ⟨huser, hrest⟩ := List.forall_mem_append.mp hcs
    have hhost : Unended cls host := (List.forall_mem_cons.mp hrest).2
    have hlonger : Unended cls (host ++ blanks) := List.forall_mem_append.mpr ⟨hhost, h.unended cls⟩
    have hat : '@' ∉ host ++ blanks := by
      simp [hlast, h.not_mem (d := '@') (by decide)]
    have hnone (cs : List Char) (hcs : Unended cls cs) : cs.head?.any (endsAuthority cls) = false := by
      cases cs with
      | nil => rfl
      | cons c cs => exact hcs c List.mem_cons_self
    have hdrop := dropUser_at huser hhost hlast Follows.nil
    have hdrop' := dropUser_at huser hlonger hat Follows.nil
    simp only [List.append_nil, hnone _ hhost, hnone _ hlonger, Bool.and_false, Bool.false_eq_true,
      if_false] at hdrop hdrop'
    refine ⟨_, host, hhost, hdrop, ?_⟩
    rw [List.append_assoc, List.cons_append]
    exact hdrop'
  · have hat : '@' ∉ cs ++ blanks := by simp [hmem, h.not_mem (d := '@') (by decide)]
    have hdrop := dropUser_no_at hcs hmem Follows.nil
    have hdrop' := dropUser_no_at hblanks hat Follows.nil
    rw [List.append_nil] at hdrop hdrop'
    exact ⟨false, cs, hcs, hdrop, hdrop'⟩

/-- Blanks and controls and a slash behind a text do not matter only if the part has ended before. -/
theorem authority_blanks {host? : Option Host} (hok : authority cls cs = .ok host?)
    (back : List Char) :
    authority cls (cs ++ (blanks ++ '/' :: back)) = .ok host? ↔ Closed cls cs := by
  by_cases hcs : Unended cls cs
  · have hat : cs ++ blanks ≠ ['@'] := by
      intro hat
      obtain ⟨c, hlast, hc⟩ := h.getLast? cs
      rw [hat] at hlast
      exact ne_of_isTrimmed hc (by decide) (Option.some.inj hlast).symm
    obtain ⟨hasUser, rest, hrest, hdrop, hdrop'⟩ := dropUser_blanks h hcs
    rw [authority_eq, hdrop] at hok
    rw [← List.append_assoc, authority_slash (.inr hat), authority_eq, hdrop']
    refine (hostAndPort_blanks h hrest hok).trans ⟨fun hended => .inr ⟨_, _, hdrop, hended⟩, ?_⟩
    rintro (⟨c, hc, hends⟩ | ⟨hasUser', rest', hdrop'', hended⟩)
    · rw [hcs c hc] at hends
      contradiction
    · rw [hdrop] at hdrop''
      cases hdrop''
      exact hended
  · obtain ⟨c, hc, hends⟩ := exists_end hcs
    rw [authority_ended hc hends, hok]
    exact iff_of_true rfl (.inl ⟨c, hc, hends⟩)

end

/-! ## Files -/

theorem fileHost_blanks {blanks : List Char} (h : Blanks blanks) (hcs : Unended .file cs) :
    ∃ fault, fileHost (cs ++ blanks) = .error fault := by
  have hpart : Unended .file (cs ++ blanks) := List.forall_mem_append.mpr ⟨hcs, h.unended .file⟩
  have htake : (cs ++ blanks).takeWhile (fun c => !endsAuthority .file c) = cs ++ blanks := by
    have := takeWhile_unended hpart Follows.nil
    rwa [List.append_nil] at this
  have hempty : (cs ++ blanks).isEmpty = false := by simp [h.ne_nil]
  obtain ⟨fault, hfault⟩ := interpretedHost_blanks h cs
  refine ⟨fault, ?_⟩
  rw [fileHost, fileName, htake, hempty, h.isDrive_eq_false cs, hfault]
  rfl

/-- Behind the path of a file blanks and controls matter only if it ends in the letter of a drive. -/
theorem fileHost_blanks_ended {blanks : List Char} (h : Blanks blanks) {c : Char} (hc : c ∈ cs)
    (hends : endsAuthority .file c = true) {host? : Option Host} (hok : fileHost cs = .ok host?) :
    fileHost (cs ++ blanks) = .ok host? ↔ ¬ EndsInDrive cs := by
  have hname := fileName_ended hc hends blanks
  rcases segmentsBehind_append hc hends with ⟨hbare, hpath⟩ | ⟨hbare, front, last, hpath⟩
  · rw [fileHost, hname, hpath]
    exact iff_of_true hok fun hdrive => hbare hdrive.bare
  · have hsame := hpath [] fun _ hc => absurd hc List.not_mem_nil
    rw [List.append_nil, List.append_nil] at hsame
    have hlonger : entersDrive [] (segmentsBehind (cs ++ blanks)) = entersDrive [] front := by
      rw [hpath blanks (h.unended .file)]
      exact entersDrive_append (List.forall_mem_singleton.mpr (h.isDrive_eq_false last)) [] front
    have hdrive : EndsInDrive cs ↔ (∃ host, fileName cs = .ok (some host)) ∧
        entersDrive [] (segmentsBehind cs) = true ∧ entersDrive [] front = false := by
      have hfront : (segmentsBehind cs).dropLast = front := by rw [hsame, List.dropLast_concat]
      rw [← hfront]
      exact ⟨fun h => ⟨h.host, h.last, h.before⟩, fun h => ⟨h.1, hbare, h.2.1, h.2.2⟩⟩
    have hmore (h : entersDrive [] front = true) : entersDrive [] (segmentsBehind cs) = true :=
      hsame ▸ entersDrive_append_of_front h [last]
    rw [fileHost] at hok
    rw [fileHost, hname, hlonger, ← hok, hdrive]
    cases fileName cs with
    | error fault => simp [Except.map]
    | ok host? =>
      cases host? with
      | none => simp [Except.map]
      | some host =>
        cases hfirst : entersDrive [] front with
        | true => simp [Except.map, hmore hfirst]
        | false => simp [Except.map]

/-! ## Either kind of host -/

/-- Blanks and controls and a slash behind a text do not matter only if the part has ended before and no
path of a file ends in the letter of a drive there. -/
theorem hostBehind_blanks {blanks : List Char} (h : Blanks blanks) {host? : Option Host}
    (hok : hostBehind cls cs = .ok host?) {back : List Char}
    (hback : ∀ segment ∈ segments back, isDrive segment = false) :
    hostBehind cls (cs ++ (blanks ++ '/' :: back)) = .ok host? ↔
      Closed cls cs ∧ ¬ (cls = .file ∧ EndsInDrive cs) := by
  cases cls with
  | web => exact (authority_blanks h hok back).trans (by simp)
  | other => exact (authority_blanks h hok back).trans (by simp)
  | file =>
    have hsame : hostBehind .file (cs ++ (blanks ++ '/' :: back)) = fileHost (cs ++ blanks) := by
      rw [← List.append_assoc]
      exact fileHost_slash hback _
    rw [hsame]
    by_cases hcs : Unended .file cs
    · obtain ⟨fault, hfault⟩ := fileHost_blanks h hcs
      rw [hfault]
      refine iff_of_false nofun ?_
      rintro ⟨⟨c, hc, hends⟩ | ⟨hasUser, rest, hdrop, c, hc, hends⟩, -⟩
      · rw [hcs c hc] at hends
        contradiction
      · have hmem : c ∈ cs := mem_of_dropUser hdrop (List.mem_of_mem_drop hc)
        exact absurd (hcs c hmem) (by rw [show endsAuthority .file c = true from hends]; decide)
    · obtain ⟨c, hc, hends⟩ := exists_end hcs
      rw [fileHost_blanks_ended h hc hends hok]
      exact ⟨fun hdrive => ⟨.inl ⟨c, hc, hends⟩, fun h => hdrive h.2⟩, fun h hdrive => h.2 ⟨rfl, hdrive⟩⟩

end BackingServices.Url
