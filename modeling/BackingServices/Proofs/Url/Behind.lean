import BackingServices.Proofs.Text
import BackingServices.Url
import Mathlib.Data.List.TakeWhile

/-!
# What stands behind a host

The part of a URL with user, host and port ends at the first character that ends it.  What follows does
not matter, be there such a character already (`authority_ended`) or only behind the text
(`authority_append`).  There is one exception: `@` alone has neither a user nor a host, and may only be
all there is.
-/

namespace BackingServices.Url

variable {cls : SchemeClass} {cs back : List Char}

/-! ## Characters that end the part -/

/-- A text may follow a host or a port: it is empty or begins with what ends them. -/
def Follows (cls : SchemeClass) (back : List Char) : Prop :=
  ∀ c ∈ back.head?, endsAuthority cls c = true

/-- Nothing in a text ends a host or a port. -/
def Unended (cls : SchemeClass) (cs : List Char) : Prop := ∀ c ∈ cs, endsAuthority cls c = false

theorem Follows.nil : Follows cls [] := nofun

/-- What ends the part of a class ends a port. -/
theorem endsAuthority_web {c : Char} (h : endsAuthority cls c = true) :
    endsAuthority .web c = true := by
  cases cls with
  | web => exact h
  | file => exact h
  | other =>
    simp only [endsAuthority, isSlash, Bool.or_eq_true, beq_iff_eq] at h ⊢
    grind

theorem colon_unended : endsAuthority cls ':' = false := by cases cls <;> decide

theorem at_unended : endsAuthority cls '@' = false := by cases cls <;> decide

theorem not_endsAuthority_of_isDigit {c : Char} (h : c.isDigit = true) :
    endsAuthority cls c = false := by
  have hne (d : Char) (hd : d.isDigit = false) : (c == d) = false := by
    rw [beq_eq_false_iff_ne]
    rintro rfl
    rw [h] at hd
    contradiction
  rw [endsAuthority, isSlash, hne '/' rfl, hne '\\' rfl, hne '?' rfl, hne '#' rfl]
  rfl

/-- A text that is cut where something ends the part. -/
theorem takeWhile_unended (hcs : Unended cls cs) (hback : Follows cls back) :
    (cs ++ back).takeWhile (fun c => !endsAuthority cls c) = cs := by
  rw [List.takeWhile_append_of_pos fun c hc => by rw [hcs c hc]; rfl]
  cases back with
  | nil => exact List.append_nil cs
  | cons c back => simp [hback c rfl]

theorem exists_end (h : ¬ Unended cls cs) : ∃ c ∈ cs, endsAuthority cls c = true := by
  simpa [Unended] using h

/-- Where a text has characters that end the part, one of them is the first. -/
theorem exists_first_end {c : Char} (hc : c ∈ cs) (hends : endsAuthority cls c = true) :
    ∃ front d behind, cs = front ++ d :: behind ∧ Unended cls front ∧
      endsAuthority cls d = true := by
  obtain ⟨d, hd⟩ := Option.isSome_iff_exists.mp (List.find?_isSome.mpr ⟨c, hc, hends⟩)
  obtain ⟨hends, front, behind, hsplit, hfront⟩ := List.find?_eq_some_iff_append.mp hd
  exact ⟨front, d, behind, hsplit, fun a ha => by simpa using hfront a ha, hends⟩

theorem Follows.cons {c : Char} (hc : endsAuthority cls c = true) (back : List Char) :
    Follows cls (c :: back) := by
  intro d hd
  obtain rfl : c = d := Option.some.inj hd
  exact hc

/-! ## Hosts -/

theorem hostLength_le (inside : Bool) : hostLength cls inside cs ≤ cs.length := by
  induction cs generalizing inside with
  | nil => exact Nat.le_refl 0
  | cons c cs ih =>
    rw [hostLength]
    split
    · exact Nat.zero_le _
    · split
      · exact Nat.zero_le _
      · exact Nat.succ_le_succ (ih _)

theorem hostLength_append (hback : Follows cls back) (inside : Bool) :
    hostLength cls inside (cs ++ back) = hostLength cls inside cs := by
  induction cs generalizing inside with
  | nil =>
    cases back with
    | nil => rfl
    | cons c back =>
      have hc : endsAuthority cls c = true := hback c rfl
      simp [hostLength, hc]
  | cons c cs ih =>
    rw [List.cons_append, hostLength, hostLength, ih]

/-- If a host ends within a text, what follows the text does not matter. -/
theorem hostLength_of_lt {inside : Bool} {r : List Char} (h : hostLength cls inside r < r.length)
    (back : List Char) : hostLength cls inside (r ++ back) = hostLength cls inside r := by
  induction r generalizing inside with
  | nil => contradiction
  | cons c r ih =>
    rw [List.cons_append, hostLength, hostLength]
    rw [hostLength] at h
    split
    · rfl
    · split
      · rfl
      · rename_i hcolon hends
        rw [if_neg hcolon, if_neg hends, List.length_cons] at h
        rw [ih (by omega)]

/-- If nothing ends the part, a colon ends the host, or the host is all there is. -/
theorem head_drop_hostLength (hcs : Unended cls cs) (inside : Bool) :
    ∀ c ∈ (cs.drop (hostLength cls inside cs)).head?, c = ':' := by
  induction cs generalizing inside with
  | nil => simp
  | cons c cs ih =>
    rw [hostLength]
    split
    · rename_i hcolon
      simp [hcolon.1]
    · rw [if_neg (by rw [hcs c List.mem_cons_self]; decide), List.drop_succ_cons]
      exact ih (fun d hd => hcs d (List.mem_cons_of_mem c hd)) _

/-! ## Ports -/

theorem checkPort_append (hback : Follows .web back) : checkPort (cs ++ back) = checkPort cs := by
  have htake : back.takeWhile Char.isDigit = [] ∧ back.dropWhile Char.isDigit = back := by
    cases back with
    | nil => exact ⟨rfl, rfl⟩
    | cons c back =>
      have hc : ¬ c.isDigit = true := fun hdigit => by
        have hends : endsAuthority .web c = true := hback c rfl
        rw [not_endsAuthority_of_isDigit hdigit] at hends
        contradiction
      exact ⟨List.takeWhile_cons_of_neg hc, List.dropWhile_cons_of_neg hc⟩
  rw [checkPort, checkPort, Text.takeWhile_append_of_stop htake.1, List.dropWhile_append, htake.2]
  split
  · rfl
  · cases hrest : cs.dropWhile Char.isDigit with
    | nil =>
      cases back with
      | nil => rfl
      | cons c back =>
        have hc : endsAuthority .web c = true := hback c rfl
        simp [hc]
    | cons c rest => rfl

/-- If a port ends within a text, what follows the text does not matter. -/
theorem checkPort_of_dropWhile {c : Char} {behind : List Char}
    (h : cs.dropWhile Char.isDigit = c :: behind) (back : List Char) :
    checkPort (cs ++ back) = checkPort cs := by
  have htake : (cs ++ back).takeWhile Char.isDigit = cs.takeWhile Char.isDigit := by
    have hlength := congrArg List.length (List.takeWhile_append_dropWhile (p := Char.isDigit) (l := cs))
    rw [h, List.length_append, List.length_cons] at hlength
    rw [List.takeWhile_append, if_neg (by omega)]
  have hdrop : (cs ++ back).dropWhile Char.isDigit = c :: (behind ++ back) := by
    rw [List.dropWhile_append, h]
    rfl
  rw [checkPort, checkPort, htake, hdrop, h]

/-! ## Users -/

/-- The last `@` of a text that ends a user and is not the end of the part. -/
theorem dropUser_at {user host : List Char} (huser : Unended cls user) (hhost : Unended cls host)
    (hat : '@' ∉ host) (hback : Follows cls back) :
    dropUser cls (user ++ '@' :: host ++ back) =
      if user.isEmpty && (host ++ back).head?.any (endsAuthority cls) then .error .emptyHost
      else .ok (!user.isEmpty && user != [':'], host ++ back) := by
  have hpart : Unended cls (user ++ '@' :: host) :=
    List.forall_mem_append.mpr ⟨huser, List.forall_mem_cons.mpr ⟨at_unended, hhost⟩⟩
  have hlast : ((user ++ '@' :: host).reverse.takeWhile (· != '@')).reverse = host := by
    have hrest : ∀ c ∈ host.reverse, (c != '@') = true := by
      intro c hc
      rw [bne_iff_ne]
      rintro rfl
      exact hat (List.mem_reverse.mp hc)
    rw [List.reverse_append, List.reverse_cons, List.append_assoc, List.takeWhile_append_of_pos hrest]
    simp
  have hlength : (user ++ '@' :: host).length - host.length - 1 = user.length := by
    simp only [List.length_append, List.length_cons]
    omega
  have htake : (user ++ '@' :: host).take user.length = user := List.take_left
  have hdrop : (user ++ '@' :: host ++ back).drop (user.length + 1) = host ++ back := by
    rw [List.append_assoc, List.drop_length_add_append]
    rfl
  rw [dropUser, takeWhile_unended hpart hback]
  simp only [hlast, hlength, htake, hdrop]
  rw [if_pos (by simp)]

theorem dropUser_no_at (hcs : Unended cls cs) (hat : '@' ∉ cs) (hback : Follows cls back) :
    dropUser cls (cs ++ back) = .ok (false, cs ++ back) := by
  rw [dropUser, takeWhile_unended hcs hback, if_neg (by simpa using hat)]

theorem mem_of_dropUser {hasUser : Bool} {rest : List Char} (h : dropUser cls cs = .ok (hasUser, rest))
    {c : Char} (hc : c ∈ rest) : c ∈ cs := by
  rw [dropUser] at h
  simp only at h
  split at h
  · split at h
    · contradiction
    · cases h
      exact List.mem_of_mem_drop hc
  · cases h
    exact hc

/-! ## Users, hosts and ports -/

/-- Reads the name of a host. -/
def nameHost (cls : SchemeClass) (name : List Char) : Except Fault Host :=
  if cls = .web ∧ name.isEmpty then .error .emptyHost
  else if cls = .web then interpretedHost name else opaqueHost name

/-- Reads the host and the port behind the user. -/
def hostAndPort (cls : SchemeClass) (hasUser : Bool) (cs : List Char) : Except Fault (Option Host) :=
  (nameHost cls (cs.take (hostLength cls false cs))).bind fun host =>
    let rest := cs.drop (hostLength cls false cs)
    let host? := if host = .name "" then none else some host
    if host = .name "" ∧ (rest.head? = some ':' ∨ hasUser) then .error .emptyHost
    else if rest.head? = some ':' then (checkPort (rest.drop 1)).map fun () => host?
    else .ok host?

theorem authority_eq (cls : SchemeClass) (cs : List Char) :
    authority cls cs = (dropUser cls cs).bind fun (hasUser, rest) => hostAndPort cls hasUser rest := by
  rw [authority]
  cases dropUser cls cs with
  | error fault => rfl
  | ok behind =>
    obtain ⟨hasUser, rest⟩ := behind
    simp only [bind, Except.bind, hostAndPort, nameHost]
    split
    · rfl
    · generalize (if cls = .web then interpretedHost (rest.take (hostLength cls false rest))
        else opaqueHost (rest.take (hostLength cls false rest))) = host
      cases host with
      | error fault => rfl
      | ok host =>
        generalize rest.drop (hostLength cls false rest) = behind
        cases checkPort (behind.drop 1) <;> rfl

/-- If the host is all there is, it may be empty unless there is a user. -/
theorem hostAndPort_full_iff {hasUser : Bool} {host? : Option Host}
    (hfull : hostLength cls false cs = cs.length) :
    hostAndPort cls hasUser cs = .ok host? ↔ ∃ host, nameHost cls cs = .ok host ∧
      ¬ (host = .name "" ∧ hasUser = true) ∧
        host? = if host = .name "" then none else some host := by
  rw [hostAndPort, hfull, List.take_length, List.drop_length]
  cases nameHost cls cs with
  | error fault => simp [Except.bind]
  | ok host =>
    simp only [Except.bind, List.head?_nil, reduceCtorEq, false_or, if_false, Except.ok.injEq,
      exists_eq_left']
    by_cases huser : host = .name "" ∧ hasUser = true
    · simp [huser]
    · simp [huser, eq_comm]

/-- In front of a port the host is not empty. -/
theorem hostAndPort_port_iff {hasUser : Bool} {host? : Option Host} {port : List Char}
    (hport : cs.drop (hostLength cls false cs) = ':' :: port) :
    hostAndPort cls hasUser cs = .ok host? ↔
      ∃ host, nameHost cls (cs.take (hostLength cls false cs)) = .ok host ∧ host ≠ .name "" ∧
        checkPort port = .ok () ∧ host? = some host := by
  rw [hostAndPort, hport]
  cases nameHost cls (cs.take (hostLength cls false cs)) with
  | error fault => simp [Except.bind]
  | ok host =>
    simp only [Except.bind, List.head?_cons, true_or, and_true, if_true, List.drop_succ_cons,
      List.drop_zero, Except.ok.injEq, exists_eq_left']
    by_cases hname : host = .name ""
    · simp [hname]
    · cases checkPort port with
      | error fault => simp [hname, Except.map]
      | ok _ => simp [hname, Except.map, eq_comm]

theorem hostAndPort_append (hback : Follows cls back) (hasUser : Bool) :
    hostAndPort cls hasUser (cs ++ back) = hostAndPort cls hasUser cs := by
  have hle : hostLength cls false cs ≤ cs.length := hostLength_le false
  have hport : Follows .web back := fun c hc => endsAuthority_web (hback c hc)
  rw [hostAndPort, hostAndPort, hostLength_append hback]
  simp only [List.take_append_of_le_length hle, List.drop_append_of_le_length hle]
  cases cs.drop (hostLength cls false cs) with
  | nil =>
    have hcolon : back.head? ≠ some ':' := fun h => by
      have hends := hback ':' h
      rw [colon_unended] at hends
      contradiction
    simp [hcolon]
  | cons c port =>
    simp only [List.cons_append, List.head?_cons, List.drop_succ_cons, List.drop_zero,
      checkPort_append hport]

/-- A text with an `@` has a last one. -/
theorem exists_last_at (h : '@' ∈ cs) : ∃ user host, cs = user ++ '@' :: host ∧ '@' ∉ host := by
  obtain ⟨front, behind, hsplit, hat⟩ := List.eq_append_cons_of_mem (List.mem_reverse.mpr h)
  refine ⟨behind.reverse, front.reverse, ?_, fun hmem => hat (List.mem_reverse.mp hmem)⟩
  have hback := congrArg List.reverse hsplit
  rw [List.reverse_reverse, List.reverse_append, List.reverse_cons] at hback
  rw [hback, List.append_assoc, List.singleton_append]

/-- What follows the part with user, host and port does not matter, except behind `@` alone. -/
theorem authority_append (hcs : Unended cls cs) (hback : Follows cls back)
    (hat : cs = ['@'] → back = []) : authority cls (cs ++ back) = authority cls cs := by
  rw [authority_eq, authority_eq]
  by_cases hmem : '@' ∈ cs
  · obtain ⟨user, host, rfl, hlast⟩ := exists_last_at hmem
    obtain ⟨huser, hrest⟩ := List.forall_mem_append.mp hcs
    have hhost : Unended cls host := (List.forall_mem_cons.mp hrest).2
    have hnone : dropUser cls (user ++ '@' :: host ++ []) = _ :=
      dropUser_at huser hhost hlast Follows.nil
    rw [List.append_nil, List.append_nil] at hnone
    rw [dropUser_at huser hhost hlast hback, hnone]
    -- the two differ in what is behind the user only if nothing is in front of it
    have hsame : (user.isEmpty && (host ++ back).head?.any (endsAuthority cls)) =
        (user.isEmpty && host.head?.any (endsAuthority cls)) := by
      cases user with
      | cons c user => rfl
      | nil =>
        cases host with
        | cons c host => rfl
        | nil => rw [hat rfl]; rfl
    rw [hsame]
    split
    · rfl
    · exact hostAndPort_append hback _
  · have hnone : dropUser cls (cs ++ []) = _ := dropUser_no_at hcs hmem Follows.nil
    rw [List.append_nil] at hnone
    rw [dropUser_no_at hcs hmem hback, hnone]
    exact hostAndPort_append hback _

/-- Behind `@` alone there may be nothing. -/
theorem authority_at {c : Char} (hback : Follows cls (c :: back)) :
    authority cls ('@' :: c :: back) = .error .emptyHost := by
  have hdrop : dropUser cls ([] ++ '@' :: [] ++ c :: back) = _ :=
    dropUser_at nofun nofun List.not_mem_nil hback
  have hc : endsAuthority cls c = true := hback c rfl
  simp only [List.nil_append, List.cons_append, List.head?_cons, Option.any_some, hc] at hdrop
  rw [authority_eq, hdrop]
  rfl

/-- Where something ends the part, what follows the text does not matter. -/
theorem authority_ended {c : Char} (hc : c ∈ cs) (hends : endsAuthority cls c = true)
    (back : List Char) : authority cls (cs ++ back) = authority cls cs := by
  obtain ⟨front, d, behind, rfl, hfront, hd⟩ := exists_first_end hc hends
  rw [List.append_assoc, List.cons_append]
  by_cases hat : front = ['@']
  · subst hat
    exact (authority_at (.cons hd _)).trans (authority_at (.cons hd _)).symm
  · rw [authority_append hfront (.cons hd _) fun h => absurd h hat,
      authority_append hfront (.cons hd _) fun h => absurd h hat]

/-- A slash and what is behind it do not matter, except behind `@` alone. -/
theorem authority_slash (hat : cls = .web ∨ cs ≠ ['@']) (back : List Char) :
    authority cls (cs ++ '/' :: back) = authority cls cs := by
  have hslash : Follows cls ('/' :: back) := .cons rfl _
  by_cases hcs : Unended cls cs
  · by_cases hsingle : cs = ['@']
    · obtain rfl := hat.resolve_right fun h => h hsingle
      subst hsingle
      exact authority_at hslash
    · exact authority_append hcs hslash fun h => absurd h hsingle
  · obtain ⟨c, hc, hends⟩ := exists_end hcs
    exact authority_ended hc hends _

end BackingServices.Url
