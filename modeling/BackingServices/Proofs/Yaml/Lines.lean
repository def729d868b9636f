import BackingServices.Proofs.Yaml.Layout

/-!
# Lines of documents

A text is cut into lines behind every character that ends one (`lines`).  A written text *hangs* if
every line but the first begins with a space or is empty.  All that is written of a value below a
column hangs, whatever texts are in it: a literal block and a text between single quotes indent each
line that has something in it, and other texts have one line (`hanging_follow`).

So the lines of a mapping at the margin that do not begin with a key begin with a space or are empty
(`lines_entries`).
-/

namespace BackingServices.Yaml

/-! ## Lines -/

/-- The lines of a text, each with the character that ends it, which the last one may lack. -/
def lines : List Char → List (List Char)
  | [] => []
  | c :: cs =>
    if isBreak c then [c] :: lines cs
    else
      match lines cs with
      | [] => [[c]]
      | line :: rest => (c :: line) :: rest

/-- A text that ends with a line end. -/
def EndsLine (s : List Char) : Prop := ∃ front c, s = front ++ [c] ∧ isBreak c = true

theorem EndsLine.append {t : List Char} (h : EndsLine t) (s : List Char) : EndsLine (s ++ t) := by
  obtain ⟨front, c, rfl, hc⟩ := h
  exact ⟨s ++ front, c, (List.append_assoc s front [c]).symm, hc⟩

theorem EndsLine.cons {t : List Char} (h : EndsLine t) (c : Char) : EndsLine (c :: t) := h.append [c]

theorem endsLine_lineFeed (s : List Char) : EndsLine (s ++ ['\n']) := ⟨s, '\n', rfl, isBreak_lineFeed⟩

theorem lines_break {c : Char} (hc : isBreak c = true) (cs : List Char) :
    lines (c :: cs) = [c] :: lines cs := by
  rw [lines, if_pos hc]

theorem lines_inside {c : Char} (hc : isBreak c = false) {cs line : List Char}
    {rest : List (List Char)} (h : lines cs = line :: rest) : lines (c :: cs) = (c :: line) :: rest := by
  rw [lines, hc, h]
  rfl

/-- The first line of a text begins as the text does. -/
theorem exists_lines (c : Char) (cs : List Char) : ∃ line rest, lines (c :: cs) = (c :: line) :: rest := by
  cases hc : isBreak c with
  | true => exact ⟨[], lines cs, lines_break hc cs⟩
  | false =>
    cases hcs : lines cs with
    | nil => exact ⟨[], [], by rw [lines, hc, hcs]; rfl⟩
    | cons line rest => exact ⟨line, rest, lines_inside hc hcs⟩

/-- Nothing is lost. -/
theorem flatten_lines (s : List Char) : (lines s).flatten = s := by
  induction s with
  | nil => rfl
  | cons c cs ih =>
    cases hc : isBreak c with
    | true => rw [lines_break hc, List.flatten_cons, ih, List.singleton_append]
    | false =>
      cases cs with
      | nil =>
        rw [lines, hc]
        rfl
      | cons d ds =>
        obtain ⟨line, rest, h⟩ := exists_lines d ds
        rw [lines_inside hc h, ← ih, h]
        rfl

/-- Behind a line end new lines begin. -/
theorem lines_append {s : List Char} (h : EndsLine s) (t : List Char) :
    lines (s ++ t) = lines s ++ lines t := by
  obtain ⟨front, c, rfl, hc⟩ := h
  induction front with
  | nil => rw [List.nil_append, List.singleton_append, lines_break hc, lines_break hc]; rfl
  | cons d ds ih =>
    rw [List.cons_append, List.cons_append]
    cases hd : isBreak d with
    | true => rw [lines_break hd, lines_break hd, ih, List.cons_append]
    | false =>
      obtain ⟨line, rest, h⟩ : ∃ line rest, lines (ds ++ [c]) = line :: rest := by
        cases ds with
        | nil => exact ⟨[c], [], lines_break hc []⟩
        | cons e es =>
          obtain ⟨line, rest, h⟩ := exists_lines e (es ++ [c])
          exact ⟨e :: line, rest, h⟩
      have hall : lines (ds ++ [c] ++ t) = line :: (rest ++ lines t) := by rw [ih, h]; rfl
      rw [lines_inside hd h, lines_inside hd hall, List.cons_append]

/-! ## Hanging texts -/

/-- Whether a text begins with a space or a line end, or has nothing. -/
def startsInside (t : List Char) : Bool := t.head?.all fun c => isSpace c || isBreak c

/-- Behind every line end is a space, another line end or nothing. -/
def Hangs : List Char → Prop
  | [] => True
  | c :: cs => (isBreak c = true → startsInside cs = true) ∧ Hangs cs

theorem startsInside_append {s t : List Char} (hs : startsInside s = true)
    (ht : startsInside t = true) : startsInside (s ++ t) = true := by
  cases s with
  | nil => exact ht
  | cons c cs => exact hs

theorem startsInside_spaces {n : Nat} (hn : 0 < n) (t : List Char) :
    startsInside (spaces n ++ t) = true := by
  obtain ⟨k, rfl⟩ := Nat.exists_eq_succ_of_ne_zero (Nat.ne_of_gt hn)
  rfl

theorem Hangs.append {s t : List Char} (hs : Hangs s) (ht : Hangs t) (hstart : startsInside t = true) :
    Hangs (s ++ t) := by
  induction s with
  | nil => exact ht
  | cons c cs ih => exact ⟨fun hc => startsInside_append (hs.1 hc) hstart, ih hs.2⟩

theorem Hangs.inline_append {s t : List Char} (hs : ∀ c ∈ s, isBreak c = false) (ht : Hangs t) :
    Hangs (s ++ t) := by
  induction s with
  | nil => exact ht
  | cons c cs ih =>
    refine ⟨fun hc => ?_, ih fun d hd => hs d (.tail _ hd)⟩
    rw [hs c List.mem_cons_self] at hc
    contradiction

theorem Hangs.inline_cons {c : Char} {t : List Char} (hc : isBreak c = false) (ht : Hangs t) :
    Hangs (c :: t) :=
  .inline_append (s := [c]) (fun _ hd => List.mem_singleton.mp hd ▸ hc) ht

theorem hangs_lineFeed : Hangs ['\n'] := ⟨fun _ => rfl, trivial⟩

/-- The lines of a text that hangs, the first one apart from the others. -/
theorem Hangs.lines {c : Char} {cs : List Char} (h : Hangs (c :: cs)) :
    ∃ line rest, lines (c :: cs) = (c :: line) :: rest ∧ ∀ l ∈ rest, startsInside l = true := by
  induction cs generalizing c with
  | nil =>
    cases hc : isBreak c with
    | true => exact ⟨[], [], lines_break hc [], fun _ hl => nomatch hl⟩
    | false => exact ⟨[], [], by rw [Yaml.lines, hc]; rfl, fun _ hl => nomatch hl⟩
  | cons d ds ih =>
    obtain ⟨line, rest, hlines, hrest⟩ := ih h.2
    cases hc : isBreak c with
    | true =>
      refine ⟨[], (d :: line) :: rest, by rw [lines_break hc, hlines], fun l hl => ?_⟩
      rcases List.mem_cons.mp hl with rfl | hl
      · exact h.1 hc
      · exact hrest l hl
    | false => exact ⟨d :: line, rest, lines_inside hc hlines, hrest⟩

/-- A text that hangs and ends with a line end. -/
structure Hanging (t : List Char) : Prop where
  hangs : Hangs t
  ends : EndsLine t

theorem Hanging.inline_append {s t : List Char} (hs : ∀ c ∈ s, isBreak c = false) (ht : Hanging t) :
    Hanging (s ++ t) := ⟨.inline_append hs ht.hangs, ht.ends.append s⟩

theorem Hanging.inline_cons {c : Char} {t : List Char} (hc : isBreak c = false) (ht : Hanging t) :
    Hanging (c :: t) := ⟨.inline_cons hc ht.hangs, ht.ends.cons c⟩

theorem Hanging.append {s t : List Char} (hs : Hangs s) (ht : Hanging t)
    (hstart : startsInside t = true) : Hanging (s ++ t) := ⟨hs.append ht.hangs hstart, ht.ends.append s⟩

theorem Hanging.line {t : List Char} (ht : Hanging t) (hstart : startsInside t = true) :
    Hanging ('\n' :: t) := .append hangs_lineFeed ht hstart

theorem hanging_lineFeed {s : List Char} (hs : ∀ c ∈ s, isBreak c = false) : Hanging (s ++ ['\n']) :=
  .inline_append hs ⟨hangs_lineFeed, endsLine_lineFeed []⟩

/-! ## Texts -/

section Texts

variable {column : Nat}

theorem not_isBreak_of_mem_doubleQuoted (s : List Char) : ∀ c ∈ doubleQuoted s, isBreak c = false := by
  intro c hc
  simp only [doubleQuoted, List.mem_append, List.mem_cons, List.mem_flatMap, List.not_mem_nil,
    or_false] at hc
  rcases hc with (rfl | ⟨d, -, hd⟩) | rfl
  · rfl
  · cases hraw : !isPrintable d || isBreak d || d == '"' || d == '\\' with
    | true =>
      rw [doubleChar_escaped hraw] at hd
      rcases List.mem_cons.mp hd with rfl | hd
      · rfl
      · have hvisible := visible_of_mem_escape hd
        rw [Bool.eq_false_iff]
        intro hbreak
        simp only [isBreak, Bool.or_eq_true, beq_iff_eq] at hbreak
        rcases hbreak with (((rfl | rfl) | rfl) | rfl) | rfl <;> simp at hvisible
    | false =>
      rw [doubleChar_raw hraw, List.mem_singleton] at hd
      subst hd
      simp only [Bool.or_eq_false_iff] at hraw
      exact hraw.1.1.2
  · rfl

theorem startsInside_singleBody (hcolumn : 0 < column) (s t : List Char) :
    startsInside (singleBody column true s ++ t) = true := by
  cases s with
  | nil => exact startsInside_spaces hcolumn t
  | cons c cs =>
    rw [singleBody]
    cases hc : isBreak c with
    | true => simp [startsInside, hc]
    | false =>
      simp only [Bool.false_eq_true, if_false, if_true, List.append_assoc]
      exact startsInside_spaces hcolumn _

theorem hangs_singleBody (hcolumn : 0 < column) (s : List Char) (broken : Bool) {t : List Char}
    (ht : Hangs t) : Hangs (singleBody column broken s ++ t) := by
  induction s generalizing broken with
  | nil =>
    cases broken with
    | true => exact .inline_append not_isBreak_of_mem_spaces ht
    | false => exact ht
  | cons c cs ih =>
    rw [singleBody]
    cases hc : isBreak c with
    | true => exact ⟨fun _ => startsInside_singleBody hcolumn cs t, ih true⟩
    | false =>
      have hindent : ∀ d ∈ (if broken then spaces column else []), isBreak d = false := by
        cases broken with
        | true => exact not_isBreak_of_mem_spaces
        | false => exact List.forall_mem_nil _
      have hquote : ∀ d ∈ (if c = '\'' then ['\'', '\''] else [c]), isBreak d = false := by
        intro d hd
        split at hd
        · rw [List.eq_of_mem_replicate (n := 2) hd]
          rfl
        · exact List.mem_singleton.mp hd ▸ hc
      simp only [Bool.false_eq_true, if_false, List.append_assoc]
      exact .inline_append hindent (.inline_append hquote (ih false))

theorem startsInside_literalBody (hcolumn : 0 < column) (s : List Char) :
    startsInside (literalBody column true s) = true := by
  cases s with
  | nil => rfl
  | cons c cs =>
    rw [literalBody]
    cases hc : isBreak c with
    | true => simp [startsInside, hc]
    | false => exact startsInside_spaces hcolumn _

theorem hangs_literalBody (hcolumn : 0 < column) (s : List Char) (fresh : Bool) :
    Hangs (literalBody column fresh s) := by
  induction s generalizing fresh with
  | nil => trivial
  | cons c cs ih =>
    rw [literalBody]
    cases hc : isBreak c with
    | true => exact ⟨fun _ => startsInside_literalBody hcolumn cs, ih true⟩
    | false =>
      have hindent : ∀ d ∈ (if fresh then spaces column else []), isBreak d = false := by
        cases fresh with
        | true => exact not_isBreak_of_mem_spaces
        | false => exact List.forall_mem_nil _
      exact .inline_append hindent (.inline_cons hc (ih false))

theorem literalBody_concat (column : Nat) {c : Char} (hc : isBreak c = true) (s : List Char)
    (fresh : Bool) : literalBody column fresh (s ++ [c]) = literalBody column fresh s ++ [c] := by
  induction s generalizing fresh with
  | nil => simp [literalBody, hc]
  | cons d ds ih =>
    rw [List.cons_append, literalBody, literalBody, ih true, ih false]
    split
    · rfl
    · rw [List.append_assoc, List.cons_append]

theorem not_isBreak_of_all {s : List Char} (h : s.all (fun c => !isBreak c) = true) :
    ∀ c ∈ s, isBreak c = false := by
  intro c hc
  exact (Bool.not_eq_true' _).mp (List.all_eq_true.mp h c hc)

theorem not_isBreak_of_mem_header (s : List Char) :
    ∀ c ∈ '|' :: (if needsIndentation s then Nat.toDigits 10 indentStep else []) ++ chomping s,
      isBreak c = false := by
  have hhint : ∀ c ∈ Nat.toDigits 10 indentStep, isBreak c = false := not_isBreak_of_all (by decide)
  have hsign : ∀ c ∈ chomping s, isBreak c = false := by
    rw [chomping_eq]
    cases Chomp.ofText s <;> exact not_isBreak_of_all (by decide)
  intro c hc
  rcases List.mem_append.mp hc with hc | hc
  · rcases List.mem_cons.mp hc with rfl | hc
    · rfl
    · split at hc
      · exact hhint c hc
      · exact absurd hc List.not_mem_nil
  · exact hsign c hc

theorem hanging_literal (hcolumn : 0 < column) (s : List Char) : Hanging (literal column s) := by
  rw [literal, List.append_assoc _ ('\n' :: _)]
  refine .inline_append (not_isBreak_of_mem_header s) ?_
  rcases List.eq_nil_or_concat s with rfl | ⟨front, last, rfl⟩
  · exact ⟨hangs_lineFeed, endsLine_lineFeed []⟩
  · rw [List.concat_eq_append, List.getLast?_concat, Option.all_some]
    have hstart := startsInside_literalBody hcolumn (front ++ [last])
    have hbody := hangs_literalBody hcolumn (front ++ [last]) true
    cases hlast : isBreak last with
    | true =>
      rw [if_pos rfl, List.append_nil]
      refine ⟨⟨fun _ => hstart, hbody⟩, ?_⟩
      rw [literalBody_concat column hlast]
      exact EndsLine.append ⟨[], last, rfl, hlast⟩ ('\n' :: literalBody column true front)
    | false =>
      rw [if_neg Bool.false_ne_true]
      refine ⟨⟨fun _ => ?_, ?_⟩, endsLine_lineFeed _⟩
      · exact startsInside_append hstart rfl
      · exact hbody.append hangs_lineFeed rfl

theorem hanging_textLine (hcolumn : 0 < column) (s : String) : Hanging (textLine column s) := by
  rw [textLine]
  cases hstyle : Style.ofText s with
  | plain => exact hanging_lineFeed (plainText_of_style hstyle).inline
  | single =>
    refine ⟨?_, endsLine_lineFeed _⟩
    rw [singleQuoted, List.append_assoc]
    exact .inline_cons rfl (hangs_singleBody hcolumn s.toList false (.inline_cons rfl hangs_lineFeed))
  | double => exact hanging_lineFeed (not_isBreak_of_mem_doubleQuoted s.toList)
  | literal => exact hanging_literal hcolumn s.toList

end Texts

/-! ## Values -/

theorem Leaf.hanging {column : Nat} {v : Json} {text : List Char} (h : Leaf column v text) :
    Hanging text := by
  cases h with
  | null => exact hanging_lineFeed (plainText_word (w := "null".toList) (by simp)).inline
  | bool b =>
    cases b with
    | false => exact hanging_lineFeed (plainText_word (w := "false".toList) (by simp)).inline
    | true => exact hanging_lineFeed (plainText_word (w := "true".toList) (by simp)).inline
  | number n => exact hanging_lineFeed (plainText_numberChars n).inline
  | string s => exact hanging_textLine (Nat.lt_add_left column (by decide)) s
  | array => exact hanging_lineFeed (s := ['[', ']']) (not_isBreak_of_all (by decide))
  | object => exact hanging_lineFeed (s := ['\x7b', '\x7d']) (not_isBreak_of_all (by decide))

theorem not_isBreak_of_mem_simpleKey {key : String} (h : isSimpleKey key = true) :
    ∀ c ∈ simpleKey key, isBreak c = false := by
  rw [simpleKey]
  cases hstyle : Style.ofText key with
  | plain => exact (plainText_of_style hstyle).inline
  | single => exact not_isBreak_of_mem_singleQuoted (simpleKey_inline h).1
  | double | literal => exact not_isBreak_of_mem_doubleQuoted key.toList

theorem hanging_keyed {column : Nat} {key : String} (h : 0 < column ∨ isSimpleKey key = true)
    {t : List Char} (ht : Hanging t) :
    Hanging (keyed column key (isSimpleKey key) ++ t) := by
  cases hsimple : isSimpleKey key with
  | true =>
    rw [keyed, List.append_assoc]
    exact .inline_append (not_isBreak_of_mem_simpleKey hsimple) (ht.inline_cons rfl)
  | false =>
    have hcolumn : 0 < column := h.resolve_right (by rw [hsimple]; decide)
    have htext := hanging_textLine (Nat.lt_add_right indentStep hcolumn) key
    rw [keyed, List.append_assoc, List.append_assoc]
    refine .inline_cons rfl (.inline_cons rfl ?_)
    refine .append htext.hangs (.inline_append not_isBreak_of_mem_spaces (ht.inline_cons rfl)) ?_
    exact startsInside_spaces hcolumn _

mutual

/-- What is written of a value hangs, unless it is a sequence at the margin. -/
theorem hanging_follow {column : Nat} (simple : Bool) (v : Json)
    (h : 0 < column ∨ ∀ vs, v ≠ .array vs) : Hanging (follow column simple v) := by
  rcases leaf_or_nested column v with ⟨text, hv⟩ | ⟨w, ws, rfl⟩ | ⟨key, w, ms, rfl⟩
  · rw [hv.follow_eq simple]
    exact hv.hanging.inline_cons rfl
  · cases simple with
    | true =>
      have hcolumn : 0 < column := h.resolve_right fun harray => harray _ rfl
      have helements := hanging_elements hcolumn (w :: ws) (List.cons_ne_nil w ws)
      exact (helements.inline_append not_isBreak_of_mem_spaces).line (startsInside_spaces hcolumn _)
    | false =>
      have hcolumn : 0 < column + indentStep := Nat.lt_add_left column (by decide)
      exact (hanging_elements hcolumn (w :: ws) (List.cons_ne_nil w ws)).inline_cons rfl
  · have hcolumn : 0 < column + indentStep := Nat.lt_add_left column (by decide)
    have hentries := hanging_entries hcolumn ((key, w) :: ms) (List.cons_ne_nil (key, w) ms)
    cases simple with
    | true =>
      exact (hentries.inline_append not_isBreak_of_mem_spaces).line (startsInside_spaces hcolumn _)
    | false => exact hentries.inline_cons rfl

theorem hanging_elements {column : Nat} (h : 0 < column) (vs : List Json) (hne : vs ≠ []) :
    Hanging (elements column vs) := by
  match vs with
  | [] => exact absurd rfl hne
  | [v] => exact (hanging_follow false v (.inl h)).inline_cons rfl
  | v :: w :: ws =>
    have hrest := (hanging_elements h (w :: ws) (List.cons_ne_nil w ws)).inline_append
      (not_isBreak_of_mem_spaces (n := column))
    have hstart := startsInside_spaces h (elements column (w :: ws))
    have hall := Hanging.append (hanging_follow false v (.inl h)).hangs hrest hstart
    rw [← List.append_assoc] at hall
    exact hall.inline_cons rfl

theorem hanging_entries {column : Nat} (h : 0 < column) (ms : List (String × Json)) (hne : ms ≠ []) :
    Hanging (entries column ms) := by
  match ms with
  | [] => exact absurd rfl hne
  | [(key, v)] => exact hanging_keyed (.inl h) (hanging_follow (isSimpleKey key) v (.inl h))
  | (key, v) :: m :: ms =>
    have hfollow := hanging_follow (isSimpleKey key) v (.inl h)
    have hrest := (hanging_entries h (m :: ms) (List.cons_ne_nil m ms)).inline_append
      (not_isBreak_of_mem_spaces (n := column))
    have hstart := startsInside_spaces h (entries column (m :: ms))
    have hall : Hanging (keyed column key (isSimpleKey key) ++ _) :=
      hanging_keyed (.inl h) (.append hfollow.hangs hrest hstart)
    simpa only [entries, List.append_assoc] using hall

end

/-! ## Mappings at the margin -/

/-- A member of a mapping at the margin whose lines are told from a mark by how they begin. -/
structure Marginal (m : String × Json) : Prop where
  simple : isSimpleKey m.1 = true
  nested : ∀ vs, m.2 ≠ .array vs
  head : (simpleKey m.1).head? ≠ some '-'

/-- What is written of a member at the margin. -/
def memberText (m : String × Json) : List Char :=
  keyed 0 m.1 (isSimpleKey m.1) ++ follow 0 (isSimpleKey m.1) m.2

theorem entries_margin (m : String × Json) (ms : List (String × Json)) :
    entries 0 (m :: ms) = memberText m ++ entries 0 ms := by
  cases ms with
  | nil => exact (List.append_nil _).symm
  | cons m' ms =>
    rw [entries, spaces_zero, List.append_nil, memberText]
    exact List.cons_ne_nil m' ms

theorem Marginal.hanging {m : String × Json} (h : Marginal m) : Hanging (memberText m) :=
  hanging_keyed (.inr h.simple) (hanging_follow _ m.2 (.inr h.nested))

/-- No line of such a member begins with a dash. -/
theorem Marginal.lines {m : String × Json} (h : Marginal m) :
    ∀ line ∈ lines (memberText m), line.head? ≠ some '-' := by
  obtain ⟨c, cs, hkey⟩ := List.exists_cons_of_ne_nil (simpleKey_ne_nil m.1)
  have htext : ∃ rest, memberText m = c :: rest := by
    rw [memberText, h.simple, keyed, hkey]
    exact ⟨_, rfl⟩
  obtain ⟨rest, htext⟩ := htext
  have hhanging := h.hanging
  rw [htext] at hhanging ⊢
  obtain ⟨first, others, hlines, hothers⟩ := hhanging.hangs.lines
  intro line hline hdash
  rw [hlines] at hline
  rcases List.mem_cons.mp hline with rfl | hline
  · have hhead := h.head
    rw [hkey] at hhead
    exact hhead hdash
  · have hinside := hothers line hline
    rw [startsInside, hdash] at hinside
    contradiction

/-- No line of a mapping of such members begins with a dash, and it ends with a line end. -/
theorem lines_entries {ms : List (String × Json)} (h : ∀ m ∈ ms, Marginal m) :
    (∀ line ∈ lines (entries 0 ms), line.head? ≠ some '-') ∧ (ms ≠ [] → EndsLine (entries 0 ms)) := by
  induction ms with
  | nil => exact ⟨fun _ hline => (nomatch hline), fun hne => absurd rfl hne⟩
  | cons m ms ih =>
    obtain ⟨hm, hms⟩ := List.forall_mem_cons.mp h
    obtain ⟨hlines, hends⟩ := ih hms
    rw [entries_margin]
    constructor
    · intro line hline
      rw [lines_append hm.hanging.ends] at hline
      rcases List.mem_append.mp hline with hline | hline
      · exact hm.lines line hline
      · exact hlines line hline
    · intro _
      cases ms with
      | nil => exact (List.append_nil (memberText m)).symm ▸ hm.hanging.ends
      | cons m' ms => exact (hends (List.cons_ne_nil m' ms)).append _

end BackingServices.Yaml
