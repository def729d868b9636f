import BackingServices.Proofs.Submission
import BackingServices.Proofs.Text
import BackingServices.Proofs.Yaml.Lines
import Mathlib.Data.List.Induction

/-!
# Streams of manifests

A stream without a limit holds one document for each deployment that does not ask to wait, in the
order in which they were submitted, and nothing else.  No line of a manifest begins with a dash,
whatever texts the deployment has, so that the stream is cut into its manifests again at the lines
that are marks of documents (`Stream.after_documents`).
-/

namespace BackingServices

/-! ## Manifests -/

namespace HelmChart

/-- What is written of a Helm chart at the margin: four members, none of which is a sequence. -/
theorem marginal_members (d : Deployment) : ∀ m ∈
    [("apiVersion", .string apiVersion), ("kind", .string chartKind),
      ("metadata", (installing d).metadata.toJson), ("spec", (installing d).spec.toJson)],
    Yaml.Marginal m := by
  have hkeys : ∀ key ∈ ["apiVersion", "kind", "metadata", "spec"],
      Yaml.isSimpleKey key = true ∧ (Yaml.simpleKey key).head? ≠ some '-' := by decide
  simp only [List.forall_mem_cons] at hkeys ⊢
  obtain ⟨hversion, hkind, hmetadata, hspec, -⟩ := hkeys
  refine ⟨⟨hversion.1, ?_, hversion.2⟩, ⟨hkind.1, ?_, hkind.2⟩, ⟨hmetadata.1, ?_, hmetadata.2⟩,
    ⟨hspec.1, ?_, hspec.2⟩, fun _ hm => (nomatch hm)⟩
  all_goals
    intro vs h
    cases h

/-- No line of a manifest begins with a dash, and a manifest ends with a line end. -/
theorem manifest_lines (d : Deployment) :
    (∀ line ∈ Yaml.lines (installing d).manifest.toList, line.head? ≠ some '-') ∧
      Yaml.EndsLine (installing d).manifest.toList := by
  have hmanifest : (installing d).manifest.toList = Yaml.document (installing d).toJson :=
    String.toList_ofList
  obtain ⟨hlines, hends⟩ := Yaml.lines_entries (marginal_members d)
  rw [hmanifest]
  exact ⟨hlines, hends (List.cons_ne_nil _ _)⟩

end HelmChart

/-! ## Cutting a stream -/

/-- Whether a line has three dashes and nothing else. -/
def isMark (line : List Char) : Bool := line.takeWhile (fun c => !Yaml.isBreak c) = ['-', '-', '-']

/-- What is between the lines that are marks: what is before the first one, and what is behind each. -/
def cutAtMarks (stream : List Char) : List (List Char) :=
  ((Yaml.lines stream).splitOnP isMark).map List.flatten

theorem not_isMark_of_head {line : List Char} (h : line.head? ≠ some '-') : isMark line = false := by
  refine decide_eq_false fun hmark => ?_
  cases line with
  | nil => contradiction
  | cons c cs =>
    rw [List.takeWhile_cons] at hmark
    split at hmark
    · exact h (congrArg some (List.cons.inj hmark).1)
    · contradiction

/-- A stream of texts behind marks is cut into these texts, if no line in them begins with a dash. -/
theorem cutAtMarks_flatMap {texts : List (List Char)}
    (h : ∀ t ∈ texts, (∀ line ∈ Yaml.lines t, line.head? ≠ some '-') ∧ Yaml.EndsLine t) :
    cutAtMarks (texts.flatMap fun t => documentMark.toList ++ t) = [] :: texts := by
  have hmark : Yaml.EndsLine documentMark.toList := ⟨['-', '-', '-'], '\n', by decide, by decide⟩
  have hlines : Yaml.lines (texts.flatMap fun t => documentMark.toList ++ t) =
      texts.flatMap fun t => documentMark.toList :: Yaml.lines t := by
    induction texts with
    | nil => rfl
    | cons t ts ih =>
      obtain ⟨ht, hts⟩ := List.forall_mem_cons.mp h
      rw [List.flatMap_cons, List.flatMap_cons, Yaml.lines_append (ht.2.append _),
        Yaml.lines_append hmark, ih hts]
      congr 1
  -- The marks are the only lines of the stream that are cut at, and the last text is behind the last.
  have hsplit : (texts.flatMap fun t => documentMark.toList :: Yaml.lines t).splitOnP isMark =
      [] :: texts.map Yaml.lines := by
    clear hlines
    induction texts using List.reverseRecOn with
    | nil => rfl
    | append_singleton texts t ih =>
      have hlast : (Yaml.lines t).splitOnP isMark = [Yaml.lines t] :=
        List.splitOnP_eq_singleton fun line hline =>
          not_isMark_of_head ((h t (List.mem_append_right _ (.head _))).1 line hline)
      rw [List.flatMap_append, List.flatMap_singleton, List.splitOnP_append_cons _ _ (by decide),
        hlast, ih fun t ht => h t (List.mem_append_left _ ht), List.map_append]
      rfl
  rw [cutAtMarks, hlines, hsplit, List.map_cons, List.map_map]
  have hflatten : List.flatten ∘ Yaml.lines = id := funext Yaml.flatten_lines
  rw [hflatten, List.map_id]
  rfl

/-! ## Streams -/

/-- The manifests of the deployments that do not ask to wait. -/
def manifests (ds : List Deployment) : List String :=
  (ds.filter fun d => !d.blockUntilReady).map fun d => (HelmChart.installing d).manifest

theorem manifests_concat (ds : List Deployment) (d : Deployment) :
    manifests (ds ++ [d]) = manifests ds ++
      if d.blockUntilReady then [] else [(HelmChart.installing d).manifest] := by
  rw [manifests, List.filter_append, List.map_append]
  cases hwait : d.blockUntilReady with
  | true => simp [hwait, manifests]
  | false => simp [hwait, manifests]

namespace Stream

theorem after_concat (ds : List Deployment) (d : Deployment) :
    after (ds ++ [d]) = ((after ds).submit .unlimited d).1 :=
  List.foldl_append

/-- What a stream holds, as a text. -/
theorem held_after (ds : List Deployment) :
    (after ds).held = Text.encode (String.join ((manifests ds).map ("---\n" ++ ·))) := by
  induction ds using List.reverseRecOn with
  | nil => exact (Text.encode_eq "").symm
  | append_singleton ds d ih =>
    rw [after_concat, manifests_concat]
    cases hwait : d.blockUntilReady with
    | true => rw [submit_blocking _ _ hwait, ih, if_pos rfl, List.append_nil]
    | false =>
      rw [submit_ready (after_broken ds) hwait, ih, if_neg Bool.false_ne_true, List.map_append,
        String.join_append, Text.encode_append, List.map_singleton, String.join_cons, String.join_nil,
        String.append_empty]
      rfl

/-- After any list of deployments a stream without a limit holds, for each deployment that does not ask
to wait and in their order, three dashes with a line end and the manifest; the others are refused.
Every manifest ends with a line end and no line of it begins with three dashes, whatever texts are in
the deployment: cut at the lines that are three dashes, the stream gives the manifests again. -/
theorem after_documents (ds : List Deployment) :
    let stream := String.join ((manifests ds).map ("---\n" ++ ·))
    (after ds).held = Text.encode stream ∧
      (∀ d, ((after ds).submit .unlimited d).2 = .ok () ↔ d.blockUntilReady = false) ∧
        (∀ m ∈ manifests ds, Yaml.EndsLine m.toList ∧
          ∀ line ∈ Yaml.lines m.toList, ¬ ['-', '-', '-'] <+: line) ∧
          cutAtMarks stream.toList = [] :: (manifests ds).map String.toList := by
  intro stream
  have hmanifests : ∀ m ∈ manifests ds,
      (∀ line ∈ Yaml.lines m.toList, line.head? ≠ some '-') ∧ Yaml.EndsLine m.toList := by
    intro m hm
    obtain ⟨d, -, rfl⟩ := List.mem_map.mp hm
    exact HelmChart.manifest_lines d
  refine ⟨held_after ds, fun d => ?_, fun m hm => ⟨(hmanifests m hm).2, ?_⟩, ?_⟩
  · cases hwait : d.blockUntilReady with
    | true =>
      rw [submit_blocking _ _ hwait]
      exact ⟨nofun, nofun⟩
    | false =>
      rw [submit_ready (after_broken ds) hwait]
      exact ⟨fun _ => rfl, fun _ => rfl⟩
  · rintro line hline ⟨rest, rfl⟩
    exact (hmanifests m hm).1 _ hline rfl
  · have hstream : stream.toList =
        ((manifests ds).map String.toList).flatMap fun t => documentMark.toList ++ t := by
      rw [String.toList_join, List.flatMap_map, List.flatMap_map]
      refine congrArg (List.flatMap · (manifests ds)) (funext fun m => ?_)
      exact String.toList_append
    rw [hstream]
    refine cutAtMarks_flatMap fun t ht => ?_
    obtain ⟨m, hm, rfl⟩ := List.mem_map.mp ht
    exact hmanifests m hm

end Stream

end BackingServices
