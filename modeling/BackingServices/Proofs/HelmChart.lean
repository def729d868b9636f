import BackingServices.DryRun
import BackingServices.Proofs.Yaml.Building

/-!
# Helm charts are read back

The values in a Helm chart are those of its deployment (`ofDeployment_values`), and the
manifest of a Helm chart is the document that is applied (`read?_manifest`).
-/

namespace BackingServices.HelmChart

/-! ## The Helm chart of a deployment -/

theorem ofDeployment_ready {d : Deployment} (hwait : d.blockUntilReady = false) :
    ofDeployment d = .ok (installing d) := by
  rw [ofDeployment, hwait]
  rfl

theorem ofDeployment_blocking {d : Deployment} (hwait : d.blockUntilReady = true) :
    ofDeployment d = .error (.submission (.blocking d.releaseName)) := by
  rw [ofDeployment, hwait]
  rfl

/-! ## The values of a deployment -/

/-- A deployment that does not ask to wait has a Helm chart, and the values in it are those of the
deployment, if these are nested at most 128 deep: each text is the same text, each integer the same
integer and each double the same double.  Values that are nested deeper are rendered but not read.
Readers that follow the nesting to another depth differ in that depth only. -/
theorem ofDeployment_values (d : Deployment) (hwait : d.blockUntilReady = false)
    (hkeys : d.valueOverrides.KeysDistinct) :
    ∃ chart content, ofDeployment d = .ok chart ∧ chart.spec.valuesContent? = some content ∧
      Yaml.read? content =
        (if d.valueOverrides.nesting ≤ 128 then some d.valueOverrides else none) ∧
      ∀ limit, Yaml.readWithin? limit content =
        if d.valueOverrides.nesting ≤ limit then some d.valueOverrides else none := by
  have hread := Yaml.readWithin?_render hkeys
  exact ⟨installing d, Yaml.render d.valueOverrides, ofDeployment_ready hwait, rfl,
    hread Yaml.documentDepth, hread⟩

/-- A password of digits around an `e`, and one of digits only, stay texts. -/
theorem ofDeployment_values_passwords :
    let values : Json := .object [
      ("auth", .object [
        ("erlangCookie", .string "012345678901"), ("password", .string "123456e78901")])]
    let d : Deployment := ⟨"rabbitmq", "16.0.7", "rabbitmq", "orders-prod", "oci://h/c", false, values⟩
    d.blockUntilReady = false ∧ d.valueOverrides.KeysDistinct ∧ ∃ chart content,
      ofDeployment d = .ok chart ∧ chart.spec.valuesContent? = some content ∧
        Yaml.read? content = some values := by
  intro values d
  have hkeys : values.KeysDistinct := by
    simp [values, Json.KeysDistinct, Json.KeysDistinctMembers]
  have hnesting : values.nesting ≤ 128 := by
    simp [values, Json.nesting, Json.nestingMembers]
  obtain ⟨chart, content, hchart, hcontent, hread, -⟩ := ofDeployment_values d rfl hkeys
  exact ⟨rfl, hkeys, chart, content, hchart, hcontent, hread.trans (if_pos hnesting)⟩

/-- Values of 129 sequences inside each other are rendered, and cannot be read. -/
theorem ofDeployment_values_too_deep :
    let values : Json := .enclosed .null 129
    let d : Deployment := ⟨"redis", "21.2.3", "redis", "orders-prod", "oci://h/c", false, values⟩
    d.blockUntilReady = false ∧ d.valueOverrides.KeysDistinct ∧
      ¬ ∃ chart content, ofDeployment d = .ok chart ∧ chart.spec.valuesContent? = some content ∧
        Yaml.read? content = some d.valueOverrides := by
  intro values d
  have hkeys : values.KeysDistinct := (Json.keysDistinct_enclosed .null 129).mpr trivial
  have hnesting : ¬ values.nesting ≤ Yaml.documentDepth := by
    rw [Json.nesting_enclosed]
    decide
  refine ⟨rfl, hkeys, ?_⟩
  rintro ⟨chart, content, hchart, hcontent, hread⟩
  obtain rfl : installing d = chart := Except.ok.inj hchart
  obtain rfl : Yaml.render values = content := Option.some.inj hcontent
  rw [Yaml.read?, Yaml.readWithin?_render hkeys, if_neg hnesting] at hread
  contradiction

/-! ## The manifest -/

theorem keysDistinct_toJson (d : Deployment) : (installing d).toJson.KeysDistinct := by
  cases h : isOci d.sourceUri <;>
    simp [toJson, installing, h, Metadata.toJson, Metadata.members, ChartSpec.toJson, optionalMember,
      textsToJson, Json.KeysDistinct, Json.KeysDistinctMembers, managedByLabel, releaseLabel]

theorem nesting_toJson (d : Deployment) : (installing d).toJson.nesting ≤ Yaml.documentDepth := by
  cases h : isOci d.sourceUri <;>
    simp [toJson, installing, h, Metadata.toJson, Metadata.members, ChartSpec.toJson, optionalMember,
      textsToJson, Json.nesting, Json.nestingMembers, Yaml.documentDepth]

/-- The manifest of a Helm chart is read as its document. -/
theorem read?_manifest (d : Deployment) :
    Yaml.read? (installing d).manifest = some (installing d).toJson := by
  rw [manifest, Yaml.read?, Yaml.readWithin?_render (keysDistinct_toJson d), if_pos (nesting_toJson d)]

/-- So it is behind the line that begins a document. -/
theorem read?_document (d : Deployment) :
    Yaml.read? (installing d).document = some (installing d).toJson := by
  rw [document, documentMark, manifest, Yaml.read?, Yaml.readWithin?_marked (keysDistinct_toJson d),
    if_pos (nesting_toJson d)]

end BackingServices.HelmChart
