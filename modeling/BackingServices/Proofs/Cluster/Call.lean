import BackingServices.Cluster.Call

/-!
# Where objects are applied

An object is applied at the path of its collection and its name, if these have nothing
in them but characters of a path and are not too long (`applyRequest_eq`).
-/

namespace BackingServices

namespace Uri

/-- A path and a query are read as what they are. -/
theorem parseTarget_query {path query : List Char} (hpath : ∀ c ∈ path, isPathChar c = true)
    (hquery : ∀ c ∈ query, isQueryChar c = true) :
    parseTarget (path ++ '?' :: query) =
      .ok ⟨String.ofList path, some (String.ofList query)⟩ := by
  have hends : ∀ c ∈ path, (!endsPath c) = true := by
    intro c hc
    have hchar := hpath c hc
    cases hend : endsPath c with
    | false => rfl
    | true =>
      have hcases : c = '?' ∨ c = '#' := by simpa [endsPath] using hend
      rcases hcases with rfl | rfl <;> exact absurd hchar (by decide)
  have hfragment : ∀ c ∈ query, (c != '#') = true := by
    intro c hc
    have hchar := hquery c hc
    by_cases h : c = '#'
    · subst h
      exact absurd hchar (by decide)
    · simpa using h
  have htake : (path ++ '?' :: query).takeWhile (fun c => !endsPath c) = path := by
    rw [List.takeWhile_append_of_pos hends]
    simp [endsPath]
  have hdrop : (path ++ '?' :: query).dropWhile (fun c => !endsPath c) = '?' :: query := by
    rw [List.dropWhile_append_of_pos hends]
    simp [endsPath]
  have hwhole : query.takeWhile (· != '#') = query := by
    have hall := @List.takeWhile_append_of_pos _ _ _ [] hfragment
    rwa [List.takeWhile_nil, List.append_nil] at hall
  rw [parseTarget, htake, hdrop, if_pos (List.all_eq_true.mpr hpath)]
  simp only [parseQuery, hwhole, if_pos (List.all_eq_true.mpr hquery)]
  rfl

end Uri

namespace Cluster

/-- The query that says who writes. -/
def applyQuery : String := "&force=true&fieldManager=quartermaster"

theorem mark_applyQuery : "?" ++ applyQuery = "?&force=true&fieldManager=quartermaster" := by decide

theorem applyPath_toList (collection name : String) :
    (applyPath collection name).toList =
      (collection ++ "/" ++ name).toList ++ '?' :: applyQuery.toList := by
  have hquery : "?&force=true&fieldManager=" ++ fieldManager = "?" ++ applyQuery := by decide
  have hmark : ("?" ++ applyQuery).toList = '?' :: applyQuery.toList := String.toList_append
  rw [applyPath, String.append_assoc, hquery, String.toList_append, hmark]

/-- An object is applied at the path of its collection and its name. -/
theorem applyRequest_eq {collection name : String} (object : Json) (hname : name ≠ "")
    (hcollection : ∀ c ∈ collection.toList, Uri.isPathChar c = true)
    (hchars : ∀ c ∈ name.toList, Uri.isPathChar c = true)
    (hsize : collection.utf8ByteSize + name.utf8ByteSize ≤ 65000) :
    applyRequest collection name object =
      .ok ⟨.patch, ⟨collection ++ "/" ++ name, some applyQuery⟩, some applyContentType,
        some object⟩ := by
  have hlength : ¬ Uri.maxLength < (applyPath collection name).utf8ByteSize := by
    have hquery : ("?&force=true&fieldManager=" : String).utf8ByteSize + fieldManager.utf8ByteSize +
        ("/" : String).utf8ByteSize ≤ 500 := by decide
    simp only [applyPath, String.utf8ByteSize_append, Uri.maxLength]
    omega
  have hpath : ∀ c ∈ (collection ++ "/" ++ name).toList, Uri.isPathChar c = true := by
    intro c hc
    simp only [String.toList_append, List.mem_append] at hc
    rcases hc with (hc | hc) | hc
    · exact hcollection c hc
    · rw [show c = '/' by simpa using hc]
      decide
    · exact hchars c hc
  have hquery : ∀ c ∈ applyQuery.toList, Uri.isQueryChar c = true :=
    List.all_eq_true.mp (by decide)
  rw [applyRequest, if_neg hname, Uri.parseRequest, if_neg hlength, applyPath_toList,
    Uri.parseTarget_query hpath hquery, String.ofList_toList, String.ofList_toList]

/-- A request that applies an object carries it. -/
theorem body?_applyRequest {collection name : String} {object : Json} {request : Request}
    (h : applyRequest collection name object = .ok request) : request.body? = some object := by
  rw [applyRequest] at h
  split at h
  · contradiction
  · split at h
    · contradiction
    · cases h
      rfl

end Cluster

end BackingServices
