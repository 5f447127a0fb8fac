import TypedTraffic.Proofs.Endpoint.Meeting
import TypedTraffic.Proofs.Url.Absolute

/-!
# Records of one endpoint

A path segment that identifies a record does not name a resource. Behind
an absolute URL that ends in its path, such a segment goes to the end of
the path, is one segment more, and is passed over when the resource is
looked for (`Endpoint.EndsInPath.segment`). So the URLs of all records
of a collection, and of the records below them, have the resource of the
collection, and exchanges with them are in one group
(`Endpoint.oneEndpoint_of_endsInPath`).
-/

namespace TypedTraffic

open Text Url

namespace Endpoint

/-! ## Segments that identify records -/

/-- **A URL that ends in its path**: an absolute one without query,
fragment and parameters. -/
structure EndsInPath (url : String) : Prop where
  /-- The URL is absolute. -/
  absolute : isAbsoluteUrl url = true
  /-- Nothing of it begins a query, a fragment or parameters. -/
  plain : ∀ c ∈ url.toList, c ≠ '?' ∧ c ≠ '#' ∧ c ≠ ';'

/-- **A segment that identifies a record**, and is one segment of a path
as it stands. -/
structure IsRecordSegment (s : String) : Prop where
  /-- It identifies a record. -/
  isRecordId : isRecordId s.toList = true
  /-- It ends no path and no segment, and all of it counts. -/
  plain : ∀ c ∈ s.toList, c ∉ ['/', '?', '#', ';', '\t', '\r', '\n']

namespace IsRecordSegment

variable {s : String} (h : IsRecordSegment s)

include h

theorem apart : ∀ c ∈ s.toList, c ≠ '/' ∧ c ≠ '?' ∧ c ≠ '#' ∧ c ≠ ';' ∧ c ≠ '\t' ∧ c ≠ '\r'
    ∧ c ≠ '\n' := by
  simpa only [List.mem_cons, List.not_mem_nil, or_false, not_or] using h.plain

/-- All of the segment counts. -/
theorem filter_eq_self :
    s.toList.filter (fun c => c != '\t' && c != '\r' && c != '\n') = s.toList := by
  refine List.filter_eq_self.mpr fun c hc => ?_
  obtain ⟨-, -, -, -, htab, hreturn, hfeed⟩ := h.apart c hc
  simp [htab, hreturn, hfeed]

/-- With a slash in front it begins no query, fragment or parameters. -/
theorem plain_cons : ∀ c ∈ '/' :: s.toList, c ≠ '?' ∧ c ≠ '#' ∧ c ≠ ';' := by
  refine List.forall_mem_cons.mpr ⟨by decide, fun c hc => ?_⟩
  obtain ⟨-, hquery, hfragment, hsemicolon, -⟩ := h.apart c hc
  exact ⟨hquery, hfragment, hsemicolon⟩

end IsRecordSegment

/-- A URL with segments behind it. -/
def under (url : String) : List String → String
  | [] => url
  | s :: ss => under (url ++ "/" ++ s) ss

/-- Two URLs that can be read and have one resource. -/
def SameResource (url url' : String) : Prop :=
  ∃ u u', Url.parse url = .ok u ∧ Url.parse url' = .ok u' ∧ resource u = resource u'

theorem SameResource.trans {url url' url'' : String} (h : SameResource url url')
    (h' : SameResource url' url'') : SameResource url url'' := by
  obtain ⟨u, u', hu, hu', heq⟩ := h
  obtain ⟨v, u'', hv, hu'', heq'⟩ := h'
  cases hu'.symm.trans hv
  exact ⟨u, u'', hu, hu'', heq.trans heq'⟩

/-- A record at the end is passed over. -/
theorem lastName?_concat {segment : List Char} (h : isRecordId segment = true)
    (segments : List (List Char)) : lastName? (segments ++ [segment]) = lastName? segments := by
  rw [lastName?, List.reverse_append, List.reverse_singleton, List.singleton_append,
    List.find?_cons_of_neg (by simp [h])]
  rfl

/-- **One segment more makes no other resource**, if it identifies a
record. -/
theorem resource_eq_of_path {u u' : Url} {s : String} (hs : IsRecordSegment s)
    (h : u'.path.toList = u.path.toList ++ '/' :: s.toList) : resource u' = resource u := by
  have hsegment : '/' ∉ s.toList := fun hmem => hs.plain '/' hmem (by simp)
  have hsegments : u'.segments = u.segments ++ [s.toList].filter (!·.isEmpty) := by
    rw [Url.segments, h, split_append_cons, split_of_not_mem hsegment, List.filter_append]
    rfl
  have hname : lastName? u'.segments = lastName? u.segments := by
    rw [hsegments, List.filter_singleton]
    cases s.toList.isEmpty with
    | true => exact congrArg lastName? (List.append_nil _)
    | false => exact lastName?_concat hs.isRecordId u.segments
  rw [resource, resource, hname]

namespace EndsInPath

variable {url s : String} (h : EndsInPath url)

include h

/-- **A URL with a record behind it** ends in its path as well, and has the
same resource. -/
theorem segment (hs : IsRecordSegment s) :
    EndsInPath (url ++ "/" ++ s) ∧ SameResource url (url ++ "/" ++ s) := by
  obtain ⟨scheme, host, rest, hurl⟩ := isAbsoluteUrl_iff.mp h.absolute
  have hlist : (url ++ "/" ++ s).toList = url.toList ++ '/' :: s.toList := by
    simp only [String.toList_append, List.append_assoc]
    rfl
  have hcleaned : cleaned (url ++ "/" ++ s).toList = cleaned url.toList ++ '/' :: s.toList := by
    have hne : cleaned url.toList ≠ [] := by simp [hurl.eq]
    rw [hlist, cleaned_append hne, List.filter_cons_of_pos (by decide), hs.filter_eq_self]
  have hlonger : Spells (cleaned (url ++ "/" ++ s).toList) scheme host (rest ++ '/' :: s.toList) :=
    hcleaned ▸ hurl.append_segment s.toList
  obtain ⟨u, hu, -, -, hpath⟩ := hurl.exists_parse_eq
  obtain ⟨u', hu', -, -, hpath'⟩ := hlonger.exists_parse_eq
  -- what follows the host is the path of both URLs
  have hrest : ∀ c ∈ rest, c ≠ '?' ∧ c ≠ '#' ∧ c ≠ ';' := fun c hc =>
    h.plain c (mem_of_mem_cleaned (hurl.eq ▸ by simp [hc]))
  rw [pathIn_eq_self _ hrest] at hpath
  rw [pathIn_eq_self _ (List.forall_mem_append.mpr ⟨hrest, hs.plain_cons⟩)] at hpath'
  refine ⟨⟨isAbsoluteUrl_iff.mpr ⟨_, _, _, hlonger⟩, ?_⟩, u, u', hu, hu', ?_⟩
  · rw [hlist]
    exact List.forall_mem_append.mpr ⟨h.plain, hs.plain_cons⟩
  · exact (resource_eq_of_path hs (by rw [hpath', hpath]; simp)).symm

/-- **A URL with several records behind it** has the same resource. -/
theorem under {ss : List String} (hss : ∀ s ∈ ss, IsRecordSegment s) :
    EndsInPath (under url ss) ∧ SameResource url (under url ss) := by
  induction ss generalizing url with
  | nil =>
    obtain ⟨scheme, host, rest, hurl⟩ := isAbsoluteUrl_iff.mp h.absolute
    obtain ⟨u, hu, -⟩ := hurl.exists_parse_eq
    exact ⟨h, u, u, hu, hu, rfl⟩
  | cons s ss ih =>
    obtain ⟨hs, hss⟩ := List.forall_mem_cons.mp hss
    obtain ⟨hends, hsame⟩ := h.segment hs
    obtain ⟨hends', hsame'⟩ := ih hends hss
    exact ⟨hends', hsame.trans hsame'⟩

end EndsInPath

/-! ## Exchanges with records -/

/-- An exchange with an absolute URL belongs to the endpoint of its method
and the resource of the URL. -/
theorem endpoint?_eq {e : Exchange} {u : Url} (habsolute : isAbsoluteUrl e.request.url = true)
    (hu : Url.parse e.request.url = .ok u) :
    e.endpoint? = some (upper e.request.method, resource u) := by
  rw [isAbsoluteUrl, hu] at habsolute
  rw [Exchange.endpoint?, Exchange.absoluteUrl?, hu]
  simp only [habsolute, if_true]
  rfl

/-- **Records of one endpoint**: segments behind a URL that identify records
make no other endpoint of it. -/
structure OneEndpoint (url : String) : Prop where
  /-- The URL of a record is absolute and has the same resource. -/
  segment : ∀ s, IsRecordSegment s →
    isAbsoluteUrl (url ++ "/" ++ s) = true ∧ SameResource url (url ++ "/" ++ s)
  /-- Exchanges of one method with the URLs of records, and of records below
  them, are in one group. -/
  together : ∀ (es : List Exchange) (e e' : Exchange) (ss ts : List String), e ∈ es → e' ∈ es →
    upper e.request.method = upper e'.request.method →
    (∀ s ∈ ss, IsRecordSegment s) → e.request.url = under url ss →
    (∀ t ∈ ts, IsRecordSegment t) → e'.request.url = under url ts →
    ShareGroup (groupExchanges es) e e'

/-- **Segments that identify records never split an endpoint.** -/
theorem oneEndpoint_of_endsInPath {url : String} (h : EndsInPath url) : OneEndpoint url where
  segment s hs := ⟨(h.segment hs).1.absolute, (h.segment hs).2⟩
  together es e e' ss ts he he' hmethod hss hurl hts hurl' := by
    obtain ⟨hends, u, v, hu, hv, hresource⟩ := h.under hss
    obtain ⟨hends', u', v', hu', hv', hresource'⟩ := h.under hts
    cases hu.symm.trans hu'
    rw [← hurl] at hends hv
    rw [← hurl'] at hends' hv'
    -- both resources are that of the URL, so the endpoints are the same
    refine ((partitions_groupsByKey es).shareGroup_iff he he'
      (endpoint?_eq hends.absolute hv) (endpoint?_eq hends'.absolute hv')).mpr (Or.inl ?_)
    rw [hmethod, ← hresource, hresource']

/-- An exchange with a method and a URL. -/
def bare (method url : String) : Exchange := ⟨⟨method, url, [], none⟩, Response.default⟩

/-- A user and an order of a user are in the group of the users, whatever
is recorded between them. -/
theorem oneEndpoint_of_endsInPath_users :
    EndsInPath "https://h.io/users" ∧ IsRecordSegment "42" ∧ IsRecordSegment "0123456789abcdef0123"
      ∧ ShareGroup (groupExchanges
          [bare "get" "https://h.io/users/42", bare "GET" "https://h.io/orders",
            bare "GET" "https://h.io/users/0123456789abcdef0123/42"])
          (bare "get" "https://h.io/users/42")
          (bare "GET" "https://h.io/users/0123456789abcdef0123/42") := by
  have hurl : EndsInPath "https://h.io/users" := ⟨by decide +kernel, by decide +kernel⟩
  have hnumber : IsRecordSegment "42" := ⟨by decide +kernel, by decide +kernel⟩
  have hhash : IsRecordSegment "0123456789abcdef0123" := ⟨by decide +kernel, by decide +kernel⟩
  refine ⟨hurl, hnumber, hhash, ?_⟩
  exact (oneEndpoint_of_endsInPath hurl).together _ _ _ ["42"] ["0123456789abcdef0123", "42"]
    (by simp) (by simp) (by decide +kernel) (by simpa using hnumber) (by decide +kernel)
    (by simpa using ⟨hhash, hnumber⟩) (by decide +kernel)

end Endpoint

end TypedTraffic
