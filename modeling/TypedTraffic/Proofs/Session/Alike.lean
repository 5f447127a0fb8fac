import TypedTraffic.Proofs.Session.Run
import TypedTraffic.Proofs.Shape.Skeleton

/-!
# What a run tells of the scalars in its samples

Two captures are **alike** when nothing but texts of bodies tells them
apart, and each two texts that differ are read as JSON objects of one
skeleton. So the objects have the same keys, lengths and kinds, and the
captures differ in scalars only.

A run tells nothing of them (`generate_eq_of_alike`): alike captures lead
to the same definitions, bindings, notices and names. The two runs go
through the same sessions step by step, since a sample is inferred from
its skeleton.
-/

namespace TypedTraffic

/-- **Bodies of one skeleton**: JSON objects, of one media type that is
not that of a form. -/
structure Body.SameSkeleton (b b' : Body) : Prop where
  /-- The media types are the same. -/
  mimeType : b.mimeType = b'.mimeType
  /-- They are not read as forms. -/
  notForm : isFormMimeType b.mimeType = false
  /-- The texts are objects of one skeleton. -/
  text : ∃ source source', b.text = some source ∧ b'.text = some source'
    ∧ Json.SameSkeleton source source'

/-- **Requests that are alike**: they differ at most in the texts of
bodies of one skeleton. -/
structure Request.Alike (r r' : Request) : Prop where
  /-- The methods are the same. -/
  method : r.method = r'.method
  /-- The URLs are the same. -/
  url : r.url = r'.url
  /-- The headers are the same. -/
  headers : r.headers = r'.headers
  /-- The declared media types are the same. -/
  declared : r.postData.map PostData.mimeType = r'.postData.map PostData.mimeType
  /-- The bodies are the same, or of one skeleton. -/
  body : r.postData = r'.postData ∨ r.body.SameSkeleton r'.body

/-- **Responses that are alike**: they differ at most in the texts of
bodies of one skeleton. -/
structure Response.Alike (r r' : Response) : Prop where
  /-- The states are the same. -/
  status : r.status = r'.status
  /-- The headers are the same. -/
  headers : r.headers = r'.headers
  /-- The declared media types are the same, and so are the encodings. -/
  declared : r.content.map (fun c => (c.mimeType, c.encoding))
    = r'.content.map fun c => (c.mimeType, c.encoding)
  /-- The bodies are the same, or can be decoded and are of one skeleton. -/
  body : r.content = r'.content
    ∨ ∃ b b', r.body = .ok b ∧ r'.body = .ok b' ∧ b.SameSkeleton b'

/-- **Exchanges that are alike.** -/
structure Exchange.Alike (e e' : Exchange) : Prop where
  /-- The requests are alike. -/
  request : e.request.Alike e'.request
  /-- The responses are alike. -/
  response : e.response.Alike e'.response

/-- **Captures that are alike.** -/
structure Capture.Alike (c c' : Capture) : Prop where
  /-- The versions are the same. -/
  version : c.version = c'.version
  /-- The exchanges are alike one by one. -/
  exchanges : List.Forall₂ Exchange.Alike c.exchanges c'.exchanges

/-- **Groups that are alike**: they belong to one endpoint, and their
exchanges are alike one by one. -/
structure EndpointGroup.Alike (g g' : EndpointGroup) : Prop where
  /-- The methods are the same. -/
  method : g.method = g'.method
  /-- The resources are the same. -/
  resource : g.resource = g'.resource
  /-- The exchanges are alike. -/
  exchanges : List.Forall₂ Exchange.Alike g.exchanges g'.exchanges

theorem Request.Alike.body_cases {r r' : Request} (h : r.Alike r') :
    r.body = r'.body ∨ r.body.SameSkeleton r'.body := by
  refine h.body.imp_left fun hdata => ?_
  unfold Request.body
  rw [hdata, h.headers]

theorem Response.Alike.body_cases {r r' : Response} (h : r.Alike r') :
    r.body = r'.body ∨ ∃ b b', r.body = .ok b ∧ r'.body = .ok b' ∧ b.SameSkeleton b' := by
  refine h.body.imp_left fun hcontent => ?_
  unfold Response.body
  rw [hcontent, h.headers]

/-! ## Groups -/

/-- Alike exchanges belong to one endpoint. -/
theorem Exchange.Alike.endpoint? {e e' : Exchange} (h : e.Alike e') :
    e.endpoint? = e'.endpoint? := by
  unfold Exchange.endpoint? Exchange.absoluteUrl?
  rw [h.request.url, h.request.method]

/-- Groups under one key that are alike. -/
def AlikeUnderKey (p p' : String × EndpointGroup) : Prop := p.1 = p'.1 ∧ p.2.Alike p'.2

theorem alike_insertExchange {gs gs' : List (String × EndpointGroup)}
    (h : List.Forall₂ AlikeUnderKey gs gs') {e e' : Exchange} (he : e.Alike e')
    (method resource : String) :
    List.Forall₂ AlikeUnderKey (insertExchange method resource e gs)
      (insertExchange method resource e' gs') := by
  induction h with
  | nil => exact .cons ⟨rfl, rfl, rfl, .cons he .nil⟩ .nil
  | @cons p p' gs gs' hp hgs ih =>
    obtain ⟨key, g⟩ := p
    obtain ⟨key', g'⟩ := p'
    obtain ⟨rfl, hg⟩ : key = key' ∧ g.Alike g' := hp
    rw [insertExchange, insertExchange]
    split
    · exact .cons ⟨rfl, hg.method, hg.resource, List.rel_append hg.exchanges (.cons he .nil)⟩ hgs
    · exact .cons ⟨rfl, hg⟩ ih

/-- **Alike exchanges are grouped alike.** -/
theorem alike_groupExchanges {es es' : List Exchange} (h : List.Forall₂ Exchange.Alike es es') :
    List.Forall₂ EndpointGroup.Alike (groupExchanges es) (groupExchanges es') := by
  have hkeyed : List.Forall₂ AlikeUnderKey (groupsByKey es) (groupsByKey es') := by
    refine List.rel_foldl (fun gs gs' hgs e e' he => ?_) .nil h
    unfold groupExchange
    rw [he.endpoint?]
    split
    · exact alike_insertExchange hgs he _ _
    · exact hgs
  exact List.rel_map (fun _ _ hp => hp.2) hkeyed

/-- Alike exchanges have the same query parameters. -/
theorem queryParameters_eq_of_alike {es es' : List Exchange}
    (h : List.Forall₂ Exchange.Alike es es') : queryParameters es = queryParameters es' := by
  have hpairs : queryPairs es = queryPairs es' := by
    induction h with
    | nil => rfl
    | cons he hes ih => rw [queryPairs, queryPairs, he.request.url, ih]
  rw [queryParameters, queryParameters, hpairs]

/-! ## Sessions -/

namespace Session

variable {standIns : Text.StandIns}

/-- **Bodies of one skeleton are registered alike.** -/
theorem registerBody_eq_of_sameSkeleton (s : Session) (stem : String) {source source' : String}
    (h : Json.SameSkeleton source source') {mime : Option String}
    (hmime : isFormMimeType mime = false) :
    s.registerBody standIns stem source mime = s.registerBody standIns stem source' mime := by
  simp only [registerBody, infer, Sample.infer_eq_of_sameSkeleton h hmime]

section Steps

variable {e e' : Exchange} (he : e.Alike e') (stem : String) (s : Session) (type : String)

include he

theorem requestStep_eq_of_alike :
    requestStep standIns stem s type e = requestStep standIns stem s type e' := by
  unfold requestStep
  rw [he.request.url]
  rcases he.request.body_cases with hbody | ⟨hmime, hform, source, source', hs, hs', hsame⟩
  · rw [hbody]
  · rcases hb : e.request.body with ⟨text, mime⟩
    rcases hb' : e'.request.body with ⟨text', mime'⟩
    rw [hb] at hmime hform hs
    rw [hb'] at hmime hs'
    cases hs
    cases hs'
    cases hmime
    simp only [registerBody_eq_of_sameSkeleton s stem hsame hform]

theorem responseStep_eq_of_alike :
    responseStep standIns stem s type e = responseStep standIns stem s type e' := by
  unfold responseStep
  rw [he.request.url]
  rcases he.response.body_cases with hbody | ⟨b, b', hb, hb', hmime, hform, hsources⟩
  · rw [hbody]
  · obtain ⟨source, source', hs, hs', hsame⟩ := hsources
    rcases b with ⟨text, mime⟩
    rcases b' with ⟨text', mime'⟩
    cases hs
    cases hs'
    cases hmime
    obtain ⟨members, members', hparse, hparse', -⟩ := id hsame
    rw [hb, hb']
    simp only [nonempty?, Option.filter, Json.isEmpty_of_parse hparse,
      Json.isEmpty_of_parse hparse', Bool.not_false, if_true,
      registerBody_eq_of_sameSkeleton s stem hsame hform]

end Steps

/-- **Exchanges that are alike lead to one type**, if each step does. -/
theorem typeAfter_eq_of_alike {step : TypeStep} {es es' : List Exchange}
    (h : List.Forall₂ Exchange.Alike es es')
    (hstep : ∀ e e' : Exchange, e.Alike e' → ∀ s type, step s type e = step s type e')
    (s : Session) (type : String) : typeAfter step s type es = typeAfter step s type es' := by
  induction h generalizing s type with
  | nil => rfl
  | @cons e e' es es' he hes ih =>
    rw [typeAfter, typeAfter, hstep e e' he]
    simp only [ih]

/-- **Groups that are alike are bound alike.** -/
theorem bind_eq_of_alike (s : Session) {g g' : EndpointGroup} (h : g.Alike g') :
    s.bind standIns g = s.bind standIns g' := by
  rcases g with ⟨method, resource, es⟩
  rcases g' with ⟨method', resource', es'⟩
  obtain ⟨hmethod, hresource, hes⟩ := h
  simp only at hmethod hresource hes
  subst hmethod hresource
  have hparams : ∀ stem, s.registerParams stem es = s.registerParams stem es' := by
    intro stem
    rw [registerParams, registerParams, queryParameters_eq_of_alike hes]
  have hbody : ∀ t stem, bodyType standIns stem t es = bodyType standIns stem t es' :=
    fun t stem => typeAfter_eq_of_alike hes
      (fun _ _ he => requestStep_eq_of_alike he stem) t noBody
  have hresponse : ∀ t stem, responseType standIns stem t es = responseType standIns stem t es' :=
    fun t stem => typeAfter_eq_of_alike hes
      (fun _ _ he => responseStep_eq_of_alike he stem) t unknownResponse
  unfold bind
  simp only [hparams, hbody, hresponse]
  cases hes with
  | nil => rfl
  | cons he _ => simp only [he.request.url, he.request.headers, EndpointGroup.key]

theorem bindAll_eq_of_alike (s : Session) {gs gs' : List EndpointGroup}
    (h : List.Forall₂ EndpointGroup.Alike gs gs') : s.bindAll standIns gs = s.bindAll standIns gs' := by
  induction h generalizing s with
  | nil => rfl
  | cons hg hgs ih =>
    rw [bindAll, bindAll, s.bind_eq_of_alike hg]
    simp only [ih]

end Session

/-- **A run tells nothing of the scalars in its samples**: captures that
are alike lead to the same definitions and bindings, and leave the same
names and notices. -/
theorem generate_eq_of_alike {capture capture' : Capture} (h : capture.Alike capture')
    (options : Options) :
    ∃ sdk s, generate options capture = .ok (sdk, s) ∧ generate options capture' = .ok (sdk, s) := by
  obtain ⟨sdk, s, hrun, -⟩ := exists_generate_eq options capture
  refine ⟨sdk, s, hrun, ?_⟩
  have hgroups := alike_groupExchanges h.exchanges
  rw [← hrun]
  unfold generate Session.run Session.runWith
  simp only [groupFault?_groupExchanges, Session.bindAll_eq_of_alike _ hgroups]

/-- The request of an order. -/
def orderRequest (sent : String) : Request :=
  ⟨"POST", "https://h.io/orders", [⟨"content-type", "application/json"⟩], some ⟨none, some sent⟩⟩

/-- The encoded answer to an order. -/
def orderResponse (received : String) : Response :=
  ⟨200, [], some ⟨some "application/json", some received, some "base64"⟩⟩

/-- An order and the answer to it. -/
def order (sent received : String) : Capture :=
  ⟨none, [⟨orderRequest sent, orderResponse received⟩]⟩

theorem alike_orderRequest : (orderRequest "\x7b\"id\": 1, \"tags\": [\"a\"]\x7d").Alike
    (orderRequest "\x7b\"id\": 2.5, \"tags\": [\"b\"]\x7d") := by
  refine ⟨rfl, rfl, rfl, rfl, Or.inr ⟨by decide +kernel, by decide +kernel,
    "\x7b\"id\": 1, \"tags\": [\"a\"]\x7d", "\x7b\"id\": 2.5, \"tags\": [\"b\"]\x7d",
    by decide +kernel, by decide +kernel, ?_⟩⟩
  exact ⟨[(codePoints "id", .number (.whole 1)),
      (codePoints "tags", .array [.string (codePoints "a")])],
    [(codePoints "id", .number (.decimal ⟨false, 25, -1⟩)),
      (codePoints "tags", .array [.string (codePoints "b")])],
    by decide +kernel, by decide +kernel, by decide +kernel⟩

theorem alike_orderResponse :
    (orderResponse "eyJvayI6IHRydWV9").Alike (orderResponse "eyJvayI6IGZhbHNlfQ==") := by
  refine ⟨rfl, rfl, rfl, Or.inr
    ⟨⟨some "\x7b\"ok\": true\x7d", some "application/json"⟩,
      ⟨some "\x7b\"ok\": false\x7d", some "application/json"⟩,
      by decide +kernel, by decide +kernel, rfl, by decide +kernel, _, _, rfl, rfl, ?_⟩⟩
  exact ⟨[(codePoints "ok", .bool true)], [(codePoints "ok", .bool false)],
    by decide +kernel, by decide +kernel, by decide +kernel⟩

/-- Two orders of one skeleton, answered with `true` and with `false`,
lead to the same. -/
theorem generate_eq_of_alike_orders :
    let capture := order "\x7b\"id\": 1, \"tags\": [\"a\"]\x7d" "eyJvayI6IHRydWV9"
    let capture' := order "\x7b\"id\": 2.5, \"tags\": [\"b\"]\x7d" "eyJvayI6IGZhbHNlfQ=="
    capture.Alike capture' ∧ capture ≠ capture'
      ∧ ∃ sdk s, generate Options.default capture = .ok (sdk, s)
        ∧ generate Options.default capture' = .ok (sdk, s) := by
  intro capture capture'
  have halike : capture.Alike capture' :=
    ⟨rfl, .cons ⟨alike_orderRequest, alike_orderResponse⟩ .nil⟩
  exact ⟨halike, by decide +kernel, generate_eq_of_alike halike Options.default⟩

end TypedTraffic
