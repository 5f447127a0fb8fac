import TypedTraffic.Proofs.Endpoint.Meeting
import TypedTraffic.Proofs.Session.Placed
import TypedTraffic.Proofs.Url.Absolute

/-!
# Where functions call

The function of an endpoint puts its path behind its origin. Both are read
from the URL of the first exchange of its group, which is absolute. So
origin and path together are that URL as far as its query, the scheme in
lower case, with the root path if it has none (`givesBack_run`), as long as
its last segment has no parameters.

The URL is meant as it is read: without the controls and blanks in front of
it, and without tabs and line ends. As it is written it is not called, and
neither is a URL with parameters (`not_calledAsWritten`).
-/

namespace TypedTraffic

/-- An exchange that belongs to an endpoint has an absolute URL. -/
theorem Exchange.exists_absolute_of_endpoint? {e : Exchange} {endpoint : String × String}
    (h : e.endpoint? = some endpoint) :
    ∃ u, Url.parse e.request.url = .ok u ∧ u.isAbsolute = true := by
  obtain ⟨u, hu, -⟩ := Option.map_eq_some_iff.mp h
  unfold Exchange.absoluteUrl? at hu
  split at hu
  · rename_i v hparse
    split at hu
    · rename_i habsolute
      exact ⟨v, hparse, habsolute⟩
    · cases hu
  · cases hu

/-- The first URL of a group as it is read, the scheme in lower case. -/
def EndpointGroup.calledUrl (g : EndpointGroup) : List Char :=
  Url.lowerScheme (Url.cleaned g.firstUrl.toList)

namespace Session

variable {standIns : Text.StandIns}

/-- **Binding a group** makes a function with the origin and the path of
its first URL. -/
theorem givesBack_of_bind {s t : Session} {g : EndpointGroup} {b : Binding}
    (h : s.bind standIns g = .ok (b, t)) {first : Exchange} {rest : List Exchange}
    (hfirst : g.exchanges = first :: rest) {u : Url} (hu : Url.parse first.request.url = .ok u)
    (habsolute : u.isAbsolute = true) : Url.GivesBack b.origin b.path g.calledUrl := by
  obtain ⟨hat, -⟩ := isAt_of_bind h hfirst hu
  have hurl : g.firstUrl = first.request.url := by rw [EndpointGroup.firstUrl, hfirst]
  rw [EndpointGroup.calledUrl, hurl, hat.origin, hat.path]
  exact Url.givesBack_of_parse hu habsolute

/-- **What binding one group makes** binding several makes of each of
them, in order. -/
theorem forall₂_of_bindAll {r : EndpointGroup → Binding → Prop} {gs : List EndpointGroup}
    (hr : ∀ g ∈ gs, ∀ {s t : Session} {b : Binding},
      s.bind standIns g = .ok (b, t) → r g b)
    {s t : Session} {bs : List Binding} (h : s.bindAll standIns gs = .ok (bs, t)) :
    List.Forall₂ r gs bs := by
  induction gs generalizing s bs with
  | nil =>
    cases h
    exact .nil
  | cons g gs ih =>
    obtain ⟨b, bs', s₁, rfl, hbind, hrest⟩ := exists_of_bindAll_cons h
    exact .cons (hr g List.mem_cons_self hbind)
      (ih (fun p hp => hr p (List.mem_cons_of_mem _ hp)) hrest)

end Session

/-- **Functions call the URLs of a capture.** A run, from whatever session
it starts, has one binding for each group, in order, whose origin and path
give the first URL of the group back. -/
theorem givesBack_run (s : Session) (capture : Capture) :
    ∃ sdk final, s.run capture = .ok (sdk, final)
      ∧ List.Forall₂ (fun g b => Url.GivesBack b.origin b.path g.calledUrl)
          (groupExchanges capture.exchanges) sdk.bindings := by
  obtain ⟨sdk, final, hrun, hbindAll, -⟩ := s.exists_run_eq capture
  refine ⟨sdk, final, hrun, Session.forall₂_of_bindAll (fun g hg s t b hbind => ?_) hbindAll⟩
  obtain ⟨first, rest, hfirst, hendpoint⟩ := exists_first_of_mem_groupExchanges hg
  obtain ⟨u, hu, habsolute⟩ := Exchange.exists_absolute_of_endpoint? hendpoint
  exact Session.givesBack_of_bind hbind hfirst hu habsolute

/-! ## URLs that are not called as they are written -/

/-- The first URL of a group as it is written, but for tabs and line ends,
the scheme in lower case. -/
def EndpointGroup.writtenUrl (g : EndpointGroup) : List Char :=
  Url.lowerScheme (g.firstUrl.toList.filter fun c => c != '\t' && c != '\r' && c != '\n')

/-- **Whether a capture is called as it is written**: in every run over it
origin and path are the first URL of the group up to the query and the
fragment, with the root path if nothing follows the host. -/
def Capture.CalledAsWritten (capture : Capture) : Prop :=
  ∀ (options : Options) (sdk : Session.Sdk) (s : Session),
    generate options capture = .ok (sdk, s) →
      sdk.bindings.map (fun b => (b.origin ++ b.path).toList)
        = (groupExchanges capture.exchanges).map fun g =>
            Url.withRoot (Url.beforeQuery g.writtenUrl)

theorem Capture.CalledAsWritten.generate_eq {capture : Capture} (h : capture.CalledAsWritten)
    (options : Options) :
    (generate options capture).map
        (fun p => p.1.bindings.map fun b => (b.origin ++ b.path).toList)
      = .ok ((groupExchanges capture.exchanges).map fun g =>
          Url.withRoot (Url.beforeQuery g.writtenUrl)) := by
  obtain ⟨sdk, s, hrun, -⟩ := (Session.start options).exists_run_eq capture
  have hgenerate : generate options capture = .ok (sdk, s) := hrun
  rw [hgenerate]
  exact congrArg Except.ok (h options sdk s hgenerate)

/-- A capture of one exchange whose URL has a blank in front. -/
def indented : Capture := ⟨none, [⟨⟨"GET", " https://h.io/a", [], none⟩, Response.default⟩]⟩

/-- A capture of one exchange whose URL has parameters. -/
def versioned : Capture := ⟨none, [⟨⟨"GET", "https://h.io/b;v=1", [], none⟩, Response.default⟩]⟩

/-- **Blanks and parameters are not called**: a blank in front of the URL is
no part of the origin, and parameters are no part of the path. -/
theorem not_calledAsWritten : ¬ indented.CalledAsWritten ∧ ¬ versioned.CalledAsWritten :=
  ⟨fun h => absurd (h.generate_eq Options.default) (by decide +kernel),
    fun h => absurd (h.generate_eq Options.default) (by decide +kernel)⟩

end TypedTraffic
