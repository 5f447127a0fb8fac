import Mathlib.Data.List.TakeDrop
import Mathlib.Data.List.TakeWhile
import TypedTraffic.Proofs.Naming.Identifier
import TypedTraffic.Url.Basic

/-!
# How an absolute URL is written

An absolute URL is a scheme, a colon, two slashes, a host that can be
read, and what follows the host: nothing, or a path, a query and a
fragment. There is one way to take such a text apart, and reading a URL
finds it (`Spells.exists_parse_eq`); a URL that is read otherwise is not
absolute (`isAbsoluteUrl_iff`).

Scheme, host and path give the URL back as far as its query
(`givesBack_of_parse`), the scheme in lower case. The parameters of the
last segment are neither of these parts, so a URL with parameters is given
back up to the end of its host only.
-/

namespace TypedTraffic.Url

open Text

/-- **The parts of an absolute URL as it is written.** -/
structure Spells (cs scheme host rest : List Char) : Prop where
  /-- The parts make up the text. -/
  eq : cs = scheme ++ ':' :: '/' :: '/' :: (host ++ rest)
  /-- The scheme is one. -/
  isScheme : isScheme scheme = true
  /-- There is a host. -/
  ne_nil : host ≠ []
  /-- No character of the host ends it. -/
  inside : ∀ c ∈ host, endsAuthority c = false
  /-- What follows begins with a character that does, if anything
  follows. -/
  behind : ∀ c ∈ rest.head?, endsAuthority c = true
  /-- The host has no fault. -/
  readable : (bracketFault? host).or (lookalikeFault? host) = none

/-- What stands before the query and the fragment. -/
def beforeQuery (cs : List Char) : List Char := cs.takeWhile fun c => c ≠ '?' ∧ c ≠ '#'

/-- The path in what follows the host of a URL with the given scheme. -/
def pathIn (scheme rest : List Char) : List Char :=
  if schemesWithParameters.contains (String.ofList scheme) then
    (splitParameters (beforeQuery rest)).1
  else beforeQuery rest

/-! ## Where a part ends -/

section Parts

variable {p : Char → Bool} {part behind : List Char} (hpart : ∀ c ∈ part, p c = true)
  (hbehind : ∀ c ∈ behind.head?, p c = false)

include hpart hbehind

/-- A part ends where the first character stands that is not of its
kind. -/
theorem takeWhile_append_eq_left : (part ++ behind).takeWhile p = part := by
  have hstop : behind.takeWhile p = [] := by
    cases behind with
    | nil => rfl
    | cons c cs => rw [List.takeWhile_cons, hbehind c rfl]; rfl
  rw [List.takeWhile_append_of_pos hpart, hstop, List.append_nil]

theorem dropWhile_append_eq_right : (part ++ behind).dropWhile p = behind := by
  have hstop : behind.dropWhile p = behind := by
    cases behind with
    | nil => rfl
    | cons c cs => rw [List.dropWhile_cons, hbehind c rfl]; rfl
  rw [List.dropWhile_append_of_pos hpart, hstop]

end Parts

/-! ## The scheme -/

theorem isSchemeChar_of_mem {scheme : List Char} (h : isScheme scheme = true) :
    ∀ c ∈ scheme, isSchemeChar c = true := by
  cases scheme with
  | nil => exact fun c hc => absurd hc List.not_mem_nil
  | cons c cs =>
    obtain ⟨hc, hcs⟩ := Bool.and_eq_true_iff.mp h
    refine List.forall_mem_cons.mpr ⟨?_, List.all_eq_true.mp hcs⟩
    simp only [isSchemeChar, isAlphanumeric, hc, Bool.true_or]

theorem colon_not_mem_of_isScheme {scheme : List Char} (h : isScheme scheme = true) :
    ':' ∉ scheme := fun hmem => absurd (isSchemeChar_of_mem h _ hmem) (by decide)

theorem splitScheme_append {scheme : List Char} (h : isScheme scheme = true) (cs : List Char) :
    splitScheme (scheme ++ ':' :: cs) = (scheme.map Char.toLower, cs) := by
  rw [splitScheme, cut_append_cons (colon_not_mem_of_isScheme h)]
  simp only [h, if_true]

/-- A text with a scheme begins with it and a colon. -/
theorem exists_of_splitScheme {cs scheme rest : List Char} (h : splitScheme cs = (scheme, rest))
    (hne : scheme ≠ []) : ∃ written, isScheme written = true ∧ cs = written ++ ':' :: rest := by
  rw [splitScheme] at h
  split at h
  · rename_i written behind hcut
    split at h
    · rename_i hscheme
      cases h
      exact ⟨written, hscheme, eq_of_cut hcut⟩
    · cases h
      exact absurd rfl hne
  · cases h
    exact absurd rfl hne

/-! ## The host -/

theorem splitAuthority_append {host rest : List Char} (hinside : ∀ c ∈ host, endsAuthority c = false)
    (hbehind : ∀ c ∈ rest.head?, endsAuthority c = true) :
    splitAuthority ('/' :: '/' :: (host ++ rest)) = (host, rest) := by
  have hhost : ∀ c ∈ host, (!endsAuthority c) = true := fun c hc => by rw [hinside c hc]; rfl
  have hrest : ∀ c ∈ rest.head?, (!endsAuthority c) = false := fun c hc => by
    rw [hbehind c hc]; rfl
  rw [splitAuthority, List.span_eq_takeWhile_dropWhile, takeWhile_append_eq_left hhost hrest,
    dropWhile_append_eq_right hhost hrest]

/-- A text with a host begins with two slashes and the host. -/
theorem exists_of_splitAuthority {cs host rest : List Char}
    (h : splitAuthority cs = (host, rest)) (hne : host ≠ []) :
    cs = '/' :: '/' :: (host ++ rest) ∧ (∀ c ∈ host, endsAuthority c = false)
      ∧ ∀ c ∈ rest.head?, endsAuthority c = true := by
  unfold splitAuthority at h
  split at h
  · rename_i behind
    rw [List.span_eq_takeWhile_dropWhile] at h
    cases h
    refine ⟨by rw [List.takeWhile_append_dropWhile], fun c hc => ?_, fun c hc => ?_⟩
    · simpa using List.mem_takeWhile_imp hc
    · have hfirst := List.head?_dropWhile_not (fun c => !endsAuthority c) behind
      rw [Option.mem_def.mp hc] at hfirst
      simpa using hfirst
  · cases h
    exact absurd rfl hne

/-! ## The path -/

/-- Cutting off the fragment and then the query leaves what stands before
both. -/
theorem beforeQuery_eq (cs : List Char) :
    (cut '?' (cut '#' cs).1).1 = beforeQuery cs := by
  simp only [cut_eq, List.takeWhile_takeWhile]
  exact congrArg (List.takeWhile · cs) (funext fun c => by simp)

theorem beforeQuery_eq_self {cs : List Char} (h : ∀ c ∈ cs, c ≠ '?' ∧ c ≠ '#') :
    beforeQuery cs = cs :=
  List.takeWhile_eq_self_iff.mpr fun c hc => decide_eq_true (h c hc)

/-- A path is what stands before its last segment, and this. -/
theorem splitLastSegment_append (path : List Char) :
    (splitLastSegment path).1 ++ (splitLastSegment path).2 = path := by
  set folder := (path.reverse.dropWhile (· != '/')).reverse
  have hpath : folder ++ (path.reverse.takeWhile (· != '/')).reverse = path := by
    rw [← List.reverse_append, List.takeWhile_append_dropWhile, List.reverse_reverse]
  have hlength := congrArg List.length hpath
  rw [List.length_append] at hlength
  have htake : path.take (path.length - (path.reverse.takeWhile (· != '/')).reverse.length)
      = folder := by
    rw [← hlength, Nat.add_sub_cancel]
    exact (congrArg (List.take folder.length) hpath.symm).trans List.take_left
  rw [splitLastSegment]
  simp only [htake, hpath]

theorem mem_of_mem_splitLastSegment {c : Char} {path : List Char}
    (h : c ∈ (splitLastSegment path).2) : c ∈ path := by
  rw [← splitLastSegment_append path]
  exact List.mem_append_right _ h

/-- A path whose last segment has no semicolon has no parameters. -/
theorem splitParameters_of_not_mem {path : List Char} (h : ';' ∉ (splitLastSegment path).2) :
    splitParameters path = (path, []) := by
  rw [splitParameters]
  simp only [cut_of_not_mem h, splitLastSegment_append]
  rfl

/-- What follows the host, up to the query and the fragment, is the path,
if the scheme knows no parameters or the last segment has none. -/
theorem pathIn_eq {scheme rest : List Char}
    (h : String.ofList scheme ∈ schemesWithParameters →
      ';' ∉ (splitLastSegment (beforeQuery rest)).2) :
    pathIn scheme rest = beforeQuery rest := by
  rw [pathIn]
  split
  · rename_i hmem
    rw [splitParameters_of_not_mem (h (List.contains_iff_mem.mp hmem))]
  · rfl

/-- What follows the host is the path, if it has no query, no fragment
and no parameters. -/
theorem pathIn_eq_self (scheme : List Char) {rest : List Char}
    (h : ∀ c ∈ rest, c ≠ '?' ∧ c ≠ '#' ∧ c ≠ ';') : pathIn scheme rest = rest := by
  have hself := beforeQuery_eq_self fun c hc => ⟨(h c hc).1, (h c hc).2.1⟩
  rw [pathIn_eq, hself]
  intro _ hmem
  exact (h _ (hself ▸ mem_of_mem_splitLastSegment hmem)).2.2 rfl

/-! ## Reading an absolute URL -/

/-- **An absolute URL is read** as its parts, the scheme in lower case. -/
theorem Spells.exists_parse_eq {s : String} {scheme host rest : List Char}
    (h : Spells (cleaned s.toList) scheme host rest) :
    ∃ u, parse s = .ok u ∧ u.scheme = String.ofList (scheme.map Char.toLower)
      ∧ u.authority = String.ofList host
      ∧ u.path = String.ofList (pathIn (scheme.map Char.toLower) rest) := by
  have hparts : splitAuthority ('/' :: '/' :: (host ++ rest)) = (host, rest) :=
    splitAuthority_append h.inside h.behind
  rw [parse, h.eq, splitScheme_append h.isScheme]
  simp only [hparts, h.readable]
  refine ⟨_, rfl, rfl, rfl, ?_⟩
  simp only [pathIn, beforeQuery_eq]
  split <;> rfl

/-- What is read as an absolute URL is written as one. -/
theorem exists_spells {s : String} {u : Url} (h : parse s = .ok u)
    (habsolute : u.isAbsolute = true) :
    ∃ scheme host rest, Spells (cleaned s.toList) scheme host rest := by
  rw [parse] at h
  cases hscheme : splitScheme (cleaned s.toList) with
  | mk scheme behind =>
    cases hauthority : splitAuthority behind with
    | mk host rest =>
      simp only [hscheme, hauthority] at h
      split at h
      · cases h
      · rename_i hreadable
        cases h
        -- a scheme and a host that are read are not empty
        obtain ⟨hscheme_ne, hhost_ne⟩ : scheme ≠ [] ∧ host ≠ [] := by
          simpa [isAbsolute] using habsolute
        obtain ⟨written, hwritten, heq⟩ := exists_of_splitScheme hscheme hscheme_ne
        obtain ⟨rfl, hinside, hbehind⟩ := exists_of_splitAuthority hauthority hhost_ne
        exact ⟨written, host, rest, heq, hwritten, hhost_ne, hinside, hbehind, hreadable⟩

/-- **A URL is absolute** exactly if it is written as one. -/
theorem isAbsoluteUrl_iff {s : String} : isAbsoluteUrl s = true
    ↔ ∃ scheme host rest, Spells (cleaned s.toList) scheme host rest := by
  constructor
  · intro h
    rw [isAbsoluteUrl] at h
    split at h
    · rename_i u hparse
      exact exists_spells hparse h
    · cases h
  · rintro ⟨scheme, host, rest, h⟩
    obtain ⟨u, hparse, hscheme, hauthority, -⟩ := h.exists_parse_eq
    have hscheme_ne : scheme ≠ [] := by
      rintro rfl
      exact absurd h.isScheme (by decide)
    rw [isAbsoluteUrl, hparse]
    simp [isAbsolute, hscheme, hauthority, hscheme_ne, h.ne_nil]

/-! ## Longer URLs -/

/-- A text that is longer at its end is cleaned piece by piece, as long as
something of the first piece counts. -/
theorem cleaned_append {cs : List Char} (h : cleaned cs ≠ []) (ds : List Char) :
    cleaned (cs ++ ds)
      = cleaned cs ++ ds.filter fun c => c != '\t' && c != '\r' && c != '\n' := by
  rw [cleaned] at h ⊢
  have hne : cs.dropWhile (fun c => decide (c.toNat ≤ 0x20)) ≠ [] := fun hnil => h (by rw [hnil]; rfl)
  rw [List.dropWhile_append, if_neg (by simpa using hne), List.filter_append]
  rfl

theorem mem_of_mem_cleaned {c : Char} {cs : List Char} (h : c ∈ cleaned cs) : c ∈ cs :=
  (List.dropWhile_sublist _).mem (List.mem_of_mem_filter h)

/-- **A URL with a segment behind it** has the same scheme and host. -/
theorem Spells.append_segment {cs scheme host rest : List Char} (h : Spells cs scheme host rest)
    (segment : List Char) : Spells (cs ++ '/' :: segment) scheme host (rest ++ '/' :: segment) where
  eq := by rw [h.eq]; simp
  isScheme := h.isScheme
  ne_nil := h.ne_nil
  inside := h.inside
  behind := by
    cases rest with
    | nil =>
      rintro c ⟨⟩
      rfl
    | cons d ds => exact h.behind
  readable := h.readable

/-! ## The URL that origin and path make -/

/-- A text with what stands before its first colon in lower case. -/
def lowerScheme (cs : List Char) : List Char :=
  (cs.takeWhile (· ≠ ':')).map Char.toLower ++ cs.dropWhile (· ≠ ':')

/-- What stands behind the host of a URL: behind the colon and two slashes
it begins where a path, a query or a fragment does. -/
def behindHost (cs : List Char) : List Char :=
  ((cs.dropWhile (· ≠ ':')).drop 3).dropWhile fun c => !endsAuthority c

/-- A URL with the root path, if nothing follows its host. -/
def withRoot (cs : List Char) : List Char := cs ++ if behindHost cs = [] then ['/'] else []

/-- **Whether the last segment of a URL has parameters**: it has a
semicolon, and the scheme is one that knows parameters. -/
def HasParameters (cs : List Char) : Prop :=
  String.ofList (cs.takeWhile (· ≠ ':')) ∈ schemesWithParameters
    ∧ ';' ∈ (splitLastSegment (behindHost (beforeQuery cs))).2

theorem isSchemeChar_toLower {c : Char} (h : isSchemeChar c = true) :
    isSchemeChar c.toLower = true := by
  simp only [isSchemeChar, Bool.or_eq_true, beq_iff_eq] at h
  rcases h with ((h | rfl) | rfl) | rfl
  · simp only [isSchemeChar, Naming.isAlphanumeric_toLower h, Bool.true_or]
  all_goals decide

theorem isScheme_lower {scheme : List Char} (h : isScheme scheme = true) :
    isScheme (scheme.map Char.toLower) = true := by
  cases scheme with
  | nil => exact h
  | cons c cs =>
    obtain ⟨hc, hcs⟩ := Bool.and_eq_true_iff.mp h
    refine Bool.and_eq_true_iff.mpr ⟨Naming.isAlpha_toLower hc, List.all_eq_true.mpr ?_⟩
    rw [List.forall_mem_map]
    exact fun d hd => isSchemeChar_toLower (List.all_eq_true.mp hcs d hd)

namespace Spells

variable {cs scheme host rest : List Char} (h : Spells cs scheme host rest)

include h

/-- Nothing of the scheme is a colon. -/
theorem scheme_inside : ∀ c ∈ scheme, decide (c ≠ ':') = true := fun _ hc =>
  decide_eq_true fun heq => colon_not_mem_of_isScheme h.isScheme (heq ▸ hc)

theorem takeWhile_eq : cs.takeWhile (· ≠ ':') = scheme := by
  rw [h.eq]
  exact takeWhile_append_eq_left h.scheme_inside fun _ hc => by cases hc; rfl

theorem dropWhile_eq : cs.dropWhile (· ≠ ':') = ':' :: '/' :: '/' :: (host ++ rest) := by
  rw [h.eq]
  exact dropWhile_append_eq_right h.scheme_inside fun c hc => by cases hc; rfl

theorem behindHost_eq : behindHost cs = rest := by
  rw [behindHost, h.dropWhile_eq]
  exact dropWhile_append_eq_right (fun c hc => by rw [h.inside c hc]; rfl)
    fun c hc => by rw [h.behind c hc]; rfl

/-- **A URL with its scheme in lower case** is written with the same host. -/
theorem lower : Spells (lowerScheme cs) (scheme.map Char.toLower) host rest where
  eq := by rw [lowerScheme, h.takeWhile_eq, h.dropWhile_eq]
  isScheme := isScheme_lower h.isScheme
  ne_nil := h.ne_nil
  inside := h.inside
  behind := h.behind
  readable := h.readable

/-- Neither a query nor a fragment begins in front of what follows the
host. -/
theorem front_inside : ∀ c ∈ scheme ++ ':' :: '/' :: '/' :: host,
    decide (c ≠ '?' ∧ c ≠ '#') = true := by
  refine List.forall_mem_append.mpr ⟨fun c hc => decide_eq_true ⟨?_, ?_⟩, ?_⟩
  · rintro rfl
    exact absurd (isSchemeChar_of_mem h.isScheme _ hc) (by decide)
  · rintro rfl
    exact absurd (isSchemeChar_of_mem h.isScheme _ hc) (by decide)
  · simp only [List.forall_mem_cons]
    refine ⟨by decide, by decide, by decide, fun c hc => ?_⟩
    have hinside := h.inside c hc
    simp only [endsAuthority, Bool.or_eq_false_iff, beq_eq_false_iff_ne] at hinside
    exact decide_eq_true ⟨hinside.1.2, hinside.2⟩

/-- **A URL without query and fragment** is written with the same scheme
and host. -/
theorem cutQuery : Spells (beforeQuery cs) scheme host (beforeQuery rest) where
  eq := by
    have hfront : cs = (scheme ++ ':' :: '/' :: '/' :: host) ++ rest := by rw [h.eq]; simp
    rw [hfront, beforeQuery, List.takeWhile_append_of_pos h.front_inside, beforeQuery]
    simp
  isScheme := h.isScheme
  ne_nil := h.ne_nil
  inside := h.inside
  behind c hc := by
    rw [beforeQuery, List.head?_takeWhile] at hc
    exact h.behind c (Option.mem_filter_iff.mp hc).1
  readable := h.readable

end Spells

/-- **Origin and path that give a URL back.** -/
structure GivesBack (origin path : String) (cs : List Char) : Prop where
  /-- The origin is what stands up to the end of the host. -/
  front : origin.toList ++ behindHost cs = cs
  /-- Origin and path are what stands before the query and the fragment,
  with the root path if nothing follows the host, unless the last segment
  has parameters. -/
  whole : ¬ HasParameters cs → (origin ++ path).toList = withRoot (beforeQuery cs)

/-- **What is read of an absolute URL gives it back**, the scheme in lower
case. -/
theorem givesBack_of_parse {s : String} {u : Url} (h : parse s = .ok u)
    (habsolute : u.isAbsolute = true) :
    GivesBack u.origin u.pathOrRoot (lowerScheme (cleaned s.toList)) := by
  obtain ⟨scheme, host, rest, hspells⟩ := exists_spells h habsolute
  obtain ⟨v, hv, hscheme, hauthority, hpath⟩ := hspells.exists_parse_eq
  cases h.symm.trans hv
  have hlower := hspells.lower
  have horigin : u.origin.toList = scheme.map Char.toLower ++ ':' :: '/' :: '/' :: host := by
    rw [origin, hscheme, hauthority]
    simp
  refine ⟨?_, fun hnone => ?_⟩
  · rw [hlower.behindHost_eq, horigin, hlower.eq]
    simp
  · have hpathIn : pathIn (scheme.map Char.toLower) rest = beforeQuery rest := pathIn_eq fun hmem => by
      rw [HasParameters, hlower.takeWhile_eq, hlower.cutQuery.behindHost_eq] at hnone
      exact fun hsemicolon => hnone ⟨hmem, hsemicolon⟩
    rw [hpathIn] at hpath
    rw [withRoot, hlower.cutQuery.behindHost_eq, hlower.cutQuery.eq, pathOrRoot, hpath,
      String.toList_append, horigin]
    cases beforeQuery rest <;> simp

end TypedTraffic.Url
