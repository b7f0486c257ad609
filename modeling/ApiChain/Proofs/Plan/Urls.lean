import ApiChain.Proofs.Config.Identifiers
import ApiChain.Proofs.Template.Pieces
import ApiChain.Plan
import Mathlib.Data.List.DropRight

/-!
# Where requests go

The URL of a request is absolute: it starts with `http://` or `https://`, or else with a host that
brings a scheme of its own. A definition may leave the host out if its URL is absolute as written. The
URL is filled and trimmed after that was checked; but a hole starts with a brace and a scheme has none,
so the scheme at the start stays.

* **`isAbsoluteChars_iff`**: an absolute text is blanks, a scheme and a rest;
* **`isAbsoluteChars_fillChars`**: filling keeps it absolute;
* **`composeUrlChars_cases`** says how the URL of a host and a path starts, and
  **`composeUrlChars_absolute`** that an absolute path needs no host;
* **`requests_absolute`** is what follows for the requests of a definition.
-/

namespace ApiChain

/-! ## Trimmed texts -/

namespace Text

/-- Trimming stops at a character that is no blank. -/
theorem trimEnd_append {p : List Char} (h : ∀ c ∈ p, isBlank c = false) (rest : List Char) :
    trimEnd (p ++ rest) = p ++ trimEnd rest := by
  have hp : p.reverse.dropWhile isBlank = p.reverse := by
    rw [List.dropWhile_eq_self_iff]
    intro hlength
    simp [h]
  rw [trimEnd, trimEnd, List.reverse_append, List.dropWhile_append, hp]
  split
  · rename_i hrest
    simp [List.isEmpty_iff.mp hrest]
  · simp

/-- A trimmed text starts with no blank. -/
theorem trimStart_trim (s : List Char) : trimStart (trim s) = trim s := by
  rw [trim]
  cases ht : trimStart s with
  | nil => rfl
  | cons c rest =>
    have hc : isBlank c = false := by
      have hhead := List.head?_dropWhile_not isBlank s
      rw [← trimStart, ht] at hhead
      exact hhead
    have hkept : trimEnd (c :: rest) = c :: trimEnd rest :=
      trimEnd_append (p := [c]) (by simpa using hc) rest
    rw [hkept, trimStart, List.dropWhile_cons_of_neg (by simp [hc])]

/-- A blank is no letter, so it is its own lower case. -/
theorem toLower_of_isBlank {c : Char} (h : isBlank c = true) : c.toLower = c := by
  unfold Char.toLower
  split
  · rename_i hupper
    have hlow : 65 ≤ c.toNat := UInt32.le_iff_toNat_le.mp hupper.1
    have hhigh : c.toNat ≤ 90 := UInt32.le_iff_toNat_le.mp hupper.2
    simp only [isBlank, Bool.or_eq_true, Bool.and_eq_true, decide_eq_true_eq, beq_iff_eq] at h
    omega
  · rfl

end Text

/-! ## Schemes -/

/-- The scheme of a web address with the slashes behind it, in letters of either case. -/
def IsScheme (p : List Char) : Prop :=
  Text.asciiLower p = "http://".toList ∨ Text.asciiLower p = "https://".toList

/-- The text starts with `http://` or `https://`. -/
def StartsAbsolute (s : List Char) : Prop := ∃ scheme, IsScheme scheme ∧ scheme <+: s

namespace IsScheme

variable {p : List Char}

theorem ne_nil (h : IsScheme p) : p ≠ [] := by
  rintro rfl
  rcases h with h | h <;> exact absurd h (by decide)

/-- A scheme has neither blanks nor opening braces. -/
theorem not_blank_of_mem (h : IsScheme p) {c : Char} (hc : c ∈ p) :
    Text.isBlank c = false ∧ c ≠ '{' := by
  have hletters : ("http://".toList ++ "https://".toList).all
      (fun x => !Text.isBlank x && x != '{') = true := by decide
  have hlower : c.toLower ∈ Text.asciiLower p := List.mem_map_of_mem hc
  have hmem : c.toLower ∈ "http://".toList ++ "https://".toList := by
    rcases h with h | h
    · exact List.mem_append_left _ (h ▸ hlower)
    · exact List.mem_append_right _ (h ▸ hlower)
  have hletter := List.all_eq_true.mp hletters _ hmem
  simp only [Bool.and_eq_true, Bool.not_eq_true', bne_iff_ne] at hletter
  obtain ⟨hblank, hbrace⟩ := hletter
  constructor
  · cases hc : Text.isBlank c with
    | false => rfl
    | true => rw [← Text.toLower_of_isBlank hc, hblank] at hc; exact hc.symm
  · rintro rfl
    exact hbrace rfl

end IsScheme

/-! ## Absolute texts -/

theorem isAbsoluteChars_eq_true_iff (s : List Char) :
    isAbsoluteChars s = true ↔ StartsAbsolute (Text.trimStart s) := by
  have hprefix : ∀ word t : List Char, word <+: Text.asciiLower t ↔
      ∃ scheme, Text.asciiLower scheme = word ∧ scheme <+: t := by
    intro word t
    constructor
    · rintro ⟨rest, hrest⟩
      obtain ⟨scheme, tail, rfl, hscheme, -⟩ := List.map_eq_append_iff.mp hrest.symm
      exact ⟨scheme, hscheme, List.prefix_append _ _⟩
    · rintro ⟨scheme, rfl, tail, rfl⟩
      exact ⟨Text.asciiLower tail, List.map_append.symm⟩
  rw [isAbsoluteChars, Bool.or_eq_true, List.isPrefixOf_iff_prefix, List.isPrefixOf_iff_prefix,
    hprefix, hprefix]
  constructor
  · rintro (⟨scheme, hscheme, hstart⟩ | ⟨scheme, hscheme, hstart⟩)
    · exact ⟨scheme, .inl hscheme, hstart⟩
    · exact ⟨scheme, .inr hscheme, hstart⟩
  · rintro ⟨scheme, hscheme | hscheme, hstart⟩
    · exact .inl ⟨scheme, hscheme, hstart⟩
    · exact .inr ⟨scheme, hscheme, hstart⟩

theorem trimStart_append {blanks scheme : List Char} (hblanks : ∀ c ∈ blanks, Text.isBlank c = true)
    (hscheme : IsScheme scheme) (rest : List Char) :
    Text.trimStart (blanks ++ (scheme ++ rest)) = scheme ++ rest := by
  rw [Text.trimStart, List.dropWhile_append_of_pos hblanks]
  cases scheme with
  | nil => exact absurd rfl hscheme.ne_nil
  | cons c more =>
    have hc := (hscheme.not_blank_of_mem List.mem_cons_self).1
    rw [List.cons_append, List.dropWhile_cons_of_neg (by simp [hc])]

/-- An absolute text is blanks, a scheme and a rest. -/
theorem isAbsoluteChars_iff (s : List Char) :
    isAbsoluteChars s = true ↔ ∃ blanks scheme rest, s = blanks ++ (scheme ++ rest) ∧
      (∀ c ∈ blanks, Text.isBlank c = true) ∧ IsScheme scheme := by
  rw [isAbsoluteChars_eq_true_iff]
  constructor
  · rintro ⟨scheme, hscheme, rest, hrest⟩
    refine ⟨s.takeWhile Text.isBlank, scheme, rest, ?_, ?_, hscheme⟩
    · rw [hrest, Text.trimStart, List.takeWhile_append_dropWhile]
    · exact fun c hc => List.mem_takeWhile_imp hc
  · rintro ⟨blanks, scheme, rest, rfl, hblanks, hscheme⟩
    rw [trimStart_append hblanks hscheme]
    exact ⟨scheme, hscheme, List.prefix_append _ _⟩

/-- Filling an absolute text keeps it absolute: the holes are in the rest. -/
theorem isAbsoluteChars_fillChars (payload : Json) (api : String) {s : List Char}
    (h : isAbsoluteChars s = true) :
    isAbsoluteChars (Template.fillChars payload api s) = true := by
  obtain ⟨blanks, scheme, rest, rfl, hblanks, hscheme⟩ := (isAbsoluteChars_iff s).mp h
  have hnone : '{' ∉ blanks ++ scheme := by
    intro hmem
    rcases List.mem_append.mp hmem with hmem | hmem
    · exact absurd (hblanks _ hmem) (by decide)
    · exact (hscheme.not_blank_of_mem hmem).2 rfl
  rw [← List.append_assoc, Template.fillChars_append_of_quiet payload api
    (Template.quiet_of_notMem hnone rest), List.append_assoc]
  exact (isAbsoluteChars_iff _).mpr ⟨blanks, scheme, _, rfl, hblanks, hscheme⟩

/-- Trimming an absolute text leaves a scheme at its start. -/
theorem startsAbsolute_trim {s : List Char} (h : isAbsoluteChars s = true) :
    StartsAbsolute (Text.trim s) := by
  obtain ⟨blanks, scheme, rest, rfl, hblanks, hscheme⟩ := (isAbsoluteChars_iff s).mp h
  have hkept := Text.trimEnd_append (fun c hc => (hscheme.not_blank_of_mem hc).1) rest
  rw [Text.trim, trimStart_append hblanks hscheme, hkept]
  exact ⟨scheme, hscheme, List.prefix_append _ _⟩

/-! ## URLs -/

/-- The text of a host: no blanks around it, and no slashes at its end. -/
def hostText (host : List Char) : List Char := (Text.trim host).rdropWhile (· == '/')

/-- The URL for an absolute path is the path, whatever the host is. -/
theorem composeUrlChars_absolute {path : List Char} (h : isAbsoluteChars path = true)
    (host : List Char) :
    composeUrlChars host path = Text.trim path ∧ StartsAbsolute (Text.trim path) := by
  have hstarts := startsAbsolute_trim h
  have htrimmed : isAbsoluteChars (Text.trim path) = true := by
    rwa [isAbsoluteChars_eq_true_iff, Text.trimStart_trim]
  exact ⟨by simp only [composeUrlChars, htrimmed, if_true], hstarts⟩

/-- A URL starts with a scheme, or with a host that brings one. -/
theorem composeUrlChars_cases (host path : List Char) :
    StartsAbsolute (composeUrlChars host path) ∨
      "://".toList <:+: hostText host ∧ hostText host <+: composeUrlChars host path := by
  by_cases htrimmed : isAbsoluteChars (Text.trim path) = true
  · left
    simp only [composeUrlChars, htrimmed, if_true]
    rwa [isAbsoluteChars_eq_true_iff, Text.trimStart_trim] at htrimmed
  · -- the path follows the host, perhaps behind a slash
    have hbase : ∃ rest, composeUrlChars host path
        = (if Text.occursIn [':', '/', '/'] (hostText host) then hostText host
            else "https://".toList ++ hostText host) ++ rest := by
      rw [Bool.not_eq_true] at htrimmed
      simp only [composeUrlChars, htrimmed, Bool.false_eq_true, if_false]
      split
      · exact ⟨[], (List.append_nil _).symm⟩
      · exact ⟨_, rfl⟩
      · exact ⟨_, rfl⟩
      · exact ⟨_, rfl⟩
    obtain ⟨rest, hrest⟩ := hbase
    rw [hrest]
    split
    · rename_i hbrings
      exact .inr ⟨(Text.occursIn_iff _ _).mp hbrings, List.prefix_append _ _⟩
    · rw [List.append_assoc]
      exact .inl ⟨"https://".toList, .inr (by decide), List.prefix_append _ _⟩

/-! ## Requests -/

/-- An absolute path gives the same request for every host. -/
theorem Definition.assemble_withHost (d : Definition) (host : String) {path : String}
    (h : isAbsoluteChars path.toList = true) (parameters : Members) (body : Option Json) :
    { d with host }.assemble path parameters body = d.assemble path parameters body := by
  have hurl : composeUrl host path = composeUrl d.host path := by
    rw [composeUrl, composeUrl, (composeUrlChars_absolute h host.toList).1,
      (composeUrlChars_absolute h d.host.toList).1]
  simp only [assemble, hurl]

namespace Plan

/-- A request is the one as written, or one with its holes filled. -/
theorem eq_request_of_mem {d : Definition} {store : Store} {r : Request}
    (h : r ∈ (of d store).requests) :
    r = d.plainRequest ∨ ∃ payload dependency, r = d.filledRequest dependency payload := by
  rw [of] at h
  cases hbasis : d.basis store with
  | independent =>
    rw [hbasis] at h
    exact .inl (List.mem_singleton.mp h)
  | nothingStored dependency =>
    rw [hbasis] at h
    exact .inl (List.mem_singleton.mp h)
  | whole dependency payload =>
    rw [hbasis] at h
    exact .inr ⟨payload, dependency, List.mem_singleton.mp h⟩
  | each dependency elements =>
    rw [hbasis] at h
    obtain ⟨e, -, rfl⟩ := List.mem_map.mp h
    exact .inr ⟨Definition.elementView e, dependency, rfl⟩

/-- The path of a request is the definition's URL, as written or filled. -/
theorem exists_path_of_mem_requests {d : Definition} {store : Store} {r : Request}
    (h : r ∈ (of d store).requests) :
    ∃ path, r.url = composeUrl d.host path ∧
      (path = d.url ∨ ∃ payload dependency, path = Template.fill payload dependency d.url) := by
  rcases eq_request_of_mem h with rfl | ⟨payload, dependency, rfl⟩
  · exact ⟨d.url, by rw [Definition.plainRequest, Definition.assemble], .inl rfl⟩
  · refine ⟨Template.fill payload dependency d.url, ?_, .inr ⟨payload, dependency, rfl⟩⟩
    rw [Definition.filledRequest, Definition.assemble]

variable {d : Definition} (h : d.hasAbsoluteUrl = true)
include h

theorem absolute_fill (payload : Json) (dependency : String) :
    isAbsoluteChars (Template.fill payload dependency d.url).toList = true := by
  rw [Template.toList_fill]
  exact isAbsoluteChars_fillChars payload dependency h

/-- A definition with an absolute URL plans the same requests for every host. -/
theorem of_withHost (host : String) (store : Store) : of { d with host } store = of d store := by
  have hplain : { d with host }.plainRequest = d.plainRequest :=
    d.assemble_withHost host h d.parameters d.body
  have hfilled : ∀ dependency payload,
      { d with host }.filledRequest dependency payload = d.filledRequest dependency payload := by
    intro dependency payload
    exact d.assemble_withHost host (absolute_fill h payload dependency) _ _
  have hbasis : { d with host }.basis store = d.basis store := rfl
  rw [of, of, hbasis]
  cases d.basis store with
  | independent => rw [ofBasis, ofBasis, hplain]
  | nothingStored dependency => rw [ofBasis, ofBasis, hplain]
  | whole dependency payload => rw [ofBasis, ofBasis, hfilled]
  | each dependency elements => simp only [ofBasis, hfilled]

theorem startsAbsolute_of_hasAbsoluteUrl {store : Store} {r : Request}
    (hr : r ∈ (of d store).requests) : StartsAbsolute r.url.toList := by
  obtain ⟨path, hurl, hpath⟩ := exists_path_of_mem_requests hr
  have habsolute : isAbsoluteChars path.toList = true := by
    rcases hpath with rfl | ⟨payload, dependency, rfl⟩
    · exact h
    · exact absolute_fill h payload dependency
  obtain ⟨hcompose, hstarts⟩ := composeUrlChars_absolute habsolute d.host.toList
  rwa [hurl, composeUrl, String.toList_ofList, hcompose]

omit h

/-- **Requests go to absolute URLs.** A request of a definition starts with `http://` or `https://`, or
else its host brings a scheme of its own and the request starts with the host. A definition with an
absolute URL plans the same requests for every host, whatever fills its holes, and they start with
`http://` or `https://`. In a checked configuration this is so for every definition without a host. -/
theorem requests_absolute :
    (∀ (d : Definition) (store : Store), ∀ r ∈ (of d store).requests,
      StartsAbsolute r.url.toList ∨
        "://".toList <:+: hostText d.host.toList ∧ hostText d.host.toList <+: r.url.toList) ∧
    (∀ d : Definition, d.hasAbsoluteUrl = true → ∀ store : Store,
      (∀ host : String, of { d with host } store = of d store) ∧
        ∀ r ∈ (of d store).requests, StartsAbsolute r.url.toList) ∧
    ∀ c : Config, c.check.2 = none → ∀ d ∈ c.definitions,
      Text.allBlank d.host = true → d.hasAbsoluteUrl = true := by
  refine ⟨?_, ?_, ?_⟩
  · intro d store r hr
    obtain ⟨path, hurl, -⟩ := exists_path_of_mem_requests hr
    rw [hurl, composeUrl, String.toList_ofList]
    exact composeUrlChars_cases d.host.toList path.toList
  · intro d h store
    exact ⟨fun host => of_withHost h host store, fun r hr => startsAbsolute_of_hasAbsoluteUrl h hr⟩
  · intro c hcheck d hd hblank
    rcases (Config.complete_of_check hcheck hd).2 with habsolute | hhost
    · exact habsolute
    · exact absurd hblank (by simp [hhost])

/-- Looks a page up where the index says, and has no host of its own. -/
def page : Definition :=
  (Definition.basic "page" .get " " " HTTPS://{{index.site}}/p").withPrevious "index"

/-- The index names a site by a whole address. -/
def index : Store := ⟨[("index", .object [("site", .string "http://a.test")])]⟩

/-- What fills the hole is an address itself, and the request still goes where the scheme of the page
says, with and without a host. -/
theorem requests_absolute_page :
    (Config.ofDefinitions [page]).check.2 = none ∧ page.hasAbsoluteUrl = true ∧
      of { page with host := "ftp://b.test" } index = of page index ∧
      ∃ r, (of page index).requests = [r] ∧ r.url = "HTTPS://http://a.test/p" ∧
        StartsAbsolute r.url.toList := by
  obtain ⟨-, habsolute, hchecked⟩ := requests_absolute
  have hcheck : (Config.ofDefinitions [page]).check.2 = none := by decide
  have hpage := hchecked _ hcheck page List.mem_cons_self (by decide)
  obtain ⟨hsame, hstarts⟩ := habsolute page hpage index
  have hurl : ((of page index).requests.map (·.url)) = ["HTTPS://http://a.test/p"] := by decide +kernel
  obtain ⟨r, hr, hwhere⟩ := List.map_eq_singleton_iff.mp hurl
  exact ⟨hcheck, hpage, hsame _, r, hr, hwhere, hstarts r (hr ▸ List.mem_cons_self)⟩

end Plan

end ApiChain
