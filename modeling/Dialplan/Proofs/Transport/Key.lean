import Dialplan.Proofs.Transport.Destination
import Dialplan.Proofs.Url.Segments

/-! What becomes of a key in the address of its application. It is written into the path as it is,
so that the address may be read in another way. The revision of the protocol is the query exactly
if the key has no query and no fragment of its own, and the path names the key exactly if the key
is whole (`OpenRequest.carries_key`). A key with a fragment takes the revision along
(`OpenRequest.fragment_takes_revision`). -/

namespace Dialplan

open Percent Url

namespace Url

variable {front query : List Char}

theorem pathPart_append : pathPart (front ++ '?' :: query) = front.takeWhile inPathPart := by
  have hstop : ('?' :: query).takeWhile inPathPart = [] := rfl
  rw [pathPart, List.takeWhile_append, hstop, List.append_nil]
  split
  · rename_i h
    have hfront := List.takeWhile_prefix (l := front) inPathPart
    exact (hfront.eq_of_length h).symm
  · rfl

theorem extras_append :
    extras (front ++ '?' :: query) = front.dropWhile inPathPart ++ '?' :: query := by
  have hstop : ('?' :: query).dropWhile inPathPart = '?' :: query := rfl
  rw [extras, List.dropWhile_append, hstop]
  split
  · rename_i h
    rw [List.isEmpty_iff.mp h]
    rfl
  · rfl

theorem dropWhile_inPathPart_eq_nil_iff :
    front.dropWhile inPathPart = [] ↔ '?' ∉ front ∧ '#' ∉ front := by
  rw [List.dropWhile_eq_nil_iff]
  constructor
  · intro h
    exact ⟨fun hmem => absurd (h _ hmem) (by decide), fun hmem => absurd (h _ hmem) (by decide)⟩
  · rintro ⟨hquery, hfragment⟩ c hc
    rw [inPathPart, Bool.and_eq_true, bne_iff_ne, bne_iff_ne]
    exact ⟨fun h => hquery (h ▸ hc), fun h => hfragment (h ▸ hc)⟩

theorem fragmentPart?_eq_none_iff {text : List Char} : fragmentPart? text = none ↔ '#' ∉ text := by
  rw [fragmentPart?]
  split
  · rename_i h
    exact iff_of_false (Option.some_ne_none _) (not_not.mpr (List.contains_iff_mem.mp h))
  · rename_i h
    exact iff_of_true rfl fun hmem => h (List.contains_iff_mem.mpr hmem)

theorem queryPart?_of_not_mem {text : List Char} (h : '#' ∉ text) :
    queryPart? text =
      if text.head? = some '?' then some (encode inQuery (text.drop 1)) else none := by
  have hall : text.takeWhile (· != '#') = text := by
    rw [List.takeWhile_eq_self_iff]
    exact fun c hc => bne_iff_ne.mpr fun heq => h (heq ▸ hc)
  rw [queryPart?, hall]

/-- A query without a fragment is found again exactly if neither begins in front of it. -/
theorem extras_eq_iff (front : List Char) (hquery : '#' ∉ query) :
    (queryPart? (extras (front ++ '?' :: query)) = some (encode inQuery query) ∧
      fragmentPart? (extras (front ++ '?' :: query)) = none) ↔ '?' ∉ front ∧ '#' ∉ front := by
  rw [← dropWhile_inPathPart_eq_nil_iff, extras_append, fragmentPart?_eq_none_iff]
  constructor
  · rintro ⟨hfound, hnone⟩
    rw [queryPart?_of_not_mem hnone] at hfound
    split at hfound
    · cases hfront : front.dropWhile inPathPart with
      | nil => rfl
      | cons c rest =>
        -- the query would be longer than the one that is looked for
        rw [hfront] at hfound
        have hlength := congrArg List.length (Option.some.inj hfound)
        have hself : query = rest ++ '?' :: query :=
          eq_of_length_encode ((List.sublist_cons_self _ _).trans (List.sublist_append_right _ _))
            hlength.le
        have hlt := congrArg List.length hself
        rw [List.length_append, List.length_cons] at hlt
        omega
    · cases hfound
  · intro h
    have hnone : '#' ∉ '?' :: query := by
      rw [List.mem_cons, not_or]
      exact ⟨by decide, hquery⟩
    rw [h, List.nil_append, queryPart?_of_not_mem hnone]
    exact ⟨rfl, hnone⟩

end Url

namespace OpenRequest

variable {request : OpenRequest} {host : String} {url : Url}

/-- A host, with a port or without: it is something, and the authority does not end within it. -/
structure PlainHost (host : List Char) : Prop where
  ne_slashes : (unbroken host).dropWhile Path.isSlash ≠ []
  not_closed : ¬ Closed (unbroken host)

/-- A key that nothing is read into. -/
structure Whole (key : List Char) : Prop where
  plain : ∀ c ∈ key, isBreak c = false ∧ inPathPart c = true
  upright : '\\' ∉ key
  /-- No part of it between slashes stands for the path itself or leads up from there. -/
  still : ∀ segment ∈ key.splitOnP Path.isSlash, Path.isStep segment = false

/-- The segment below which keys stand. -/
def app : List Char := ['a', 'p', 'p']

def revision : List Char := "protocol=7".toList

theorem applicationPath_of_none (h : request.option? "path" = none) :
    request.applicationPath.toList =
      Path.below app (request.key.getD "").toList ++ '?' :: revision := by
  have hfront : "/app/".toList = '/' :: (app ++ ['/']) := by decide
  have hback : "?protocol=7".toList = '?' :: revision := by decide
  rw [applicationPath, h, Option.getD_none, String.toList_append, String.toList_append, hfront,
    hback, Path.below, List.cons_append, List.append_assoc, List.singleton_append]

/-- What counts of an address behind its host, when it is made from a key. -/
def behind (key : List Char) : List Char := Path.below app (unbroken key) ++ '?' :: revision

theorem counted_application (host key : List Char) :
    counted (host ++ (Path.below app key ++ '?' :: revision)) = unbroken host ++ behind key := by
  have hkey : unbroken (Path.below app key) = Path.below app (unbroken key) := rfl
  have hmark : ¬ ∀ c ∈ '?' :: revision, isBlank c = true :=
    fun h => absurd (h '?' List.mem_cons_self) (by decide)
  have hback : counted ('?' :: revision) = '?' :: revision := by decide
  rw [← List.append_assoc, counted_append _ hmark, hback, unbroken_append, hkey,
    List.append_assoc, behind]

/-- The address of an application, part by part. -/
theorem url_application (hpath : request.option? "path" = none) (hhost : request.host = .ok host)
    (hplain : PlainHost host.toList) (h : request.url request.applicationPath = .ok url) :
    url.path = Path.segments (pathPart (behind (request.key.getD "").toList)) ∧
      url.query = queryPart? (extras (behind (request.key.getD "").toList)) ∧
      url.fragment = fragmentPart? (extras (behind (request.key.getD "").toList)) := by
  have hends : ∀ key, Ends (behind key) := by
    rintro key _ ⟨⟩
    rfl
  rw [url_eq_ok_iff hhost, parse_opening, applicationPath_of_none hpath, counted_application,
    readRest_eq_ok_iff] at h
  obtain ⟨place, -, rfl⟩ := h
  have hremainder := remainder_append_of_open hplain.ne_slashes hplain.not_closed
    (hends (request.key.getD "").toList)
  exact ⟨congrArg (fun text => Path.segments (pathPart text)) hremainder,
    congrArg (fun text => queryPart? (extras text)) hremainder,
    congrArg (fun text => fragmentPart? (extras text)) hremainder⟩

/-! ### Revisions -/

theorem mem_below_unbroken {c : Char} (happ : c ∉ Path.below app []) (hbreak : isBreak c = false)
    {key : List Char} : c ∈ Path.below app (unbroken key) ↔ c ∈ key := by
  have hsplit : Path.below app (unbroken key) = Path.below app [] ++ unbroken key := rfl
  rw [hsplit, List.mem_append, or_iff_right happ, unbroken, List.mem_filter, hbreak]
  exact and_iff_left rfl

/-- The revision is found again exactly behind a key without a query and a fragment. -/
theorem revision_iff {key : List Char} :
    (queryPart? (extras (behind key)) = some revision ∧
      fragmentPart? (extras (behind key)) = none) ↔ '?' ∉ key ∧ '#' ∉ key := by
  have hself : encode inQuery revision = revision := by decide
  have hquery : '?' ∈ Path.below app (unbroken key) ↔ '?' ∈ key :=
    mem_below_unbroken (by decide) rfl
  have hfragment : '#' ∈ Path.below app (unbroken key) ↔ '#' ∈ key :=
    mem_below_unbroken (by decide) rfl
  have hplain : '#' ∉ revision := by decide
  have hfound := extras_eq_iff (Path.below app (unbroken key)) hplain
  rwa [hself, hquery, hfragment] at hfound

/-! ### Paths -/

theorem takeWhile_unbroken_eq_iff {key : List Char} :
    (unbroken key).takeWhile inPathPart = key ↔
      ∀ c ∈ key, isBreak c = false ∧ inPathPart c = true := by
  constructor
  · intro h c hc
    rw [← h] at hc
    have hkept := (List.mem_filter.mp ((List.takeWhile_sublist _).subset hc)).2
    exact ⟨by simpa using hkept, List.mem_takeWhile_imp hc⟩
  · intro h
    rw [unbroken_eq_self fun c hc => (h c hc).1, List.takeWhile_eq_self_iff]
    exact fun c hc => (h c hc).2

/-- The path names a key exactly if the key is whole. -/
theorem render_path_iff {key : List Char} :
    Path.render (Path.segments (pathPart (behind key))) = Path.below app (encode inPath key) ↔
      Whole key := by
  have hself : encode inPath app = app := by decide
  have hpart : pathPart (behind key) = Path.below app ((unbroken key).takeWhile inPathPart) := by
    rw [behind, pathPart_append]
    rfl
  have hkept : ((unbroken key).takeWhile inPathPart).Sublist key :=
    (List.takeWhile_sublist _).trans List.filter_sublist
  have hname : ∀ c ∈ app, Path.isSlash c = false := List.forall_iff_forall_mem.mp (by decide)
  have hbelow := Path.render_below_eq_iff hname rfl hkept
  rw [hself, takeWhile_unbroken_eq_iff] at hbelow
  rw [hpart, hbelow]
  exact ⟨fun ⟨hplain, hupright, hstill⟩ => ⟨hplain, hupright, hstill⟩,
    fun ⟨hplain, hupright, hstill⟩ => ⟨hplain, hupright, hstill⟩⟩

/-- The path that is made from a whole key means the key. -/
theorem decode_path {key : List Char} (h : Whole key) :
    decode (Path.render (Path.segments (pathPart (behind key)))) = decode (Path.below app key) := by
  have hencode : Path.below app (encode inPath key) = encode inPath (Path.below app key) := rfl
  rw [render_path_iff.mpr h, hencode, decode_encode keepsEscapes_inPath]

theorem decode_below (key : List Char) :
    decode (Path.below app key) = decode (Path.below app []) ++ decode key := rfl

/-- The same request with another key. -/
def withKey (request : OpenRequest) (key : String) : OpenRequest :=
  { request with key := some key }

/-- What is promised of the address of an application whose key is written in its path. -/
structure CarriesKey (request : OpenRequest) (key : String) (url : Url) : Prop where
  /-- The revision is the query, and there is no fragment, unless the key has one of its own. -/
  revision : (url.query = some revision ∧ url.fragment = none) ↔
    '?' ∉ key.toList ∧ '#' ∉ key.toList
  /-- The path names the key, escaped, ... -/
  path : url.pathText = Path.below app (encode inPath key.toList) ↔ Whole key.toList
  /-- ... which does not change what it means. -/
  meaning : Whole key.toList → decode url.pathText = decode (Path.below app key.toList)
  /-- Whole keys that mean different bytes have different addresses. -/
  apart : Whole key.toList → ∀ other : String, Whole other.toList →
    (request.withKey other).url (request.withKey other).applicationPath = .ok url →
    decode key.toList = decode other.toList ∧
      ('%' ∉ key.toList → '%' ∉ other.toList → key = other)

/-- What becomes of a key, whatever it is, behind a plain host. -/
theorem carries_key (hpath : request.option? "path" = none) (hhost : request.host = .ok host)
    (hplain : PlainHost host.toList) (h : request.url request.applicationPath = .ok url) :
    CarriesKey request (request.key.getD "") url := by
  obtain ⟨hsegments, hquery, hfragment⟩ := url_application hpath hhost hplain h
  refine ⟨?_, ?_, fun hwhole => ?_, fun hwhole other hother hsame => ?_⟩
  · rw [hquery, hfragment, revision_iff]
  · rw [pathText, hsegments, render_path_iff]
  · rw [pathText, hsegments, decode_path hwhole]
  · have hpath' : (request.withKey other).option? "path" = none := hpath
    obtain ⟨hsegments', -, -⟩ := url_application hpath' hhost hplain hsame
    have hmeaning := decode_path hwhole
    rw [← hsegments, hsegments'] at hmeaning
    have hother' := (decode_path hother).symm.trans hmeaning
    rw [decode_below, decode_below (request.key.getD "").toList] at hother'
    have hdecoded := (List.append_cancel_left hother').symm
    exact ⟨hdecoded, fun hkey hother => String.toList_injective (decode_inj hkey hother hdecoded)⟩

/-! A host by its number, and keys for it. -/

def keyedRequest (key : String) : OpenRequest :=
  ⟨"ws", some key, false, [("host", .string "[::1]:90")]⟩

theorem plainHost_numbered : PlainHost "[::1]:90".toList where
  ne_slashes := by decide
  not_closed := by
    have hplain : ∀ c ∈ (unbroken "[::1]:90".toList).dropWhile Path.isSlash, ¬ endsAuthority c :=
      List.forall_iff_forall_mem.mp (by decide)
    rintro ⟨c, hc, hends⟩
    exact hplain c hc hends

/-- A key with a space, a slash and a percent sign stands in the path, and the revision in the
query. -/
theorem carries_key_spaced :
    ∃ host url, (keyedRequest "a b/c%").host = .ok host ∧
      (keyedRequest "a b/c%").url (keyedRequest "a b/c%").applicationPath = .ok url ∧
      url.query = some revision ∧ url.fragment = none ∧
      url.pathText = "/app/a%20b/c%".toList ∧
      decode url.pathText = decode "/app/a b/c%".toList := by
  have hurl : (keyedRequest "a b/c%").url (keyedRequest "a b/c%").applicationPath =
      .ok ⟨.ws, [], [], .ipv6 ⟨[0, 0, 0, 0, 0, 0, 0, 1], rfl⟩, some 90,
        ["app".toList, "a%20b".toList, "c%".toList], some revision, none⟩ := by rfl
  have hcarries := carries_key (by rfl) (by rfl) plainHost_numbered hurl
  obtain ⟨hquery, hfragment⟩ := hcarries.revision.mpr (by decide)
  have hwhole : Whole "a b/c%".toList :=
    ⟨List.forall_iff_forall_mem.mp (by decide), by decide, by decide⟩
  exact ⟨_, _, by rfl, hurl, hquery, hfragment, hcarries.path.mpr hwhole, hcarries.meaning hwhole⟩

/-- Behind the sign of a fragment, the revision is no part of the query, nor is the key. Other keys
are taken for each other. -/
theorem fragment_takes_revision :
    ∃ split spaced, (keyedRequest "a#b").url (keyedRequest "a#b").applicationPath = .ok split ∧
      split.query = none ∧ split.fragment = some "b?protocol=7".toList ∧
      split.pathText = "/app/a".toList ∧
      (keyedRequest "a b").url (keyedRequest "a b").applicationPath = .ok spaced ∧
      (keyedRequest "a%20b").url (keyedRequest "a%20b").applicationPath = .ok spaced := by
  refine ⟨_, _, by rfl, ?_, ?_, ?_, by rfl, by rfl⟩
  all_goals decide

end OpenRequest

end Dialplan
