import Dialplan.Proofs.Url.Place
import Dialplan.Transport.Request

/-! Where the addresses of a request lead. The path is written right behind the host, so it is the
host that decides as long as the path is guarded, as the paths are that are made without an option
for them (`OpenRequest.leads_to_host`). An option that does not begin with a slash may lead to
another port or to another host (`OpenRequest.unanchored_leads_elsewhere`). -/

namespace Dialplan

open Url

namespace OpenRequest

variable {request : OpenRequest} {host : String} {base : Url}

theorem toList_address (scheme : Scheme) (host path : String) :
    (scheme.name ++ "://" ++ host ++ path).toList =
      opening scheme ++ (host.toList ++ path.toList) := by
  rw [String.toList_append, String.toList_append, toList_name_append, List.append_assoc]

theorem url_eq_ok_iff (h : request.host = .ok host) {path : String} {url : Url} :
    request.url path = .ok url ↔
      Url.parse (opening request.scheme ++ (host.toList ++ path.toList)) = .ok url := by
  rw [OpenRequest.url, h, ← toList_address]
  dsimp only
  cases Url.parse (request.scheme.name ++ "://" ++ host ++ path).toList <;> simp

/-! ### Paths -/

/-- Without an option of its own the path of the application begins with a slash. -/
theorem anchored_applicationPath
    (h : ∀ path, request.option? "path" = some path → Anchored path.toList) :
    Anchored request.applicationPath.toList := by
  unfold applicationPath
  cases hpath : request.option? "path" with
  | some path => exact h path hpath
  | none =>
    have hslash : "/app/".toList = '/' :: "app/".toList := by decide
    rw [Option.getD_none, String.toList_append, String.toList_append, hslash]
    exact anchored_cons (by decide) _

/-- What is written in front of a slash is anchored if it begins so, or has nothing that counts. -/
theorem anchored_append {front : List Char} (h : Ends (unbroken front)) (rest : List Char) :
    Anchored (front ++ '/' :: rest) := by
  obtain ⟨c, hslash, hends⟩ := anchored_cons (c := '/') (by decide) rest
  unfold Anchored
  rw [unbroken_append, List.head?_append]
  cases hfront : (unbroken front).head? with
  | some d => exact ⟨d, rfl, h d hfront⟩
  | none => exact ⟨c, hslash, hends⟩

/-- In the path of a session a slash follows its option. -/
theorem anchored_sessionPath (h : Ends (unbroken request.httpPath.toList)) (session : Nat) :
    Anchored (request.sessionPath session).toList := by
  have hfront : Ends (unbroken (request.httpPath.toList.rdropWhile (· = '/'))) := by
    obtain ⟨slashes, hsplit⟩ := List.rdropWhile_prefix (· = '/') request.httpPath.toList
    rw [← hsplit, unbroken_append] at h
    exact h.of_append
  unfold sessionPath
  dsimp only
  rw [String.toList_ofList, List.append_assoc, List.append_assoc, List.cons_append]
  exact anchored_append hfront _

theorem ends_httpPath
    (h : ∀ path, request.option? "httpPath" = some path → Ends (unbroken path.toList)) :
    Ends (unbroken request.httpPath.toList) := by
  unfold httpPath
  cases hpath : request.option? "httpPath" with
  | some path => exact h path hpath
  | none =>
    have hslash : "/pusher".toList = '/' :: "pusher".toList := by decide
    rw [Option.getD_none, hslash]
    exact (anchored_cons (by decide) _).ends

/-! ### Addresses -/

/-- What is promised of where the addresses of a request lead, when `base` is that of its host
alone. -/
structure LeadsToHost (request : OpenRequest) (host : String) (base : Url) : Prop where
  scheme : ∀ path url, request.url path = .ok url →
    url.scheme = base.scheme ∧ (url.scheme = .wss ↔ request.encrypted = true)
  place : ∀ path url, Guarded host.toList path.toList → request.url path = .ok url →
    url.place = base.place
  /-- Whatever the key is, the path that is made from it leads to the host, and so does an option
  for the path that begins with a slash. -/
  application : (∀ path, request.option? "path" = some path → Anchored path.toList) →
    ∀ url, request.url request.applicationPath = .ok url → url.place = base.place
  /-- So do sessions, unless the option for their path begins with something else. -/
  session : (∀ path, request.option? "httpPath" = some path → Ends (unbroken path.toList)) →
    ∀ number url, request.url (request.sessionPath number) = .ok url → url.place = base.place
  /-- No other first character of a path is safe, if the host leaves the authority open. -/
  first : ∀ c, isBreak c = false →
    ((∀ rest url, request.url (String.ofList (c :: rest)) = .ok url → url.place = base.place) ↔
      Closed (unbroken host.toList) ∨ endsAuthority c = true)

theorem scheme_eq_wss_iff : request.scheme = .wss ↔ request.encrypted = true := by
  unfold OpenRequest.scheme
  cases request.encrypted <;> simp

/-- Addresses lead to the host that the options of a request name, if their path is guarded. -/
theorem leads_to_host (hhost : request.host = .ok host) (hbase : request.url "/" = .ok base) :
    LeadsToHost request host base := by
  rw [url_eq_ok_iff hhost] at hbase
  have hplace : ∀ path url, Guarded host.toList path.toList → request.url path = .ok url →
      url.place = base.place := fun path url hguarded h =>
    place_of_guarded hbase ((url_eq_ok_iff hhost).mp h) hguarded
  refine ⟨fun path url h => ?_, hplace, fun h url => ?_, fun h number url => ?_,
    fun c hbreak => ?_⟩
  · rw [url_eq_ok_iff hhost, parse_opening, readRest_eq_ok_iff] at h
    obtain ⟨_, -, rfl⟩ := h
    obtain ⟨hscheme, -, -⟩ := of_parse_host hbase
    exact ⟨hscheme.symm, scheme_eq_wss_iff⟩
  · exact hplace _ url (.anchored (anchored_applicationPath h))
  · exact hplace _ url (.anchored (anchored_sessionPath (ends_httpPath h) number))
  · simp only [url_eq_ok_iff hhost, String.toList_ofList]
    exact keeps_place_iff hbase hbreak

/-! A host with a port, and options for the paths. -/

def portedRequest (path : String) : OpenRequest :=
  ⟨"ws", some "key", false,
    [("host", .string "[::1]:90"), ("path", .string path), ("httpPath", .string path)]⟩

/-- The address of the host at some port. -/
def portedUrl (port : Nat) (path : List (List Char)) : Url :=
  ⟨.ws, [], [], .ipv6 ⟨[0, 0, 0, 0, 0, 0, 0, 1], rfl⟩, some port, path, none, none⟩

/-- Behind a slash, the path does not matter. -/
theorem leads_to_host_ported :
    ∃ host base url, (portedRequest "/90/app").host = .ok host ∧
      (portedRequest "/90/app").url "/" = .ok base ∧
      (portedRequest "/90/app").url (portedRequest "/90/app").applicationPath = .ok url ∧
      url.place = base.place := by
  have hbase : (portedRequest "/90/app").url "/" = .ok (portedUrl 90 [[]]) := by rfl
  have hurl : (portedRequest "/90/app").url (portedRequest "/90/app").applicationPath =
      .ok (portedUrl 90 [['9', '0'], ['a', 'p', 'p']]) := by rfl
  have hanchored : ∀ path, (portedRequest "/90/app").option? "path" = some path →
      Anchored path.toList := by
    intro path h
    obtain rfl : "/90/app" = path := Option.some.inj h
    exact ⟨'/', by decide, by decide⟩
  exact ⟨_, _, _, rfl, hbase, hurl, (leads_to_host rfl hbase).application hanchored _ hurl⟩

/-- Without a slash in front, the path goes on with the port, or it names another host after an
`@`; and so do the paths of sessions. -/
theorem unanchored_leads_elsewhere :
    ∃ base extended other session,
      (portedRequest "90/app").url "/" = .ok base ∧
      (portedRequest "90/app").url (portedRequest "90/app").applicationPath = .ok extended ∧
      extended.port ≠ base.port ∧
      (portedRequest "@[::2]").url "/" = .ok base ∧
      (portedRequest "@[::2]").url (portedRequest "@[::2]").applicationPath = .ok other ∧
      other.host ≠ base.host ∧
      (portedRequest "@[::2]").url ((portedRequest "@[::2]").sessionPath 0) = .ok session ∧
      session.host ≠ base.host := by
  refine ⟨portedUrl 90 [[]], _, _, _, by rfl, by rfl, ?_, by rfl, by rfl, ?_, by rfl, ?_⟩
  all_goals decide

end OpenRequest

end Dialplan
