import Mathlib.Data.List.DropRight
import Dialplan.Url.Basic

/-! How an address is read, part by part. Of what follows the scheme, blanks at the end and line
breaks anywhere do not count (`Url.counted`); then come the authority, which says where the address
leads, and the remainder of path, query and fragment. What is appended to an authority changes it
unless the authority has ended before, or ends there (`Url.authority_append`). -/

namespace Dialplan.Url

/-! ### What counts -/

def isBlank (c : Char) : Bool := c ≤ ' '

def isBreak (c : Char) : Bool := c = '\t' || c = '\n' || c = '\r'

/-- A text without its tabs and line breaks. -/
def unbroken (text : List Char) : List Char := text.filter (!isBreak ·)

/-- What counts of the text at the end of an address. -/
def counted (text : List Char) : List Char := unbroken (text.rdropWhile isBlank)

theorem clean_eq (text : List Char) : clean text = counted (text.dropWhile isBlank) := rfl

theorem unbroken_append (s t : List Char) : unbroken (s ++ t) = unbroken s ++ unbroken t :=
  List.filter_append ..

theorem unbroken_eq_self {text : List Char} (h : ∀ c ∈ text, isBreak c = false) :
    unbroken text = text :=
  List.filter_eq_self.mpr fun c hc => by rw [h c hc]; rfl

theorem rdropWhile_append (s : List Char) {t : List Char} (h : ¬ ∀ c ∈ t, isBlank c = true) :
    (s ++ t).rdropWhile isBlank = s ++ t.rdropWhile isBlank := by
  rw [List.rdropWhile, List.reverse_append, List.dropWhile_append, if_neg, List.reverse_append,
    List.reverse_reverse, ← List.rdropWhile]
  rw [List.isEmpty_iff, List.dropWhile_eq_nil_iff]
  simpa using h

/-- In front of a text that is not blank, everything counts but breaks. -/
theorem counted_append (s : List Char) {t : List Char} (h : ¬ ∀ c ∈ t, isBlank c = true) :
    counted (s ++ t) = unbroken s ++ counted t := by
  rw [counted, rdropWhile_append s h, unbroken_append, ← counted]

/-- A blank text does not count, whatever it follows. -/
theorem counted_append_blank (s : List Char) {t : List Char} (h : ∀ c ∈ t, isBlank c = true) :
    counted (s ++ t) = counted s := by
  rw [counted, List.rdropWhile, List.reverse_append, List.dropWhile_append_of_pos,
    ← List.rdropWhile, ← counted]
  simpa using h

/-! ### The parts -/

/-- Where an address leads: what stands before the first slash that follows something, or before
the query or the fragment. -/
def authority (text : List Char) : List Char :=
  (text.dropWhile Path.isSlash).takeWhile (!endsAuthority ·)

def remainder (text : List Char) : List Char :=
  (text.dropWhile Path.isSlash).dropWhile (!endsAuthority ·)

/-- The host and the port, as they are written in an authority. -/
def placeText (authority : List Char) : List Char := (splitUser authority).2.2

/-- Does a character neither begin a query nor a fragment? -/
def inPathPart (c : Char) : Bool := c != '?' && c != '#'

def pathPart (remainder : List Char) : List Char := remainder.takeWhile inPathPart

/-- Query and fragment, with their signs. -/
def extras (remainder : List Char) : List Char := remainder.dropWhile inPathPart

def queryPart? (extras : List Char) : Option (List Char) :=
  if extras.head? = some '?' then
    some (Percent.encode Percent.inQuery ((extras.takeWhile (· != '#')).drop 1))
  else none

def fragmentPart? (extras : List Char) : Option (List Char) :=
  if extras.contains '#' then
    some (Percent.encode Percent.inFragment ((extras.dropWhile (· != '#')).drop 1))
  else none

/-- Where an address leads. -/
def place (url : Url) : Host × Option Nat := (url.host, url.port)

/-- The address that is read from a text behind its scheme, once its place is known. -/
def located (scheme : Scheme) (text : List Char) (place : Host × Option Nat) : Url where
  scheme := scheme
  user := Percent.encode Percent.inUser (splitUser (authority text)).1
  password := Percent.encode Percent.inUser (splitUser (authority text)).2.1
  host := place.1
  port := place.2
  path := Path.segments (pathPart (remainder text))
  query := queryPart? (extras (remainder text))
  fragment := fragmentPart? (extras (remainder text))

/-- Only the place can be refused. -/
theorem readRest_eq (scheme : Scheme) (text : List Char) :
    readRest scheme text =
      (readPlace scheme (placeText (authority text))).map (located scheme text) := by
  unfold readRest
  show (readPlace scheme (placeText (authority text)) >>= _) = _
  cases readPlace scheme (placeText (authority text)) <;> rfl

theorem readRest_eq_ok_iff {scheme : Scheme} {text : List Char} {url : Url} :
    readRest scheme text = .ok url ↔
      ∃ place, readPlace scheme (placeText (authority text)) = .ok place ∧
        located scheme text place = url := by
  rw [readRest_eq]
  cases readPlace scheme (placeText (authority text)) <;> simp [Except.map]

/-- What stands in front of an address of a scheme. -/
def opening : Scheme → List Char
  | .ws => ['w', 's', ':', '/', '/']
  | .wss => ['w', 's', 's', ':', '/', '/']

theorem toList_name_append (scheme : Scheme) :
    (scheme.name ++ "://").toList = opening scheme := by
  cases scheme <;> decide

theorem counted_opening (scheme : Scheme) : counted (opening scheme) = opening scheme := by
  cases scheme <;> decide

theorem clean_opening (scheme : Scheme) (text : List Char) :
    clean (opening scheme ++ text) = opening scheme ++ counted text := by
  have hfront : (opening scheme ++ text).dropWhile isBlank = opening scheme ++ text := by
    cases scheme <;> rfl
  rw [clean_eq, hfront]
  by_cases h : ∀ c ∈ text, isBlank c = true
  · rw [counted_append_blank _ h, counted_opening, counted, List.rdropWhile_eq_nil_iff.mpr h]
    simp [unbroken]
  · have hself : unbroken (opening scheme) = opening scheme := by cases scheme <;> decide
    rw [counted_append _ h, hself]

/-- An address is read by its scheme and what counts behind it. -/
theorem parse_opening (scheme : Scheme) (text : List Char) :
    parse (opening scheme ++ text) = readRest scheme (counted text) := by
  unfold parse
  rw [clean_opening]
  cases scheme <;> rfl

/-! ### Authorities -/

/-- Does the authority of a text end within it? -/
def Closed (text : List Char) : Prop := ∃ c ∈ text.dropWhile Path.isSlash, endsAuthority c = true

/-- Does a text begin with the end of an authority, if it is not empty? -/
def Ends (text : List Char) : Prop := ∀ c, text.head? = some c → endsAuthority c = true

theorem Ends.of_append {text more : List Char} (h : Ends (text ++ more)) : Ends text := by
  intro c hc
  refine h c ?_
  rw [List.head?_append, hc, Option.some_or]

theorem takeWhile_of_closed {text : List Char} (h : ∃ c ∈ text, endsAuthority c = true)
    (more : List Char) : (text ++ more).takeWhile (!endsAuthority ·) =
      text.takeWhile (!endsAuthority ·) := by
  induction text with
  | nil =>
    obtain ⟨c, hc, -⟩ := h
    cases hc
  | cons c rest ih =>
    rw [List.cons_append, List.takeWhile_cons, List.takeWhile_cons]
    split
    · rename_i hopen
      congr 1
      -- the first character does not end the authority, so another one does
      refine ih ?_
      obtain ⟨d, hd, hends⟩ := h
      rcases List.mem_cons.mp hd with rfl | hd
      · simp [hends] at hopen
      · exact ⟨d, hd, hends⟩
    · rfl

theorem takeWhile_of_open {text : List Char} (h : ¬ ∃ c ∈ text, endsAuthority c = true)
    (more : List Char) : (text ++ more).takeWhile (!endsAuthority ·) =
      text ++ more.takeWhile (!endsAuthority ·) := by
  refine List.takeWhile_append_of_pos fun c hc => ?_
  have hopen : ¬ endsAuthority c = true := fun hends => h ⟨c, hc, hends⟩
  simpa using hopen

theorem dropWhile_append {text : List Char} (h : text.dropWhile Path.isSlash ≠ [])
    (more : List Char) : (text ++ more).dropWhile Path.isSlash =
      text.dropWhile Path.isSlash ++ more := by
  rw [List.dropWhile_append, if_neg]
  rwa [List.isEmpty_iff]

/-- An authority stays the same if it has ended before something is appended, or ends there. -/
theorem authority_append {text : List Char} (hne : text.dropWhile Path.isSlash ≠ [])
    {more : List Char} (h : Closed text ∨ Ends more) :
    authority (text ++ more) = authority text := by
  rw [authority, authority, dropWhile_append hne]
  by_cases hclosed : Closed text
  · exact takeWhile_of_closed hclosed more
  · have hmore : more.takeWhile (!endsAuthority ·) = [] := by
      cases more with
      | nil => rfl
      | cons c rest => simp [h.resolve_left hclosed c rfl]
    have hself := takeWhile_of_open hclosed []
    rw [List.append_nil, List.takeWhile_nil] at hself
    rw [takeWhile_of_open hclosed, hmore, hself]

/-- What is appended to an authority that has not ended belongs to it, up to where it ends. -/
theorem authority_append_of_open {text : List Char} (hne : text.dropWhile Path.isSlash ≠ [])
    (h : ¬ Closed text) (more : List Char) :
    authority (text ++ more) =
      text.dropWhile Path.isSlash ++ more.takeWhile (!endsAuthority ·) := by
  rw [authority, dropWhile_append hne, takeWhile_of_open h]

/-- What begins with the end of an authority remains behind one that has not ended. -/
theorem remainder_append_of_open {text : List Char} (hne : text.dropWhile Path.isSlash ≠ [])
    (h : ¬ Closed text) {more : List Char} (hmore : Ends more) :
    remainder (text ++ more) = more := by
  rw [remainder, dropWhile_append hne, List.dropWhile_append_of_pos]
  · cases more with
    | nil => rfl
    | cons c rest => rw [List.dropWhile_cons_of_neg (by simp [hmore c rfl])]
  · intro c hc
    have hopen : ¬ endsAuthority c = true := fun hends => h ⟨c, hc, hends⟩
    simpa using hopen

end Dialplan.Url
