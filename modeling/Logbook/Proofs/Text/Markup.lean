import Logbook.Proofs.Text.Reference

/-!
# Pages and their parts

A reader of HTML cuts a page at its marks: `<` begins a tag, `>` ends it, and a pair of quotes in a
tag holds a value. What stands between the marks are the parts of the page (`Markup.cut`). An escaped
text has no marks in it, so it stays within its part, wherever it stands. A page that is written tag by
tag, with a text in front of each, is therefore cut into these tags, values and texts
(`Markup.cutFrom_tags`); a reader finds them as they were (`Markup.read_of_tags`), and between them all
the marks that the page has (`Markup.marks_of_tags`).
-/

namespace Logbook.Markup

open Render

/-- What a part of a page is: text, a tag, or a value in a tag. -/
inductive Kind where
  | text
  | tag
  | value
  deriving DecidableEq, Repr

/-- What begins behind a character, if it is a mark that ends the part it stands in. -/
def Kind.next? : Kind → Char → Option Kind
  | text, '<' => some tag
  | tag, '>' => some text
  | tag, '"' => some value
  | value, '"' => some tag
  | _, _ => none

/-- Is the character a mark in some part of a page? -/
def isMark (c : Char) : Bool :=
  c ∈ ['<', '>', '"']

/-- A part of a page. -/
structure Part where
  kind : Kind
  content : List Char
  deriving DecidableEq, Repr

/-- Parts with more characters at the start of the first. -/
def inFront (w : List Char) : List Part → List Part
  | [] => []
  | a :: r => { a with content := w ++ a.content } :: r

/-- The parts of a page from a part of the given kind on. -/
def cutFrom : Kind → List Char → List Part
  | k, [] => [⟨k, []⟩]
  | k, c :: r =>
    match k.next? c with
    | some next => ⟨k, []⟩ :: cutFrom next r
    | none => inFront [c] (cutFrom k r)

/-- The parts of a page, which begins with text. -/
def cut (page : String) : List Part :=
  cutFrom .text page.toList

section Cutting

variable {k l : Kind} {c : Char} {w s r : List Char}

theorem isMark_of_next? (ends : k.next? c = some l) : isMark c = true := by
  unfold Kind.next? at ends
  split at ends <;> first | rfl | cases ends

/-- What is no mark ends no part. -/
theorem next?_of_not_isMark (plain : isMark c = false) : k.next? c = none := by
  cases ends : k.next? c with
  | none => rfl
  | some l =>
    rw [isMark_of_next? ends] at plain
    cases plain

theorem inFront_nil (parts : List Part) : inFront [] parts = parts := by
  cases parts <;> rfl

theorem inFront_inFront (parts : List Part) : inFront w (inFront s parts) = inFront (w ++ s) parts := by
  cases parts with
  | nil => rfl
  | cons a r => simp only [inFront, List.append_assoc]

theorem cutFrom_append (plain : ∀ c ∈ w, isMark c = false) (r : List Char) :
    cutFrom k (w ++ r) = inFront w (cutFrom k r) := by
  induction w with
  | nil => exact (inFront_nil _).symm
  | cons c w ih =>
    obtain ⟨first, others⟩ := List.forall_mem_cons.1 plain
    rw [List.cons_append, cutFrom, next?_of_not_isMark first]
    simp only [ih others, inFront_inFront, List.singleton_append]

/-- A part ends at the first mark. -/
theorem cutFrom_mark (plain : ∀ c ∈ w, isMark c = false) (ends : k.next? c = some l)
    (r : List Char) : cutFrom k (w ++ c :: r) = ⟨k, w⟩ :: cutFrom l r := by
  rw [cutFrom_append plain, cutFrom, ends]
  simp only [inFront, List.append_nil]

end Cutting

section Marks

/-- The mark between two parts. -/
def border : Kind → Kind → List Char
  | .text, .tag => ['<']
  | .tag, .text => ['>']
  | .tag, .value => ['"']
  | .value, .tag => ['"']
  | _, _ => []

/-- The marks between parts, in order. -/
def borders : List Kind → List Char
  | k :: l :: r => border k l ++ borders (l :: r)
  | _ => []

variable {k l : Kind} {c : Char} {s : List Char}

theorem border_of_next? (ends : k.next? c = some l) : border k l = [c] := by
  unfold Kind.next? at ends
  split at ends <;> cases ends <;> rfl

theorem exists_cutFrom (k : Kind) (s : List Char) : ∃ w parts, cutFrom k s = ⟨k, w⟩ :: parts := by
  fun_induction cutFrom k s with
  | case1 k => exact ⟨_, _, rfl⟩
  | case2 k c r l ends ih => exact ⟨_, _, rfl⟩
  | case3 k c r stays ih =>
    obtain ⟨w, parts, rest⟩ := ih
    exact ⟨c :: w, parts, by rw [rest]; rfl⟩

/-- If no part has marks in it, the marks of a page are those between its parts. -/
theorem filter_isMark (plain : ∀ a ∈ cutFrom k s, ∀ c ∈ a.content, isMark c = false) :
    s.filter isMark = borders ((cutFrom k s).map (·.kind)) := by
  fun_induction cutFrom k s with
  | case1 k => rfl
  | case2 k c r l ends ih =>
    obtain ⟨w, parts, rest⟩ := exists_cutFrom l r
    obtain ⟨-, others⟩ := List.forall_mem_cons.1 plain
    rw [List.filter_cons_of_pos (isMark_of_next? ends), ih others, rest]
    simp only [List.map_cons, borders, border_of_next? ends, List.singleton_append]
  | case3 k c r stays ih =>
    obtain ⟨w, parts, rest⟩ := exists_cutFrom k r
    rw [rest, inFront] at plain
    obtain ⟨first, others⟩ := List.forall_mem_cons.1 plain
    obtain ⟨unmarked, behind⟩ := List.forall_mem_cons.1 first
    have same : (inFront [c] (cutFrom k r)).map (·.kind) = (cutFrom k r).map (·.kind) := by
      rw [rest]
      rfl
    rw [same, ← ih (rest ▸ List.forall_mem_cons.2 ⟨behind, others⟩),
      List.filter_cons_of_neg (Bool.eq_false_iff.1 unmarked)]

end Marks

namespace Part

def text (s : String) : Part := ⟨.text, s.toList⟩

def tag (name : String) : Part := ⟨.tag, name.toList⟩

def value (s : String) : Part := ⟨.value, s.toList⟩

/-- A part as it is written: tags as they are, all else escaped. -/
def written (a : Part) : Part :=
  match a.kind with
  | .tag => a
  | _ => { a with content := a.content.flatMap escapeChar }

/-- A part as it is read. -/
def read (refs : References) (a : Part) : Part :=
  match a.kind with
  | .tag => a
  | _ => { a with content := refs.unescape a.content }

/-- What is written is read as it was. -/
theorem read_written (refs : References) (a : Part) : a.written.read refs = a := by
  have content := refs.unescape_flatMap a.content
  obtain ⟨kind, s⟩ := a
  cases kind with
  | tag => rfl
  | text | value => exact congrArg (Part.mk _) content

theorem kind_written (a : Part) : a.written.kind = a.kind := by
  obtain ⟨kind, s⟩ := a
  cases kind <;> rfl

end Part

section Escaping

/-- Escaping leaves no marks. -/
theorem all_escapeChar (c : Char) : (escapeChar c).all (!isMark ·) := by
  unfold escapeChar
  split
  case h_6 less greater quote _ => simpa [isMark] using ⟨less, greater, quote⟩
  all_goals rfl

theorem isMark_of_mem_escaped (s : List Char) : ∀ d ∈ s.flatMap escapeChar, isMark d = false := by
  intro d mem
  obtain ⟨c, -, escaped⟩ := List.mem_flatMap.1 mem
  simpa using List.all_eq_true.1 (all_escapeChar c) d escaped

/-- A part is written without marks, unless it is a tag that has some. -/
theorem Part.isMark_of_mem_written {a : Part}
    (plain : a.kind = .tag → ∀ c ∈ a.content, isMark c = false) :
    ∀ c ∈ a.written.content, isMark c = false := by
  obtain ⟨kind, s⟩ := a
  cases kind with
  | tag => exact plain rfl
  | text | value => exact isMark_of_mem_escaped s

end Escaping

/-- A tag with the text in front of it. -/
structure Tag where
  before : String := ""
  name : String
  /-- What stands in quotes in the tag. -/
  value? : Option String := none
  deriving DecidableEq, Repr

namespace Tag

/-- The parts of a tag and of the text in front of it. Behind its value a tag goes on, with nothing
in it. -/
def parts (t : Tag) : List Part :=
  [.text t.before, .tag t.name] ++
    match t.value? with
    | none => []
    | some v => [.value v, .tag ""]

/-- A tag as it is written behind its text. -/
def written (t : Tag) : List Char :=
  t.before.toList.flatMap escapeChar ++ '<' :: (t.name.toList ++
    match t.value? with
    | none => ['>']
    | some v => '"' :: (v.toList.flatMap escapeChar ++ ['"', '>']))

/-- Is the name of a tag without marks? -/
def isPlain (t : Tag) : Bool :=
  t.name.toList.all (!isMark ·)

variable {t : Tag}

theorem isMark_of_mem_name (plain : t.isPlain) : ∀ c ∈ t.name.toList, isMark c = false := by
  simpa [isPlain] using plain

/-- The tags among the parts have no marks in them. -/
theorem isMark_of_mem_parts (plain : t.isPlain) :
    ∀ a ∈ t.parts, a.kind = .tag → ∀ c ∈ a.content, isMark c = false := by
  have name := isMark_of_mem_name plain
  unfold parts
  cases t.value? with
  | none =>
    simp only [List.append_nil, List.forall_mem_cons]
    exact ⟨nofun, fun _ => name, nofun⟩
  | some v =>
    simp only [List.cons_append, List.nil_append, List.forall_mem_cons]
    exact ⟨nofun, fun _ => name, nofun, fun _ => nofun, nofun⟩

/-- A tag and the text in front of it are cut apart, whatever is shown in them. -/
theorem cutFrom_written (plain : t.isPlain) (r : List Char) :
    cutFrom .text (t.written ++ r) = t.parts.map Part.written ++ cutFrom .text r := by
  have name_plain := isMark_of_mem_name plain
  obtain ⟨before, name, value?⟩ := t
  have text := cutFrom_mark (k := .text) (l := .tag) (c := '<')
    (isMark_of_mem_escaped before.toList) rfl
  simp only [written, parts, List.append_assoc, List.cons_append]
  rw [text]
  cases value? with
  | none =>
    simp only [List.singleton_append]
    rw [cutFrom_mark name_plain (l := .text) rfl]
    rfl
  | some v =>
    have value := cutFrom_mark (k := .value) (l := .tag) (c := '"')
      (isMark_of_mem_escaped v.toList) rfl
    simp only [List.cons_append, List.append_assoc]
    rw [cutFrom_mark name_plain (l := .value) rfl, value]
    rfl

end Tag

section Tags

variable {tags : List Tag} {page : String}

/-- Tags and the texts in front of them are cut apart, and so is what stands behind them. -/
theorem cutFrom_tags (plain : ∀ t ∈ tags, t.isPlain) (r : List Char) :
    cutFrom .text (tags.flatMap Tag.written ++ r) =
      (tags.flatMap Tag.parts).map Part.written ++ cutFrom .text r := by
  induction tags with
  | nil => rfl
  | cons t tags ih =>
    obtain ⟨first, others⟩ := List.forall_mem_cons.1 plain
    rw [List.flatMap_cons, List.append_assoc, t.cutFrom_written first, ih others, List.flatMap_cons,
      List.map_append, List.append_assoc]

/-- The parts of a page that ends with the last of its tags. -/
def partsOf (tags : List Tag) : List Part :=
  tags.flatMap Tag.parts ++ [.text ""]

theorem cut_of_tags (plain : ∀ t ∈ tags, t.isPlain) (made : page.toList = tags.flatMap Tag.written) :
    cut page = (partsOf tags).map Part.written := by
  rw [cut, made, ← List.append_nil (tags.flatMap Tag.written), cutFrom_tags plain, partsOf,
    List.map_append]
  rfl

/-- A reader finds the tags, and each text and each value as it was. -/
theorem read_of_tags (refs : References) (plain : ∀ t ∈ tags, t.isPlain)
    (made : page.toList = tags.flatMap Tag.written) :
    (cut page).map (·.read refs) = partsOf tags := by
  rw [cut_of_tags plain made, List.map_map]
  exact List.map_id'' (Part.read_written refs) _

/-- All marks of a page are those between its parts. -/
theorem marks_of_tags (plain : ∀ t ∈ tags, t.isPlain)
    (made : page.toList = tags.flatMap Tag.written) :
    page.toList.filter isMark = borders ((partsOf tags).map (·.kind)) := by
  have parts : cutFrom .text page.toList = (partsOf tags).map Part.written := cut_of_tags plain made
  have kinds : ((partsOf tags).map Part.written).map (·.kind) = (partsOf tags).map (·.kind) := by
    rw [List.map_map]
    exact List.map_congr_left fun a _ => a.kind_written
  have clean : ∀ a ∈ cutFrom .text page.toList, ∀ c ∈ a.content, isMark c = false := by
    rw [parts, List.forall_mem_map]
    intro a mem
    apply Part.isMark_of_mem_written
    rcases List.mem_append.1 mem with behind | last
    · obtain ⟨t, found, part⟩ := List.mem_flatMap.1 behind
      exact t.isMark_of_mem_parts (plain t found) a part
    · cases List.mem_singleton.1 last
      exact nofun
  rw [filter_isMark clean, parts, kinds]

end Tags

end Logbook.Markup
