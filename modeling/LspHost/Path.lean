import LspHost.Text.Cut
import LspHost.Text.Percent

/-!
# Paths

A path is anchored at the root, at the double root `//`, or nowhere, and has a list of segments.
Empty segments and `.` say nothing and are dropped when a path is read; `..` is kept, because
removing it is only right if no link is involved. So a path and its text determine each other:
`Path.text` writes it and `Path.ofText` reads it.
-/

namespace LspHost

/-- Where a path begins. -/
inductive Anchor where
  /-- nowhere: the path is relative -/
  | relative
  /-- at the root -/
  | root
  /-- at the root written with exactly two slashes -/
  | doubleRoot
  deriving DecidableEq, Repr

/-- Whether a text between slashes names something: it is not empty, not `.`, and without slash. -/
def isSegment (text : String) : Bool :=
  !text.isEmpty && text != "." && !text.toList.contains '/'

/-- A path in normal form. -/
structure Path where
  /-- where it begins -/
  anchor : Anchor
  /-- its segments in order -/
  segments : List String
  /-- every segment names something -/
  named : ∀ segment ∈ segments, isSegment segment = true
  deriving DecidableEq

namespace Path

/-- The anchor that a text begins with: two slashes make the double root, one or more than two the
root. -/
def anchorOf : List Char → Anchor
  | '/' :: '/' :: '/' :: _ => .root
  | '/' :: '/' :: _ => .doubleRoot
  | '/' :: _ => .root
  | _ => .relative

/-- The path with the given segments, those that name nothing left out. -/
def ofSegments (anchor : Anchor) (segments : List String) : Path where
  anchor := anchor
  segments := segments.filter isSegment
  named := by simp

/-- The path that a text spells. -/
def ofText (text : String) : Path :=
  ofSegments (anchorOf text.toList) (Text.cut '/' text)

/-- The text of an anchor. -/
def anchorText : Anchor → String
  | .relative => ""
  | .root => "/"
  | .doubleRoot => "//"

/-- A path as a text; the relative path without segments is `.`. -/
def text (p : Path) : String :=
  if p.anchor = .relative ∧ p.segments = [] then "."
  else anchorText p.anchor ++ "/".intercalate p.segments

/-- Whether a path begins at a root. -/
def isAbsolute (p : Path) : Bool := p.anchor ≠ .relative

/-- A path taken from another one, which an absolute path ignores. -/
def join (base p : Path) : Path :=
  match p.anchor with
  | .relative =>
    { anchor := base.anchor
      segments := base.segments ++ p.segments
      named := by
        intro segment h
        rcases List.mem_append.mp h with h | h
        · exact base.named segment h
        · exact p.named segment h }
  | _ => p

/-- A path given as a text, taken from another one. -/
def joinText (base : Path) (text : String) : Path := base.join (ofText text)

/-- The path that keeps the first segments. -/
def take (p : Path) (count : Nat) : Path where
  anchor := p.anchor
  segments := p.segments.take count
  named := fun segment h => p.named segment (List.mem_of_mem_take h)

/-- The path without its last segment; a path without segments is its own parent. -/
def parent (p : Path) : Path := p.take (p.segments.length - 1)

/-- The paths that drop one segment after the other from the end, the longest first. -/
def parents (p : Path) : List Path :=
  (List.range p.segments.length).reverse.map p.take

/-- The last segment, empty if there is none. -/
def name (p : Path) : String := p.segments.getLastD ""

/-- The file URI of an absolute path. -/
def uri (p : Path) : String := "file://" ++ Text.encodePercent p.text

/-- Whether the text of a path holds the character that ends names, so that nothing can have it. -/
def hasNul (p : Path) : Bool := p.text.toList.contains '\x00'

/-- The relative path without segments. -/
def here : Path := ofSegments .relative []

@[simp]
theorem segments_take (p : Path) (count : Nat) : (p.take count).segments = p.segments.take count :=
  rfl

@[simp]
theorem anchor_take (p : Path) (count : Nat) : (p.take count).anchor = p.anchor := rfl

/-- Two paths are equal when their anchors and their segments are. -/
theorem ext_iff' {p q : Path} : p = q ↔ p.anchor = q.anchor ∧ p.segments = q.segments := by
  constructor
  · rintro rfl
    exact ⟨rfl, rfl⟩
  · obtain ⟨a, s, _⟩ := p
    obtain ⟨b, t, _⟩ := q
    rintro ⟨rfl, rfl⟩
    rfl

example : (ofText "//a/./b//../c/").text = "//a/b/../c" := by decide +kernel

example : (ofText "./").text = "." := by decide +kernel

end Path

end LspHost
