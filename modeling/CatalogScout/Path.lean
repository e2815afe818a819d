import CatalogScout.Text.Split

/-!
Slash-separated paths.  A path is read without looking at any tree: empty segments and single
dots are dropped, double dots stay, and exactly two slashes in front are told apart from one.
-/

namespace CatalogScout

/-- What a path starts from. -/
inductive Anchorage where
  | relative
  | absolute
  /-- Behind two slashes. -/
  | network
deriving DecidableEq, Repr

structure Path where
  anchorage : Anchorage
  segments : List String
deriving DecidableEq, Repr

namespace Anchorage

def text : Anchorage → String
  | .relative => ""
  | .absolute => "/"
  | .network => "//"

def ofText : List Char → Anchorage
  | '/' :: '/' :: '/' :: _ => .absolute
  | '/' :: '/' :: _ => .network
  | '/' :: _ => .absolute
  | _ => .relative

end Anchorage

namespace Path

open Text

/-- The segments of a path's text. -/
def segmentsOf (s : List Char) : List String :=
  ((fields '/' s).filter fun p => p ≠ [] ∧ p ≠ ['.']).map String.ofList

def ofText (s : List Char) : Path := ⟨Anchorage.ofText s, segmentsOf s⟩

def ofString (s : String) : Path := ofText s.toList

/-- The text of a path, which is empty for the relative path without segments. -/
def bareText (p : Path) : String := p.anchorage.text ++ "/".intercalate p.segments

/-- The relative path without segments is written as a dot. -/
def text (p : Path) : String :=
  if p.anchorage = .relative ∧ p.segments = [] then "." else p.bareText

/-- One segment further down. -/
def child (p : Path) (segment : String) : Path := { p with segments := p.segments ++ [segment] }

/-- The path that goes on with the segments of another one. -/
def join (p q : Path) : Path := { p with segments := p.segments ++ q.segments }

/-- The beginnings of a list, from the empty one to the whole. -/
def beginnings {α : Type} : List α → List (List α)
  | [] => [[]]
  | a :: r => [] :: (beginnings r).map (a :: ·)

/-- The path and the paths above it, from the path itself upwards. -/
def ancestry (p : Path) : List Path :=
  (beginnings p.segments).reverse.map fun segments => { p with segments }

/-- The path from `base` down to `p`, if `p` lies at `base` or below it. -/
def below? (p base : Path) : Option Path :=
  if p.anchorage = base.anchorage ∧ base.segments <+: p.segments then
    some ⟨.relative, p.segments.drop base.segments.length⟩
  else none

@[simp]
theorem length_beginnings {α : Type} (s : List α) :
    (beginnings s).length = s.length + 1 := by
  induction s with
  | nil => rfl
  | cons a r ih => simp [beginnings, ih]

theorem mem_beginnings_iff {α : Type} (b s : List α) : b ∈ beginnings s ↔ b <+: s := by
  induction s generalizing b with
  | nil => simp [beginnings]
  | cons a r ih =>
    cases b with
    | nil => simp [beginnings]
    | cons c q =>
      simp only [beginnings, List.mem_cons, List.mem_map, List.cons_prefix_cons, ih]
      grind

theorem below?_eq_some_iff (p base q : Path) :
    p.below? base = some q ↔
      p = ⟨base.anchorage, base.segments ++ q.segments⟩ ∧ q.anchorage = .relative := by
  cases p with
  | mk anchorage segments =>
    cases base with
    | mk baseAnchorage baseSegments =>
      cases q with
      | mk nodeAnchorage nodeSegments =>
        simp only [below?]
        constructor
        · intro h
          split at h
          · next hb =>
            obtain ⟨rfl, rest, rfl⟩ := hb
            simp only [List.drop_left, Option.some.injEq, mk.injEq] at h
            obtain ⟨rfl, rfl⟩ := h
            simp
          · simp at h
        · rintro ⟨h, rfl⟩
          simp only [mk.injEq] at h
          obtain ⟨rfl, rfl⟩ := h
          simp

end Path
end CatalogScout
