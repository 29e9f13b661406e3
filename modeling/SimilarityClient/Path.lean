import SimilarityClient.Text.Blank

/-! # Paths

A path keeps the text it was given. Its meaning is a list of components, by
which paths are compared: doubled and trailing slashes and inner dots count for
nothing, a leading dot and the root do.
-/

namespace SimilarityClient

structure Path where
  text : String
  deriving DecidableEq, Repr

inductive Component
  | root | here | up
  | name (s : String)
  deriving DecidableEq, Repr

namespace Component

def rank : Component → Nat
  | root => 0
  | here => 1
  | up => 2
  | name _ => 3

def text : Component → String
  | name s => s
  | _ => ""

/-- The root comes first, then a leading dot, steps up, and names by their characters. -/
instance : Ord Component := ⟨compareLex (compareOn rank) (compareOn text)⟩

end Component

namespace Path

/-- The texts between slashes, one more than there are slashes. -/
def pieces : List Char → List (List Char)
  | [] => [[]]
  | c :: r =>
    if c = '/' then [] :: pieces r
    else match pieces r with
      | p :: ps => (c :: p) :: ps
      | [] => [[c]]

/-- What a piece means that does not stand at the start. -/
def ofPiece (piece : List Char) : List Component :=
  if piece = [] ∨ piece = ['.'] then []
  else if piece = ['.', '.'] then [.up]
  else [.name (String.ofList piece)]

def ofPieces : List (List Char) → List Component
  | [] => []
  | [] :: p :: ps => .root :: (p :: ps).flatMap ofPiece
  | ['.'] :: ps => .here :: ps.flatMap ofPiece
  | ps => ps.flatMap ofPiece

def components (p : Path) : List Component := ofPieces (pieces p.text.toList)

theorem pieces_ne_nil (s : List Char) : pieces s ≠ [] := by
  cases s with
  | nil => simp [pieces]
  | cons c r =>
    rw [pieces]
    split
    · simp
    · split <;> simp

theorem intercalate_pieces (s : List Char) : ['/'].intercalate (pieces s) = s := by
  induction s with
  | nil => rfl
  | cons c r ih =>
    rw [pieces]
    split <;> rename_i h
    · subst h
      cases hp : pieces r with
      | nil => exact absurd hp (pieces_ne_nil r)
      | cons p ps => rw [hp] at ih; simp [List.intercalate, List.intersperse, ← ih]
    · cases hp : pieces r with
      | nil => exact absurd hp (pieces_ne_nil r)
      | cons p ps =>
        rw [hp] at ih
        cases ps with
        | nil => simp_all [List.intercalate]
        | cons q qs => simp_all [List.intercalate]

instance : Ord Path := ⟨compareOn components⟩

def fileName? (p : Path) : Option String :=
  match p.components.getLast? with
  | some (.name s) => some s
  | _ => none

def splitLastPoint : List Char → Option (List Char × List Char)
  | [] => none
  | c :: r =>
    match splitLastPoint r with
    | some (before, after) => some (c :: before, after)
    | none => if c = '.' then some ([], r) else none

theorem splitLastPoint_eq_none_iff {s : List Char} : splitLastPoint s = none ↔ '.' ∉ s := by
  induction s with
  | nil => simp [splitLastPoint]
  | cons c r ih =>
    rw [splitLastPoint]
    cases h : splitLastPoint r with
    | some x => simp_all
    | none =>
      by_cases hc : c = '.'
      · simp [hc]
      · simp [hc, Ne.symm hc, ih.1 h]

theorem splitLastPoint_eq_some_iff {s before after : List Char} :
    splitLastPoint s = some (before, after) ↔ s = before ++ '.' :: after ∧ '.' ∉ after := by
  induction s generalizing before with
  | nil => simp [splitLastPoint]
  | cons c r ih =>
    rw [splitLastPoint]
    cases h : splitLastPoint r with
    | some x =>
      obtain ⟨b, a⟩ := x
      have hr : '.' ∈ r := by
        apply Decidable.byContradiction
        intro hn
        rw [splitLastPoint_eq_none_iff.2 hn] at h
        cases h
      constructor
      · rintro ⟨⟩
        have := ih.1 h
        simp [this.1, this.2]
      · rintro ⟨hs, ha⟩
        cases before with
        | nil => simp_all
        | cons d before =>
          simp only [List.cons_append, List.cons.injEq] at hs
          have := ih.2 ⟨hs.2, ha⟩
          simp_all
    | none =>
      have hr := splitLastPoint_eq_none_iff.1 h
      cases before with
      | nil =>
        by_cases hc : c = '.' <;> simp_all
        rintro rfl
        exact hr
      | cons d before =>
        have : r ≠ before ++ '.' :: after := by
          rintro rfl
          simp at hr
        by_cases hc : c = '.' <;> simp_all

/-- What follows the last point of a name that does not begin with it. -/
def extensionOf? (name : List Char) : Option (List Char) :=
  match splitLastPoint name with
  | some ([], _) => none
  | some (_, after) => some after
  | none => none

def extension? (p : Path) : Option (List Char) :=
  p.fileName?.bind fun s => extensionOf? s.toList

def join (dir : Path) (name : String) : Path :=
  let separator := if dir.text.toList.getLast? = some '/' ∨ dir.text = "" then "" else "/"
  ⟨dir.text ++ separator ++ name⟩

end Path

end SimilarityClient
