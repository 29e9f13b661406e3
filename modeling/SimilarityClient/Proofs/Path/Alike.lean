import SimilarityClient.Proofs.Path.Name

/-! # Paths that are alike

Two paths have the same components exactly if both or neither start at the root,
both or neither with a leading dot, and the texts between their slashes are the
same but for those that are empty or a single dot.
-/

namespace SimilarityClient

namespace Path

variable {p q : Path} {s t : List Char}

def IsRooted (p : Path) : Prop := p.text.toList.head? = some '/'

/-- A leading dot is all of a path, or stands before a slash. -/
def BeginsHere (p : Path) : Prop := p.text.toList = ['.'] ∨ ['.', '/'] <+: p.text.toList

/-- A text between slashes that is neither empty nor a single dot. -/
def counts (piece : List Char) : Bool := piece ≠ [] && piece ≠ ['.']

def counted (p : Path) : List (List Char) := (p.text.toList.splitOn '/').filter counts

structure Alike (p q : Path) : Prop where
  rooted_iff : p.IsRooted ↔ q.IsRooted
  here_iff : p.BeginsHere ↔ q.BeginsHere
  counted_eq : p.counted = q.counted

theorem pieces_eq_splitOn (s : List Char) : pieces s = s.splitOn '/' := by
  induction s with
  | nil => rfl
  | cons c r ih =>
    rw [pieces, List.splitOn_eq_splitOnP, List.splitOnP_cons_eq_if_modifyHead,
      ← List.splitOn_eq_splitOnP, ← ih]
    by_cases hc : c = '/'
    · simp [hc]
    · cases hp : pieces r with
      | nil => exact absurd hp (pieces_ne_nil r)
      | cons p ps => simp [hc]

def component (piece : List Char) : Component :=
  if piece = ['.', '.'] then .up else .name (String.ofList piece)

/-- What stands before the components of the pieces of a text. -/
def beginning (s : List Char) : List Component :=
  if s.head? = some '/' then [.root] else if s = ['.'] ∨ ['.', '/'] <+: s then [.here] else []

theorem ofPiece_eq (piece : List Char) :
    ofPiece piece = if counts piece then [component piece] else [] := by
  unfold ofPiece component counts
  by_cases he : piece = []
  · simp [he]
  · by_cases hd : piece = ['.'] <;> simp [he, hd]
    split <;> rfl

theorem flatMap_ofPiece (ps : List (List Char)) :
    ps.flatMap ofPiece = (ps.filter counts).map component := by
  induction ps with
  | nil => rfl
  | cons p ps ih =>
    rw [List.flatMap_cons, ih, ofPiece_eq, List.filter_cons]
    split <;> rfl

theorem exists_pieces_eq (s : List Char) : ∃ p ps, pieces s = p :: ps :=
  List.exists_cons_of_ne_nil (pieces_ne_nil s)

theorem head?_pieces_iff (s : List Char) :
    (pieces s).head? = some [] ↔ s = [] ∨ ['/'] <+: s := by
  cases s with
  | nil => simp [pieces]
  | cons c r =>
    rw [pieces]
    split <;> rename_i hc
    · simp [hc]
    · obtain ⟨p, ps, hp⟩ := exists_pieces_eq r
      simp [hp, Ne.symm hc]

theorem ofPieces_pieces (s : List Char) :
    ofPieces (pieces s) = beginning s ++ ((pieces s).filter counts).map component := by
  cases s with
  | nil => rfl
  | cons c r =>
    obtain ⟨p, ps, hp⟩ := exists_pieces_eq r
    by_cases hc : c = '/'
    · rw [pieces, if_pos hc, ofPieces_cons (by simp [hp]), flatMap_ofPiece]
      simp [hc, lead, beginning, counts]
    · have hh := head?_pieces_iff r
      rw [hp, List.head?_cons, Option.some.injEq] at hh
      have hd : (c :: r = ['.'] ∨ ['.', '/'] <+: c :: r) ↔ c :: p = ['.'] := by
        simp only [List.cons.injEq, List.cons_prefix_cons, hh, eq_comm (a := '.'), and_or_left]
      have hb : beginning (c :: r) = if c :: p = ['.'] then [.here] else [] := by
        rw [beginning, if_neg (by simpa using hc)]
        simp only [hd]
      rw [pieces, if_neg hc, hp, ofPieces_cons (by simp), flatMap_ofPiece, hb, List.filter_cons]
      by_cases hs : c :: p = ['.']
      · simp [hs, lead, counts]
      · simp [hs, lead, ofPiece_eq, counts]

/-- Components are what stands before, and the pieces that count. -/
theorem components_eq (p : Path) :
    p.components = beginning p.text.toList ++ p.counted.map component := by
  rw [components, ofPieces_pieces, pieces_eq_splitOn]
  rfl

theorem component_injective (h : component s = component t) : s = t := by
  unfold component at h
  split at h <;> split at h <;> rename_i hs ht
  · rw [hs, ht]
  · cases h
  · cases h
  · exact String.ofList_injective (Component.name.inj h)

/-- A component that can only stand before the others. -/
def begins : Component → Bool
  | .root | .here => true
  | _ => false

theorem begins_component (piece : List Char) : begins (component piece) = false := by
  unfold component
  split <;> rfl

theorem begins_of_mem_beginning {c : Component} (h : c ∈ beginning s) : begins c = true := by
  unfold beginning at h
  split at h
  · obtain rfl := List.mem_singleton.1 h
    rfl
  · split at h
    · obtain rfl := List.mem_singleton.1 h
      rfl
    · cases h

theorem filter_components (p : Path) : p.components.filter begins = beginning p.text.toList := by
  have hc : (p.counted.map component).filter begins = [] := by
    simp [List.filter_eq_nil_iff, begins_component]
  rw [components_eq, List.filter_append, hc, List.append_nil, List.filter_eq_self]
  exact fun _ => begins_of_mem_beginning

theorem root_mem_beginning : .root ∈ beginning s ↔ s.head? = some '/' := by
  unfold beginning
  split
  · simp [*]
  · split <;> simp [*]

theorem here_mem_beginning :
    .here ∈ beginning s ↔ s = ['.'] ∨ ['.', '/'] <+: s := by
  unfold beginning
  split <;> rename_i hr
  · -- A text that begins with a slash begins with no dot.
    obtain ⟨r, rfl⟩ := List.head?_eq_some_iff.1 hr
    simp [List.cons_prefix_cons]
  · split <;> simp [*]

theorem beginning_eq_iff : beginning p.text.toList = beginning q.text.toList ↔
    (p.IsRooted ↔ q.IsRooted) ∧ (p.BeginsHere ↔ q.BeginsHere) := by
  unfold IsRooted BeginsHere
  constructor
  · intro h
    rw [← root_mem_beginning, ← root_mem_beginning, ← here_mem_beginning, ← here_mem_beginning, h]
    exact ⟨.rfl, .rfl⟩
  · rintro ⟨hr, hh⟩
    simp only [beginning, hr, hh]

/-- Paths with the same components are alike as they are written down. -/
theorem components_eq_iff : p.components = q.components ↔ p.Alike q := by
  constructor
  · intro h
    have hb : beginning p.text.toList = beginning q.text.toList := by
      rw [← filter_components, h, filter_components]
    rw [components_eq, components_eq, hb] at h
    have hc := List.append_cancel_left h
    obtain ⟨hr, hh⟩ := beginning_eq_iff.1 hb
    exact ⟨hr, hh, (List.map_inj_right fun _ _ => component_injective).1 hc⟩
  · rintro ⟨hr, hh, hc⟩
    rw [components_eq, components_eq, beginning_eq_iff.2 ⟨hr, hh⟩, hc]

instance (p q : Path) : Decidable (p.Alike q) := decidable_of_iff _ components_eq_iff

example : Alike ⟨"a//b.py"⟩ ⟨"a/./b.py/"⟩ ∧ ¬ Alike ⟨"./b.py"⟩ ⟨"b.py"⟩ := by decide +kernel

end Path

end SimilarityClient
