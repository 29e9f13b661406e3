import SimilarityClient.Json.Record
import SimilarityClient.Proofs.Json.Text

/-! # Reading members and elements

What one step of a reader does with a member or an element that is there, and
with the end.
-/

namespace SimilarityClient.Json

variable {α σ : Type} {shape : Shape σ α} {read : Reader α} {first : Bool} {n : Nat}
  {record record' : σ} {s t v rest : List Char} {m : Member σ} {x : α} {xs : List α}

theorem readByName_member (hk : nextKey first s = .ok (.element t))
    (ht : readText t = .ok (m.name.toList, ':' :: v))
    (hm : shape.members.find? (·.name.toList == m.name.toList) = some m)
    (hg : m.given record = false) (hv : m.read record v = .ok (record', rest)) :
    shape.readByName (n + 1) first record s = shape.readByName n false record' rest := by
  have hc : readColon (':' :: v) = .ok v := rfl
  rw [Shape.readByName, hk]
  simp only [bind, Except.bind, ht, hm, hg, hc, hv, Bool.false_eq_true, if_false]

theorem readByName_end (hk : nextKey first s = .ok (.closed rest))
    (hm : shape.members.find? (!·.given record) = none) :
    shape.readByName (n + 1) first record s = .ok (record, rest) := by
  rw [Shape.readByName, hk]
  simp only [bind, Except.bind, hm]
  rfl

theorem readElements_element (hn : nextElement first s = .ok (.element t))
    (hx : read t = .ok (x, v)) (hxs : readElements read n false v = .ok (xs, rest)) :
    readElements read (n + 1) first s = .ok (x :: xs, rest) := by
  rw [readElements, hn]
  change (read t >>= fun y => _) = _
  rw [hx]
  change (readElements read n false v >>= fun y => _) = _
  rw [hxs]
  rfl

theorem readElements_end (hn : nextElement first s = .ok (.closed rest)) :
    readElements read (n + 1) first s = .ok ([], rest) := by
  rw [readElements, hn]
  rfl

end SimilarityClient.Json
