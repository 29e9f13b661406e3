import SimilarityClient.Proofs.Text.Blank
import SimilarityClient.Proofs.Text.Numeral
import SimilarityClient.Url

/-! # Addresses of a host and a port

An address that consists of a web scheme, a host, a port of digits and a path is
read as these. The text of a host has no mark in it at which the host would end.
-/

namespace SimilarityClient.Url

open Text (IsDigits isBlank readUnsigned max16)

/-- The text of a host: without colons, or in brackets. -/
structure IsHost (h : List Char) : Prop where
  ne_nil : h ≠ []
  plain : ∀ c ∈ h, c ∉ ['/', '\\', '?', '#', '@']
  closed : (∀ c ∈ h, c ∉ [':', '[', ']']) ∨ ∃ m, h = '[' :: (m ++ [']']) ∧ ∀ c ∈ m, c ∉ ['[', ']']

variable {h s r ds : List Char} {n : Nat} {scheme : List Char}

theorem splitPort_plain (hs : ∀ c ∈ s, c ∉ [':', '[', ']']) (r : List Char) :
    splitPort false (s ++ ':' :: r) = (s, r) := by
  induction s with
  | nil => rfl
  | cons c s ih =>
    obtain ⟨hc, hs⟩ := List.forall_mem_cons.1 hs
    simp only [List.mem_cons, List.not_mem_nil, or_false, not_or] at hc
    rw [List.cons_append, splitPort, if_neg fun h => hc.1 h.1, if_neg hc.2.1, if_neg hc.2.2]
    exact congrArg (fun x => (c :: x.1, x.2)) (ih hs)

theorem splitPort_inside (hs : ∀ c ∈ s, c ∉ ['[', ']']) (r : List Char) :
    splitPort true (s ++ ']' :: ':' :: r) = (s ++ [']'], r) := by
  induction s with
  | nil => rfl
  | cons c s ih =>
    obtain ⟨hc, hs⟩ := List.forall_mem_cons.1 hs
    simp only [List.mem_cons, List.not_mem_nil, or_false, not_or] at hc
    rw [List.cons_append, splitPort, if_neg (by simp), if_neg hc.1, if_neg hc.2]
    exact congrArg (fun x => (c :: x.1, x.2)) (ih hs)

theorem IsHost.splitPort (hh : IsHost h) (r : List Char) :
    Url.splitPort false (h ++ ':' :: r) = (h, r) := by
  rcases hh.closed with hs | ⟨m, rfl, hm⟩
  · exact splitPort_plain hs r
  · rw [List.cons_append, List.append_assoc, Url.splitPort, if_neg (by decide), if_pos rfl]
    exact congrArg (fun x => ('[' :: x.1, x.2)) (splitPort_inside hm r)

theorem afterAt_eq_self (hs : '@' ∉ s) : afterAt s = s := by
  have hr : ∀ c ∈ s.reverse, (c != '@') = true := by
    intro c hc
    rw [bne_iff_ne]
    rintro rfl
    exact hs (List.mem_reverse.1 hc)
  rw [afterAt, List.takeWhile_eq_self_iff.2 hr, List.reverse_reverse]

theorem IsHost.not_endsAuthority (hh : IsHost h) (hd : IsDigits ds) :
    ∀ c ∈ h ++ ':' :: ds, endsAuthority true c = false ∧ c ≠ '@' := by
  intro c hc
  rcases List.mem_append.1 hc with hc | hc
  · have hp := hh.plain c hc
    simp only [List.mem_cons, List.not_mem_nil, or_false, not_or] at hp
    simp [endsAuthority, isSlash, hp]
  · rcases List.mem_cons.1 hc with rfl | hc
    · decide
    · have hx := hd c hc
      have hne : ∀ d : Char, d.isDigit = false → c ≠ d := by
        rintro d hd rfl
        cases hx.symm.trans hd
      simp [endsAuthority, isSlash, hne '/' rfl, hne '\\' rfl, hne '?' rfl, hne '#' rfl,
        hne '@' rfl]

/-- A port that goes without saying, or the number. -/
def portOr (usual n : Nat) : Option Nat := if n = usual then none else some n

theorem readPort?_digits (hd : IsDigits ds) (hn : ds ≠ []) (hr : readUnsigned max16 ds = .ok n)
    (usual : Nat) : readPort? (some usual) ds = some (portOr usual n) := by
  have ha : ds.all (fun c => (Text.digit? c).isSome) = true := by
    rw [List.all_eq_true]
    intro c hc
    rw [Text.digit?_of_isDigit (hd c hc)]
    rfl
  rw [readPort?, if_neg hn, ha, hr]
  simp [portOr]

theorem readAuthority?_host (lib : Libraries) (hh : IsHost h) (hd : IsDigits ds) (hn : ds ≠ [])
    (hr : readUnsigned max16 ds = .ok n) (scheme : List Char) (usual : Nat) (s : List Char) :
    readAuthority? lib scheme (some usual) (h ++ ':' :: ds ++ '/' :: s) =
      (readHost? lib h).map fun host => ⟨scheme, some host, portOr usual n,
        normalPath true (cutTail ('/' :: s)).1, (cutTail ('/' :: s)).2.1,
        (cutTail ('/' :: s)).2.2⟩ := by
  have ha : ∀ c ∈ h ++ ':' :: ds, (!endsAuthority true c) = true := fun c hc => by
    rw [(hh.not_endsAuthority hd c hc).1]
    rfl
  have hat : '@' ∉ h ++ ':' :: ds := fun hc => (hh.not_endsAuthority hd '@' hc).2 rfl
  have ht : (h ++ ':' :: ds ++ '/' :: s).takeWhile (!endsAuthority true ·) = h ++ ':' :: ds := by
    rw [List.takeWhile_append_of_pos ha]
    exact List.append_nil _
  have hw : (h ++ ':' :: ds ++ '/' :: s).dropWhile (!endsAuthority true ·) = '/' :: s :=
    List.dropWhile_append_of_pos ha
  rw [readAuthority?, Option.isSome_some, ht, hw, afterAt_eq_self hat, hh.splitPort]
  simp only [readPort?_digits hd hn hr, if_true]
  cases readHost? lib h <;> rfl

theorem isBlank_of_isIgnored {c : Char} (h : isIgnored c = true) : isBlank c = true := by
  simp only [isIgnored, Bool.or_eq_true, beq_iff_eq] at h
  rcases h with (rfl | rfl) | rfl <;> rfl

theorem trimmed_eq_self (hs : ∀ c ∈ s, isBlank c = false) (hf : ∀ c ∈ s.head?, 0x20 < c.toNat)
    (hl : ∀ c ∈ s.getLast?, 0x20 < c.toNat) : trimmed s = s := by
  have hd : s.dropWhile (fun c => decide (c.toNat ≤ 0x20)) = s := by
    cases s with
    | nil => rfl
    | cons c s => exact List.dropWhile_cons_of_neg (by simpa using hf c rfl)
  have hr : s.reverse.dropWhile (fun c => decide (c.toNat ≤ 0x20)) = s.reverse := by
    cases hrev : s.reverse with
    | nil => rfl
    | cons c t =>
      have hc : s.getLast? = some c := by rw [← List.head?_reverse, hrev, List.head?_cons]
      exact List.dropWhile_cons_of_neg (by simpa using hl c hc)
  have hi : ∀ c ∈ s, (!isIgnored c) = true := by
    intro c hc
    rw [Bool.not_eq_true', ← Bool.not_eq_true]
    intro h
    cases (hs c hc).symm.trans (isBlank_of_isIgnored h)
  rw [trimmed, hd, hr, List.reverse_reverse, List.filter_eq_self.2 hi]

/-- The schemes that an address may begin with, and their ports. -/
inductive IsScheme : List Char → List Char → Nat → Prop
  | http : IsScheme "http://".toList "http".toList 80
  | https : IsScheme "https://".toList "https".toList 443

theorem IsScheme.append_inj {start start' scheme scheme' s t : List Char} {usual usual' : Nat}
    (h : IsScheme start scheme usual) (h' : IsScheme start' scheme' usual')
    (he : start ++ s = start' ++ t) : start = start' ∧ s = t := by
  cases h with
  | http =>
    cases h' with
    | http => exact ⟨rfl, List.append_cancel_left he⟩
    | https =>
      have h4 : some ':' = some 's' := congrArg (fun l : List Char => l[4]?) he
      cases h4
  | https =>
    cases h' with
    | http =>
      have h4 : some 's' = some ':' := congrArg (fun l : List Char => l[4]?) he
      cases h4
    | https => exact ⟨rfl, List.append_cancel_left he⟩

/-- An address with a host and a port of digits is read as them. -/
theorem parse?_host (lib : Libraries) {start : List Char} {usual : Nat}
    (hs : IsScheme start scheme usual) (hh : IsHost h) (hd : IsDigits ds) (hn : ds ≠ [])
    (hr : readUnsigned max16 ds = .ok n)
    (ht : trimmed (start ++ (h ++ ':' :: ds ++ '/' :: s)) = start ++ (h ++ ':' :: ds ++ '/' :: s)) :
    parse? lib (start ++ (h ++ ':' :: ds ++ '/' :: s)) =
      (readHost? lib h).map fun host => ⟨scheme, some host, portOr usual n,
        normalPath true (cutTail ('/' :: s)).1, (cutTail ('/' :: s)).2.1,
        (cutTail ('/' :: s)).2.2⟩ := by
  have hw : (h ++ ':' :: ds ++ '/' :: s).dropWhile (isSlash true) = h ++ ':' :: ds ++ '/' :: s := by
    obtain ⟨c, t, rfl⟩ := List.exists_cons_of_ne_nil hh.ne_nil
    have hc := hh.plain c List.mem_cons_self
    simp only [List.mem_cons, List.not_mem_nil, or_false, not_or] at hc
    exact List.dropWhile_cons_of_neg (by simp [isSlash, hc])
  have hp := readAuthority?_host lib hh hd hn hr scheme usual s
  generalize h ++ ':' :: ds ++ '/' :: s = rest at hw hp ht ⊢
  rw [← hp, parse?, ht]
  cases hs with
  | http => exact congrArg (readAuthority? lib "http".toList (some 80)) hw
  | https => exact congrArg (readAuthority? lib "https".toList (some 443)) hw

theorem effectivePort_portOr {start : List Char} {usual : Nat} (hs : IsScheme start scheme usual)
    (u : Url) (hu : u.scheme = scheme) (hp : u.port = portOr usual n) :
    u.effectivePort = some n := by
  have hl : webSchemes.lookup scheme = some usual := by cases hs <;> rfl
  rw [effectivePort, hp, hu, hl, portOr]
  split
  · rename_i h
    rw [h, Option.none_or]
  · rfl

end SimilarityClient.Url
