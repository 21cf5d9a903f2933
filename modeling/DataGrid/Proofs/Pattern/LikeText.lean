import DataGrid.Pattern.Like
import DataGrid.Pattern.Parser

/-!
# Wildcard patterns as regular expressions

The regular expression that is written for a wildcard text reads as the pattern that the text
stands for, whatever characters the text has (`parse_likeText`).
-/

namespace DataGrid.Pattern

/-- The flags behind `(?s)`. -/
def likeFlags : Flags := { dotAll := true }

/-- The part that a character of a wildcard text is read as. -/
def wildcardItem (c : Char) : Item := ⟨ofWildcard c, if c = '%' then 1 else 0, true⟩

/-! ## Single parts -/

section Steps

variable {fuel : Nat} {groups : Groups} {items : List Item} {r : List Char}

theorem lazyMark_likeFlags (next : r.head? ≠ some '?') : lazyMark likeFlags r = (true, r) := by
  unfold lazyMark
  split
  · simp at next
  · rfl

theorem alternatives?_dot :
    alternatives? (fuel + 1) 0 likeFlags groups [] items ('.' :: r) =
      alternatives? fuel 0 likeFlags groups [] (⟨.chars .all, 0, true⟩ :: items) r := rfl

theorem alternatives?_star (next : r.head? ≠ some '?') :
    alternatives? (fuel + 1) 0 likeFlags groups [] (⟨.chars .all, 0, true⟩ :: items) ('*' :: r) =
      alternatives? fuel 0 likeFlags groups []
        (⟨.repeated (.chars .all) 0 none true, 1, true⟩ :: items) r := by
  change (do
    let items ← repeatLast? 0 none (lazyMark likeFlags r).1 (⟨.chars .all, 0, true⟩ :: items)
    alternatives? fuel 0 likeFlags groups [] items (lazyMark likeFlags r).2) = _
  rw [lazyMark_likeFlags next]
  rfl

theorem escape?_special {c : Char} (special : isSpecial c = true) :
    escape? likeFlags (c :: r) = some (.literal c, r) := by
  simp only [isSpecial, List.contains_iff_mem, List.mem_cons, List.not_mem_nil, or_false] at special
  rcases special with rfl | rfl | rfl | rfl | rfl | rfl | rfl | rfl | rfl | rfl | rfl | rfl | rfl |
    rfl | rfl | rfl | rfl | rfl <;> rfl

theorem alternatives?_escape {c : Char} (special : isSpecial c = true) :
    alternatives? (fuel + 1) 0 likeFlags groups [] items ('\\' :: c :: r) =
      alternatives? fuel 0 likeFlags groups [] (⟨.text [c], 0, true⟩ :: items) r := by
  change ((escape? likeFlags (c :: r)).bind fun read =>
    alternatives? fuel 0 likeFlags groups []
      (⟨read.1.toPattern likeFlags, 0, true⟩ :: items) read.2) = _
  rw [escape?_special special]
  rfl

theorem alternatives?_plain {c : Char} (plain : isSpecial c = false) :
    alternatives? (fuel + 1) 0 likeFlags groups [] items (c :: r) =
      alternatives? fuel 0 likeFlags groups [] (⟨.text [c], 0, true⟩ :: items) r := by
  have space : likeFlags.space (c :: r) = c :: r := rfl
  rw [alternatives?, space]
  split
  -- Every other form begins with a special character.
  case h_14 same =>
    obtain ⟨rfl, rfl⟩ := List.cons.inj same
    rfl
  all_goals simp_all [isSpecial]

/-- What is written for a character of a wildcard text is read as its part. An escaped character is
read at once, so there may be fuel left. -/
theorem alternatives?_wildcard (c : Char) (next : r.head? ≠ some '?') :
    ∃ left ≥ fuel,
      alternatives? (fuel + (wildcardText c).length) 0 likeFlags groups [] items
          (wildcardText c ++ r) =
        alternatives? left 0 likeFlags groups [] (wildcardItem c :: items) r := by
  by_cases run : c = '%'
  · subst run
    exact ⟨fuel, Nat.le_refl _, alternatives?_dot.trans (alternatives?_star next)⟩
  by_cases one : c = '_'
  · subst one
    exact ⟨fuel, Nat.le_refl _, alternatives?_dot⟩
  have self : wildcardItem c = ⟨.text [c], 0, true⟩ := by simp [wildcardItem, ofWildcard, run]
  rw [self]
  cases special : isSpecial c with
  | true =>
    have written : wildcardText c = ['\\', c] := by simp [wildcardText, special]
    rw [written]
    exact ⟨fuel + 1, by omega, alternatives?_escape special⟩
  | false =>
    have written : wildcardText c = [c] := by simp [wildcardText, special]
    rw [written]
    exact ⟨fuel, Nat.le_refl _, alternatives?_plain special⟩

end Steps

/-! ## Whole texts -/

theorem head?_wildcardText (p : List Char) :
    (p.flatMap wildcardText ++ ['$']).head? ≠ some '?' := by
  cases p with
  | nil => simp
  | cons c p =>
    rw [List.flatMap_cons, List.append_assoc]
    unfold wildcardText
    split
    · simp
    · simp
    · split
      · simp
      · next plain =>
        rintro same
        obtain rfl : c = '?' := by simpa using same
        exact plain rfl

/-- The parts of a wildcard text are read one by one, up to the end. -/
theorem alternatives?_wildcards (p : List Char) (fuel : Nat) (groups : Groups) (items : List Item)
    (enough : (p.flatMap wildcardText).length + 2 ≤ fuel) :
    alternatives? fuel 0 likeFlags groups [] items (p.flatMap wildcardText ++ ['$']) =
      some (sequence (⟨.look .textEnd, 0, true⟩ :: ((p.map wildcardItem).reverse ++ items)),
        groups, []) := by
  induction p generalizing fuel items with
  | nil =>
    obtain ⟨fuel, rfl⟩ := Nat.exists_eq_add_of_le' enough
    rfl
  | cons c p ih =>
    rw [List.flatMap_cons, List.length_append] at enough
    obtain ⟨rest, rfl⟩ : ∃ k, fuel = k + (wildcardText c).length :=
      Nat.exists_eq_add_of_le' (by omega)
    obtain ⟨left, more, step⟩ := @alternatives?_wildcard rest groups items _ c
      (head?_wildcardText p)
    rw [List.flatMap_cons, List.append_assoc, step, ih left _ (by omega)]
    simp

/-- The parts are never nested deeper than the repetition of one of them. -/
theorem depth_sequence_le {items : List Item} (low : ∀ i ∈ items, i.depth ≤ 1) :
    (sequence items).depth ≤ 2 := by
  have deepest (d : Nat) (hd : d ≤ 1) : items.foldl (fun d i => max d i.depth) d ≤ 1 := by
    induction items generalizing d with
    | nil => exact hd
    | cons i items ih =>
      exact ih (fun i hi => low i (.tail _ hi)) _ (Nat.max_le.2 ⟨hd, low i (.head _)⟩)
  unfold sequence
  dsimp only
  split
  · exact Nat.zero_le _
  · exact Nat.le_succ_of_le (low _ (.head _))
  · exact Nat.succ_le_succ (deepest 0 (Nat.zero_le _))

/-- The parts of the regular expression of a wildcard text, the last one first; `(?s)` leaves an empty
one. -/
def likeItems (p : List Char) : List Item :=
  ⟨.look .textEnd, 0, true⟩ :: ((p.map wildcardItem).reverse ++
    [⟨.look .textStart, 0, true⟩, ⟨.empty, 0, false⟩])

theorem alternatives?_likeText (p : List Char) (fuel : Nat)
    (enough : (p.flatMap wildcardText).length + 4 ≤ fuel) :
    alternatives? fuel 0 {} ⟨0, []⟩ [] []
        ('(' :: '?' :: 's' :: ')' :: '^' :: (p.flatMap wildcardText ++ ['$'])) =
      some (sequence (likeItems p), ⟨0, []⟩, []) := by
  obtain ⟨rest, rfl⟩ : ∃ k, fuel = k + 2 := Nat.exists_eq_add_of_le' (by omega)
  exact alternatives?_wildcards p rest ⟨0, []⟩ _ (by omega)

theorem depth_likeItems (p : List Char) : ∀ i ∈ likeItems p, i.depth ≤ 1 := by
  have part (c : Char) : (wildcardItem c).depth ≤ 1 := by
    unfold wildcardItem
    dsimp only
    split <;> omega
  intro i hi
  simp only [likeItems, List.mem_cons, List.mem_append, List.mem_reverse, List.mem_map,
    List.not_mem_nil, or_false] at hi
  rcases hi with rfl | ⟨c, -, rfl⟩ | rfl | rfl
  · exact Nat.zero_le _
  · exact part c
  · exact Nat.zero_le _
  · exact Nat.zero_le _

theorem pattern_likeItems (pattern : String) :
    (sequence (likeItems pattern.toList)).pattern = like pattern := by
  have each : (fun i : Item => i.pattern) ∘ wildcardItem = ofWildcard := rfl
  simp [sequence, likeItems, like, concat, parts, each]

/-- The regular expression of a wildcard text reads as the pattern that the text stands for. -/
theorem parse_likeText (pattern : String) :
    parse (likeText pattern) = (like pattern).checkSize := by
  have written : (likeText pattern).toList =
      '(' :: '?' :: 's' :: ')' :: '^' :: (pattern.toList.flatMap wildcardText ++ ['$']) := by
    simp [likeText]
  have read := alternatives?_likeText pattern.toList
    (2 * (likeText pattern).toList.length + 2) (by rw [written]; simp; omega)
  rw [← written] at read
  have limit : 2 ≤ nestLimit := by decide
  have shallow := Nat.le_trans (depth_sequence_le (depth_likeItems pattern.toList)) limit
  simp only [parse, read, if_pos shallow, pattern_likeItems]

end DataGrid.Pattern
