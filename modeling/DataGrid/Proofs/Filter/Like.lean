import DataGrid.Filter.Basic
import DataGrid.Proofs.Pattern.LikeText
import DataGrid.Proofs.Pattern.Room
import DataGrid.Proofs.Pattern.Wildcard

/-!
# Wildcard filters

A filter with a wildcard pattern is the one with the regular expression that is written for the
pattern. It compiles unless the pattern takes too much room, and accepts the entries whose value is
a text that the pattern stands for. Main statement: `like_accepts`.
-/

namespace DataGrid.Filter

variable {attr pattern : String} {path : AttributePath}

theorem compile_like_eq_regex (attr pattern : String) :
    (Filter.like attr pattern).compile = (Filter.regex attr (Pattern.likeText pattern)).compile := by
  rw [compile, compile, Pattern.parse_likeText]

/-- A wildcard pattern is never malformed, whatever characters it has: it can only be too large. -/
theorem compile_like (pattern : String) (read : AttributePath.parse attr = .ok path) :
    (Filter.like attr pattern).compile =
      if (Pattern.like pattern).fits then .ok (.matching path (Pattern.like pattern))
      else .error (.invalidRequest
        (.oversizedPattern (Pattern.likeText pattern) Pattern.sizeLimit)) := by
  rw [compile, read, Pattern.checkSize]
  split <;> rfl

theorem apply_matching_like (e : Entry) :
    (CompiledFilter.matching path (Pattern.like pattern)).apply e = true ↔
      ∃ t, e.extract path = some (.text t) ∧ Pattern.Wildcard pattern.toList t.toList := by
  rw [CompiledFilter.apply, Option.any_eq_true]
  simp only [Pattern.like_isMatch_iff]
  refine exists_congr fun t => and_congr_left fun _ => ?_
  cases e.extract path with
  | none => simp
  | some v => cases v <;> simp [Value.asText?]

/-- A filter with a wildcard pattern compiles, as the one with its regular expression does, and then
accepts an entry just when its value is a text that the pattern stands for as a whole. -/
theorem like_accepts (read : AttributePath.parse attr = .ok path)
    (fits : (Pattern.like pattern).fits = true) :
    ∃ c, (Filter.like attr pattern).compile = .ok c ∧
      (Filter.regex attr (Pattern.likeText pattern)).compile = .ok c ∧
      ∀ e : Entry, c.apply e = true ↔
        ∃ t, e.extract path = some (.text t) ∧ Pattern.Wildcard pattern.toList t.toList := by
  have compiled := compile_like pattern read
  rw [if_pos fits] at compiled
  exact ⟨_, compiled, compile_like_eq_regex attr pattern ▸ compiled, apply_matching_like⟩

/-- A pattern with both wildcards and a dot, on a text with a line end and on one without the dot. -/
theorem like_accepts_name :
    ∃ c, (Filter.like "this" "a%._").compile = .ok c ∧
      c.apply ⟨"k", .text "a\n.é"⟩ = true ∧ c.apply ⟨"k", .text "a\nxé"⟩ = false ∧
      c.apply ⟨"k", .null⟩ = false := by
  have read : AttributePath.parse "this" = .ok ⟨["this"]⟩ := by decide
  obtain ⟨c, compiled, -, accepts⟩ := like_accepts read (Pattern.fits_like "a%._" (by decide))
  refine ⟨c, compiled, (accepts _).2 ⟨_, rfl, by decide⟩, ?_, ?_⟩
  · refine Bool.eq_false_iff.2 fun h => ?_
    obtain ⟨t, same, stands⟩ := (accepts _).1 h
    obtain rfl : "a\nxé" = t := Value.text.inj (Option.some.inj same)
    exact absurd stands (by decide)
  · refine Bool.eq_false_iff.2 fun h => ?_
    obtain ⟨t, same, -⟩ := (accepts _).1 h
    cases same

end DataGrid.Filter
