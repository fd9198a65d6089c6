import TemplateLint.Glob.Pattern
import TemplateLint.Proofs.Files.Path

/-! Patterns of single names: what is read of a text without slashes matches no slash as such. -/

namespace TemplateLint

namespace Glob

/-- What follows the first separator is part of the text. -/
theorem mem_of_cutAt {separator c : Char} {text before after : List Char}
    (cut : Text.cutAt separator text = some (before, after)) (member : c ∈ after) : c ∈ text := by
  -- The induction is on the text before the first separator.
  induction text generalizing before with
  | nil => simp [Text.cutAt] at cut
  | cons first rest ih =>
    simp only [Text.cutAt] at cut
    split at cut
    · obtain ⟨_, rfl⟩ : [] = before ∧ rest = after := by simpa using cut
      exact List.mem_cons_of_mem _ member
    · obtain ⟨⟨early, late⟩, inner, same⟩ := Option.map_eq_some_iff.mp cut
      obtain ⟨_, rfl⟩ : first :: early = before ∧ late = after := by simpa using same
      exact List.mem_cons_of_mem _ (ih inner)

/-- A bracket expression is no character as such, and what follows it is part of the text. -/
theorem readBracket_spec {text after : List Char} {token : Token}
    (read : readBracket text = some (token, after)) :
    (∀ c, token ≠ .char c) ∧ ∀ c ∈ after, c ∈ text := by
  -- The closing bracket is looked for behind the first member, which may be one itself.
  have closing : ∀ {listed members after : List Char} {cut : Option (List Char × List Char)},
      cut = some (members, after) → (listed = [] → cut = none) →
        (∀ first rest, listed = first :: rest →
          cut = (Text.cutAt ']' rest).map (Prod.map (first :: ·) id)) →
        ∀ c ∈ after, c ∈ listed := by
    intro listed members after cut found nothing something c member
    cases listed with
    | nil => simp [nothing rfl] at found
    | cons first rest =>
      obtain ⟨⟨more, beyond⟩, inner, same⟩ :=
        Option.map_eq_some_iff.mp ((something first rest rfl).symm.trans found)
      obtain ⟨_, rfl⟩ : first :: more = members ∧ beyond = after := by simpa using same
      exact List.mem_cons_of_mem _ (mem_of_cutAt inner member)
  unfold readBracket at read
  simp only at read
  -- An exclamation mark excludes the members that follow it.
  split at read
  · obtain ⟨⟨members, beyond⟩, inner, same⟩ := Option.map_eq_some_iff.mp read
    obtain ⟨rfl, rfl⟩ : Token.except (Member.ofChars members) = token ∧ beyond = after := by
      simpa using same
    refine ⟨by simp, fun c member => List.mem_cons_of_mem _ (closing inner ?_ ?_ c member)⟩
    · rintro rfl
      rfl
    · rintro first rest rfl
      rfl
  · obtain ⟨⟨members, beyond⟩, inner, same⟩ := Option.map_eq_some_iff.mp read
    obtain ⟨rfl, rfl⟩ : Token.within (Member.ofChars members) = token ∧ beyond = after := by
      simpa using same
    refine ⟨by simp, closing inner ?_ ?_⟩
    · rintro rfl
      rfl
    · rintro first rest rfl
      rfl

/-- A token that stands for any directories is no character as such. -/
theorem char_of_addRecursive {read : List Token} {c : Char}
    (member : Token.char c ∈ addRecursive read) : Token.char c ∈ read := by
  unfold addRecursive at member
  split at member
  · exact member
  · simpa using member

/-- Characters as such come from the text or were read before. -/
theorem char_of_readTokens {steps : Nat} {before : Option Char} {read tokens : List Token}
    {text : List Char} (done : readTokens steps before read text = .ok tokens) {c : Char}
    (member : Token.char c ∈ tokens) : Token.char c ∈ read ∨ c ∈ text := by
  induction steps generalizing before read text with
  | zero =>
    obtain rfl : read = tokens := by simpa [readTokens] using done
    exact .inl member
  | succ steps ih =>
    cases text with
    | nil =>
      obtain rfl : read = tokens := by simpa [readTokens] using done
      exact .inl member
    | cons first rest =>
      -- What is read next is no such character, or it is the first of the text.
      -- Of several stars in a row only what follows them is read.
      have beyondStars : ∀ {x}, x ∈ rest.dropWhile (· = '*') → x ∈ rest :=
        fun inside => (List.dropWhile_sublist _).mem inside
      simp only [readTokens] at done
      split at done
      · rcases ih done with old | new
        · exact .inl (by simpa using old)
        · exact .inr (List.mem_cons_of_mem _ new)
      · split at done
        · split at done
          · simp at done
          · split at done
            · rcases ih done with old | new
              · exact .inl (by simpa using old)
              · exact .inr (List.mem_cons_of_mem _ (beyondStars new))
            · split at done
              · split at done
                · rcases ih done with old | new
                  · exact .inl (char_of_addRecursive old)
                  · simp at new
                · rename_i more after
                  rcases ih done with old | new
                  · exact .inl (char_of_addRecursive old)
                  · refine .inr (List.mem_cons_of_mem _ (beyondStars ?_))
                    rw [after]
                    exact List.mem_cons_of_mem _ new
                · simp at done
              · simp at done
        · split at done
          · split at done
            · rename_i token after bracket
              obtain ⟨noChar, within⟩ := readBracket_spec bracket
              rcases ih done with old | new
              · rcases List.mem_cons.mp old with same | older
                · exact absurd same.symm (noChar c)
                · exact .inl older
              · exact .inr (List.mem_cons_of_mem _ (within c new))
            · simp at done
          · rcases ih done with old | new
            · rcases List.mem_cons.mp old with same | older
              · obtain rfl : c = first := by simpa using same
                exact .inr List.mem_cons_self
              · exact .inl older
            · exact .inr (List.mem_cons_of_mem _ new)

end Glob

namespace GlobPattern

/-- The name that a pattern without wildcards matches has no slash in it. -/
def IsName (pattern : GlobPattern) : Prop :=
  ∀ name, pattern.literal? = some name → '/' ∉ name.toList

/-- A pattern without wildcards consists of the characters of its name. -/
theorem char_of_literal? {pattern : GlobPattern} {name : String}
    (literal : pattern.literal? = some name) {c : Char} (member : c ∈ name.toList) :
    Glob.Token.char c ∈ pattern.tokens := by
  obtain ⟨characters, read, rfl⟩ := Option.map_eq_some_iff.mp literal
  rw [String.toList_ofList] at member
  clear literal
  -- The name is read off token by token, and each must be a character.
  generalize pattern.tokens = tokens at read
  induction tokens generalizing characters with
  | nil =>
    obtain rfl : characters = [] := by simpa [eq_comm] using read
    simp at member
  | cons token later ih =>
    rw [List.mapM_cons] at read
    simp only [bind, pure, Option.bind_eq_some_iff] at read
    obtain ⟨first, own, rest, others, same⟩ := read
    obtain rfl : first :: rest = characters := by simpa using same
    rcases List.mem_cons.mp member with rfl | inside
    · cases token <;> simp at own
      rw [own]
      exact List.mem_cons_self
    · exact List.mem_cons_of_mem _ (ih rest inside others)

/-- A pattern that a text without slashes writes is one of names. -/
theorem isName_of_parse {text : String} {pattern : GlobPattern} (whole : '/' ∉ text.toList)
    (read : GlobPattern.parse text = .ok pattern) : pattern.IsName := by
  intro name literal slash
  have token := char_of_literal? literal slash
  unfold GlobPattern.parse Glob.tokens at read
  split at read
  · rename_i tokens done
    obtain rfl : GlobPattern.mk tokens = pattern := by simpa using read
    split at done
    · rename_i reversed inner
      obtain rfl : reversed.reverse = tokens := by simpa using done
      -- The slash would have been read from the text.
      rcases Glob.char_of_readTokens inner (List.mem_reverse.mp token) with old | new
      · simp at old
      · exact whole new
    · simp at done
  · simp at read

end GlobPattern

end TemplateLint
