import BearerAuth.Proofs.Claims.StringList
import BearerAuth.Proofs.Text.Words

/-!
# A string of words and the list of its words

A claim that is a list of texts may be given as one string or as an array. The string is read like
the array of its words: the same list comes out, or the same fault.
-/

namespace BearerAuth.Claims

/-- The entries of an array of strings: each is trimmed and lower-cased, and empty ones are
dropped. -/
theorem entryTexts_strings (items : List String) :
    entryTexts (items.map .str) =
      (items.map fun s => Text.lower (Text.trim s)).filter (· ≠ "") := by
  unfold entryTexts
  induction items with
  | nil => rfl
  | cons s items ih =>
    simp only [List.map_cons, List.filterMap_cons, entryText?, List.filter_cons, ih]

/-- Words are lower-cased in the text as they are one by one, when nothing is left to trim. -/
theorem lowerWords_eq (s : String) :
    lowerWords s =
      (Text.words s.toList).map fun w => Text.lower (Text.trim (String.ofList w)) := by
  unfold lowerWords
  rw [Text.words_lowerChars, List.map_map]
  apply List.map_congr_left
  intro w hw
  have htrimmed : Text.IsTrimmed w :=
    Text.isTrimmed_of_forall fun c hc => ((Text.of_mem_words hw).2 c hc).2
  rw [htrimmed.trim_ofList, Text.lower, String.toList_ofList]
  rfl

/-- A string is read like the array of its words. -/
theorem string_reads_like_its_words (s : String) :
    let words := (Text.words s.toList).map String.ofList
    lowerWords s = words.map (fun w => Text.lower (Text.trim w)) ∧
      stringList (.str s) = stringList (Json.ofStrings words) := by
  intro words
  have hwords : lowerWords s = words.map fun w => Text.lower (Text.trim w) := by
    rw [lowerWords_eq, List.map_map]
    rfl
  -- No word is empty, so the array loses none of them.
  have hfilled : (lowerWords s).filter (· ≠ "") = lowerWords s := by
    apply List.filter_eq_self.2
    intro w hw
    simpa using (isNormal_of_mem_lowerWords hw).ne_empty
  refine ⟨hwords, ?_⟩
  calc
    stringList (.str s) = nonempty (lowerWords s) := rfl
    _ = nonempty ((lowerWords s).filter (· ≠ "")) := by rw [hfilled]
    _ = nonempty (entryTexts (words.map .str)) := by rw [entryTexts_strings, hwords]
    _ = stringList (Json.ofStrings words) := rfl

end BearerAuth.Claims
